import BcosRpc.Common.Json
import BcosRpc.Common.Protocol
import BcosRpc.Group.Select
import BcosRpc.Machine.Callback

/-!
# The services behind the JSON-RPC methods

The interfaces of the framework the methods call, and what a method sees of the group manager
and the gateway at one moment. A callback gets an optional error with the answer. A pointer
the callback gets may be null, and so may the pointers in a list.
-/

/-! ### Exceptions and events -/

namespace JsonRpcError

def ParseError : Int := -32700
def InvalidRequest : Int := -32600
def MethodNotFound : Int := -32601
def NodeNotExistOrNotStarted : Int := -32000
def ServiceNotInitCompleted : Int := -320004

end JsonRpcError

/-- An exception: one of the class `JsonRpcException`, or any other one. -/
inductive RpcException where
  | jsonRpc (code : Int) (msg : String)
  | std (what : String)

namespace RpcException

def what : RpcException → String
  | jsonRpc _ msg => msg
  | std what => what

/-- The error code an exception is answered with. -/
def code : RpcException → Int
  | jsonRpc code _ => code
  | std _ => JsonRpcError.InvalidRequest

end RpcException

/-- What a request shows: an answer of a service arrives, a response is sent (it is given as
the value whose text is sent), an exception is caught. -/
inductive RpcEvent where
  | answer (error : Option Error)
  | sent (response : Json)
  | caught (e : RpcException)

abbrev RpcRun (α : Type) : Type := Run RpcException RpcEvent α

/-- What a call of a service answers: an optional error and the values. -/
abbrev RpcReply (α : Type) : Type := Reply RpcException (Option Error × α)

/-- Call a service. -/
def RpcReply.ask {α : Type} (reply : RpcReply α) (callback : Option Error → α → RpcRun Unit) :
    RpcRun Unit :=
  reply.invoke RpcEvent.caught fun answer => do
    Run.emit (RpcEvent.answer answer.1)
    callback answer.1 answer.2

/-- The value of an accessor that throws a standard exception. -/
def orThrow {α : Type} (x : Except String α) : RpcRun α :=
  Run.ofExcept (x.mapError RpcException.std)

/-! ### Services of a node -/

/-- A Merkle proof: pairs of the hashes on the left and on the right. -/
abbrev MerkleProof : Type := List (List String × List String)

structure ConsensusNode where
  nodeID : Option Bytes
  weight : Nat

/-- A block as the ledger answers with it: the parts that were not asked for are missing. -/
structure BlockData where
  blockHeader : Option BlockHeader
  transactions : List (Option Transaction)

namespace BlockData

def transactionsSize (block : BlockData) : Nat := block.transactions.length

/-- The transaction at an index; an index past the end is undefined behaviour. -/
def transaction (block : BlockData) (index : Nat) : Option Transaction :=
  block.transactions.getD index none

theorem map_transaction_range (block : BlockData) :
  (List.range block.transactionsSize).map block.transaction = block.transactions
  := by
  apply List.ext_getElem
  · simp [transactionsSize]
  · intro index h h'
    rw [List.getElem_map, List.getElem_range, transaction, List.getD_eq_getElem _ _ h']

end BlockData

/-- The types of nodes `asyncGetNodeListByType` knows. -/
inductive NodeListType where
  | CONSENSUS_SEALER
  | CONSENSUS_OBSERVER

/-- The ledger. A block is asked for with or without its transactions. -/
structure LedgerInterface where
  asyncGetBatchTxsByHashList : List HashType → Bool →
    RpcReply (Option (List (Option Transaction)) × Option (List (String × Option MerkleProof)))
  asyncGetTransactionReceiptByHash : HashType → Bool →
    RpcReply (Option TransactionReceipt × Option MerkleProof)
  asyncGetBlockNumberByHash : HashType → RpcReply Int
  asyncGetBlockDataByNumber : Int → (transactions : Bool) → RpcReply (Option BlockData)
  asyncGetBlockHashByNumber : Int → RpcReply HashType
  asyncGetBlockNumber : RpcReply Int
  asyncGetNodeListByType : NodeListType → RpcReply (Option (List (Option ConsensusNode)))
  asyncGetSystemConfigByKey : String → RpcReply (String × Int)
  asyncGetTotalTransactionCount : RpcReply (Int × Int × Int)

structure SchedulerInterface where
  call : Transaction → RpcReply (Option TransactionReceipt)
  getCode : String → RpcReply Bytes

structure TransactionSubmitResult where
  txHash : HashType
  status : Int
  transactionReceipt : Option TransactionReceipt

structure TxPoolInterface where
  asyncSubmit : Bytes → RpcReply (Option TransactionSubmitResult)
  asyncGetPendingTransactionSize : RpcReply Nat

structure ConsensusInterface where
  asyncGetPBFTView : RpcReply Nat
  asyncGetConsensusStatus : RpcReply String

structure BlockSyncInterface where
  asyncGetSyncInfo : RpcReply String

/-- The transaction factory of the block factory: a transaction with a receiver and an input,
and one from its encoding. -/
structure BlockFactory where
  createCall : (receiver : String) → (input : Bytes) → Except String Transaction
  createTransaction : Bytes → Except String Transaction

/-- The services of a node. Each one may be missing. -/
structure NodeService where
  ledger : Option LedgerInterface := none
  scheduler : Option SchedulerInterface := none
  txpool : Option TxPoolInterface := none
  consensus : Option ConsensusInterface := none
  sync : Option BlockSyncInterface := none
  blockFactory : Option BlockFactory := none

/-! ### The group manager and the gateway -/

/-- What the gateway knows of itself or of a peer: its endpoint, and its nodes by group. -/
structure GatewayInfo where
  p2pID : String
  address : String
  port : Nat
  nodeIDInfo : List (String × List String)

/-- The group manager and the gateway, as a method finds them at one moment. -/
structure World where
  chainID : String := ""
  getNodeService : (groupID nodeName : String) → Option NodeService := fun _ _ => none
  groupList : List String := []
  getGroupInfo : String → Option GroupInfo := fun _ => none
  groupInfoList : List GroupInfo := []
  getNodeInfo : (groupID nodeName : String) → Option ChainNodeInfo := fun _ _ => none
  asyncGetPeers : RpcReply (Option GatewayInfo × Option (List (Option GatewayInfo)))

/-- What a method sees of a group manager. The index of a selection is drawn. -/
def GroupManager.world (s : GroupManager NodeService) (rand : Nat) (chainID : String)
    (asyncGetPeers : RpcReply (Option GatewayInfo × Option (List (Option GatewayInfo)))) : World where
  chainID := chainID
  getNodeService := s.getNodeService rand
  groupList := ((s.groupInfos.filter fun _ info => info.nodeInfos.size != 0).keys)
  getGroupInfo groupID := s.groupInfos[groupID]?
  groupInfoList := s.groupInfos.toList.map Prod.snd
  getNodeInfo groupID nodeName := (s.groupInfos[groupID]?).bind fun info =>
    info.nodeInfos[nodeName]?
  asyncGetPeers := asyncGetPeers

/-! ### Library functions -/

/-- Functions of the framework and its libraries: the JSON reader (it refuses a text, or throws
on one that is nested too deeply), the decoders, the text of a transaction status, and the text
of a logged key with its value. -/
structure Framework where
  parse : String → Except String (Option Json)
  decodeData : String → Except String Bytes
  hashType : String → Except String HashType
  transactionStatus : Int → String
  logKV : (key value : String) → String
