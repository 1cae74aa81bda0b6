import BcosRpc.Common.Pointers
import BcosRpc.JsonRpc.Protocol

/-!
# JSON texts of the answers

The conversions of transactions, receipts, blocks, proofs, groups and peers to the values that
are sent to the clients. A conversion that dereferences the pointers of a list has no value when
one of them is null.
-/

namespace Json

/-- The array of the values of a list. -/
def arrayOf {α : Type} (f : α → Json) (items : List α) : Json := .array (items.map f)

/-- The array of the values of a list, when all of them have one. -/
def tryArrayOf {α : Type} (f : α → Option Json) (items : List α) : Option Json :=
  (items.mapM f).map .array

theorem isSome_tryArrayOf_iff {α : Type} (f : α → Option Json) (items : List α) :
  (tryArrayOf f items).isSome ↔ ∀ item ∈ items, (f item).isSome
  := by
  rw [tryArrayOf, Option.isSome_map, Pointers.isSome_mapM_iff]

theorem isSome_tryArrayOf_map_iff {α : Type} (f : α → Json) (items : List (Option α)) :
  (tryArrayOf (Option.map f) items).isSome ↔ none ∉ items
  := by
  simp only [isSome_tryArrayOf_iff, Option.isSome_map, Pointers.forall_isSome_iff]

theorem tryArrayOf_map_some {α : Type} (f : α → Json) (items : List α) :
  tryArrayOf (Option.map f) (items.map some) = some (arrayOf f items)
  := by
  rw [tryArrayOf, Pointers.mapM_map_some]
  rfl

/-- The member of a value with a key, null when there is none. -/
def memberD (key : String) (j : Json) : Json := (j.find key).getD .null

end Json

/-- Conversion to `int64_t`. -/
def toInt64 (n : Int) : Int := n.bmod (2 ^ 64)

open Json

/-! ### Transactions, receipts and blocks -/

namespace Transaction

def toJsonResp (transaction : Transaction) (jResp : Json) : Json :=
  jResp
    |>.set "version" (integer transaction.version)
    |>.set "hash" (string (toHexStringWithPrefix transaction.hash.bytes))
    |>.set "nonce" (string (toString transaction.nonce))
    |>.set "blockLimit" (integer transaction.blockLimit)
    |>.set "to" (string transaction.receiver)
    |>.set "from" (string (toHexStringWithPrefix transaction.sender))
    |>.set "input" (string (toHexStringWithPrefix transaction.input))
    |>.set "importTime" (integer transaction.importTime)
    |>.set "chainID" (string transaction.chainId)
    |>.set "groupID" (string transaction.groupId)
    |>.set "signature" (string (toHexStringWithPrefix transaction.signatureData))

end Transaction

namespace TransactionReceipt

def logToJson (logEntry : LogEntry) : Json :=
  Json.null
    |>.set "address" (string logEntry.address)
    |>.set "topic" (arrayOf (fun topic => string topic.hexPrefixed) logEntry.topics)
    |>.set "data" (string (toHexStringWithPrefix logEntry.data))

def toJsonResp (receipt : TransactionReceipt) (txHash : String) (jResp : Json) : Json :=
  jResp
    |>.set "version" (integer receipt.version)
    |>.set "contractAddress" (string receipt.contractAddress)
    |>.set "gasUsed" (string (toString receipt.gasUsed))
    |>.set "status" (integer receipt.status)
    |>.set "blockNumber" (integer receipt.blockNumber)
    |>.set "output" (string (toHexStringWithPrefix receipt.output))
    |>.set "transactionHash" (string txHash)
    |>.set "hash" (string receipt.hash.hexPrefixed)
    |>.set "logEntries" (arrayOf logToJson receipt.logEntries)

end TransactionReceipt

namespace BlockHeader

def parentToJson (parent : ParentInfo) : Json :=
  Json.null
    |>.set "blockNumber" (integer parent.blockNumber)
    |>.set "blockHash" (string (toHexStringWithPrefix parent.blockHash.bytes))

def signatureToJson (sign : Signature) : Json :=
  Json.null
    |>.set "sealerIndex" (integer sign.index)
    |>.set "signature" (string (toHexStringWithPrefix sign.signature))

/-- A missing header leaves the value as it is. -/
def toJsonResp (blockHeader : Option BlockHeader) (jResp : Json) : Json :=
  match blockHeader with
  | none => jResp
  | some header =>
      jResp
        |>.set "hash" (string (toHexStringWithPrefix header.hash.bytes))
        |>.set "version" (integer header.version)
        |>.set "txsRoot" (string (toHexStringWithPrefix header.txsRoot.bytes))
        |>.set "receiptsRoot" (string (toHexStringWithPrefix header.receiptsRoot.bytes))
        |>.set "stateRoot" (string (toHexStringWithPrefix header.stateRoot.bytes))
        |>.set "number" (integer header.number)
        |>.set "gasUsed" (string (toString header.gasUsed))
        |>.set "timestamp" (integer header.timestamp)
        |>.set "sealer" (integer header.sealer)
        |>.set "extraData" (string (toHexStringWithPrefix header.extraData))
        |>.set "consensusWeights" (arrayOf (fun weight => integer weight) header.consensusWeights)
        |>.set "sealerList"
          (arrayOf (fun sealer => string (toHexStringWithPrefix sealer)) header.sealerList)
        |>.set "parentInfo" (arrayOf parentToJson header.parentInfo)
        |>.set "signatureList" (arrayOf signatureToJson header.signatureList)

end BlockHeader

namespace BlockData

def transactionToJson (onlyTxHash : Bool) (transaction : Transaction) : Json :=
  if onlyTxHash then string (toHexStringWithPrefix transaction.hash.bytes)
  else transaction.toJsonResp .null

/-- A missing block leaves the value as it is. -/
def toJsonResp (block : Option BlockData) (onlyTxHash : Bool) (jResp : Json) : Option Json :=
  match block with
  | none => some jResp
  | some block =>
      let jTxs := tryArrayOf (Option.map (transactionToJson onlyTxHash))
        ((List.range block.transactionsSize).map block.transaction)
      jTxs.map fun jTxs =>
        (BlockHeader.toJsonResp block.blockHeader jResp).set "transactions" jTxs

/-- A block is converted when none of its transactions is null. -/
theorem isSome_toJsonResp_iff (block : Option BlockData) (onlyTxHash : Bool) (jResp : Json) :
  (toJsonResp block onlyTxHash jResp).isSome ↔ ∀ b, block = some b → none ∉ b.transactions
  := by
  cases block with
  | none => simp [toJsonResp]
  | some block =>
      rw [toJsonResp, Option.isSome_map, map_transaction_range, isSome_tryArrayOf_map_iff]
      simp

end BlockData

/-! ### Proofs -/

def merkleItemToJson (merkleItem : List String × List String) : Json :=
  Json.null
    |>.set "left" (arrayOf string merkleItem.1)
    |>.set "right" (arrayOf string merkleItem.2)

/-- Add a proof under a key. A missing or an empty one leaves the value as it is. -/
def addProofToResponse (key : String) (merkleProof : Option MerkleProof) (jResp : Json) : Json :=
  match merkleProof with
  | none => jResp
  | some [] => jResp
  | some proof => jResp.set key (arrayOf merkleItemToJson proof)

/-! ### Groups and peers -/

def serviceToJson (service : Int × String) : Json :=
  Json.null
    |>.set "type" (integer service.1)
    |>.set "serviceName" (string service.2)

def nodeInfoToJson (nodeInfo : ChainNodeInfo) : Json :=
  Json.null
    |>.set "name" (string nodeInfo.nodeName)
    |>.set "nodeID" (string nodeInfo.nodeID)
    |>.set "type" (integer nodeInfo.nodeType)
    |>.set "microService" (boolean nodeInfo.microService)
    |>.set "iniConfig" (string nodeInfo.iniConfig)
    |>.set "serviceInfo" (arrayOf serviceToJson nodeInfo.serviceInfo)

def groupInfoToJson (groupInfo : GroupInfo) : Json :=
  Json.null
    |>.set "chainID" (string groupInfo.chainID)
    |>.set "groupID" (string groupInfo.groupID)
    |>.set "genesisConfig" (string groupInfo.genesisConfig)
    |>.set "iniConfig" (string groupInfo.iniConfig)
    |>.set "nodeList" (arrayOf (fun node => nodeInfoToJson node.2) groupInfo.nodeInfos.toList)

def groupNodesToJson (groupNodes : String × List String) : Json :=
  Json.null
    |>.set "group" (string groupNodes.1)
    |>.set "nodeIDList" (arrayOf string groupNodes.2)

/-- The members of a peer, or of the gateway itself. -/
def peerToJson (gatewayInfo : GatewayInfo) (response : Json) : Json :=
  response
    |>.set "p2pNodeID" (string gatewayInfo.p2pID)
    |>.set "endPoint" (string (gatewayInfo.address ++ ":" ++ toString gatewayInfo.port))
    |>.set "groupNodeIDInfo" (arrayOf groupNodesToJson gatewayInfo.nodeIDInfo)

def gatewayInfoToJson (localP2pInfo : Option GatewayInfo)
    (peersInfo : Option (List (Option GatewayInfo))) (response : Json) : Option Json :=
  let response :=
    match localP2pInfo with
    | none => response
    | some info => peerToJson info response
  match peersInfo with
  | none => some response
  | some peers =>
      (tryArrayOf (Option.map fun peer => peerToJson peer .null) peers).map fun peersInfo =>
        response.set "peers" peersInfo

/-- Peers are converted when none of them is null. -/
theorem isSome_gatewayInfoToJson_iff (localP2pInfo : Option GatewayInfo)
    (peersInfo : Option (List (Option GatewayInfo))) (response : Json) :
  (gatewayInfoToJson localP2pInfo peersInfo response).isSome
    ↔ ∀ peers, peersInfo = some peers → none ∉ peers
  := by
  cases peersInfo with
  | none => simp [gatewayInfoToJson]
  | some peers =>
      simp only [gatewayInfoToJson, Option.isSome_map, isSome_tryArrayOf_map_iff]
      simp

/-! ### The members a response has -/

def generateResponse (error : Option Error) : Json :=
  Json.null
    |>.set "code" (integer ((error.map Error.errorCode).getD 0))
    |>.set "msg" (string ((error.map Error.errorMessage).getD "success"))
