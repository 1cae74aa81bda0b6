import BcosRpc.JsonRpc.ToJson

/-!
# The JSON-RPC methods

The methods of `JsonRpcImpl_2_0`, the table they are found in, and the dispatch of a request. A
method with a second query finds the group manager and the gateway as they are then, which is
the world `w₂`.
-/

namespace Json

/-! ### Parameters -/

def stringAt (index : Nat) (req : Json) : Except String String := do
  (← req.item index).asString

def boolAt (index : Nat) (req : Json) : Except String Bool := do
  (← req.item index).asBool

def int64At (index : Nat) (req : Json) : Except String Int := do
  (← req.item index).asInt64

/-- A boolean parameter that is true when it is left out. -/
def optionalBoolAt (index : Nat) (req : Json) : Except String Bool :=
  if req.size > index then req.boolAt index else .ok true

end Json

namespace JsonRpcImpl_2_0

open Json

variable (framework : Framework) (w w₁ w₂ : World)

/-! ### Services -/

def getNodeService (groupID nodeName command : String) : RpcRun NodeService :=
  let errorMsg :=
    "Invalid request for the specified node of doesn't exist or doesn't started!"
      ++ framework.logKV "request" command ++ framework.logKV "chain" w.chainID
      ++ framework.logKV "group" groupID ++ framework.logKV "node" nodeName
  Run.require (w.getNodeService groupID nodeName)
    (.jsonRpc JsonRpcError.NodeNotExistOrNotStarted errorMsg)

def checkService {S : Type} (service : Option S) (serviceName : String) : RpcRun S :=
  Run.require service
    (.jsonRpc JsonRpcError.ServiceNotInitCompleted
      ("The service " ++ serviceName ++ " has not been inited completed yet!"))

/-- Ask a service of a node that is checked first, and respond with its error and a result, if the
answer can be converted. -/
def askService {S α : Type} (service : NodeService → Option S) (serviceName : String)
    (groupID nodeName command : String) (asks : S → RpcReply α)
    (result : Option Error → α → Option Json) (respFunc : RespFunc) : RpcRun Unit := do
  let nodeService ← getNodeService framework w groupID nodeName command
  let service ← checkService (service nodeService) serviceName
  (asks service).ask fun error answer => do
    let jResp ← Run.deref (result error answer)
    respFunc error jResp

/-- Respond with a value that is `failed` when the answer has an error. -/
def unlessFailed {α : Type} (failed : Json) (result : α → Option Json) (error : Option Error)
    (answer : α) : Option Json :=
  if Error.failed error then some failed else result answer

/-! ### Calls and transactions -/

def call (groupID nodeName receiver data : String) (respFunc : RespFunc) : RpcRun Unit := do
  let nodeService ← getNodeService framework w groupID nodeName "call"
  let blockFactory ← Run.deref nodeService.blockFactory
  let input ← orThrow (framework.decodeData data)
  let transaction ← orThrow (blockFactory.createCall receiver input)
  let scheduler ← Run.deref nodeService.scheduler
  (scheduler.call transaction).ask fun error receipt => do
    if Error.failed error then respFunc error .null
    else
      let receipt ← Run.deref receipt
      respFunc error <| Json.null
        |>.set "blockNumber" (integer receipt.blockNumber)
        |>.set "status" (integer receipt.status)
        |>.set "output" (string (toHexStringWithPrefix receipt.output))

/-- The response to a submitted transaction with a receipt. -/
def submitToJson (transaction : Transaction) (submitResult : TransactionSubmitResult)
    (receipt : TransactionReceipt) : Json :=
  let jResp :=
    if submitResult.status ≠ 0 then
      Json.null.set "errorMessage" (string (framework.transactionStatus submitResult.status))
    else Json.null
  receipt.toJsonResp submitResult.txHash.hexPrefixed jResp
    |>.set "input" (string (toHexStringWithPrefix transaction.input))
    |>.set "to" (string transaction.receiver)
    |>.set "from" (string (toHexStringWithPrefix transaction.sender))

def sendTransaction (groupID nodeName data : String) (_requireProof : Bool)
    (respFunc : RespFunc) : RpcRun Unit := do
  let transactionData ← orThrow (framework.decodeData data)
  let nodeService ← getNodeService framework w groupID nodeName "sendTransaction"
  let txpool ← checkService nodeService.txpool "txpool"
  let blockFactory ← Run.deref nodeService.blockFactory
  let transaction ← orThrow (blockFactory.createTransaction transactionData)
  (txpool.asyncSubmit transactionData).ask fun error submitResult => do
    if Error.failed error then respFunc error .null
    else
      let submitResult ← Run.deref submitResult
      Run.whenSome submitResult.transactionReceipt fun receipt =>
        respFunc none (submitToJson framework transaction submitResult receipt)

/-- The first transaction of a list, null for an empty one. -/
def firstToJson (transactions : List (Option Transaction)) : Option Json :=
  match transactions with
  | [] => some .null
  | transaction :: _ => transaction.map fun transaction => transaction.toJsonResp .null

def getTransaction (groupID nodeName txHash : String) (requireProof : Bool)
    (respFunc : RespFunc) : RpcRun Unit := do
  let hash ← orThrow (framework.hashType txHash)
  let nodeService ← getNodeService framework w groupID nodeName "getTransaction"
  let ledger ← checkService nodeService.ledger "ledger"
  (ledger.asyncGetBatchTxsByHashList [hash] requireProof).ask fun error answer => do
    if Error.failed error then respFunc error .null
    else
      let transactions ← Run.deref answer.1
      let jResp ← Run.deref (firstToJson transactions)
      let jResp :=
        match requireProof, answer.2 with
        | true, some (proof :: _) => addProofToResponse "transactionProof" proof.2 jResp
        | _, _ => jResp
      respFunc error jResp

/-- The members of a receipt response that come from the transaction. -/
def withTransaction (jResp jTx : Json) : Json :=
  jResp
    |>.set "input" (jTx.memberD "input")
    |>.set "from" (jTx.memberD "from")
    |>.set "to" (jTx.memberD "to")
    |>.set "transactionProof" (jTx.memberD "transactionProof")

def getTransactionReceipt (groupID nodeName txHash : String) (requireProof : Bool)
    (respFunc : RespFunc) : RpcRun Unit := do
  let hash ← orThrow (framework.hashType txHash)
  let nodeService ← getNodeService framework w₁ groupID nodeName "getTransactionReceipt"
  let ledger ← checkService nodeService.ledger "ledger"
  (ledger.asyncGetTransactionReceiptByHash hash requireProof).ask fun error answer => do
    if Error.failed error then respFunc error .null
    else
      let receipt ← Run.deref answer.1
      let jResp := receipt.toJsonResp hash.hexPrefixed .null
      let jResp :=
        if requireProof then addProofToResponse "receiptProof" answer.2 jResp else jResp
      getTransaction framework w₂ groupID nodeName txHash requireProof fun _ jTx =>
        respFunc none (withTransaction jResp jTx)

/-! ### Blocks -/

/-- A block as it is asked for. -/
def blockToJson (onlyHeader onlyTxHash : Bool) (block : Option BlockData) : Option Json :=
  if onlyHeader then some (BlockHeader.toJsonResp (block.bind BlockData.blockHeader) .null)
  else BlockData.toJsonResp block onlyTxHash .null

def getBlockByNumber (groupID nodeName : String) (blockNumber : Int)
    (onlyHeader onlyTxHash : Bool) (respFunc : RespFunc) : RpcRun Unit :=
  askService framework w NodeService.ledger "ledger" groupID nodeName "getBlockByNumber"
    (fun ledger => ledger.asyncGetBlockDataByNumber blockNumber !onlyHeader)
    (unlessFailed .null (blockToJson onlyHeader onlyTxHash)) respFunc

def getBlockByHash (groupID nodeName blockHash : String) (onlyHeader onlyTxHash : Bool)
    (respFunc : RespFunc) : RpcRun Unit := do
  let nodeService ← getNodeService framework w₁ groupID nodeName "getBlockByHash"
  let ledger ← checkService nodeService.ledger "ledger"
  let hash ← orThrow (framework.hashType blockHash)
  (ledger.asyncGetBlockNumberByHash hash).ask fun error blockNumber =>
    if Error.failed error then respFunc error .null
    else getBlockByNumber framework w₂ groupID nodeName blockNumber onlyHeader onlyTxHash respFunc

/-- The error of the answer is not passed on. -/
def getBlockHashByNumber (groupID nodeName : String) (blockNumber : Int) (respFunc : RespFunc) :
    RpcRun Unit := do
  let nodeService ← getNodeService framework w groupID nodeName "getBlockHashByNumber"
  let ledger ← checkService nodeService.ledger "ledger"
  (ledger.asyncGetBlockHashByNumber blockNumber).ask fun _ hashValue =>
    respFunc none (string hashValue.hexPrefixed)

def getBlockNumber (groupID nodeName : String) : RespFunc → RpcRun Unit :=
  askService framework w NodeService.ledger "ledger" groupID nodeName "getBlockNumber"
    LedgerInterface.asyncGetBlockNumber (fun _ blockNumber => some (integer blockNumber))

/-! ### State of a node -/

def getCode (groupID nodeName contractAddress : String) (respFunc : RespFunc) :
    RpcRun Unit := do
  let nodeService ← getNodeService framework w groupID nodeName "getCode"
  let scheduler ← Run.deref nodeService.scheduler
  (scheduler.getCode contractAddress).ask fun error codeData =>
    let code :=
      if Error.failed error ∨ codeData.isEmpty then "" else toHexStringWithPrefix codeData
    respFunc error (string code)

def sealerToJson (node : ConsensusNode) : Option Json :=
  node.nodeID.map fun nodeID => Json.null
    |>.set "nodeID" (string (toHexString nodeID))
    |>.set "weight" (integer node.weight)

def observerToJson (node : ConsensusNode) : Option Json :=
  node.nodeID.map fun nodeID => string (toHexString nodeID)

/-- The nodes of a list; a missing list counts as empty. -/
def nodeListToJson (nodeToJson : ConsensusNode → Option Json)
    (nodes : Option (List (Option ConsensusNode))) : Option Json :=
  tryArrayOf (fun node => node.bind nodeToJson) (nodes.getD [])

def getSealerList (groupID nodeName : String) : RespFunc → RpcRun Unit :=
  askService framework w NodeService.ledger "ledger" groupID nodeName "getSealerList"
    (fun ledger => ledger.asyncGetNodeListByType .CONSENSUS_SEALER)
    (unlessFailed (.array []) (nodeListToJson sealerToJson))

def getObserverList (groupID nodeName : String) : RespFunc → RpcRun Unit :=
  askService framework w NodeService.ledger "ledger" groupID nodeName "getObserverList"
    (fun ledger => ledger.asyncGetNodeListByType .CONSENSUS_OBSERVER)
    (unlessFailed (.array []) (nodeListToJson observerToJson))

def getPbftView (groupID nodeName : String) : RespFunc → RpcRun Unit :=
  askService framework w NodeService.consensus "consensus" groupID nodeName "getPbftView"
    ConsensusInterface.asyncGetPBFTView (unlessFailed .null fun view => some (integer view))

def getPendingTxSize (groupID nodeName : String) : RespFunc → RpcRun Unit :=
  askService framework w NodeService.txpool "txpool" groupID nodeName "getPendingTxSize"
    TxPoolInterface.asyncGetPendingTransactionSize
    (unlessFailed .null fun size => some (integer (toInt64 size)))

def getSyncStatus (groupID nodeName : String) : RespFunc → RpcRun Unit :=
  askService framework w NodeService.sync "sync" groupID nodeName "getSyncStatus"
    BlockSyncInterface.asyncGetSyncInfo (unlessFailed .null fun status => some (string status))

def getConsensusStatus (groupID nodeName : String) : RespFunc → RpcRun Unit :=
  askService framework w NodeService.consensus "consensus" groupID nodeName "getConsensusStatus"
    ConsensusInterface.asyncGetConsensusStatus
    (unlessFailed .null fun status => some (string status))

def getSystemConfigByKey (groupID nodeName keyValue : String) : RespFunc → RpcRun Unit :=
  askService framework w NodeService.ledger "ledger" groupID nodeName "getSystemConfigByKey"
    (fun ledger => ledger.asyncGetSystemConfigByKey keyValue)
    (unlessFailed .null fun answer => some <| Json.null
      |>.set "blockNumber" (integer answer.2)
      |>.set "value" (string answer.1))

def getTotalTransactionCount (groupID nodeName : String) : RespFunc → RpcRun Unit :=
  askService framework w NodeService.ledger "ledger" groupID nodeName "getTotalTransactionCount"
    LedgerInterface.asyncGetTotalTransactionCount
    (unlessFailed .null fun answer => some <| Json.null
      |>.set "blockNumber" (integer answer.2.2)
      |>.set "transactionCount" (integer answer.1)
      |>.set "failedTransactionCount" (integer answer.2.1))

/-! ### Peers -/

def getPeers (respFunc : RespFunc) : RpcRun Unit :=
  RpcReply.ask w.asyncGetPeers fun error answer => do
    let jResp ← Run.deref <| unlessFailed .null
      (fun answer => gatewayInfoToJson answer.1 answer.2 .null) error answer
    respFunc error jResp

/-- The nodes of a group the peers know, each once and in order. -/
def groupNodeIDs (groupID : String) (peers : List GatewayInfo) : Std.ExtTreeSet String :=
  Std.ExtTreeSet.ofList (peers.flatMap fun peer => (peer.nodeIDInfo.lookup groupID).getD [])

/-- The nodes of a group, the gateway itself taken as one more peer. -/
def groupPeersToJson (groupID : String) (localP2pInfo : Option GatewayInfo)
    (peersInfo : List (Option GatewayInfo)) : Option Json :=
  ((peersInfo ++ [localP2pInfo]).mapM id).map fun infos =>
    let nodeIDList := (groupNodeIDs groupID infos).toList
    if nodeIDList.isEmpty then .null else arrayOf string nodeIDList

/-- Here every error object counts as an error. -/
def getGroupPeers (groupID : String) (respFunc : RespFunc) : RpcRun Unit :=
  RpcReply.ask w.asyncGetPeers fun error answer =>
    if error.isSome then respFunc error .null
    else do
      let peersInfo ← Run.deref answer.2
      let jResp ← Run.deref (groupPeersToJson groupID answer.1 peersInfo)
      respFunc error jResp

/-! ### Groups -/

def getGroupList (respFunc : RespFunc) : RpcRun Unit :=
  let response := generateResponse none
  respFunc none <|
    if w.groupList.isEmpty then response
    else response.set "groupList" (arrayOf string w.groupList)

def getGroupInfo (groupID : String) (respFunc : RespFunc) : RpcRun Unit :=
  respFunc none (((w.getGroupInfo groupID).map groupInfoToJson).getD .null)

def getGroupInfoList (respFunc : RespFunc) : RpcRun Unit :=
  respFunc none (arrayOf groupInfoToJson w.groupInfoList)

def getGroupNodeInfo (groupID nodeName : String) (respFunc : RespFunc) : RpcRun Unit :=
  respFunc none (((w.getNodeInfo groupID nodeName).map nodeInfoToJson).getD .null)

end JsonRpcImpl_2_0
