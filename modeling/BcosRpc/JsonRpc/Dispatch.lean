import BcosRpc.JsonRpc.Methods

/-!
# Dispatch

The table of the methods by name, with the reading of their parameters, and the handling of a
request.
-/

namespace JsonRpcImpl_2_0

open Json

variable (framework : Framework) (w w₁ w₂ : World)

/-- The parameters of a method that has a group and a node. -/
def withNode (method : (groupID nodeName : String) → RespFunc → RpcRun Unit) (req : Json)
    (respFunc : RespFunc) : RpcRun Unit := do
  let groupID ← orThrow (req.stringAt 0)
  let nodeName ← orThrow (req.stringAt 1)
  method groupID nodeName respFunc

/-! ### Reading the parameters -/

def callI (req : Json) (respFunc : RespFunc) : RpcRun Unit := do
  let groupID ← orThrow (req.stringAt 0)
  let nodeName ← orThrow (req.stringAt 1)
  let receiver ← orThrow (req.stringAt 2)
  let data ← orThrow (req.stringAt 3)
  call framework w groupID nodeName receiver data respFunc

def sendTransactionI (req : Json) (respFunc : RespFunc) : RpcRun Unit := do
  let groupID ← orThrow (req.stringAt 0)
  let nodeName ← orThrow (req.stringAt 1)
  let data ← orThrow (req.stringAt 2)
  let requireProof ← orThrow (req.boolAt 3)
  sendTransaction framework w groupID nodeName data requireProof respFunc

def getTransactionI (req : Json) (respFunc : RespFunc) : RpcRun Unit := do
  let groupID ← orThrow (req.stringAt 0)
  let nodeName ← orThrow (req.stringAt 1)
  let txHash ← orThrow (req.stringAt 2)
  let requireProof ← orThrow (req.boolAt 3)
  getTransaction framework w groupID nodeName txHash requireProof respFunc

def getTransactionReceiptI (req : Json) (respFunc : RespFunc) : RpcRun Unit := do
  let groupID ← orThrow (req.stringAt 0)
  let nodeName ← orThrow (req.stringAt 1)
  let txHash ← orThrow (req.stringAt 2)
  let requireProof ← orThrow (req.boolAt 3)
  getTransactionReceipt framework w₁ w₂ groupID nodeName txHash requireProof respFunc

def getBlockByHashI (req : Json) (respFunc : RespFunc) : RpcRun Unit := do
  let groupID ← orThrow (req.stringAt 0)
  let nodeName ← orThrow (req.stringAt 1)
  let blockHash ← orThrow (req.stringAt 2)
  let onlyHeader ← orThrow (req.optionalBoolAt 3)
  let onlyTxHash ← orThrow (req.optionalBoolAt 4)
  getBlockByHash framework w₁ w₂ groupID nodeName blockHash onlyHeader onlyTxHash respFunc

def getBlockByNumberI (req : Json) (respFunc : RespFunc) : RpcRun Unit := do
  let groupID ← orThrow (req.stringAt 0)
  let nodeName ← orThrow (req.stringAt 1)
  let blockNumber ← orThrow (req.int64At 2)
  let onlyHeader ← orThrow (req.optionalBoolAt 3)
  let onlyTxHash ← orThrow (req.optionalBoolAt 4)
  getBlockByNumber framework w groupID nodeName blockNumber onlyHeader onlyTxHash respFunc

def getBlockHashByNumberI (req : Json) (respFunc : RespFunc) : RpcRun Unit := do
  let groupID ← orThrow (req.stringAt 0)
  let nodeName ← orThrow (req.stringAt 1)
  let blockNumber ← orThrow (req.int64At 2)
  getBlockHashByNumber framework w groupID nodeName blockNumber respFunc

def getCodeI (req : Json) (respFunc : RespFunc) : RpcRun Unit := do
  let groupID ← orThrow (req.stringAt 0)
  let nodeName ← orThrow (req.stringAt 1)
  let contractAddress ← orThrow (req.stringAt 2)
  getCode framework w groupID nodeName contractAddress respFunc

def getSystemConfigByKeyI (req : Json) (respFunc : RespFunc) : RpcRun Unit := do
  let groupID ← orThrow (req.stringAt 0)
  let nodeName ← orThrow (req.stringAt 1)
  let keyValue ← orThrow (req.stringAt 2)
  getSystemConfigByKey framework w groupID nodeName keyValue respFunc

def getGroupPeersI (req : Json) (respFunc : RespFunc) : RpcRun Unit := do
  let groupID ← orThrow (req.stringAt 0)
  getGroupPeers w groupID respFunc

def getGroupInfoI (req : Json) (respFunc : RespFunc) : RpcRun Unit := do
  let groupID ← orThrow (req.stringAt 0)
  getGroupInfo w groupID respFunc

/-! ### Methods by name -/

/-- The methods, as `initMethod` enters them. -/
def methodToFunc : List (String × (Json → RespFunc → RpcRun Unit)) :=
  [("call", callI framework w₁),
    ("sendTransaction", sendTransactionI framework w₁),
    ("getTransaction", getTransactionI framework w₁),
    ("getTransactionReceipt", getTransactionReceiptI framework w₁ w₂),
    ("getBlockByHash", getBlockByHashI framework w₁ w₂),
    ("getBlockByNumber", getBlockByNumberI framework w₁),
    ("getBlockHashByNumber", getBlockHashByNumberI framework w₁),
    ("getBlockNumber", withNode (getBlockNumber framework w₁)),
    ("getCode", getCodeI framework w₁),
    ("getSealerList", withNode (getSealerList framework w₁)),
    ("getObserverList", withNode (getObserverList framework w₁)),
    ("getPbftView", withNode (getPbftView framework w₁)),
    ("getPendingTxSize", withNode (getPendingTxSize framework w₁)),
    ("getSyncStatus", withNode (getSyncStatus framework w₁)),
    ("getConsensusStatus", withNode (getConsensusStatus framework w₁)),
    ("getSystemConfigByKey", getSystemConfigByKeyI framework w₁),
    ("getTotalTransactionCount", withNode (getTotalTransactionCount framework w₁)),
    ("getPeers", fun _ => getPeers w₁),
    ("getGroupPeers", getGroupPeersI w₁),
    ("getGroupList", fun _ => getGroupList w₁),
    ("getGroupInfo", getGroupInfoI w₁),
    ("getGroupInfoList", fun _ => getGroupInfoList w₁),
    ("getGroupNodeInfo", withNode (getGroupNodeInfo w₁))]

theorem mem_methodToFunc_of_lookup {name : String} {method : Json → RespFunc → RpcRun Unit}
    (h : (methodToFunc framework w₁ w₂).lookup name = some method) :
  (name, method) ∈ methodToFunc framework w₁ w₂
  := by
  obtain ⟨before, after, hmem, _⟩ := List.lookup_eq_some_iff.mp h
  rw [hmem]
  apply List.mem_append_right _ List.mem_cons_self

/-- Find the method of a request and run it. -/
def dispatch (request : JsonRequest) (respFunc : RespFunc) : RpcRun Unit :=
  match (methodToFunc framework w₁ w₂).lookup request.method with
  | none =>
      Run.throw
        (.jsonRpc JsonRpcError.MethodNotFound "The method does not exist/is not available.")
  | some method => method request.params respFunc

/-- Handle a request. The id of a response is not initialised; it is set with the version when
the request can be decoded. -/
def onRPCRequest (uninitialized : Int) (requestBody : String) : RpcRun Unit :=
  let response : JsonResponse := { id := uninitialized }
  match parseRpcRequestJson framework requestBody with
  | .error e => response.respondException e
  | .ok request =>
      let response := { response with jsonrpc := request.jsonrpc, id := request.id }
      (dispatch framework w₁ w₂ request response.respond).handle response.respondException

end JsonRpcImpl_2_0
