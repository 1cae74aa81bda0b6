import BcosRpc.Common.Table
import BcosRpc.JsonRpc.Dispatch

/-!
# What a request reads

A request asks the group manager for a service of the node that it names, and for the groups.
`onRPCRequest_congr` says that nothing else counts: where two group managers agree on these, it
does the same, whatever else they differ in.
-/

/-- The group and the node that a request names, if any, are of a kind. -/
def JsonRequest.Names (P : String → String → Prop) (request : JsonRequest) : Prop :=
  ∀ groupID nodeName, request.params.stringAt 0 = .ok groupID →
    request.params.stringAt 1 = .ok nodeName → P groupID nodeName

/-- Two worlds that find the same service for the nodes of a kind, and have the same groups. -/
structure World.Agrees (P : String → String → Prop) (w v : World) : Prop where
  chainID : w.chainID = v.chainID
  getNodeService : ∀ groupID nodeName, P groupID nodeName →
    w.getNodeService groupID nodeName = v.getNodeService groupID nodeName
  groupList : w.groupList = v.groupList
  getGroupInfo : w.getGroupInfo = v.getGroupInfo
  groupInfoList : w.groupInfoList = v.groupInfoList
  getNodeInfo : w.getNodeInfo = v.getNodeInfo
  asyncGetPeers : w.asyncGetPeers = v.asyncGetPeers

namespace JsonRpcImpl_2_0

variable {framework : Framework} {P : String → String → Prop} {w v w₁ w₂ v₁ v₂ : World}

theorem getNodeService_congr (h : w.Agrees P v) {groupID nodeName : String}
    (hnamed : P groupID nodeName) (command : String) :
  getNodeService framework w groupID nodeName command
    = getNodeService framework v groupID nodeName command
  := by
  rw [getNodeService, getNodeService, h.chainID, h.getNodeService groupID nodeName hnamed]

theorem getTransaction_congr (h : w.Agrees P v) {groupID nodeName : String}
    (hnamed : P groupID nodeName) (txHash : String) (requireProof : Bool) (respFunc : RespFunc) :
  getTransaction framework w groupID nodeName txHash requireProof respFunc
    = getTransaction framework v groupID nodeName txHash requireProof respFunc
  := by
  simp only [getTransaction, getNodeService_congr h hnamed]

theorem getBlockByNumber_congr (h : w.Agrees P v) {groupID nodeName : String}
    (hnamed : P groupID nodeName) (blockNumber : Int) (onlyHeader onlyTxHash : Bool)
    (respFunc : RespFunc) :
  getBlockByNumber framework w groupID nodeName blockNumber onlyHeader onlyTxHash respFunc
    = getBlockByNumber framework v groupID nodeName blockNumber onlyHeader onlyTxHash respFunc
  := by
  simp only [getBlockByNumber, askService, getNodeService_congr h hnamed]

/-- After the group and the node of a request are read, only what is done for a node of the kind
counts. -/
theorem params_congr {request : JsonRequest} (hnames : request.Names P)
    {f f' : String → String → RpcRun Unit}
    (h : ∀ groupID nodeName, P groupID nodeName → f groupID nodeName = f' groupID nodeName) :
  (orThrow (request.params.stringAt 0) >>= fun groupID =>
      orThrow (request.params.stringAt 1) >>= fun nodeName => f groupID nodeName)
    = orThrow (request.params.stringAt 0) >>= fun groupID =>
      orThrow (request.params.stringAt 1) >>= fun nodeName => f' groupID nodeName
  := by
  cases hgroup : request.params.stringAt 0 with
  | error what => rfl
  | ok groupID =>
      cases hnode : request.params.stringAt 1 with
      | error what => rfl
      | ok nodeName => exact h groupID nodeName (hnames groupID nodeName hgroup hnode)

/-- Two methods do the same with the parameters of a request. -/
def SameOn (request : JsonRequest) (method method' : Json → RespFunc → RpcRun Unit) : Prop :=
  ∀ respFunc, method request.params respFunc = method' request.params respFunc

theorem methodToFunc_congr (h₁ : w₁.Agrees P v₁) (h₂ : w₂.Agrees P v₂) {request : JsonRequest}
    (hnames : request.Names P) :
  List.Forall₂ (fun entry entry' => entry.1 = entry'.1 ∧ SameOn request entry.2 entry'.2)
    (methodToFunc framework w₁ w₂) (methodToFunc framework v₁ v₂)
  := by
  simp only [methodToFunc, List.forall₂_cons, List.Forall₂.nil, true_and, and_true]
  refine ⟨?_, ?_, ?_, ?_, ?_, ?_, ?_, ?_, ?_, ?_, ?_, ?_, ?_, ?_, ?_, ?_, ?_,
    ?getPeers, ?getGroupPeers, ?getGroupList, ?getGroupInfo, ?getGroupInfoList, ?getGroupNodeInfo⟩
  case getPeers =>
    intro respFunc
    simp only [getPeers, h₁.asyncGetPeers]
  case getGroupPeers =>
    intro respFunc
    simp only [getGroupPeersI, getGroupPeers, h₁.asyncGetPeers]
  case getGroupList =>
    intro respFunc
    simp only [getGroupList, h₁.groupList]
  case getGroupInfo =>
    intro respFunc
    simp only [getGroupInfoI, getGroupInfo, h₁.getGroupInfo]
  case getGroupInfoList =>
    intro respFunc
    simp only [getGroupInfoList, h₁.groupInfoList]
  case getGroupNodeInfo =>
    intro respFunc
    simp only [withNode, getGroupNodeInfo, h₁.getNodeInfo]
  -- all others ask a service of the node
  all_goals
    intro respFunc
    apply params_congr hnames
    intro groupID nodeName hnamed
    simp only [call, sendTransaction, getTransactionReceipt, getBlockByHash,
      getBlockHashByNumber, getBlockNumber, getCode, getSealerList, getObserverList, getPbftView,
      getPendingTxSize, getSyncStatus, getConsensusStatus, getSystemConfigByKey,
      getTotalTransactionCount, askService, getNodeService_congr h₁ hnamed,
      getTransaction_congr h₁ hnamed, getTransaction_congr h₂ hnamed,
      getBlockByNumber_congr h₁ hnamed, getBlockByNumber_congr h₂ hnamed]

theorem dispatch_congr (h₁ : w₁.Agrees P v₁) (h₂ : w₂.Agrees P v₂) {request : JsonRequest}
    (hnames : request.Names P) (respFunc : RespFunc) :
  dispatch framework w₁ w₂ request respFunc = dispatch framework v₁ v₂ request respFunc
  := by
  have hmethods : List.Forall₂ _ (methodToFunc framework w₁ w₂) (methodToFunc framework v₁ v₂) :=
    methodToFunc_congr h₁ h₂ hnames
  have hlookup := Table.lookup_rel hmethods request.method
  rw [dispatch, dispatch]
  generalize (methodToFunc framework w₁ w₂).lookup request.method = found at hlookup
  generalize (methodToFunc framework v₁ v₂).lookup request.method = found' at hlookup
  cases hlookup with
  | none => rfl
  | some hsame => exact hsame respFunc

/-- A request that names no node outside a kind is handled in the same way where the services of
the nodes of the kind and the groups are the same. -/
theorem onRPCRequest_congr (h₁ : w₁.Agrees P v₁) (h₂ : w₂.Agrees P v₂) {requestBody : String}
    (hnames : ∀ request, parseRpcRequestJson framework requestBody = .ok request →
      request.Names P) (uninitialized : Int) :
  onRPCRequest framework w₁ w₂ uninitialized requestBody
    = onRPCRequest framework v₁ v₂ uninitialized requestBody
  := by
  rw [onRPCRequest, onRPCRequest]
  cases hparse : parseRpcRequestJson framework requestBody with
  | error e => rfl
  | ok request =>
      dsimp only
      rw [dispatch_congr h₁ h₂ (hnames request hparse)]

end JsonRpcImpl_2_0
