import BcosRpc.JsonRpc.Errors

/-!
# The identity of a request

A request is identified by its version and its id. Every response to a body that can be decoded
carries them. The response to one that cannot carries an empty version and an id that is not
initialised.
-/

/-! ### Bodies that are requests -/

/-- A value with the members of a request: version and method have texts, an id is an integer
or converts to one, and the parameters are an array. -/
structure JsonRequest.IsRequest (root : Json) : Prop where
  jsonrpc : ∃ j s, root.find "jsonrpc" = some j ∧ j.asString = .ok s
  method : ∃ j s, root.find "method" = some j ∧ j.asString = .ok s
  id : ∀ j, root.find "id" = some j → ∃ i, j.asInt64 = .ok i
  params : ∃ items, root.find "params" = some (.array items)

/-- A text that the JSON reader accepts and that is a request. -/
def IsRequestBody (framework : Framework) (requestBody : String) : Prop :=
  ∃ root, framework.parse requestBody = .ok (some root) ∧ JsonRequest.IsRequest root

/-- A value with a version that is a string and an id that is an `int64_t`. -/
structure JsonRequest.Identifies (root : Json) (jsonrpc : String) (id : Int) : Prop where
  int64 : IsInt64 id
  jsonrpc : root.find "jsonrpc" = some (.string jsonrpc)
  id : root.find "id" = some (.integer id)

/-- A response with a version and an id. -/
structure Echoes (jsonrpc : String) (id : Int) (response : Json) : Prop where
  jsonrpc : response.find "jsonrpc" = some (.string jsonrpc)
  id : response.find "id" = some (.integer id)

theorem echoes_toJsonResponse {response : JsonResponse} {jsonrpc : String} {id : Int}
    (hjsonrpc : response.jsonrpc = jsonrpc) (hid : response.id = id) :
  Echoes jsonrpc id (toJsonResponse response)
  := by
  rw [toJsonResponse]
  split <;> constructor <;> simp [hjsonrpc, hid]

/-! ### The property -/

namespace JsonRpcImpl_2_0

/-- Every response to a body carries its identity, if it has one, and does not depend on the
field that is not initialised. -/
structure EchoesIdentity (framework : Framework) (requestBody : String) : Prop where
  echoes : ∀ root jsonrpc id, framework.parse requestBody = .ok (some root) →
    JsonRequest.Identifies root jsonrpc id → ∀ w₁ w₂ uninitialized,
      IsInt64 uninitialized →
      ∀ response ∈ responses (onRPCRequest framework w₁ w₂ uninitialized requestBody).trace,
        Echoes jsonrpc id response
  determined : ∀ w₁ w₂ u₁ u₂, IsInt64 u₁ → IsInt64 u₂ →
    responses (onRPCRequest framework w₁ w₂ u₁ requestBody).trace
      = responses (onRPCRequest framework w₁ w₂ u₂ requestBody).trace

end JsonRpcImpl_2_0

/-! ### Decoding -/

theorem JsonRequest.isRequest_iff (root : Json) :
  JsonRequest.IsRequest root ↔ ∃ request, JsonRequest.ReadFrom root request
  := by
  constructor
  · rintro ⟨⟨jv, jsonrpc, hv, hjsonrpc⟩, ⟨jm, method, hm, hmethod⟩, hid, ⟨items, hparams⟩⟩
    have hread : ∃ id, (root.find "id").elim (.ok 0) Json.asInt64 = .ok id := by
      cases h : root.find "id" with
      | none => exact ⟨0, rfl⟩
      | some j => apply hid j h
    obtain ⟨id, hread⟩ := hread
    use { jsonrpc, method, id, params := .array items }
    exact ⟨⟨jv, hv, hjsonrpc⟩, ⟨jm, hm, hmethod⟩, hread, hparams, rfl⟩
  · rintro ⟨request, ⟨jv, hv, hjsonrpc⟩, ⟨jm, hm, hmethod⟩, hid, hparams, harray⟩
    refine ⟨⟨jv, _, hv, hjsonrpc⟩, ⟨jm, _, hm, hmethod⟩, ?_, ?_⟩
    · intro j hj
      rw [hj] at hid
      exact ⟨_, hid⟩
    · rw [hparams]
      cases hp : request.params <;> simp [hp, Json.isArray] at harray ⊢

theorem isRequestBody_iff (framework : Framework) (requestBody : String) :
  IsRequestBody framework requestBody
    ↔ ∃ request, parseRpcRequestJson framework requestBody = .ok request
  := by
  simp only [IsRequestBody, JsonRequest.isRequest_iff, parseRpcRequestJson_eq_ok_iff]
  constructor
  · rintro ⟨root, hroot, request, hread⟩
    exact ⟨request, root, hroot, hread⟩
  · rintro ⟨request, root, hroot, hread⟩
    exact ⟨root, hroot, request, hread⟩

/-- A request that is read has the identity of the value it is read from. -/
theorem JsonRequest.Identifies.eq {root : Json} {jsonrpc : String} {id : Int}
    (h : JsonRequest.Identifies root jsonrpc id) {request : JsonRequest}
    (hread : JsonRequest.ReadFrom root request) :
  request.jsonrpc = jsonrpc ∧ request.id = id
  := by
  obtain ⟨j, hj, hjsonrpc⟩ := hread.jsonrpc
  have hid := hread.id
  rw [h.jsonrpc] at hj
  cases hj
  cases hjsonrpc
  rw [h.id, Option.elim_some, Json.asInt64_integer h.int64] at hid
  cases hid
  exact ⟨rfl, rfl⟩

/-! ### The responses of a run -/

/-- Every response of a run has a property. -/
def Sends (P : Json → Prop) (m : RpcRun Unit) : Prop :=
  m.Always fun event => ∀ response, event = .sent response → P response

theorem Sends.responses {P : Json → Prop} {m : RpcRun Unit} (h : Sends P m) :
  ∀ response ∈ responses m.trace, P response
  := by
  intro response hmem
  obtain ⟨event, hevent, hsome⟩ := List.mem_filterMap.mp hmem
  apply h event hevent
  cases event with
  | sent r =>
      cases hsome
      rfl
  | answer error => cases hsome
  | caught e => cases hsome

theorem sends_ask {P : Json → Prop} {α : Type} (reply : RpcReply α)
    {callback : Option Error → α → RpcRun Unit} (h : ∀ error a, Sends P (callback error a)) :
  Sends P (reply.ask callback)
  := by
  apply Run.always_invoke
  · intro e response hresponse
    cases hresponse
  · intro answer
    apply Run.always_bind
    · apply Run.always_emit
      intro response hresponse
      cases hresponse
    · intro _ _
      apply h

namespace JsonRpcImpl_2_0

variable (framework : Framework) (w w₁ w₂ : World) {P : Json → Prop} {respFunc : RespFunc}

theorem sends_askService (hresp : ∀ error result, Sends P (respFunc error result)) {S α : Type}
    (service : NodeService → Option S) (serviceName groupID nodeName command : String)
    (asks : S → RpcReply α) (result : Option Error → α → Option Json) :
  Sends P
    (askService framework w service serviceName groupID nodeName command asks result respFunc)
  := by
  apply Run.always_require_bind
  intro nodeService
  apply Run.always_require_bind
  intro s
  apply sends_ask
  intro error answer
  apply Run.always_deref_bind
  intro jResp
  apply hresp

theorem sends_call (hresp : ∀ error result, Sends P (respFunc error result))
    (groupID nodeName receiver data : String) :
  Sends P (call framework w groupID nodeName receiver data respFunc)
  := by
  apply Run.always_require_bind
  intro nodeService
  apply Run.always_deref_bind
  intro blockFactory
  apply Run.always_ofExcept_bind
  intro input
  apply Run.always_ofExcept_bind
  intro transaction
  apply Run.always_deref_bind
  intro scheduler
  apply sends_ask
  intro error receipt
  apply Run.always_ite (hresp _ _)
  apply Run.always_deref_bind
  intro receipt
  apply hresp

theorem sends_sendTransaction (hresp : ∀ error result, Sends P (respFunc error result))
    (groupID nodeName data : String) (requireProof : Bool) :
  Sends P (sendTransaction framework w groupID nodeName data requireProof respFunc)
  := by
  apply Run.always_ofExcept_bind
  intro transactionData
  apply Run.always_require_bind
  intro nodeService
  apply Run.always_require_bind
  intro txpool
  apply Run.always_deref_bind
  intro blockFactory
  apply Run.always_ofExcept_bind
  intro transaction
  apply sends_ask
  intro error submitResult
  apply Run.always_ite (hresp _ _)
  apply Run.always_deref_bind
  intro submitResult
  apply Run.always_whenSome
  intro receipt
  apply hresp

theorem sends_getTransaction (hresp : ∀ error result, Sends P (respFunc error result))
    (groupID nodeName txHash : String) (requireProof : Bool) :
  Sends P (getTransaction framework w groupID nodeName txHash requireProof respFunc)
  := by
  apply Run.always_ofExcept_bind
  intro hash
  apply Run.always_require_bind
  intro nodeService
  apply Run.always_require_bind
  intro ledger
  apply sends_ask
  intro error answer
  apply Run.always_ite (hresp _ _)
  apply Run.always_deref_bind
  intro transactions
  apply Run.always_deref_bind
  intro jResp
  apply hresp

theorem sends_getTransactionReceipt (hresp : ∀ error result, Sends P (respFunc error result))
    (groupID nodeName txHash : String) (requireProof : Bool) :
  Sends P
    (getTransactionReceipt framework w₁ w₂ groupID nodeName txHash requireProof respFunc)
  := by
  apply Run.always_ofExcept_bind
  intro hash
  apply Run.always_require_bind
  intro nodeService
  apply Run.always_require_bind
  intro ledger
  apply sends_ask
  intro error answer
  apply Run.always_ite (hresp _ _)
  apply Run.always_deref_bind
  intro receipt
  apply sends_getTransaction
  intro _ jTx
  apply hresp

theorem sends_getBlockByHash (hresp : ∀ error result, Sends P (respFunc error result))
    (groupID nodeName blockHash : String) (onlyHeader onlyTxHash : Bool) :
  Sends P (getBlockByHash framework w₁ w₂ groupID nodeName blockHash onlyHeader onlyTxHash
    respFunc)
  := by
  apply Run.always_require_bind
  intro nodeService
  apply Run.always_require_bind
  intro ledger
  apply Run.always_ofExcept_bind
  intro hash
  apply sends_ask
  intro error blockNumber
  apply Run.always_ite (hresp _ _)
  apply sends_askService framework w₂ hresp

theorem sends_getBlockHashByNumber (hresp : ∀ error result, Sends P (respFunc error result))
    (groupID nodeName : String) (blockNumber : Int) :
  Sends P (getBlockHashByNumber framework w groupID nodeName blockNumber respFunc)
  := by
  apply Run.always_require_bind
  intro nodeService
  apply Run.always_require_bind
  intro ledger
  apply sends_ask
  intro error hashValue
  apply hresp

theorem sends_getCode (hresp : ∀ error result, Sends P (respFunc error result))
    (groupID nodeName contractAddress : String) :
  Sends P (getCode framework w groupID nodeName contractAddress respFunc)
  := by
  apply Run.always_require_bind
  intro nodeService
  apply Run.always_deref_bind
  intro scheduler
  apply sends_ask
  intro error codeData
  apply hresp

theorem sends_getPeers (hresp : ∀ error result, Sends P (respFunc error result)) :
  Sends P (getPeers w respFunc)
  := by
  apply sends_ask
  intro error answer
  apply Run.always_deref_bind
  intro jResp
  apply hresp

theorem sends_getGroupPeers (hresp : ∀ error result, Sends P (respFunc error result))
    (groupID : String) :
  Sends P (getGroupPeers w groupID respFunc)
  := by
  apply sends_ask
  intro error answer
  apply Run.always_ite (hresp _ _)
  apply Run.always_deref_bind
  intro peersInfo
  apply Run.always_deref_bind
  intro localP2pInfo
  apply hresp

theorem sends_withNode {method : (groupID nodeName : String) → RespFunc → RpcRun Unit}
    (h : ∀ groupID nodeName, Sends P (method groupID nodeName respFunc)) (req : Json) :
  Sends P (withNode method req respFunc)
  := by
  apply Run.always_ofExcept_bind
  intro groupID
  apply Run.always_ofExcept_bind
  intro nodeName
  apply h

/-- What every response function of a request sends, every method sends. -/
theorem sends_method (hresp : ∀ error result, Sends P (respFunc error result)) (params : Json) :
  ∀ entry ∈ methodToFunc framework w₁ w₂, Sends P (entry.2 params respFunc)
  := by
  have hnode : ∀ {method : (groupID nodeName : String) → RespFunc → RpcRun Unit},
      (∀ groupID nodeName, Sends P (method groupID nodeName respFunc)) →
      Sends P (withNode method params respFunc) := by
    intro method h
    apply sends_withNode h
  have hask : ∀ {S α : Type} (service : NodeService → Option S) (serviceName : String)
      (groupID nodeName command : String) (asks : S → RpcReply α)
      (result : Option Error → α → Option Json), Sends P
        (askService framework w₁ service serviceName groupID nodeName command asks result
          respFunc) := by
    intros
    apply sends_askService framework w₁ hresp
  simp only [methodToFunc, List.forall_mem_cons, List.not_mem_nil, false_implies, implies_true,
    and_true]
  refine ⟨?call, ?sendTransaction, ?getTransaction, ?getTransactionReceipt, ?getBlockByHash,
    ?getBlockByNumber, ?getBlockHashByNumber, hnode fun _ _ => hask _ _ _ _ _ _ _,
    ?getCode, hnode fun _ _ => hask _ _ _ _ _ _ _, hnode fun _ _ => hask _ _ _ _ _ _ _,
    hnode fun _ _ => hask _ _ _ _ _ _ _, hnode fun _ _ => hask _ _ _ _ _ _ _,
    hnode fun _ _ => hask _ _ _ _ _ _ _, hnode fun _ _ => hask _ _ _ _ _ _ _,
    ?getSystemConfigByKey, hnode fun _ _ => hask _ _ _ _ _ _ _, sends_getPeers w₁ hresp,
    ?getGroupPeers, hresp none _, ?getGroupInfo, hresp none _, hnode fun _ _ => hresp none _⟩
  case call =>
    iterate 4
      apply Run.always_ofExcept_bind
      intro _
    apply sends_call framework w₁ hresp
  case sendTransaction =>
    iterate 4
      apply Run.always_ofExcept_bind
      intro _
    apply sends_sendTransaction framework w₁ hresp
  case getTransaction =>
    iterate 4
      apply Run.always_ofExcept_bind
      intro _
    apply sends_getTransaction framework w₁ hresp
  case getTransactionReceipt =>
    iterate 4
      apply Run.always_ofExcept_bind
      intro _
    apply sends_getTransactionReceipt framework w₁ w₂ hresp
  case getBlockByHash =>
    iterate 5
      apply Run.always_ofExcept_bind
      intro _
    apply sends_getBlockByHash framework w₁ w₂ hresp
  case getBlockByNumber =>
    iterate 5
      apply Run.always_ofExcept_bind
      intro _
    apply hask
  case getBlockHashByNumber =>
    iterate 3
      apply Run.always_ofExcept_bind
      intro _
    apply sends_getBlockHashByNumber framework w₁ hresp
  case getCode =>
    iterate 3
      apply Run.always_ofExcept_bind
      intro _
    apply sends_getCode framework w₁ hresp
  case getSystemConfigByKey =>
    iterate 3
      apply Run.always_ofExcept_bind
      intro _
    apply hask
  case getGroupPeers =>
    apply Run.always_ofExcept_bind
    intro _
    apply sends_getGroupPeers w₁ hresp
  case getGroupInfo =>
    apply Run.always_ofExcept_bind
    intro _
    apply hresp

theorem sends_dispatch (hresp : ∀ error result, Sends P (respFunc error result))
    (request : JsonRequest) :
  Sends P (dispatch framework w₁ w₂ request respFunc)
  := by
  rw [dispatch]
  cases hlookup : (methodToFunc framework w₁ w₂).lookup request.method with
  | none =>
      apply Run.always_of_nil
      rfl
  | some method =>
      apply sends_method framework w₁ w₂ hresp request.params (request.method, method)
      apply mem_methodToFunc_of_lookup framework w₁ w₂ hlookup

end JsonRpcImpl_2_0

/-! ### The responses to a request -/

theorem sends_respond (response : JsonResponse) (error : Option Error) (result : Json) :
  Sends (Echoes response.jsonrpc response.id) (response.respond error result)
  := by
  apply Run.always_emit
  rintro _ ⟨⟩
  cases error with
  | none => exact echoes_toJsonResponse rfl rfl
  | some e =>
      dsimp only
      split <;> exact echoes_toJsonResponse rfl rfl

theorem sends_respondException (response : JsonResponse) (e : RpcException) :
  Sends (Echoes response.jsonrpc response.id) (response.respondException e)
  := by
  apply Run.always_bind
  · apply Run.always_emit
    rintro _ ⟨⟩
  · intro _ _
    apply Run.always_emit
    rintro _ ⟨⟩
    exact echoes_toJsonResponse rfl rfl

namespace JsonRpcImpl_2_0

variable (framework : Framework) (w₁ w₂ : World)

theorem sends_onRPCRequest {requestBody : String} {request : JsonRequest}
    (hparse : parseRpcRequestJson framework requestBody = .ok request) (uninitialized : Int) :
  Sends (Echoes request.jsonrpc request.id)
    (onRPCRequest framework w₁ w₂ uninitialized requestBody)
  := by
  rw [onRPCRequest, hparse]
  apply Run.always_handle
  · apply sends_dispatch
    apply sends_respond
  · apply sends_respondException

/-- The response to a body that cannot be decoded. -/
theorem responses_of_error {requestBody : String} {e : RpcException}
    (hparse : parseRpcRequestJson framework requestBody = .error e) (uninitialized : Int) :
  responses (onRPCRequest framework w₁ w₂ uninitialized requestBody).trace
    = [toJsonResponse { id := uninitialized, error := ⟨e.code, e.what⟩ }]
  := by
  rw [onRPCRequest, hparse]
  rfl

/-- The identity is echoed exactly in the responses to bodies that are requests. -/
theorem echoesIdentity_iff (requestBody : String) :
  EchoesIdentity framework requestBody ↔ IsRequestBody framework requestBody
  := by
  rw [isRequestBody_iff]
  constructor
  · intro h
    cases hparse : parseRpcRequestJson framework requestBody with
    | ok request => exact ⟨request, rfl⟩
    | error e =>
        have heq := h.determined failingWorld failingWorld 0 1 (by decide) (by decide)
        rw [responses_of_error framework _ _ hparse, responses_of_error framework _ _ hparse,
          List.singleton_inj] at heq
        have hzero := (@echoes_toJsonResponse _ "" _ rfl rfl).id.symm.trans
          (congrArg (Json.find "id") heq)
        rw [(echoes_toJsonResponse rfl rfl).id] at hzero
        cases hzero
  · rintro ⟨request, hparse⟩
    constructor
    · intro root jsonrpc id hroot hidentifies w₁ w₂ uninitialized _
      obtain ⟨root', hroot', hread⟩ :=
        (parseRpcRequestJson_eq_ok_iff framework requestBody request).mp hparse
      rw [hroot] at hroot'
      cases hroot'
      obtain ⟨rfl, rfl⟩ := hidentifies.eq hread
      apply (sends_onRPCRequest framework w₁ w₂ hparse uninitialized).responses
    · intro w₁ w₂ u₁ u₂ _ _
      simp only [onRPCRequest, hparse]

/-- A body with an identity and no method. -/
def namelessBody : String := "\x7b\"id\":7,\"jsonrpc\":\"2.0\",\"params\":[]\x7d"

def namelessRequest : Json :=
  .object [("id", .integer 7), ("jsonrpc", .string "2.0"), ("params", .array [])]

def namelessFramework : Framework :=
  { queryFramework with
    parse := fun body => if body = namelessBody then .ok (some namelessRequest) else .ok none }

theorem echoesIdentity_counterexample :
  ¬ EchoesIdentity namelessFramework namelessBody
  := by
  intro h
  have hresponse := h.echoes namelessRequest "2.0" 7 rfl ⟨by decide, rfl, rfl⟩
    failingWorld failingWorld 0 (by decide) _ List.mem_cons_self
  have hempty : some (Json.string "") = some (Json.string "2.0") := hresponse.jsonrpc
  simp at hempty

end JsonRpcImpl_2_0
