import BcosRpc.JsonRpc.Dispatch

/-!
# Errors of the services

What becomes of the first answer a method gets. Every method passes the error of a failed
answer on to the response, but for the query for the hash of a block, which drops it; and the
code of the error is narrowed to `int32_t` on its way into the response.
-/

/-! ### Responses -/

/-- The responses among the events of a request. -/
def responses (trace : List RpcEvent) : List Json :=
  trace.filterMap fun event =>
    match event with
    | .sent response => some response
    | _ => none

@[simp]
theorem responses_cons_answer (error : Option Error) (trace : List RpcEvent) :
  responses (.answer error :: trace) = responses trace
  := rfl

/-- The response has the code and the message of an error, and no result. -/
def CarriesError (e : Error) (response : Json) : Prop :=
  (∃ jError, response.find "error" = some jError
    ∧ jError.find "code" = some (.integer e.errorCode)
    ∧ jError.find "message" = some (.string e.errorMessage))
  ∧ response.find "result" = none

/-- The response has a result and no error. -/
def CarriesResult (response : Json) : Prop :=
  (∃ result, response.find "result" = some result) ∧ response.find "error" = none

/-- No later answer has an error, and no exception is caught. -/
def Succeeds (trace : List RpcEvent) : Prop :=
  ∀ event ∈ trace,
    match event with
    | .answer error => Error.failed error = false
    | .sent _ => True
    | .caught _ => False

/-- What is sent after the first answer of a service reports it: the error of a failed answer
is the error of the one response, and when the rest succeeds as well, every response has a
result. -/
structure Reported (error : Option Error) (rest : List RpcEvent) : Prop where
  failed : ∀ e, error = some e → e.errorCode ≠ CommonError.SUCCESS →
    ∃ response, responses rest = [response] ∧ CarriesError e response
  succeeded : Error.failed error = false → Succeeds rest →
    ∀ response ∈ responses rest, CarriesResult response

theorem Error.failed_eq_true_iff {error : Option Error} :
  Error.failed error = true ↔ ∃ e, error = some e ∧ e.errorCode ≠ CommonError.SUCCESS
  := by
  cases error <;> simp [Error.failed]

theorem carriesResult_toJsonResponse {response : JsonResponse} (h : response.error.code = 0) :
  CarriesResult (toJsonResponse response)
  := by
  simp [CarriesResult, toJsonResponse, h]

/-- A response with the error of an answer carries it exactly when its code survives the
conversion. -/
theorem carriesError_toJsonResponse_iff (response : JsonResponse) {e : Error}
    (he : e.errorCode ≠ CommonError.SUCCESS) :
  CarriesError e
      (toJsonResponse { response with error := ⟨toInt32 e.errorCode, e.errorMessage⟩ })
    ↔ toInt32 e.errorCode = e.errorCode
  := by
  by_cases h : toInt32 e.errorCode = 0
  · have hne : (0 : Int) ≠ e.errorCode := Ne.symm he
    simp [CarriesError, toJsonResponse, h, hne]
  · simp [CarriesError, toJsonResponse, h]

theorem not_carriesError_toJsonResponse {response : JsonResponse} (h : response.error.code = 0)
    (e : Error) :
  ¬ CarriesError e (toJsonResponse response)
  := by
  simp [CarriesError, toJsonResponse, h]

/-! ### Runs that pass on an error -/

section

variable {α β : Type} {respFunc : RespFunc} {passed : Option Error → Option Error}

/-- Unless a later answer has an error or an exception is caught, only results are sent. -/
def SendsResults (m : RpcRun α) : Prop :=
  Succeeds m.trace → ∀ response ∈ responses m.trace, CarriesResult response

/-- After a first answer with an error the method responds with the error passed on and
returns; after one without, it sends results unless something fails later. -/
def Passes (passed : Option Error → Option Error) (respFunc : RespFunc) (m : RpcRun Unit) :
    Prop :=
  ∀ error rest, m.trace = .answer error :: rest →
    if Error.failed error then
      m.outcome = .ok () ∧ ∃ result, rest = (respFunc (passed error) result).trace
    else Succeeds rest → ∀ response ∈ responses rest, CarriesResult response

theorem sendsResults_of_nil {m : RpcRun α} (h : m.trace = []) :
  SendsResults m
  := by
  intro _ response hmem
  rw [h] at hmem
  cases hmem

theorem passes_of_nil {m : RpcRun Unit} (h : m.trace = []) :
  Passes passed respFunc m
  := by
  intro error rest htrace
  rw [h] at htrace
  cases htrace

theorem sendsResults_orThrow_bind {x : Except String α} {f : α → RpcRun β}
    (h : ∀ a, x = .ok a → SendsResults (f a)) :
  SendsResults (orThrow x >>= f)
  := by
  cases x with
  | error e => apply sendsResults_of_nil rfl
  | ok a => apply h a rfl

theorem sendsResults_require_bind {o : Option α} {e : RpcException} {f : α → RpcRun β}
    (h : ∀ a, o = some a → SendsResults (f a)) :
  SendsResults (Run.require o e >>= f)
  := (Run.require_bind_iff_forall _ (sendsResults_of_nil rfl) o f).mpr h

theorem sendsResults_deref_bind {o : Option α} {f : α → RpcRun β}
    (h : ∀ a, o = some a → SendsResults (f a)) :
  SendsResults (Run.deref o >>= f)
  := (Run.deref_bind_iff_forall _ (sendsResults_of_nil rfl) o f).mpr h

theorem passes_orThrow_bind {x : Except String α} {f : α → RpcRun Unit}
    (h : ∀ a, x = .ok a → Passes passed respFunc (f a)) :
  Passes passed respFunc (orThrow x >>= f)
  := by
  cases x with
  | error e => apply passes_of_nil rfl
  | ok a => apply h a rfl

theorem passes_require_bind {o : Option α} {e : RpcException} {f : α → RpcRun Unit}
    (h : ∀ a, o = some a → Passes passed respFunc (f a)) :
  Passes passed respFunc (Run.require o e >>= f)
  := (Run.require_bind_iff_forall _ (passes_of_nil rfl) o f).mpr h

theorem passes_deref_bind {o : Option α} {f : α → RpcRun Unit}
    (h : ∀ a, o = some a → Passes passed respFunc (f a)) :
  Passes passed respFunc (Run.deref o >>= f)
  := (Run.deref_bind_iff_forall _ (passes_of_nil rfl) o f).mpr h

/-- A trace in which an exception is caught does not succeed, whatever follows. -/
theorem not_succeeds_append_caught (trace rest : List RpcEvent) (e : RpcException) :
  ¬ Succeeds (trace ++ .caught e :: rest)
  := by
  intro h
  apply h (.caught e)
  simp

/-- The events of a call: none, or an answer and what its callback shows, and at the end the
exception a later callback throws. -/
theorem ask_cases (reply : RpcReply α) (callback : Option Error → α → RpcRun Unit) :
  (reply.ask callback).trace = []
    ∨ ∃ error a,
      ((reply.ask callback).trace = .answer error :: (callback error a).trace
        ∧ (reply.ask callback).outcome = (callback error a).outcome)
      ∨ ∃ e, (reply.ask callback).trace = .answer error :: ((callback error a).trace ++ [.caught e])
        ∧ (callback error a).outcome = .error (.threw e)
  := by
  cases reply with
  | throws e =>
      left
      rfl
  | now answer =>
      right
      use answer.1, answer.2
      left
      exact ⟨rfl, rfl⟩
  | later answer =>
      right
      use answer.1, answer.2
      cases houtcome : (callback answer.1 answer.2).outcome with
      | ok _ =>
          left
          simp only [RpcReply.ask, Reply.invoke, Run.handle, Run.emit_bind, houtcome, and_self]
      | error stop =>
          cases stop with
          | crashed =>
              left
              simp only [RpcReply.ask, Reply.invoke, Run.handle, Run.emit_bind, houtcome, and_self]
          | threw e =>
              right
              use e
              simp only [RpcReply.ask, Reply.invoke, Run.handle, Run.emit_bind, houtcome, and_true]
              rfl

theorem sendsResults_ask {reply : RpcReply α} {callback : Option Error → α → RpcRun Unit}
    (h : ∀ error a, Error.failed error = false → SendsResults (callback error a)) :
  SendsResults (reply.ask callback)
  := by
  obtain hnil | ⟨error, a, ⟨htrace, _⟩ | ⟨e, htrace, _⟩⟩ := ask_cases reply callback
  · apply sendsResults_of_nil hnil
  · intro hsucceeds
    rw [htrace] at hsucceeds ⊢
    have herror := hsucceeds _ List.mem_cons_self
    rw [responses_cons_answer]
    apply h error a herror
    intro event hevent
    apply hsucceeds event (List.mem_cons_of_mem _ hevent)
  · intro hsucceeds
    rw [htrace] at hsucceeds
    apply absurd hsucceeds (not_succeeds_append_caught (_ :: _) [] e)

theorem passes_ask {reply : RpcReply α} {callback : Option Error → α → RpcRun Unit}
    (hrespond : ∀ error result, (respFunc error result).outcome = .ok ())
    (hfailed : ∀ error a, Error.failed error = true →
      ∃ result, callback error a = respFunc (passed error) result)
    (h : ∀ error a, Error.failed error = false → SendsResults (callback error a)) :
  Passes passed respFunc (reply.ask callback)
  := by
  intro error rest hrest
  obtain hnil | ⟨error', a, ⟨htrace, houtcome⟩ | ⟨e, htrace, houtcome⟩⟩ :=
    ask_cases reply callback
  · rw [hnil] at hrest
    cases hrest
  · rw [htrace] at hrest
    obtain ⟨heq, rfl⟩ := List.cons.inj hrest
    cases heq
    cases herror : Error.failed error with
    | false => apply h error a herror
    | true =>
        obtain ⟨result, hcallback⟩ := hfailed error a herror
        rw [hcallback] at houtcome ⊢
        exact ⟨houtcome.trans (hrespond _ _), result, rfl⟩
  · rw [htrace] at hrest
    obtain ⟨heq, rfl⟩ := List.cons.inj hrest
    cases heq
    cases herror : Error.failed error with
    | false =>
        intro hsucceeds
        apply absurd hsucceeds (not_succeeds_append_caught _ [] e)
    | true =>
        obtain ⟨result, hcallback⟩ := hfailed error a herror
        rw [hcallback, hrespond] at houtcome
        cases houtcome

/-- A callback that hands the error of a failed answer to the response function. -/
theorem passes_ask_unlessFailed {reply : RpcReply α}
    {callback : Option Error → α → RpcRun Unit}
    (hrespond : ∀ error result, (respFunc error result).outcome = .ok ())
    (h : ∀ error a, Error.failed error = false → SendsResults (callback error a)) :
  Passes id respFunc
    (reply.ask fun error a =>
      if Error.failed error then respFunc error .null else callback error a)
  := by
  apply passes_ask hrespond
  · intro error a herror
    use .null
    rw [if_pos herror]
    rfl
  · intro error a herror
    rw [if_neg (Bool.eq_false_iff.mp herror)]
    apply h error a herror

end

/-! ### The methods -/

/-- A response function that returns, and sends a result unless it gets an error. -/
structure SendsResult (respFunc : RespFunc) : Prop where
  returns : ∀ error result, (respFunc error result).outcome = .ok ()
  result : ∀ error result, Error.failed error = false → SendsResults (respFunc error result)

theorem JsonResponse.sendsResult_respond {response : JsonResponse}
    (h : response.error.code = 0) :
  SendsResult response.respond
  := by
  constructor
  · intro error result
    rfl
  · intro error result herror _ r hr
    obtain rfl := List.mem_singleton.mp hr
    apply carriesResult_toJsonResponse
    cases error with
    | none => exact h
    | some e =>
        simp only [Error.failed, bne_eq_false_iff_eq] at herror
        simpa [herror] using h

namespace JsonRpcImpl_2_0

variable (framework : Framework) (w w₁ w₂ : World) {respFunc : RespFunc}
  {passed : Option Error → Option Error}

/-- A failed answer can be converted, whatever comes with the error. -/
def ConvertsFailed {α : Type} (result : Option Error → α → Option Json) : Prop :=
  ∀ error answer, Error.failed error = true → ∃ jResp, result error answer = some jResp

theorem convertsFailed_unlessFailed {α : Type} (failed : Json) (result : α → Option Json) :
  ConvertsFailed (unlessFailed failed result)
  := by
  intro error answer herror
  use failed
  rw [unlessFailed, if_pos herror]

theorem passes_askService (hresp : SendsResult respFunc) {S α : Type}
    (service : NodeService → Option S) (serviceName groupID nodeName command : String)
    (asks : S → RpcReply α) {result : Option Error → α → Option Json}
    (hresult : ConvertsFailed result) :
  Passes id respFunc
    (askService framework w service serviceName groupID nodeName command asks result respFunc)
  := by
  apply passes_require_bind
  intro nodeService _
  apply passes_require_bind
  intro s _
  apply passes_ask hresp.returns
  · intro error answer herror
    obtain ⟨jResp, heq⟩ := hresult error answer herror
    use jResp
    rw [heq]
    rfl
  · intro error answer herror
    apply sendsResults_deref_bind
    intro jResp _
    apply hresp.result error _ herror

theorem sendsResults_askService (hresp : SendsResult respFunc) {S α : Type}
    (service : NodeService → Option S) (serviceName groupID nodeName command : String)
    (asks : S → RpcReply α) (result : Option Error → α → Option Json) :
  SendsResults
    (askService framework w service serviceName groupID nodeName command asks result respFunc)
  := by
  apply sendsResults_require_bind
  intro nodeService _
  apply sendsResults_require_bind
  intro s _
  apply sendsResults_ask
  intro error answer herror
  apply sendsResults_deref_bind
  intro jResp _
  apply hresp.result error _ herror

theorem passes_call (hresp : SendsResult respFunc) (groupID nodeName receiver data : String) :
  Passes id respFunc (call framework w groupID nodeName receiver data respFunc)
  := by
  apply passes_require_bind
  intro nodeService _
  apply passes_deref_bind
  intro blockFactory _
  apply passes_orThrow_bind
  intro input _
  apply passes_orThrow_bind
  intro transaction _
  apply passes_deref_bind
  intro scheduler _
  apply passes_ask_unlessFailed hresp.returns
  intro error receipt herror
  apply sendsResults_deref_bind
  intro receipt _
  apply hresp.result error _ herror

theorem passes_sendTransaction (hresp : SendsResult respFunc) (groupID nodeName data : String)
    (requireProof : Bool) :
  Passes id respFunc (sendTransaction framework w groupID nodeName data requireProof respFunc)
  := by
  apply passes_orThrow_bind
  intro transactionData _
  apply passes_require_bind
  intro nodeService _
  apply passes_require_bind
  intro txpool _
  apply passes_deref_bind
  intro blockFactory _
  apply passes_orThrow_bind
  intro transaction _
  apply passes_ask_unlessFailed hresp.returns
  intro error submitResult herror
  apply sendsResults_deref_bind
  intro submitResult _
  cases hreceipt : submitResult.transactionReceipt with
  | none => apply sendsResults_of_nil rfl
  | some receipt => apply hresp.result none _ rfl

/-- What a lookup does with a list of transactions, or with an error. -/
theorem passes_getTransaction (hresp : SendsResult respFunc) (groupID nodeName txHash : String)
    (requireProof : Bool) :
  Passes id respFunc (getTransaction framework w groupID nodeName txHash requireProof respFunc)
  := by
  apply passes_orThrow_bind
  intro hash _
  apply passes_require_bind
  intro nodeService _
  apply passes_require_bind
  intro ledger _
  apply passes_ask_unlessFailed hresp.returns
  intro error answer herror
  apply sendsResults_deref_bind
  intro transactions _
  apply sendsResults_deref_bind
  intro jResp _
  apply hresp.result error _ herror

theorem sendsResults_getTransaction (hresp : SendsResult respFunc)
    (groupID nodeName txHash : String) (requireProof : Bool) :
  SendsResults (getTransaction framework w groupID nodeName txHash requireProof respFunc)
  := by
  apply sendsResults_orThrow_bind
  intro hash _
  apply sendsResults_require_bind
  intro nodeService _
  apply sendsResults_require_bind
  intro ledger _
  apply sendsResults_ask
  intro error answer herror
  rw [if_neg (Bool.eq_false_iff.mp herror)]
  apply sendsResults_deref_bind
  intro transactions _
  apply sendsResults_deref_bind
  intro jResp _
  apply hresp.result error _ herror

theorem passes_getTransactionReceipt (hresp : SendsResult respFunc)
    (groupID nodeName txHash : String) (requireProof : Bool) :
  Passes id respFunc
    (getTransactionReceipt framework w₁ w₂ groupID nodeName txHash requireProof respFunc)
  := by
  apply passes_orThrow_bind
  intro hash _
  apply passes_require_bind
  intro nodeService _
  apply passes_require_bind
  intro ledger _
  apply passes_ask_unlessFailed hresp.returns
  intro error answer herror
  apply sendsResults_deref_bind
  intro receipt _
  apply sendsResults_getTransaction
  constructor
  · intro _ jTx
    apply hresp.returns
  · intro _ jTx _
    apply hresp.result none _ rfl

theorem passes_getBlockByHash (hresp : SendsResult respFunc)
    (groupID nodeName blockHash : String) (onlyHeader onlyTxHash : Bool) :
  Passes id respFunc
    (getBlockByHash framework w₁ w₂ groupID nodeName blockHash onlyHeader onlyTxHash respFunc)
  := by
  apply passes_require_bind
  intro nodeService _
  apply passes_require_bind
  intro ledger _
  apply passes_orThrow_bind
  intro hash _
  apply passes_ask_unlessFailed hresp.returns
  intro error blockNumber herror
  apply sendsResults_askService framework w₂ hresp

theorem passes_getBlockHashByNumber (hresp : SendsResult respFunc) (groupID nodeName : String)
    (blockNumber : Int) :
  Passes (fun _ => none) respFunc
    (getBlockHashByNumber framework w groupID nodeName blockNumber respFunc)
  := by
  apply passes_require_bind
  intro nodeService _
  apply passes_require_bind
  intro ledger _
  apply passes_ask hresp.returns
  · intro error hashValue _
    exact ⟨_, rfl⟩
  · intro error hashValue _
    apply hresp.result none _ rfl

theorem passes_getCode (hresp : SendsResult respFunc)
    (groupID nodeName contractAddress : String) :
  Passes id respFunc (getCode framework w groupID nodeName contractAddress respFunc)
  := by
  apply passes_require_bind
  intro nodeService _
  apply passes_deref_bind
  intro scheduler _
  apply passes_ask hresp.returns
  · intro error codeData _
    exact ⟨_, rfl⟩
  · intro error codeData herror
    apply hresp.result error _ herror

theorem passes_getPeers (hresp : SendsResult respFunc) :
  Passes id respFunc (getPeers w respFunc)
  := by
  apply passes_ask hresp.returns
  · intro error answer herror
    use .null
    rw [unlessFailed, if_pos herror]
    rfl
  · intro error answer herror
    apply sendsResults_deref_bind
    intro jResp _
    apply hresp.result error _ herror

theorem passes_getGroupPeers (hresp : SendsResult respFunc) (groupID : String) :
  Passes id respFunc (getGroupPeers w groupID respFunc)
  := by
  apply passes_ask hresp.returns
  · intro error answer herror
    use .null
    cases error with
    | none => cases herror
    | some e => rfl
  · intro error answer herror
    cases error with
    | some e => apply hresp.result (some e) _ herror
    | none =>
        apply sendsResults_deref_bind
        intro peersInfo _
        apply sendsResults_deref_bind
        intro jResp _
        apply hresp.result none _ rfl

/-! ### Requests -/

/-- The error a method passes on to the response. -/
def passedBy (method : String) (error : Option Error) : Option Error :=
  if method = "getBlockHashByNumber" then none else error

theorem passes_withNode
    {method : (groupID nodeName : String) → RespFunc → RpcRun Unit}
    (h : ∀ groupID nodeName, Passes passed respFunc (method groupID nodeName respFunc))
    (req : Json) :
  Passes passed respFunc (withNode method req respFunc)
  := by
  apply passes_orThrow_bind
  intro groupID _
  apply passes_orThrow_bind
  intro nodeName _
  apply h

/-- A method without a query gets no answer. -/
theorem passes_respond (response : JsonResponse) (error : Option Error) (result : Json) :
  Passes passed respFunc (response.respond error result)
  := by
  intro error' rest htrace
  cases htrace

theorem passes_method {response : JsonResponse} (hresponse : response.error.code = 0)
    (params : Json) :
  ∀ entry ∈ methodToFunc framework w₁ w₂,
    Passes (passedBy entry.1) response.respond (entry.2 params response.respond)
  := by
  have hresp := JsonResponse.sendsResult_respond hresponse
  have hid : ∀ method, method ≠ "getBlockHashByNumber" → passedBy method = id := by
    intro method hmethod
    funext error
    rw [passedBy, if_neg hmethod]
    rfl
  have hnode : ∀ {method : (groupID nodeName : String) → RespFunc → RpcRun Unit} {name : String},
      name ≠ "getBlockHashByNumber" →
      (∀ groupID nodeName, Passes id response.respond (method groupID nodeName response.respond)) →
      Passes (passedBy name) response.respond (withNode method params response.respond) := by
    intro method name hname h
    rw [hid name hname]
    apply passes_withNode h
  have hask : ∀ {S α : Type} (service : NodeService → Option S) (serviceName : String)
      (groupID nodeName command : String) (asks : S → RpcReply α)
      {result : Option Error → α → Option Json}, ConvertsFailed result → Passes id response.respond
        (askService framework w₁ service serviceName groupID nodeName command asks result
          response.respond) := by
    intro S α service serviceName groupID nodeName command asks result hresult
    apply passes_askService framework w₁ hresp _ _ _ _ _ _ hresult
  have hanswer : ∀ {α : Type} (failed : Json) (result : α → Option Json),
      ConvertsFailed (unlessFailed failed result) := convertsFailed_unlessFailed
  simp only [methodToFunc, List.forall_mem_cons, List.not_mem_nil, false_implies, implies_true,
    and_true]
  refine ⟨?call, ?sendTransaction, ?getTransaction, ?getTransactionReceipt, ?getBlockByHash,
    ?getBlockByNumber, ?getBlockHashByNumber,
    hnode (by decide) fun _ _ => hask _ _ _ _ _ _ fun _ _ _ => ⟨_, rfl⟩,
    ?getCode, hnode (by decide) fun _ _ => hask _ _ _ _ _ _ (hanswer _ _),
    hnode (by decide) fun _ _ => hask _ _ _ _ _ _ (hanswer _ _),
    hnode (by decide) fun _ _ => hask _ _ _ _ _ _ (hanswer _ _),
    hnode (by decide) fun _ _ => hask _ _ _ _ _ _ (hanswer _ _),
    hnode (by decide) fun _ _ => hask _ _ _ _ _ _ (hanswer _ _),
    hnode (by decide) fun _ _ => hask _ _ _ _ _ _ (hanswer _ _), ?getSystemConfigByKey,
    hnode (by decide) fun _ _ => hask _ _ _ _ _ _ (hanswer _ _), ?getPeers, ?getGroupPeers,
    passes_respond response none _, ?getGroupInfo, passes_respond response none _,
    hnode (by decide) fun _ _ => passes_respond response none _⟩
  case call =>
    rw [hid _ (by decide)]
    iterate 4
      apply passes_orThrow_bind
      intro _ _
    apply passes_call framework w₁ hresp
  case sendTransaction =>
    rw [hid _ (by decide)]
    iterate 4
      apply passes_orThrow_bind
      intro _ _
    apply passes_sendTransaction framework w₁ hresp
  case getTransaction =>
    rw [hid _ (by decide)]
    iterate 4
      apply passes_orThrow_bind
      intro _ _
    apply passes_getTransaction framework w₁ hresp
  case getTransactionReceipt =>
    rw [hid _ (by decide)]
    iterate 4
      apply passes_orThrow_bind
      intro _ _
    apply passes_getTransactionReceipt framework w₁ w₂ hresp
  case getBlockByHash =>
    rw [hid _ (by decide)]
    iterate 5
      apply passes_orThrow_bind
      intro _ _
    apply passes_getBlockByHash framework w₁ w₂ hresp
  case getBlockByNumber =>
    rw [hid _ (by decide)]
    iterate 5
      apply passes_orThrow_bind
      intro _ _
    apply hask _ _ _ _ _ _ (hanswer _ _)
  case getBlockHashByNumber =>
    have hnone : passedBy "getBlockHashByNumber" = fun _ => none := by
      funext error
      rw [passedBy, if_pos rfl]
    rw [hnone]
    iterate 3
      apply passes_orThrow_bind
      intro _ _
    apply passes_getBlockHashByNumber framework w₁ hresp
  case getCode =>
    rw [hid _ (by decide)]
    iterate 3
      apply passes_orThrow_bind
      intro _ _
    apply passes_getCode framework w₁ hresp
  case getSystemConfigByKey =>
    rw [hid _ (by decide)]
    iterate 3
      apply passes_orThrow_bind
      intro _ _
    apply hask _ _ _ _ _ _ (hanswer _ _)
  case getPeers =>
    rw [hid _ (by decide)]
    apply passes_getPeers w₁ hresp
  case getGroupPeers =>
    rw [hid _ (by decide)]
    apply passes_orThrow_bind
    intro _ _
    apply passes_getGroupPeers w₁ hresp
  case getGroupInfo =>
    rw [hid _ (by decide)]
    apply passes_orThrow_bind
    intro _ _
    apply passes_respond

theorem passes_dispatch {response : JsonResponse} (hresponse : response.error.code = 0)
    (request : JsonRequest) :
  Passes (passedBy request.method) response.respond
    (dispatch framework w₁ w₂ request response.respond)
  := by
  rw [dispatch]
  cases hlookup : (methodToFunc framework w₁ w₂).lookup request.method with
  | none => apply passes_of_nil rfl
  | some method =>
      apply passes_method framework w₁ w₂ hresponse request.params (request.method, method)
      apply mem_methodToFunc_of_lookup framework w₁ w₂ hlookup

/-- The dispatcher adds a response to an exception only. -/
theorem passes_handle {m : RpcRun Unit} (h : Passes passed respFunc m) (response : JsonResponse) :
  Passes passed respFunc (m.handle response.respondException)
  := by
  obtain ⟨outcome, trace⟩ := m
  cases outcome with
  | ok a => exact h
  | error stop =>
      cases stop with
      | crashed => exact h
      | threw e =>
          intro error rest hrest
          cases trace with
          | nil => cases hrest
          | cons event trace =>
              obtain ⟨rfl, rfl⟩ := List.cons.inj hrest
              have hpasses := h error trace rfl
              cases herror : Error.failed error with
              | true =>
                  rw [herror, if_pos rfl] at hpasses
                  cases hpasses.1
              | false =>
                  rw [if_neg Bool.false_ne_true]
                  intro hsucceeds
                  apply absurd hsucceeds (not_succeeds_append_caught _ _ e)

theorem passes_onRPCRequest {requestBody : String} {request : JsonRequest}
    (hparse : parseRpcRequestJson framework requestBody = .ok request) (uninitialized : Int) :
  Passes (passedBy request.method)
    (JsonResponse.respond { jsonrpc := request.jsonrpc, id := request.id })
    (onRPCRequest framework w₁ w₂ uninitialized requestBody)
  := by
  rw [onRPCRequest, hparse]
  apply passes_handle
  apply passes_dispatch
  rfl

/-- What is sent after the first answer of a service reports it exactly when it has no error,
or the method is not the query for the hash of a block and the code of the error is an
`int32_t`. -/
theorem reported_iff {uninitialized : Int} {requestBody : String} {request : JsonRequest}
    {error : Option Error} {rest : List RpcEvent}
    (hparse : parseRpcRequestJson framework requestBody = .ok request)
    (htrace : (onRPCRequest framework w₁ w₂ uninitialized requestBody).trace
      = .answer error :: rest) :
  Reported error rest ↔ ∀ e, error = some e → e.errorCode ≠ CommonError.SUCCESS →
    request.method ≠ "getBlockHashByNumber" ∧ toInt32 e.errorCode = e.errorCode
  := by
  have hpasses := passes_onRPCRequest framework w₁ w₂ hparse uninitialized error rest htrace
  cases herror : Error.failed error with
  | false =>
      rw [herror, if_neg Bool.false_ne_true] at hpasses
      have hnone : ∀ e, error = some e → ¬ e.errorCode ≠ CommonError.SUCCESS := by
        rintro e rfl
        simpa [Error.failed] using herror
      apply iff_of_true
      · constructor
        · intro e he hcode
          apply absurd hcode (hnone e he)
        · intro _ hsucceeds
          apply hpasses hsucceeds
      · intro e he hcode
        apply absurd hcode (hnone e he)
  | true =>
      rw [herror, if_pos rfl] at hpasses
      obtain ⟨_, result, hrest⟩ := hpasses
      obtain ⟨e, rfl, hcode⟩ := Error.failed_eq_true_iff.mp herror
      have hreported : Reported (some e) rest
          ↔ ∃ response, responses rest = [response] ∧ CarriesError e response := by
        constructor
        · intro h
          apply h.failed e rfl hcode
        · intro h
          constructor
          · rintro _ ⟨rfl⟩ _
            apply h
          · intro hfalse
            rw [herror] at hfalse
            cases hfalse
      rw [hreported, hrest]
      by_cases hmethod : request.method = "getBlockHashByNumber"
      · have hpassed : passedBy request.method (some e) = none := by
          rw [passedBy, if_pos hmethod]
        rw [hpassed]
        apply iff_of_false
        · rintro ⟨_, hresponse, hcarries⟩
          obtain rfl := List.singleton_inj.mp hresponse
          apply not_carriesError_toJsonResponse rfl e hcarries
        · intro h
          apply (h e rfl hcode).1 hmethod
      · have hpassed : passedBy request.method (some e) = some e := by
          rw [passedBy, if_neg hmethod]
        have hresponses : ∀ response : JsonResponse,
            responses (response.respond (some e) result).trace
              = [toJsonResponse
                  { response with error := ⟨toInt32 e.errorCode, e.errorMessage⟩ }] := by
          intro response
          simp only [JsonResponse.respond, if_pos hcode]
          rfl
        rw [hpassed, hresponses]
        constructor
        · rintro ⟨_, hresponse, hcarries⟩ _ ⟨rfl⟩ _
          obtain rfl := List.singleton_inj.mp hresponse
          exact ⟨hmethod, (carriesError_toJsonResponse_iff _ hcode).mp hcarries⟩
        · intro h
          refine ⟨_, rfl, ?_⟩
          rw [carriesError_toJsonResponse_iff _ hcode]
          apply (h e rfl hcode).2

/-! ### A failing ledger -/

/-- The request for the hash of a block. -/
def hashBody : String :=
  "\x7b\"jsonrpc\":\"2.0\",\"method\":\"getBlockHashByNumber\",\"id\":1,\"params\":[\"g\",\"n\",5]\x7d"

/-- The request for the number of the latest block. -/
def numberBody : String :=
  "\x7b\"jsonrpc\":\"2.0\",\"method\":\"getBlockNumber\",\"id\":1,\"params\":[\"g\",\"n\"]\x7d"

def queryFramework : Framework where
  parse body :=
    if body = hashBody then
      .ok <| some <| .object [("id", .integer 1), ("jsonrpc", .string "2.0"),
        ("method", .string "getBlockHashByNumber"),
        ("params", .array [.string "g", .string "n", .integer 5])]
    else if body = numberBody then
      .ok <| some <| .object [("id", .integer 1), ("jsonrpc", .string "2.0"),
        ("method", .string "getBlockNumber"), ("params", .array [.string "g", .string "n"])]
    else .ok none
  decodeData _ := .ok []
  hashType _ := .ok HashType.zero
  transactionStatus _ := "None"
  logKV key value := "," ++ key ++ "=" ++ value

def ledgerError : Error where
  errorCode := 3001
  errorMessage := "get storage failed"

/-- A ledger that answers every query with an error. -/
def failingLedger : LedgerInterface where
  asyncGetBatchTxsByHashList _ _ := .later (some ledgerError, none, none)
  asyncGetTransactionReceiptByHash _ _ := .later (some ledgerError, none, none)
  asyncGetBlockNumberByHash _ := .later (some ledgerError, 0)
  asyncGetBlockDataByNumber _ _ := .later (some ledgerError, none)
  asyncGetBlockHashByNumber _ := .later (some ledgerError, HashType.zero)
  asyncGetBlockNumber := .later (some ledgerError, 0)
  asyncGetNodeListByType _ := .later (some ledgerError, none)
  asyncGetSystemConfigByKey _ := .later (some ledgerError, "", 0)
  asyncGetTotalTransactionCount := .later (some ledgerError, 0, 0, 0)

def failingWorld : World where
  getNodeService _ _ := some { ledger := some failingLedger }
  asyncGetPeers := .later (none, none, none)

theorem reported_iff_blockNumber :
  Reported (some ledgerError)
      (onRPCRequest queryFramework failingWorld failingWorld 0 numberBody).trace.tail
    ↔ ∀ e, some ledgerError = some e → e.errorCode ≠ CommonError.SUCCESS →
      "getBlockNumber" ≠ "getBlockHashByNumber" ∧ toInt32 e.errorCode = e.errorCode
  := by
  have hparse : parseRpcRequestJson queryFramework numberBody
      = .ok
        { jsonrpc := "2.0", method := "getBlockNumber", id := 1,
          params := .array [.string "g", .string "n"] } := rfl
  apply reported_iff queryFramework failingWorld failingWorld hparse
  rfl

theorem reported_counterexample :
  ¬ ∀ (framework : Framework) (w₁ w₂ : World) (uninitialized : Int) (requestBody : String)
      (error : Option Error) (rest : List RpcEvent),
    (onRPCRequest framework w₁ w₂ uninitialized requestBody).trace = .answer error :: rest →
    Reported error rest
  := by
  intro h
  have hreported := h queryFramework failingWorld failingWorld 0 hashBody (some ledgerError) _ rfl
  obtain ⟨response, hresponse, hcarries⟩ := hreported.failed ledgerError rfl (by decide)
  obtain rfl := List.singleton_inj.mp hresponse
  apply not_carriesError_toJsonResponse rfl ledgerError hcarries

end JsonRpcImpl_2_0
