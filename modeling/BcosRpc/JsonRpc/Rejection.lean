import BcosRpc.JsonRpc.Identity

/-!
# The rejection of request bodies

A body that is not accepted leaves `parseRpcRequestJson` by one of two exits: what is thrown in
the `try` block is answered with `ParseError`, and a `break` with `InvalidRequest`. Which of them
a body takes does not depend on whether it is JSON: the reader refuses a text without throwing,
and an accessor throws on a value of a wrong type. `classified_iff` says for which bodies the
error code is nevertheless the right one.
-/

namespace JsonRequest

/-- A value on which an accessor throws while the members of a request are read: it cannot have
members, or a member that is reached does not convert. -/
inductive Throws (root : Json) : Prop where
  | memberless (hnull : root ≠ .null) (hobject : ∀ ms, root ≠ .object ms)
  | jsonrpc {jv : Json} (hv : root.find "jsonrpc" = some jv) (hfails : jv.asString.Fails)
  | method {jv jm : Json} {jsonrpc : String} (hv : root.find "jsonrpc" = some jv)
      (hjsonrpc : jv.asString = .ok jsonrpc) (hm : root.find "method" = some jm)
      (hfails : jm.asString.Fails)
  | id {jv jm ji : Json} {jsonrpc method : String} (hv : root.find "jsonrpc" = some jv)
      (hjsonrpc : jv.asString = .ok jsonrpc) (hm : root.find "method" = some jm)
      (hmethod : jm.asString = .ok method) (hi : root.find "id" = some ji)
      (hfails : ji.asInt64.Fails)

/-- The members of an object are read in their order. -/
theorem read_object (ms : List (String × Json)) :
  JsonRequest.read (.object ms) = (ms.lookup "jsonrpc").elim (.ok none) fun jv =>
    jv.asString >>= fun jsonrpc => (ms.lookup "method").elim (.ok none) fun jm =>
    jm.asString >>= fun method => (ms.lookup "id").elim (.ok 0) Json.asInt64 >>= fun id =>
    (ms.lookup "params").elim (.ok none) fun params =>
      .ok (if params.isArray then some { jsonrpc, method, id, params } else none)
  := by
  rw [read, Json.requireMember_object]
  congr 1
  funext jv
  congr 1
  funext jsonrpc
  rw [Json.requireMember_object]
  congr 1
  funext jm
  congr 1
  funext method
  rw [Json.optionalMember_object]
  congr 1
  funext id
  beta_reduce
  rw [Json.requireMember_object]
  congr 1
  funext params
  cases params.isArray <;> rfl

theorem read_fails_iff (root : Json) :
  (JsonRequest.read root).Fails ↔ Throws root
  := by
  cases root with
  | object ms =>
      simp only [read_object, Except.fails_bind_iff, Except.fails_elim_iff, Except.not_fails_ok,
        and_false, exists_false, or_false]
      constructor
      · rintro ⟨jv, hv, hfails | ⟨jsonrpc, hjsonrpc, jm, hm, hfails | ⟨method, hmethod, ji, hi,
          hfails⟩⟩⟩
        · exact .jsonrpc hv hfails
        · exact .method hv hjsonrpc hm hfails
        · exact .id hv hjsonrpc hm hmethod hi hfails
      · intro h
        cases h with
        | memberless _ hobject => exact absurd rfl (hobject ms)
        | jsonrpc hv hfails => exact ⟨_, hv, Or.inl hfails⟩
        | method hv hjsonrpc hm hfails =>
            exact ⟨_, hv, Or.inr ⟨_, hjsonrpc, _, hm, Or.inl hfails⟩⟩
        | id hv hjsonrpc hm hmethod hi hfails =>
            exact ⟨_, hv, Or.inr ⟨_, hjsonrpc, _, hm, Or.inr ⟨_, hmethod, _, hi, hfails⟩⟩⟩
  | null =>
      constructor
      · intro h
        cases h with
        | intro e he => cases he
      · intro h
        cases h with
        | memberless hnull _ => exact absurd rfl hnull
        | jsonrpc hv _ => cases hv
        | method hv _ _ _ => cases hv
        | id hv _ _ _ _ _ => cases hv
  | _ =>
      constructor
      · intro _
        apply Throws.memberless (by simp) (by simp)
      · intro _
        exact ⟨_, rfl⟩

end JsonRequest

/-! ### The two exits -/

namespace JsonRpcImpl_2_0

/-- A body is not JSON: the reader gives no value. -/
def NotJson (framework : Framework) (requestBody : String) : Prop :=
  ∀ root, framework.parse requestBody ≠ .ok (some root)

/-- A body is refused with an error code. -/
def RejectedWith (framework : Framework) (requestBody : String) (code : Int) : Prop :=
  ∃ msg, parseRpcRequestJson framework requestBody = .error (.jsonRpc code msg)

/-- The classification of a body: what is a request is accepted, what is not JSON is a parse
error, and JSON that is not a request is an invalid request. -/
structure Classified (framework : Framework) (requestBody : String) : Prop where
  accepted : (∃ request, parseRpcRequestJson framework requestBody = .ok request)
    ↔ IsRequestBody framework requestBody
  parseError : RejectedWith framework requestBody JsonRpcError.ParseError
    ↔ NotJson framework requestBody
  invalidRequest : RejectedWith framework requestBody JsonRpcError.InvalidRequest
    ↔ ¬ NotJson framework requestBody ∧ ¬ IsRequestBody framework requestBody

/-- The exit a body takes is the one of its class: the reader throws, or it gives a value on
which no accessor throws. -/
def ExitsRightly (framework : Framework) (requestBody : String) : Prop :=
  (framework.parse requestBody).Fails
    ∨ ∃ root, framework.parse requestBody = .ok (some root) ∧ ¬ JsonRequest.Throws root

/-- What the `try` block reads. -/
def readBody (framework : Framework) (requestBody : String) :
    Except String (Option JsonRequest) :=
  framework.parse requestBody >>= fun root => root.elim (.ok none) JsonRequest.read

variable {framework : Framework} {requestBody : String}

theorem parseRpcRequestJson_eq (framework : Framework) (requestBody : String) :
  parseRpcRequestJson framework requestBody
    = match readBody framework requestBody with
      | .error _ =>
          .error (.jsonRpc JsonRpcError.ParseError "Invalid JSON was received by the server.")
      | .ok none =>
          .error (.jsonRpc JsonRpcError.InvalidRequest
            "The JSON sent is not a valid Request object.")
      | .ok (some request) => .ok request
  := by
  rw [parseRpcRequestJson, readBody]
  cases framework.parse requestBody with
  | error e => rfl
  | ok root => cases root <;> rfl

/-- What is thrown leaves by the exit of parse errors. -/
theorem rejectedWith_parseError_iff :
  RejectedWith framework requestBody JsonRpcError.ParseError
    ↔ (readBody framework requestBody).Fails
  := by
  rw [RejectedWith, parseRpcRequestJson_eq]
  cases readBody framework requestBody with
  | error e => simp [Except.Fails]
  | ok request? => cases request? <;> simp [Except.Fails, JsonRpcError.InvalidRequest,
      JsonRpcError.ParseError]

/-- A `break` leaves by the exit of invalid requests. -/
theorem rejectedWith_invalidRequest_iff :
  RejectedWith framework requestBody JsonRpcError.InvalidRequest
    ↔ readBody framework requestBody = .ok none
  := by
  rw [RejectedWith, parseRpcRequestJson_eq]
  cases readBody framework requestBody with
  | error e => simp [JsonRpcError.InvalidRequest, JsonRpcError.ParseError]
  | ok request? => cases request? <;> simp

theorem readBody_fails_iff :
  (readBody framework requestBody).Fails
    ↔ (framework.parse requestBody).Fails
      ∨ ∃ root, framework.parse requestBody = .ok (some root) ∧ JsonRequest.Throws root
  := by
  simp only [readBody, Except.fails_bind_iff, Except.fails_elim_iff, JsonRequest.read_fails_iff]
  constructor
  · rintro (hfails | ⟨_, hparse, root, rfl, hthrows⟩)
    · apply Or.inl hfails
    · apply Or.inr ⟨root, hparse, hthrows⟩
  · rintro (hfails | ⟨root, hparse, hthrows⟩)
    · apply Or.inl hfails
    · apply Or.inr ⟨some root, hparse, root, rfl, hthrows⟩

/-- What is read completely is accepted. -/
theorem isRequestBody_iff_readBody :
  IsRequestBody framework requestBody
    ↔ ∃ request, readBody framework requestBody = .ok (some request)
  := by
  rw [isRequestBody_iff, parseRpcRequestJson_eq]
  cases readBody framework requestBody with
  | error e => simp
  | ok request? => cases request? <;> simp

/-- A body is not JSON when the reader throws or refuses it. -/
theorem notJson_iff :
  NotJson framework requestBody
    ↔ (framework.parse requestBody).Fails ∨ framework.parse requestBody = .ok none
  := by
  rw [NotJson]
  cases framework.parse requestBody with
  | error e => simp [Except.Fails]
  | ok root => cases root <;> simp [Except.Fails]

/-- A body is classified correctly exactly when it leaves by the exit of its class: the reader
does not refuse it, and no accessor throws on what is read. -/
theorem classified_iff (framework : Framework) (requestBody : String) :
  Classified framework requestBody ↔ ExitsRightly framework requestBody
  := by
  constructor
  · intro h
    cases hparse : framework.parse requestBody with
    | error e => exact Or.inl ⟨e, hparse⟩
    | ok root? =>
        cases root? with
        | none =>
            have hrejected := h.parseError.mpr (notJson_iff.mpr (Or.inr hparse))
            rw [rejectedWith_parseError_iff, readBody, hparse] at hrejected
            apply absurd hrejected (Except.not_fails_ok _)
        | some root =>
            right
            use root, hparse
            intro hthrows
            have hrejected := h.parseError.mp (rejectedWith_parseError_iff.mpr
              (readBody_fails_iff.mpr (Or.inr ⟨root, hparse, hthrows⟩)))
            apply hrejected root hparse
  · intro hright
    constructor
    · apply (isRequestBody_iff framework requestBody).symm
    · rw [rejectedWith_parseError_iff, readBody_fails_iff, notJson_iff]
      rcases hright with hfails | ⟨root, hparse, hthrows⟩
      · simp [hfails]
      · simp [hparse, hthrows, Except.Fails]
    · rw [rejectedWith_invalidRequest_iff, isRequestBody_iff_readBody]
      rcases hright with hfails | ⟨root, hparse, hthrows⟩
      · obtain ⟨e, he⟩ := readBody_fails_iff.mpr (Or.inl hfails)
        have hnot : NotJson framework requestBody := notJson_iff.mpr (Or.inl hfails)
        simp [he, hnot]
      · have hjson : ¬ NotJson framework requestBody := fun hnot => hnot root hparse
        have hread : ¬ (readBody framework requestBody).Fails := by
          rw [readBody_fails_iff]
          simp [hparse, hthrows, Except.Fails]
        cases hbody : readBody framework requestBody with
        | error e => exact absurd ⟨e, hbody⟩ hread
        | ok request? => cases request? <;> simp [hjson]

/-- A body that is JSON but not an object. -/
def arrayBody : String := "[]"

/-- A body that the reader refuses. -/
def refusedBody : String := "no json"

def arrayFramework : Framework :=
  { queryFramework with
    parse := fun body => if body = arrayBody then .ok (some (.array [])) else .ok none }

/-- The array is answered with a parse error, and the text that is not JSON with an invalid
request. -/
theorem classified_counterexample :
  ¬ Classified arrayFramework arrayBody ∧ ¬ Classified arrayFramework refusedBody
  := by
  constructor
  · intro h
    have hparse : arrayFramework.parse arrayBody = .ok (some (.array [])) := rfl
    have hthrows : JsonRequest.Throws (.array []) := .memberless (by simp) (by simp)
    have hrejected := h.parseError.mp (rejectedWith_parseError_iff.mpr
      (readBody_fails_iff.mpr (Or.inr ⟨_, hparse, hthrows⟩)))
    apply hrejected _ hparse
  · intro h
    have hne : refusedBody ≠ arrayBody := by decide
    have hparse : arrayFramework.parse refusedBody = .ok none := by simp [arrayFramework, hne]
    have hread : readBody arrayFramework refusedBody = .ok none := by
      rw [readBody, hparse]
      rfl
    have hrejected := h.invalidRequest.mp (rejectedWith_invalidRequest_iff.mpr hread)
    apply hrejected.1 (notJson_iff.mpr (Or.inr hparse))

end JsonRpcImpl_2_0
