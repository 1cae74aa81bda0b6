import BcosRpc.Common.Decoding
import BcosRpc.JsonRpc.Protocol

/-!
# Responses as texts

The text of a response and its decoding into an object. The decoder assigns to the object as it
goes. What is decoded from the text of a response is that response, without the part that its
error code leaves out.
-/

theorem IsInt32.toInt32_eq {i : Int} (h : IsInt32 i) :
  toInt32 i = i
  := by
  simp only [IsInt32, minInt32, maxInt32] at h
  apply Int.bmod_eq_of_le_mul_two <;> omega

/-- The text of a response. -/
def toStringResponse (write : Json → String) (response : JsonResponse) : String :=
  write (toJsonResponse response)

/-! ### Reading members -/

namespace Json
variable {σ β : Type}

/-- A decoder that goes on with a member, if there is one. -/
theorem into_requireMember_eq_ok_iff {root : Json} {key : String} {absent : Decoding σ β}
    {f : Json → Decoding σ β} {b : β} {s s' : σ} (habsent : ∀ s, absent.into s ≠ (.ok b, s')) :
  Decoding.into (do
      let isMember ← liftM (root.isMember key)
      if (!isMember) = true then absent else liftM (root.member key) >>= f) s = (.ok b, s')
    ↔ ∃ j, root.find key = some j ∧ (f j).into s = (.ok b, s')
  := by
  rw [Decoding.into_liftM_bind_eq_ok_iff]
  cases root with
  | object ms =>
      simp only [isMember, member, find]
      cases ms.lookup key <;> simp [habsent, Decoding.into_liftM_bind_eq_ok_iff]
  | _ => simp [isMember, find, habsent]

/-- A decoder that does something with a member, if there is one. -/
theorem optionalMember_eq {root : Json} {key key' : String} {j : Json}
    (h : root.find key' = some j) (absent : Decoding σ β) (f : Json → Decoding σ β) :
  (do
      let isMember ← liftM (root.isMember key)
      if isMember = true then liftM (root.member key) >>= f else absent)
    = (root.find key).elim absent f
  := by
  cases root with
  | object ms =>
      simp only [isMember, member, find]
      cases ms.lookup key <;> rfl
  | _ => cases h

end Json

namespace JsonResponse

/-! ### Decoding -/

/-- Decode the member `error`. -/
def readError (jError : Json) : Decoding JsonResponse PUnit := do
  let code ← (← jError.member "code").asInt64
  modify fun self => { self with error.code := toInt32 code }
  let message ← (← jError.member "message").asString
  modify fun self => { self with error.message := message }

/-- Decode a response; `false` when a member is missing. -/
def read (root : Json) : Decoding JsonResponse Bool := do
  if !(← root.isMember "jsonrpc") then return false
  let jsonrpc ← (← root.member "jsonrpc").asString
  modify fun self => { self with jsonrpc := jsonrpc }
  if !(← root.isMember "id") then return false
  let id ← (← root.member "id").asInt64
  modify fun self => { self with id := id }
  if ← root.isMember "error" then
    readError (← root.member "error")
  if ← root.isMember "result" then
    let result ← root.member "result"
    modify fun self => { self with result := result }
  return true

end JsonResponse

/-- Decode a response body into an object. What the JSON library throws on the way is a parse
error. -/
def parseRpcResponseJson (framework : Framework) (self : JsonResponse) (responseBody : String) :
    JsonResponse × Except RpcException Unit :=
  let parseError : RpcException :=
    .jsonRpc JsonRpcError.ParseError "Invalid JSON was received by the server."
  let invalidRequest : RpcException :=
    .jsonRpc JsonRpcError.InvalidRequest "The JSON sent is not a valid Response object."
  match framework.parse responseBody with
  | .error _ => (self, .error parseError)
  | .ok none => (self, .error invalidRequest)
  | .ok (some root) =>
      match (JsonResponse.read root).into self with
      | (.error _, self) => (self, .error parseError)
      | (.ok false, self) => (self, .error invalidRequest)
      | (.ok true, self) => (self, .ok ())

/-! ### What is decoded -/

namespace JsonResponse

/-- An error has the members of a value. -/
structure Error.ReadFrom (jError : Json) (e : JsonResponse.Error) : Prop where
  code : ∃ j i, jError.member "code" = .ok j ∧ j.asInt64 = .ok i ∧ e.code = toInt32 i
  message : ∃ j, jError.member "message" = .ok j ∧ j.asString = .ok e.message

theorem readError_eq_ok_iff (jError : Json) (s s' : JsonResponse) :
  (readError jError).into s = (.ok ⟨⟩, s')
    ↔ ∃ e, Error.ReadFrom jError e ∧ s' = { s with error := e }
  := by
  simp only [readError, Decoding.into_liftM_bind_eq_ok_iff, Decoding.into_modify_bind]
  constructor
  · rintro ⟨j, hj, i, hi, j', hj', message, hmessage, h⟩
    use ⟨toInt32 i, message⟩, ⟨⟨j, i, hj, hi, rfl⟩, j', hj', hmessage⟩
    cases h
    rfl
  · rintro ⟨⟨code, message⟩, ⟨⟨j, i, hj, hi, rfl⟩, j', hj', hmessage⟩, rfl⟩
    exact ⟨j, hj, i, hi, j', hj', message, hmessage, rfl⟩

/-- A response decoded from a value into another response. -/
structure ReadFrom (root : Json) (s s' : JsonResponse) : Prop where
  jsonrpc : ∃ j, root.find "jsonrpc" = some j ∧ j.asString = .ok s'.jsonrpc
  id : ∃ j, root.find "id" = some j ∧ j.asInt64 = .ok s'.id
  error : (root.find "error").elim (s'.error = s.error) fun j => Error.ReadFrom j s'.error
  result : s'.result = (root.find "result").getD s.result

/-- The decoding of the optional members. -/
theorem into_optionalMembers_eq_ok_iff (root : Json) (s s' : JsonResponse) :
  ((root.find "error").elim
      ((root.find "result").elim (pure true) fun result => do
        modify fun self => { self with result := result }
        pure true)
      (fun jError => do
        readError jError
        (root.find "result").elim (pure true) fun result => do
          modify fun self => { self with result := result }
          pure true) : Decoding JsonResponse Bool).into s = (.ok true, s')
    ↔ ∃ e, ((root.find "error").elim (e = s.error) fun j => Error.ReadFrom j e)
      ∧ s' = { s with error := e, result := (root.find "result").getD s.result }
  := by
  have hresult : ∀ r : JsonResponse,
      ((root.find "result").elim (pure true) fun result => do
        modify fun self => { self with result := result }
        pure true : Decoding JsonResponse Bool).into r
      = (.ok true, { r with result := (root.find "result").getD r.result }) := by
    intro r
    cases root.find "result" <;> rfl
  cases root.find "error" with
  | none =>
      rw [Option.elim_none, hresult]
      simp [eq_comm]
  | some jError =>
      simp only [Option.elim_some, Decoding.into_bind_eq_ok_iff]
      constructor
      · rintro ⟨_, s₁, hread, h⟩
        obtain ⟨e, he, rfl⟩ := (readError_eq_ok_iff jError _ _).mp hread
        rw [hresult] at h
        cases h
        exact ⟨e, he, rfl⟩
      · rintro ⟨e, he, rfl⟩
        refine ⟨_, _, (readError_eq_ok_iff jError _ _).mpr ⟨e, he, rfl⟩, ?_⟩
        rw [hresult]

theorem read_eq_ok_iff (root : Json) (s s' : JsonResponse) :
  (read root).into s = (.ok true, s') ↔ ReadFrom root s s'
  := by
  have habsent : ∀ s, (pure false : Decoding JsonResponse Bool).into s ≠ (.ok true, s') := by
    intro s h
    cases h
  simp only [read, Json.into_requireMember_eq_ok_iff habsent,
    Decoding.into_liftM_bind_eq_ok_iff, Decoding.into_modify_bind]
  constructor
  · rintro ⟨jv, hv, jsonrpc, hjsonrpc, ji, hi, id, hid, h⟩
    rw [← Decoding.into_liftM_bind_eq_ok_iff, Json.optionalMember_eq hv,
      Json.optionalMember_eq hv] at h
    obtain ⟨e, he, rfl⟩ := (into_optionalMembers_eq_ok_iff root _ s').mp h
    exact ⟨⟨jv, hv, hjsonrpc⟩, ⟨ji, hi, hid⟩, he, rfl⟩
  · rintro ⟨⟨jv, hv, hjsonrpc⟩, ⟨ji, hi, hid⟩, herror, hresult⟩
    refine ⟨jv, hv, _, hjsonrpc, ji, hi, _, hid, ?_⟩
    rw [← Decoding.into_liftM_bind_eq_ok_iff, Json.optionalMember_eq hv,
      Json.optionalMember_eq hv]
    apply (into_optionalMembers_eq_ok_iff root _ s').mpr
    use s'.error, herror
    rw [← hresult]

theorem keeps_readError (jsonrpc : String) (jError : Json) :
  Decoding.Keeps (fun r => r.jsonrpc = jsonrpc) (readError jError)
  := by
  apply Decoding.keeps_liftM_bind
  intro jCode
  apply Decoding.keeps_liftM_bind
  intro code
  apply Decoding.keeps_modify_bind
  · exact fun _ h => h
  apply Decoding.keeps_liftM_bind
  intro jMessage
  apply Decoding.keeps_liftM_bind
  intro message
  apply Decoding.keeps_modify
  exact fun _ h => h

/-- When the version is read, it is assigned, whatever becomes of the rest. -/
theorem jsonrpc_read {root j : Json} {jsonrpc : String} (hj : root.find "jsonrpc" = some j)
    (hjsonrpc : j.asString = .ok jsonrpc) (s : JsonResponse) :
  ((read root).into s).2.jsonrpc = jsonrpc
  := by
  cases root with
  | object ms =>
      have hmember : (Json.object ms).isMember "jsonrpc" = .ok true
          ∧ (Json.object ms).member "jsonrpc" = .ok j := by
        simp only [Json.isMember, Json.member, show ms.lookup "jsonrpc" = some j from hj]
        exact ⟨rfl, rfl⟩
      rw [read, hmember.1, hmember.2, Decoding.liftM_ok_bind, if_neg (by decide),
        Decoding.liftM_ok_bind, hjsonrpc, Decoding.liftM_ok_bind, Decoding.into_modify_bind]
      suffices h : Decoding.Keeps (fun r : JsonResponse => r.jsonrpc = jsonrpc) _ from h _ rfl
      -- The rest assigns to other fields only.
      apply Decoding.keeps_liftM_bind
      intro isMember
      refine Decoding.keeps_ite (Decoding.keeps_pure _) ?_
      apply Decoding.keeps_liftM_bind
      intro jId
      apply Decoding.keeps_liftM_bind
      intro id
      apply Decoding.keeps_modify_bind
      · exact fun _ h => h
      apply Decoding.keeps_liftM_bind
      intro isMember
      have hresult : Decoding.Keeps (fun r : JsonResponse => r.jsonrpc = jsonrpc) (do
          if ← (Json.object ms).isMember "result" then
            let result ← (Json.object ms).member "result"
            modify fun self => { self with result := result }
          return true : Decoding JsonResponse Bool) := by
        apply Decoding.keeps_liftM_bind
        intro isMember
        refine Decoding.keeps_ite ?_ (Decoding.keeps_pure _)
        apply Decoding.keeps_liftM_bind
        intro result
        apply Decoding.keeps_modify_bind
        · exact fun _ h => h
        apply Decoding.keeps_pure
      refine Decoding.keeps_ite ?_ hresult
      apply Decoding.keeps_liftM_bind
      intro jError
      apply Decoding.keeps_bind
      · apply keeps_readError
      · intro _
        apply hresult
  | _ => cases hj

/-- When the version is not read, nothing is assigned. -/
theorem read_unchanged {root : Json}
    (h : ¬ ∃ j jsonrpc, root.find "jsonrpc" = some j ∧ j.asString = .ok jsonrpc)
    (s : JsonResponse) :
  ((read root).into s).2 = s
  := by
  cases root with
  | object ms =>
      have hmember : (Json.object ms).isMember "jsonrpc" = .ok (ms.lookup "jsonrpc").isSome
          ∧ (Json.object ms).member "jsonrpc" = .ok ((ms.lookup "jsonrpc").getD .null) := ⟨rfl, rfl⟩
      rw [read, hmember.1, hmember.2, Decoding.liftM_ok_bind]
      cases hj : ms.lookup "jsonrpc" with
      | none => rfl
      | some j =>
          rw [if_neg (by simp), Decoding.liftM_ok_bind, Option.getD_some]
          cases hjsonrpc : j.asString with
          | error e => rfl
          | ok jsonrpc => exact absurd ⟨j, jsonrpc, hj, hjsonrpc⟩ h
  | _ => rfl

end JsonResponse

theorem parseRpcResponseJson_eq_ok_iff (framework : Framework) (self s' : JsonResponse)
    (responseBody : String) :
  parseRpcResponseJson framework self responseBody = (s', .ok ())
    ↔ ∃ root, framework.parse responseBody = .ok (some root)
      ∧ JsonResponse.ReadFrom root self s'
  := by
  rw [parseRpcResponseJson]
  cases framework.parse responseBody with
  | error e => simp
  | ok root? =>
      cases root? with
      | none => simp
      | some root =>
          simp only [Except.ok.injEq, Option.some.injEq, exists_eq_left',
            ← JsonResponse.read_eq_ok_iff]
          obtain ⟨outcome, s₁⟩ := (JsonResponse.read root).into self
          cases outcome with
          | error e => simp
          | ok complete => cases complete <;> simp

/-! ### Round trip -/

/-- What is left of a response in its text: the result of a successful one, the error of a
failed one. -/
def JsonResponse.written (response : JsonResponse) : JsonResponse :=
  if response.error.code = 0 then
    { jsonrpc := response.jsonrpc, id := response.id, result := response.result }
  else { jsonrpc := response.jsonrpc, id := response.id, error := response.error }

theorem readFrom_toJsonResponse {response : JsonResponse} (hid : IsInt64 response.id)
    (hcode : IsInt32 response.error.code) (uninitialized : Int) :
  JsonResponse.ReadFrom (toJsonResponse response) { id := uninitialized } response.written
  := by
  rw [toJsonResponse, JsonResponse.written]
  by_cases h : response.error.code = 0
  · rw [if_pos h, if_pos h]
    constructor
    · exact ⟨.string response.jsonrpc, by simp, rfl⟩
    · exact ⟨.integer response.id, by simp, Json.asInt64_integer hid⟩
    · simp
    · simp
  · rw [if_neg h, if_neg h]
    constructor
    · exact ⟨.string response.jsonrpc, by simp, rfl⟩
    · exact ⟨.integer response.id, by simp, Json.asInt64_integer hid⟩
    · rw [Json.find_set, if_pos rfl, Option.elim_some]
      constructor
      · refine ⟨.integer response.error.code, response.error.code, ?_,
          Json.asInt64_integer hcode.isInt64, hcode.toInt32_eq.symm⟩
        simp
      · refine ⟨.string response.error.message, ?_, rfl⟩
        simp
    · simp

/-- A response survives in its text up to the part its error code leaves out. Its text has
either a result or an error. -/
theorem parseRpcResponseJson_toStringResponse {framework : Framework} {write : Json → String}
    {response : JsonResponse} (hid : IsInt64 response.id) (hcode : IsInt32 response.error.code)
    (hread : framework.parse (write (toJsonResponse response))
      = .ok (some (toJsonResponse response))) (uninitialized : Int) :
  parseRpcResponseJson framework { id := uninitialized } (toStringResponse write response)
      = (response.written, .ok ())
    ∧ (((toJsonResponse response).find "result").isSome
        ↔ ¬ ((toJsonResponse response).find "error").isSome)
  := by
  constructor
  · apply (parseRpcResponseJson_eq_ok_iff _ _ _ _).mpr
    exact ⟨_, hread, readFrom_toJsonResponse hid hcode uninitialized⟩
  · rw [toJsonResponse]
    split <;> simp

/-- The response to a request for an unknown method. -/
def unknownMethodResponse : JsonResponse where
  jsonrpc := "2.0"
  id := 7
  error := ⟨JsonRpcError.MethodNotFound, "The method does not exist/is not available."⟩

def unknownMethodText : String :=
  "\x7b\"error\":\x7b\"code\":-32601,\"message\":\"The method does not exist/is not available.\"\x7d,"
    ++ "\"id\":7,\"jsonrpc\":\"2.0\"\x7d\n"

def unknownMethodFramework : Framework where
  parse text :=
    if text = unknownMethodText then .ok (some (toJsonResponse unknownMethodResponse))
    else .ok none
  decodeData _ := .ok []
  hashType _ := .ok HashType.zero
  transactionStatus _ := "None"
  logKV key value := "," ++ key ++ "=" ++ value

theorem parseRpcResponseJson_unknownMethod :
  parseRpcResponseJson unknownMethodFramework { id := 0 }
      (toStringResponse (fun _ => unknownMethodText) unknownMethodResponse)
      = (unknownMethodResponse.written, .ok ())
    ∧ (((toJsonResponse unknownMethodResponse).find "result").isSome
        ↔ ¬ ((toJsonResponse unknownMethodResponse).find "error").isSome)
  := parseRpcResponseJson_toStringResponse (by decide) (by decide) rfl 0
