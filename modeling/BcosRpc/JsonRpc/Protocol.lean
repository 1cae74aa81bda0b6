import BcosRpc.JsonRpc.Backend
import Mathlib.Algebra.Group.Nat.Defs

/-!
# Requests and responses

The decoding of a request body, and the response that is sent for it.
-/

structure JsonRequest where
  jsonrpc : String := ""
  method : String := ""
  id : Int := 0
  params : Json := .null

structure JsonResponse.Error where
  code : Int := 0
  message : String := "success"
  deriving DecidableEq, Repr

structure JsonResponse where
  jsonrpc : String := ""
  id : Int
  error : JsonResponse.Error := {}
  result : Json := .null

/-- Conversion to `int32_t`. -/
def toInt32 (n : Int) : Int := n.bmod (2 ^ 32)

/-! ### Decoding -/

/-- The members of a request; `none` when one is missing. -/
def JsonRequest.read (root : Json) : Except String (Option JsonRequest) := do
  if !(← root.isMember "jsonrpc") then return none
  let jsonrpc ← (← root.member "jsonrpc").asString
  if !(← root.isMember "method") then return none
  let method ← (← root.member "method").asString
  let id ← if ← root.isMember "id" then (← root.member "id").asInt64 else pure 0
  if !(← root.isMember "params") then return none
  let params ← root.member "params"
  if !params.isArray then return none
  return some { jsonrpc, method, id, params }

/-- A value has the members of a request. -/
structure JsonRequest.ReadFrom (root : Json) (request : JsonRequest) : Prop where
  jsonrpc : ∃ j, root.find "jsonrpc" = some j ∧ j.asString = .ok request.jsonrpc
  method : ∃ j, root.find "method" = some j ∧ j.asString = .ok request.method
  id : (root.find "id").elim (.ok 0) Json.asInt64 = .ok request.id
  params : root.find "params" = some request.params
  isArray : request.params.isArray = true

theorem JsonRequest.read_eq_some_iff (root : Json) (request : JsonRequest) :
  JsonRequest.read root = .ok (some request) ↔ JsonRequest.ReadFrom root request
  := by
  have habsent : (pure none : Except String (Option JsonRequest)) ≠ .ok (some request) := nofun
  simp only [read, Json.requireMember_eq_ok_iff habsent, Except.bind_eq_ok_iff]
  constructor
  · rintro ⟨jv, hv, jsonrpc, hjsonrpc, jm, hm, method, hmethod, h⟩
    rw [← Except.bind_eq_ok_iff, Json.optionalMember_bind hv, Except.bind_eq_ok_iff] at h
    obtain ⟨id, hid, h⟩ := h
    obtain ⟨params, hparams, h⟩ := (Json.requireMember_eq_ok_iff habsent).mp h
    split at h
    · cases h
    · rename_i harray
      cases h
      rw [Bool.not_eq_true, Bool.not_eq_false'] at harray
      exact ⟨⟨jv, hv, hjsonrpc⟩, ⟨jm, hm, hmethod⟩, hid, hparams, harray⟩
  · rintro ⟨⟨jv, hv, hjsonrpc⟩, ⟨jm, hm, hmethod⟩, hid, hparams, harray⟩
    refine ⟨jv, hv, _, hjsonrpc, jm, hm, _, hmethod, ?_⟩
    rw [← Except.bind_eq_ok_iff, Json.optionalMember_bind hv]
    apply Except.bind_eq_ok_iff.mpr ⟨_, hid, ?_⟩
    apply (Json.requireMember_eq_ok_iff habsent).mpr ⟨_, hparams, ?_⟩
    rw [if_neg (by simp [harray])]
    rfl

/-- Decode a request body. What the JSON library throws on the way is a parse error. -/
def parseRpcRequestJson (framework : Framework) (requestBody : String) :
    Except RpcException JsonRequest :=
  let read : Except String (Option JsonRequest) := do
    match ← framework.parse requestBody with
    | none => return none
    | some root => JsonRequest.read root
  match read with
  | .error _ =>
      .error (.jsonRpc JsonRpcError.ParseError "Invalid JSON was received by the server.")
  | .ok none =>
      .error (.jsonRpc JsonRpcError.InvalidRequest "The JSON sent is not a valid Request object.")
  | .ok (some request) => .ok request

theorem parseRpcRequestJson_eq_ok_iff (framework : Framework) (requestBody : String)
    (request : JsonRequest) :
  parseRpcRequestJson framework requestBody = .ok request
    ↔ ∃ root, framework.parse requestBody = .ok (some root) ∧ JsonRequest.ReadFrom root request
  := by
  simp only [← JsonRequest.read_eq_some_iff, parseRpcRequestJson]
  cases framework.parse requestBody with
  | error e => simp [Bind.bind, Except.bind]
  | ok root? =>
      cases root? with
      | none => simp [pure, Except.pure]
      | some root =>
          simp only [Except.ok_bind, Except.ok.injEq, Option.some.injEq, exists_eq_left']
          cases JsonRequest.read root with
          | error e => simp
          | ok request? => cases request? <;> simp

/-! ### Responses -/

/-- A response has a result or an error. -/
def toJsonResponse (response : JsonResponse) : Json :=
  let jResp := Json.null
    |>.set "jsonrpc" (.string response.jsonrpc)
    |>.set "id" (.integer response.id)
  if response.error.code = 0 then jResp.set "result" response.result
  else
    jResp.set "error" <| Json.null
      |>.set "code" (.integer response.error.code)
      |>.set "message" (.string response.error.message)

/-- The response function of a method. -/
abbrev RespFunc : Type := Option Error → Json → RpcRun Unit

/-- Complete a response with an error, or else with a result, and send it. -/
def JsonResponse.respond (response : JsonResponse) : RespFunc := fun error result =>
  let response :=
    match error with
    | some e =>
        if e.errorCode ≠ CommonError.SUCCESS then
          { response with error := ⟨toInt32 e.errorCode, e.errorMessage⟩ }
        else { response with result := result }
    | none => { response with result := result }
  Run.emit (.sent (toJsonResponse response))

/-- Complete a response with an exception and send it. -/
def JsonResponse.respondException (response : JsonResponse) (e : RpcException) : RpcRun Unit := do
  Run.emit (RpcEvent.caught e)
  Run.emit (RpcEvent.sent (toJsonResponse { response with error := ⟨e.code, e.what⟩ }))
