import BcosRpc.Event.Encoding
import BcosRpc.Event.Response
import BcosRpc.JsonRpc.Response

/-!
# Decoders that are all or nothing

Three of the decoders read all members before they assign any. The decoder of JSON-RPC
responses assigns as it reads, and keeps the error and the result an object had when the text
has none.
-/

/-- The JSON reader, as the decoders of subscriptions see it. -/
def Framework.reader (framework : Framework) (text : String) : Option Json :=
  match framework.parse text with
  | .error _ => none
  | .ok root => root

/-- Decode a request body into an object. -/
def parseRpcRequestJsonInto (framework : Framework) (self : JsonRequest) (requestBody : String) :
    JsonRequest × Except RpcException Unit :=
  match parseRpcRequestJson framework requestBody with
  | .error e => (self, .error e)
  | .ok request =>
      ({ self with
          jsonrpc := request.jsonrpc
          method := request.method
          id := request.id
          params := request.params }, .ok ())

/-- A response whose numbers are of their types. -/
def JsonResponse.Typed (response : JsonResponse) : Prop :=
  IsInt64 response.id ∧ IsInt32 response.error.code

/-- Every decoder is all or nothing on a text. -/
structure DecodersAtomic (framework : Framework) (text : String) : Prop where
  request : AllOrNothing (fun _ => True) fun self =>
    let decoded := parseRpcRequestJsonInto framework self text
    (decoded.1, decoded.2.isOk)
  response : AllOrNothing JsonResponse.Typed fun self =>
    let decoded := parseRpcResponseJson framework self text
    (decoded.1, decoded.2.isOk)
  eventRequest : AllOrNothing
    (fun self => ∃ calls, self = EventSubRequest.build framework.reader calls)
    fun self => EventSubRequest.fromJson framework.reader self text
  eventResponse : AllOrNothing (fun _ => True) fun self =>
    EventSubResponse.Object.fromJson framework.reader self text

/-! ### Decoders that assign at the end -/

theorem allOrNothing_parseRpcRequestJson (framework : Framework) (text : String) :
  AllOrNothing (fun _ => True) fun self =>
    let decoded := parseRpcRequestJsonInto framework self text
    (decoded.1, decoded.2.isOk)
  := by
  cases h : parseRpcRequestJson framework text with
  | error e =>
      apply AllOrNothing.of_failure
      intro self
      simp only [parseRpcRequestJsonInto, h]
      rfl
  | ok request =>
      apply AllOrNothing.of_success request
      intro self _
      simp only [parseRpcRequestJsonInto, h]
      rfl

/-- A subscription request that can be built has no state. -/
theorem allOrNothing_eventSubRequest (parse : String → Option Json) (text : String) :
  AllOrNothing (fun self => ∃ calls, self = EventSubRequest.build parse calls) fun self =>
    EventSubRequest.fromJson parse self text
  := by
  cases hroot : parse text with
  | none =>
      apply AllOrNothing.of_failure
      intro self
      simp only [EventSubRequest.fromJson, hroot]
  | some root =>
      cases hread : EventSubRequest.read root with
      | error e =>
          apply AllOrNothing.of_failure
          intro self
          simp only [EventSubRequest.fromJson, hroot, hread]
      | ok members =>
          obtain ⟨id, group, params⟩ := members
          apply AllOrNothing.of_success { id := id, group := group, params := some params }
          rintro self ⟨calls, hself⟩
          have hstate : self.state = none := by
            rw [hself]
            apply EventSubRequest.state_build
          simp only [EventSubRequest.fromJson, hroot, hread, hstate]

theorem allOrNothing_eventSubResponse (parse : String → Option Json) (text : String) :
  AllOrNothing (fun _ => True) fun self => EventSubResponse.Object.fromJson parse self text
  := by
  cases hroot : parse text with
  | none =>
      apply AllOrNothing.of_failure
      intro self
      simp only [EventSubResponse.Object.fromJson, hroot]
  | some root =>
      cases hread : EventSubResponse.read root with
      | error e =>
          apply AllOrNothing.of_failure
          intro self
          simp only [EventSubResponse.Object.fromJson, hroot, hread]
      | ok members =>
          apply AllOrNothing.of_success ⟨members, root⟩
          intro self _
          simp only [EventSubResponse.Object.fromJson, hroot, hread]

/-! ### The decoder of responses -/

namespace JsonResponse

/-- A value with a version that has a text. -/
def HasVersion (root : Json) : Prop :=
  ∃ j jsonrpc, root.find "jsonrpc" = some j ∧ j.asString = .ok jsonrpc

/-- A value with an id, an error and a result. -/
structure IsComplete (root : Json) : Prop where
  id : ∃ j i, root.find "id" = some j ∧ j.asInt64 = .ok i
  error : ∃ jError e, root.find "error" = some jError ∧ Error.ReadFrom jError e
  result : ∃ result, root.find "result" = some result

/-- A text in which no version is read, or all members are. -/
def IsAtomic (framework : Framework) (text : String) : Prop :=
  ∀ root, framework.parse text = .ok (some root) → HasVersion root → IsComplete root

end JsonResponse

section

variable {framework : Framework} {text : String} {root : Json}

theorem parseRpcResponseJson_fst (hroot : framework.parse text = .ok (some root))
    (self : JsonResponse) :
  (parseRpcResponseJson framework self text).1 = ((JsonResponse.read root).into self).2
  := by
  rw [parseRpcResponseJson, hroot]
  dsimp only
  generalize (JsonResponse.read root).into self = r
  obtain ⟨outcome, s'⟩ := r
  cases outcome with
  | error e => rfl
  | ok complete => cases complete <;> rfl

theorem parseRpcResponseJson_isOk_iff (hroot : framework.parse text = .ok (some root))
    (self : JsonResponse) :
  (parseRpcResponseJson framework self text).2.isOk = true
    ↔ ∃ s', parseRpcResponseJson framework self text = (s', .ok ()) ∧
      JsonResponse.ReadFrom root self s'
  := by
  have hiff := fun s' => parseRpcResponseJson_eq_ok_iff framework self s' text
  generalize parseRpcResponseJson framework self text = decoded at hiff ⊢
  obtain ⟨s', outcome⟩ := decoded
  cases outcome with
  | error e => simp [Except.isOk, Except.toBool]
  | ok u =>
      simp only [Except.isOk, Except.toBool, true_iff]
      obtain ⟨root', hroot', hread⟩ := (hiff s').mp rfl
      rw [hroot] at hroot'
      cases hroot'
      exact ⟨s', rfl, hread⟩

/-- A version that is not read leaves the object as it was. -/
theorem parseRpcResponseJson_of_not_hasVersion (hroot : framework.parse text = .ok (some root))
    (h : ¬ JsonResponse.HasVersion root) (self : JsonResponse) :
  (parseRpcResponseJson framework self text).1 = self
    ∧ (parseRpcResponseJson framework self text).2.isOk = false
  := by
  constructor
  · rw [parseRpcResponseJson_fst hroot]
    apply JsonResponse.read_unchanged h
  · apply Bool.eq_false_iff.mpr
    intro hok
    obtain ⟨s', _, hread⟩ := (parseRpcResponseJson_isOk_iff hroot self).mp hok
    obtain ⟨j, hj, hjsonrpc⟩ := hread.jsonrpc
    apply h ⟨j, _, hj, hjsonrpc⟩

/-- A version that is read is assigned. -/
theorem jsonrpc_parseRpcResponseJson (hroot : framework.parse text = .ok (some root)) {j : Json}
    {jsonrpc : String} (hj : root.find "jsonrpc" = some j) (hjsonrpc : j.asString = .ok jsonrpc)
    (self : JsonResponse) :
  (parseRpcResponseJson framework self text).1.jsonrpc = jsonrpc
  := by
  rw [parseRpcResponseJson_fst hroot]
  apply JsonResponse.jsonrpc_read hj hjsonrpc

/-- A complete response is decoded, whatever the object was. -/
theorem parseRpcResponseJson_of_isComplete (hroot : framework.parse text = .ok (some root))
    (hversion : JsonResponse.HasVersion root) (h : JsonResponse.IsComplete root) :
  ∃ s', ∀ self, parseRpcResponseJson framework self text = (s', .ok ())
  := by
  obtain ⟨j, jsonrpc, hj, hjsonrpc⟩ := hversion
  obtain ⟨⟨j', id, hj', hid⟩, ⟨jError, e, hjError, he⟩, ⟨result, hresult⟩⟩ := h
  use { jsonrpc := jsonrpc, id := id, error := e, result := result }
  intro self
  apply (parseRpcResponseJson_eq_ok_iff framework self _ text).mpr
  refine ⟨root, hroot, ⟨j, hj, hjsonrpc⟩, ⟨j', hj', hid⟩, ?_, ?_⟩
  · rw [hjError]
    apply he
  · rw [hresult]
    rfl

end

/-- Where a version is read, a failure changes an object with another version: an all or nothing
decoder reads the text into it. -/
theorem readFrom_of_allOrNothing (hroot : framework.parse text = .ok (some root)) {j : Json}
    {jsonrpc : String} (hj : root.find "jsonrpc" = some j) (hjsonrpc : j.asString = .ok jsonrpc)
    (h : AllOrNothing JsonResponse.Typed (fun self =>
      let decoded := parseRpcResponseJson framework self text
      (decoded.1, decoded.2.isOk)))
    {self : JsonResponse} (htyped : self.Typed) (hne : self.jsonrpc ≠ jsonrpc) :
  (parseRpcResponseJson framework self text).2.isOk = true
    ∧ JsonResponse.ReadFrom root self (parseRpcResponseJson framework self text).1
  := by
  have hsuccess : (parseRpcResponseJson framework self text).2.isOk = true := by
    apply (Bool.not_eq_false _).mp
    intro hfailed
    apply hne
    have hsame := h.1 self htyped hfailed
    rw [← jsonrpc_parseRpcResponseJson hroot hj hjsonrpc self]
    apply congrArg JsonResponse.jsonrpc hsame.symm
  use hsuccess
  obtain ⟨s', heq, hread⟩ := (parseRpcResponseJson_isOk_iff hroot self).mp hsuccess
  rwa [heq]

/-- Where a version is read, an all or nothing decoder finds all members. -/
theorem isComplete_of_allOrNothing (hroot : framework.parse text = .ok (some root))
    (hversion : JsonResponse.HasVersion root)
    (h : AllOrNothing JsonResponse.Typed (fun self =>
      let decoded := parseRpcResponseJson framework self text
      (decoded.1, decoded.2.isOk))) :
  JsonResponse.IsComplete root
  := by
  obtain ⟨j, jsonrpc, hj, hjsonrpc⟩ := hversion
  have hne : jsonrpc ++ "x" ≠ jsonrpc := by
    intro heq
    have hlen := congrArg String.length heq
    simp at hlen
  -- Two objects with other versions, errors and results: the text has to replace them.
  let s₁ : JsonResponse := { jsonrpc := jsonrpc ++ "x", id := 0 }
  let s₂ : JsonResponse :=
    { jsonrpc := jsonrpc ++ "x", id := 0, error := ⟨1, ""⟩, result := .boolean true }
  have hzero : IsInt64 0 := by decide
  have ht₁ : s₁.Typed := ⟨hzero, show IsInt32 0 by decide⟩
  have ht₂ : s₂.Typed := ⟨hzero, show IsInt32 1 by decide⟩
  obtain ⟨hsuccess₁, hr₁⟩ := readFrom_of_allOrNothing hroot hj hjsonrpc h ht₁ hne
  obtain ⟨hsuccess₂, hr₂⟩ := readFrom_of_allOrNothing hroot hj hjsonrpc h ht₂ hne
  have heq := h.2 s₁ s₂ ht₁ ht₂ hsuccess₁ hsuccess₂
  dsimp only at heq
  rw [heq] at hr₁
  constructor
  · obtain ⟨j, hj, hid⟩ := hr₁.id
    exact ⟨j, _, hj, hid⟩
  · have herror₁ := hr₁.error
    have herror₂ := hr₂.error
    cases hj : root.find "error" with
    | none =>
        rw [hj, Option.elim_none] at herror₁ herror₂
        have hcode := congrArg JsonResponse.Error.code (herror₁.symm.trans herror₂)
        cases hcode
    | some jError =>
        rw [hj, Option.elim_some] at herror₁
        exact ⟨jError, _, rfl, herror₁⟩
  · have hresult := hr₁.result.symm.trans hr₂.result
    cases hj : root.find "result" with
    | none =>
        rw [hj] at hresult
        cases hresult
    | some result => exact ⟨result, rfl⟩

/-- The decoder of responses is all or nothing exactly on the texts in which no version is read,
or all members are. -/
theorem allOrNothing_parseRpcResponseJson_iff (framework : Framework) (text : String) :
  AllOrNothing JsonResponse.Typed (fun self =>
      let decoded := parseRpcResponseJson framework self text
      (decoded.1, decoded.2.isOk))
    ↔ JsonResponse.IsAtomic framework text
  := by
  constructor
  · intro h root hroot hversion
    apply isComplete_of_allOrNothing hroot hversion h
  · intro h
    cases hroot : framework.parse text with
    | error e =>
        apply AllOrNothing.of_failure
        intro self
        simp only [parseRpcResponseJson, hroot]
        rfl
    | ok root? =>
        cases root? with
        | none =>
            apply AllOrNothing.of_failure
            intro self
            simp only [parseRpcResponseJson, hroot]
            rfl
        | some root =>
            by_cases hversion : JsonResponse.HasVersion root
            · obtain ⟨s', hs'⟩ :=
                parseRpcResponseJson_of_isComplete hroot hversion (h root hroot hversion)
              apply AllOrNothing.of_success s'
              intro self _
              simp only [hs']
              rfl
            · apply AllOrNothing.of_failure
              intro self
              obtain ⟨hsame, hfailed⟩ := parseRpcResponseJson_of_not_hasVersion hroot hversion self
              simp only [hsame, hfailed]

/-- The decoders are all or nothing exactly on the texts on which that of responses is. -/
theorem decodersAtomic_iff (framework : Framework) (text : String) :
  DecodersAtomic framework text ↔ JsonResponse.IsAtomic framework text
  := by
  rw [← allOrNothing_parseRpcResponseJson_iff]
  constructor
  · exact fun h => h.response
  · intro h
    constructor
    · apply allOrNothing_parseRpcRequestJson
    · exact h
    · apply allOrNothing_eventSubRequest
    · apply allOrNothing_eventSubResponse

/-- A response without an id. -/
def idlessText : String := "\x7b\"jsonrpc\":\"2.0\"\x7d"

def idlessFramework : Framework :=
  { unknownMethodFramework with
    parse := fun text =>
      if text = idlessText then .ok (some (.object [("jsonrpc", .string "2.0")])) else .ok none }

/-- The version of a response that is refused stays in the object. -/
theorem decodersAtomic_counterexample :
  ¬ DecodersAtomic idlessFramework idlessText
  := by
  intro h
  have hsame := h.response.unchanged { id := 0 } ⟨by decide, by decide⟩ rfl
  have hversion : "2.0" = "" := congrArg JsonResponse.jsonrpc hsame
  simp at hversion
