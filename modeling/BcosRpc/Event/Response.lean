import BcosRpc.Common.Json

/-!
# Subscription responses

`EventSubResponse` with its encoder and decoder. Both keep the JSON value they write or read in
the object.
-/

structure EventSubResponse where
  id : String
  status : Int

namespace EventSubResponse

/-- The object, which keeps a JSON value beside its members. -/
structure Object extends EventSubResponse where
  jResp : Json := .null

def toJson (self : EventSubResponse) : Json :=
  Json.null
    |>.set "id" (.string self.id)
    |>.set "status" (.integer self.status)

/-- The text of a response, and the object with the value that is written. -/
def Object.generateJson (write : Json → String) (self : Object) : String × Object :=
  (write self.toJson, { self with jResp := self.toJson })

/-- The members of a response. -/
def read (root : Json) : Except String EventSubResponse := do
  if !(← root.isMember "id") then throw "'id' field not exist"
  let id ← (← root.member "id").asString
  if !(← root.isMember "status") then throw "'status' field not exist"
  let status ← (← root.member "status").asInt
  return { id, status }

def Object.fromJson (parse : String → Option Json) (self : Object) (response : String) :
    Object × Bool :=
  match parse response with
  | none => (self, false)
  | some root =>
      match read root with
      | .error _ => (self, false)
      | .ok members =>
          ({ self with id := members.id, status := members.status, jResp := root }, true)

theorem read_eq_ok_iff (root : Json) (members : EventSubResponse) :
  read root = .ok members
    ↔ (∃ j, root.find "id" = some j ∧ j.asString = .ok members.id)
      ∧ ∃ j, root.find "status" = some j ∧ j.asInt = .ok members.status
  := by
  simp only [read, Json.requireMember_eq_ok_iff (Except.throw_bind_ne_ok _ _ _),
    Except.bind_eq_ok_iff]
  constructor
  · rintro ⟨j, hj, _, hid, j', hj', _, hstatus, ⟨⟩⟩
    exact ⟨⟨j, hj, hid⟩, j', hj', hstatus⟩
  · rintro ⟨⟨j, hj, hid⟩, j', hj', hstatus⟩
    exact ⟨j, hj, _, hid, j', hj', _, hstatus, rfl⟩

/-- A response is decoded from the text that is generated for it, into any object. -/
theorem fromJson_generateJson {parse : String → Option Json} {write : Json → String}
    {response : Object} (hstatus : IsInt32 response.status)
    (hread : parse (write response.toJson) = some response.toJson) (self : Object) :
  self.fromJson parse (response.generateJson write).1 = ((response.generateJson write).2, true)
  := by
  have hmembers : read response.toJson = .ok response.toEventSubResponse := by
    apply (read_eq_ok_iff _ _).mpr
    constructor
    · exact ⟨.string response.id, by simp [toJson], rfl⟩
    · exact ⟨.integer response.status, by simp [toJson], if_pos hstatus⟩
  simp only [Object.fromJson, Object.generateJson, hread, hmembers]

end EventSubResponse
