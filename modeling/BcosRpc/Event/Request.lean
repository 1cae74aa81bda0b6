import BcosRpc.Event.Task

/-!
# Subscription requests

`EventSubUnsubRequest` and `EventSubRequest` with their decoders. A decoder gets the JSON
reader as a parameter; it fails when the text is no JSON, when a member is missing, or when
an accessor throws, and then leaves the request as it was.
-/

structure EventSubUnsubRequest where
  id : String := ""
  group : String := ""

structure EventSubRequest extends EventSubUnsubRequest where
  params : Option EventSubParams := none
  state : Option EventSubTaskState := none

/-! ### Strings -/

/-- `s.compare(0, n, t) == 0`: the first `n` characters of `s`, or all of a shorter `s`, are
`t`. -/
def comparesEqual (s : String) (n : Nat) (t : String) : Bool :=
  s.toList.take n == t.toList

/-- `s.substr(n)`. -/
def substr (s : String) (n : Nat) : String := String.ofList (s.toList.drop n)

/-- `std::transform` with `tolower`. -/
def tolower (s : String) : String := String.ofList (s.toList.map Char.toLower)

/-! ### Decoding -/

/-- The members `id` and `group` both kinds of request have. -/
def readIdGroup (root : Json) : Except String (String × String) := do
  if !(← root.isMember "id") then throw "'id' field not exist"
  let id ← (← root.member "id").asString
  if !(← root.isMember "group") then throw "'group' field not exist"
  let group ← (← root.member "group").asString
  return (id, group)

def EventSubUnsubRequest.fromJson (parse : String → Option Json) (self : EventSubUnsubRequest)
    (request : String) : EventSubUnsubRequest × Bool :=
  match parse request with
  | none => (self, false)
  | some root =>
      match readIdGroup root with
      | .error _ => (self, false)
      | .ok (id, group) => ({ self with id, group }, true)

namespace EventSubRequest

/-- An address as it is stored: without its prefix, in lower case. -/
def readAddress (address : String) : String :=
  tolower <|
    if comparesEqual address 2 "0x" || comparesEqual address 2 "0X" then substr address 2
    else address

/-- A topic of an array as it is stored. -/
def readTopic (topic : String) : String :=
  tolower <|
    if comparesEqual topic 2 "0x" || comparesEqual topic 2 "0XC" then substr topic 2
    else topic

/-- The loop over the member `addresses`. -/
def readAddresses (jAddresses : Json) (params : EventSubParams) :
    Except String EventSubParams :=
  (List.range jAddresses.size).foldlM (fun params index => do
    let address ← (← jAddresses.item index).asString
    return params.addAddress (readAddress address)) params

/-- One round of the loop over the member `topics`: the topics of an array are added to the
slot one by one, any other value but null is added as a single topic. -/
def readSlot (index : Nat) (jIndex : Json) (params : EventSubParams) :
    Except String EventSubParams := do
  if jIndex.isNull then
    return params
  else if jIndex.isArray then
    (List.range jIndex.size).foldlM (fun params innerIndex => do
      let topic ← (← jIndex.item innerIndex).asString
      return (params.addTopic index (readTopic topic)).1) params
  else
    return (params.addTopic index (← jIndex.asString)).1

/-- The loop over the member `topics`. -/
def readTopics (jTopics : Json) (params : EventSubParams) : Except String EventSubParams :=
  (List.range jTopics.size).foldlM (fun params index => do
    readSlot index (← jTopics.item index) params) params

/-- Read a member into the parameters when there is one. -/
def readMember (key : String) (read : Json → EventSubParams → Except String EventSubParams)
    (jParams : Json) (params : EventSubParams) : Except String EventSubParams := do
  if ← jParams.isMember key then
    read (← jParams.member key) params
  else
    return params

/-- The parameters read from the member `params`; each part of them is optional. -/
def readParams (jParams : Json) : Except String EventSubParams := do
  let params ← readMember "fromBlock"
    (fun j params => return { params with fromBlock := ← j.asInt64 }) jParams {}
  let params ← readMember "toBlock"
    (fun j params => return { params with toBlock := ← j.asInt64 }) jParams params
  let params ← readMember "addresses" readAddresses jParams params
  readMember "topics" readTopics jParams params

theorem readMember_object {ms : List (String × Json)} {key : String} {j : Json}
    (h : ms.lookup key = some j)
    (read : Json → EventSubParams → Except String EventSubParams) (params : EventSubParams) :
  readMember key read (.object ms) params = read j params
  := by
  rw [readMember, Json.isMember, Json.member, h]
  rfl

theorem readMember_missing {ms : List (String × Json)} {key : String}
    (h : ms.lookup key = none)
    (read : Json → EventSubParams → Except String EventSubParams) (params : EventSubParams) :
  readMember key read (.object ms) params = .ok params
  := by
  rw [readMember, Json.isMember, h]
  rfl

theorem readMember_eq_ok {key : String}
    {read : Json → EventSubParams → Except String EventSubParams} {jParams : Json}
    {params params' : EventSubParams} (h : readMember key read jParams params = .ok params') :
  (jParams.find key).elim (params' = params) fun j => read j params = .ok params'
  := by
  cases jParams with
  | object ms =>
      cases hj : ms.lookup key with
      | none =>
          rw [readMember_missing hj] at h
          rw [Json.find, hj]
          cases h
          rfl
      | some j =>
          rw [readMember_object hj] at h
          rw [Json.find, hj]
          apply h
  | null =>
      cases h
      rfl
  | _ => cases h

/-- The whole request. -/
def read (root : Json) : Except String (String × String × EventSubParams) := do
  let (id, group) ← readIdGroup root
  if !(← root.isMember "params") then throw "'params' field not exist"
  return (id, group, ← readParams (← root.member "params"))

/-- What the members of a request are read from. -/
structure ReadFrom (root : Json) (id group : String) (params : EventSubParams) : Prop where
  id : ∃ j, root.find "id" = some j ∧ j.asString = .ok id
  group : ∃ j, root.find "group" = some j ∧ j.asString = .ok group
  params : ∃ j, root.find "params" = some j ∧ readParams j = .ok params

theorem read_eq_ok_iff (root : Json) (id group : String) (params : EventSubParams) :
  read root = .ok (id, group, params) ↔ ReadFrom root id group params
  := by
  have hidGroup : readIdGroup root = .ok (id, group)
      ↔ (∃ j, root.find "id" = some j ∧ j.asString = .ok id)
        ∧ ∃ j, root.find "group" = some j ∧ j.asString = .ok group := by
    simp only [readIdGroup, Json.requireMember_eq_ok_iff (Except.throw_bind_ne_ok _ _ _),
      Except.bind_eq_ok_iff]
    constructor
    · rintro ⟨j, hj, _, hid, j', hj', _, hgroup, ⟨⟩⟩
      exact ⟨⟨j, hj, hid⟩, j', hj', hgroup⟩
    · rintro ⟨⟨j, hj, hid⟩, j', hj', hgroup⟩
      exact ⟨j, hj, _, hid, j', hj', _, hgroup, rfl⟩
  simp only [read, Json.requireMember_eq_ok_iff (Except.throw_bind_ne_ok _ _ _),
    Except.bind_eq_ok_iff]
  constructor
  · rintro ⟨⟨id', group'⟩, hread, j, hj, _, hparams, ⟨⟩⟩
    obtain ⟨hid, hgroup⟩ := hidGroup.mp hread
    exact ⟨hid, hgroup, j, hj, hparams⟩
  · rintro ⟨hid, hgroup, j, hj, hparams⟩
    exact ⟨_, hidGroup.mpr ⟨hid, hgroup⟩, j, hj, _, hparams, rfl⟩

def fromJson (parse : String → Option Json) (self : EventSubRequest) (request : String) :
    EventSubRequest × Bool :=
  match parse request with
  | none => (self, false)
  | some root =>
      match read root with
      | .error _ => (self, false)
      | .ok (id, group, params) => ({ self with id, group, params := some params }, true)

theorem fromJson_eq_true_iff {parse : String → Option Json} {self request : EventSubRequest}
    {text : String} :
  self.fromJson parse text = (request, true)
    ↔ ∃ root id group params, parse text = some root ∧ ReadFrom root id group params
      ∧ request = { self with id := id, group := group, params := some params }
  := by
  rw [fromJson]
  cases parse text with
  | none => simp
  | some root =>
      simp only [Option.some.injEq, exists_and_left, exists_eq_left', ← read_eq_ok_iff]
      cases read root with
      | error e => simp
      | ok r =>
          obtain ⟨id, group, params⟩ := r
          simp [eq_comm]

end EventSubRequest
