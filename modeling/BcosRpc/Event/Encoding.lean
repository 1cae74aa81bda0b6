import BcosRpc.Event.Widening

/-!
# The encoding of subscription requests

A request is built through its public interface. Its encoder reads the progress of the
subscription from a state that no member of the interface sets; on a request with a state, the
encoding names the block after the next one.
-/

namespace EventSubRequest

/-! ### The public interface -/

/-- A call of the public interface of a request. -/
inductive PublicCall where
  | setId (id : String)
  | setGroup (group : String)
  | setParams (params : Option EventSubParams)
  | fromJson (request : String)

def setId (self : EventSubRequest) (id : String) : EventSubRequest :=
  { self with id := id }

def setGroup (self : EventSubRequest) (group : String) : EventSubRequest :=
  { self with group := group }

def setParams (self : EventSubRequest) (params : Option EventSubParams) : EventSubRequest :=
  { self with params := params }

def call (parse : String → Option Json) (self : EventSubRequest) : PublicCall → EventSubRequest
  | .setId id => self.setId id
  | .setGroup group => self.setGroup group
  | .setParams params => self.setParams params
  | .fromJson request => (self.fromJson parse request).1

/-- The request some calls make of a fresh one. -/
def build (parse : String → Option Json) (calls : List PublicCall) : EventSubRequest :=
  calls.foldl (call parse) {}

theorem state_fromJson (parse : String → Option Json) (self : EventSubRequest)
    (request : String) :
  (self.fromJson parse request).1.state = self.state
  := by
  rw [EventSubRequest.fromJson]
  cases parse request with
  | none => rfl
  | some root =>
      dsimp only
      cases EventSubRequest.read root <;> rfl

theorem state_call (parse : String → Option Json) (self : EventSubRequest) (c : PublicCall) :
  (self.call parse c).state = self.state
  := by
  cases c with
  | fromJson request => apply state_fromJson
  | _ => rfl

/-- No call sets the state. -/
theorem state_build (parse : String → Option Json) (calls : List PublicCall) :
  (build parse calls).state = none
  := by
  have hfold : ∀ self : EventSubRequest,
      (calls.foldl (call parse) self).state = self.state := by
    induction calls with
    | nil => exact fun _ => rfl
    | cons c calls ih =>
        intro self
        rw [List.foldl_cons, ih, state_call]
  apply hfold

/-! ### Encoding -/

/-- The topics of a slot; null for an empty one. -/
def slotToJson (inTopics : Std.ExtTreeSet String) : Json :=
  if inTopics.isEmpty then .null else .array (inTopics.toList.map .string)

/-- The first block of the encoding. -/
def writtenBlock (state : EventSubTaskState) (params : EventSubParams) : Int :=
  if state.currentBlockNumber > 0 then state.currentBlockNumber + 1 else params.fromBlock

def paramsToJson (state : EventSubTaskState) (params : EventSubParams) : Json :=
  Json.null
    |>.set "fromBlock" (.integer (writtenBlock state params))
    |>.set "toBlock" (.integer params.toBlock)
    |>.set "addresses" (.array (params.addresses.toList.map .string))
    |>.set "topics" (.array (params.topics.map slotToJson))

/-- The encoding of a request; `none` when it has no state or no parameters, which are not
checked. -/
def toJson (self : EventSubRequest) : Option Json := do
  let state ← self.state
  let params ← self.params
  return Json.null
    |>.set "id" (.string self.id)
    |>.set "group" (.string self.group)
    |>.set "params" (paramsToJson state params)

def generateJson (write : Json → String) (self : EventSubRequest) : Option String :=
  self.toJson.map write

/-! ### What survives -/

/-- The next block to process: that of the progress, if there is any, else the first one. -/
def nextBlock (state : Option EventSubTaskState) (params : EventSubParams) : Int :=
  match state with
  | some s => if s.currentBlockNumber ≥ 0 then s.currentBlockNumber else params.fromBlock
  | none => params.fromBlock

/-- The same addresses and the same topics, slot by slot. -/
structure SameFilter (params params' : EventSubParams) : Prop where
  toBlock : params'.toBlock = params.toBlock
  addresses : params'.addresses = params.addresses
  topics : ∀ i, params'.slot i = params.slot i

/-- A request that is encoded, and decoded into a fresh one, is the same up to the progress it
has made. -/
def Survives (parse : String → Option Json) (write : Json → String) (self : EventSubRequest) :
    Prop :=
  ∃ text request params params', self.generateJson write = some text
    ∧ fromJson parse {} text = (request, true)
    ∧ request.id = self.id ∧ request.group = self.group
    ∧ self.params = some params ∧ request.params = some params' ∧ SameFilter params params'
    ∧ params'.fromBlock = nextBlock self.state params

/-! ### Requests with a state -/

/-- Parameters with lower-case hexadecimal texts, no more slots than a log has topics, and block
numbers in range. -/
structure PlainParams (params : EventSubParams) : Prop where
  addresses : ∀ a ∈ params.addresses, IsLowerHex a
  topics : ∀ slot ∈ params.topics, ∀ t ∈ slot, IsLowerHex t
  length : params.topics.length ≤ EVENT_LOG_TOPICS_MAX_INDEX
  fromBlock : IsInt64 params.fromBlock
  toBlock : IsInt64 params.toBlock

theorem readAddress_of_isLowerHex {a : String} (ha : IsLowerHex a) :
  readAddress a = a
  := (readAddress_eq_iff ha).mpr (spells_self ha)

theorem readTopic_of_isLowerHex {t : String} (ht : IsLowerHex t) :
  readTopic t = t
  := by
  apply (readTopic_eq_iff ht).mpr
  constructor
  · apply spells_self ht
  · apply comparesEqual_eq_false (c := 'X') ht (tolower_of_isLowerHex ht) (by decide) (by decide)

/-- The slot that is encoded. -/
def slotOf (inTopics : Std.ExtTreeSet String) : TopicSlot :=
  if inTopics.isEmpty then .any else .anyOf inTopics.toList

theorem json_slotOf (inTopics : Std.ExtTreeSet String) :
  (slotOf inTopics).json = slotToJson inTopics
  := by
  rw [slotOf, slotToJson]
  split <;> rfl

theorem mem_stored_slotOf_iff {inTopics : Std.ExtTreeSet String}
    (hhex : ∀ t ∈ inTopics, IsLowerHex t) (t : String) :
  t ∈ (slotOf inTopics).stored ↔ t ∈ inTopics
  := by
  rw [slotOf]
  split
  · rename_i hempty
    have hnone := (Table.isEmpty_iff_forall_not_mem inTopics).mp hempty t
    simp [TopicSlot.stored, hnone]
  · simp only [TopicSlot.stored, List.mem_map, Std.ExtTreeSet.mem_toList]
    constructor
    · rintro ⟨u, hu, rfl⟩
      rwa [readTopic_of_isLowerHex (hhex u hu)]
    · intro ht
      exact ⟨t, ht, readTopic_of_isLowerHex (hhex t ht)⟩

theorem isInt64_writtenBlock {state : EventSubTaskState} {params : EventSubParams}
    (hstate : state.currentBlockNumber < maxInt64) (hplain : PlainParams params) :
  IsInt64 (writtenBlock state params)
  := by
  rw [writtenBlock]
  split
  · simp only [IsInt64, minInt64, maxInt64] at hstate ⊢
    omega
  · apply hplain.fromBlock

/-- The request that is encoded for parameters and a state. -/
def filterRequest (self : EventSubRequest) {state : EventSubTaskState} {params : EventSubParams}
    (hstate : state.currentBlockNumber < maxInt64) (hplain : PlainParams params) :
    FilterRequest where
  members := Json.setMember "params" (paramsToJson state params)
    (Json.setMember "group" (.string self.group) [("id", .string self.id)])
  id := self.id
  group := self.group
  jParams := Json.setMember "topics" (.array (params.topics.map slotToJson))
    (Json.setMember "addresses" (.array (params.addresses.toList.map .string))
      (Json.setMember "toBlock" (.integer params.toBlock)
        [("fromBlock", .integer (writtenBlock state params))]))
  addresses := params.addresses.toList
  slots := params.topics.map slotOf
  id_member := by simp [Json.lookup_setMember_of_ne]
  group_member := by simp [Json.lookup_setMember_of_ne]
  params_member := by
    rw [Json.lookup_setMember_self]
    rfl
  fromBlock_member := by
    simp [Json.lookup_setMember_of_ne, Json.asInt64_integer (isInt64_writtenBlock hstate hplain)]
  toBlock_member := by
    simp [Json.lookup_setMember_of_ne, Json.asInt64_integer hplain.toBlock]
  addresses_member := by simp [Json.lookup_setMember_of_ne]
  topics_member := by
    rw [Json.lookup_setMember_self, List.map_map]
    congr 2
    apply List.map_congr_left
    intro inTopics _
    apply (json_slotOf inTopics).symm
  length_slots := by
    rw [List.length_map]
    apply hplain.length
  hex_addresses := by
    intro a ha
    have hhex := hplain.addresses a (Std.ExtTreeSet.mem_toList.mp ha)
    exact ⟨a, hhex, spells_self hhex⟩
  hex_topics := by
    intro slot hslot t ht
    obtain ⟨inTopics, hinTopics, rfl⟩ := List.mem_map.mp hslot
    have hmem : t ∈ inTopics := by
      rw [slotOf] at ht
      split at ht
      · cases ht
      · apply Std.ExtTreeSet.mem_toList.mp ht
    have hhex := hplain.topics inTopics hinTopics t hmem
    exact ⟨t, hhex, spells_self hhex⟩

/-- The addresses that are decoded from the encoding are the ones encoded. -/
theorem addresses_of_decoded {self : EventSubRequest} {state : EventSubTaskState}
    {params params' : EventSubParams} (hstate : state.currentBlockNumber < maxInt64)
    (hplain : PlainParams params) (h : (filterRequest self hstate hplain).Decoded params') :
  params'.addresses = params.addresses
  := by
  apply Std.ExtTreeSet.ext_mem
  intro a
  rw [h.addresses, List.mem_map]
  constructor
  · rintro ⟨b, hb, rfl⟩
    have hmem := Std.ExtTreeSet.mem_toList.mp hb
    rwa [readAddress_of_isLowerHex (hplain.addresses b hmem)]
  · intro ha
    exact ⟨a, Std.ExtTreeSet.mem_toList.mpr ha, readAddress_of_isLowerHex (hplain.addresses a ha)⟩

/-- The topics that are decoded from the encoding are the ones encoded. -/
theorem slot_of_decoded {self : EventSubRequest} {state : EventSubTaskState}
    {params params' : EventSubParams} (hstate : state.currentBlockNumber < maxInt64)
    (hplain : PlainParams params) (h : (filterRequest self hstate hplain).Decoded params')
    (i : Nat) :
  params'.slot i = params.slot i
  := by
  cases hi : params.topics[i]? with
  | none =>
      have hlen := List.getElem?_eq_none_iff.mp hi
      have hlen' : params'.topics.length ≤ params.topics.length := by
        simpa [filterRequest] using h.length
      rw [slot_eq_empty hlen, slot_eq_empty (hlen'.trans hlen)]
  | some inTopics =>
      have hmem := List.mem_of_getElem? hi
      have hslot : params.slot i = inTopics := by
        rw [EventSubParams.slot, List.getD_eq_getElem?_getD, hi]
        rfl
      have hslots : (params.topics.map slotOf)[i]? = some (slotOf inTopics) := by
        rw [List.getElem?_map, hi]
        rfl
      rw [hslot]
      apply Std.ExtTreeSet.ext_mem
      intro t
      rw [h.topics i (slotOf inTopics) hslots,
        mem_stored_slotOf_iff (hplain.topics inTopics hmem)]

/-- What is decoded from the encoding has the same filter, and begins with the written block. -/
theorem fromJson_filterRequest {self : EventSubRequest} {state : EventSubTaskState}
    {params : EventSubParams} (hstate : state.currentBlockNumber < maxInt64)
    (hplain : PlainParams params) {parse : String → Option Json} {text : String}
    (hparse : parse text = some (filterRequest self hstate hplain).root) :
  ∃ params', fromJson parse {} text
      = ({ id := self.id, group := self.group, params := some params' }, true)
    ∧ SameFilter params params' ∧ params'.fromBlock = writtenBlock state params
  := by
  obtain ⟨params', hread, hdecoded⟩ := (filterRequest self hstate hplain).fromJson_ok hparse {}
  obtain ⟨root, id, group, params'', hroot, hfrom, heq⟩ := fromJson_eq_true_iff.mp hread
  cases heq
  rw [hparse] at hroot
  cases hroot
  obtain ⟨j, hj, hj'⟩ := hfrom.params
  rw [FilterRequest.root, Json.find, FilterRequest.params_member] at hj
  cases hj
  obtain ⟨_, _, hparamsRead⟩ := readParams_inv hj'
  have hfromBlock := hparamsRead.fromBlock
  have htoBlock := hparamsRead.toBlock
  simp only [Json.find, filterRequest, ne_eq, String.reduceEq, not_false_eq_true,
    Json.lookup_setMember_of_ne, Json.lookup_setMember_self, List.lookup_cons_self,
    Option.elim_some, Json.asInt64_integer (isInt64_writtenBlock hstate hplain),
    Json.asInt64_integer hplain.toBlock, Except.ok.injEq] at hfromBlock htoBlock
  refine ⟨params', hread, ⟨htoBlock.symm, ?_, ?_⟩, hfromBlock.symm⟩
  · apply addresses_of_decoded hstate hplain hdecoded
  · apply slot_of_decoded hstate hplain hdecoded

/-- A request with a state survives exactly when it has not made progress, or is about to
process block 0 and begins with it. -/
theorem survives_iff {self : EventSubRequest} {state : EventSubTaskState}
    {params : EventSubParams} (hself : self.state = some state)
    (hparams : self.params = some params) (hstate : state.currentBlockNumber < maxInt64)
    (hplain : PlainParams params) {parse : String → Option Json} {write : Json → String}
    (hread : ∀ j, self.toJson = some j → parse (write j) = some j) :
  Survives parse write self
    ↔ state.currentBlockNumber < 0 ∨ state.currentBlockNumber = 0 ∧ params.fromBlock = 0
  := by
  have hjson : self.toJson = some (filterRequest self hstate hplain).root := by
    rw [toJson, hself, hparams]
    rfl
  obtain ⟨params', hdecoded, hfilter, hfromBlock⟩ :=
    fromJson_filterRequest hstate hplain (hread _ hjson)
  have hblock : writtenBlock state params = nextBlock (some state) params
      ↔ state.currentBlockNumber < 0 ∨ state.currentBlockNumber = 0 ∧ params.fromBlock = 0 := by
    simp only [writtenBlock, nextBlock]
    split <;> split <;> omega
  rw [← hblock]
  constructor
  · rintro ⟨text, request, _, _, htext, hrequest, _, _, hp, hp', _, hnext⟩
    rw [generateJson, hjson] at htext
    cases htext
    rw [hdecoded] at hrequest
    cases hrequest
    rw [hparams] at hp
    cases hp
    cases hp'
    rw [← hfromBlock, hnext, hself]
  · intro heq
    refine ⟨_, _, params, params', ?_, hdecoded, rfl, rfl, hparams, rfl, hfilter, ?_⟩
    · rw [generateJson, hjson]
      rfl
    · rw [hfromBlock, heq, hself]

/-- No request that can be built survives: it cannot be encoded. -/
theorem not_survives_build (parse : String → Option Json) (write : Json → String)
    (calls : List PublicCall) :
  ¬ Survives parse write (build parse calls)
  := by
  rintro ⟨text, request, params, params', htext, _⟩
  rw [generateJson, toJson, state_build] at htext
  cases htext

/-- A request with all its parts cannot be encoded. -/
theorem survives_counterexample :
  ¬ Survives filterParse (fun _ => narrowText)
    (build filterParse [.setId "0x1", .setGroup "group", .setParams (some { fromBlock := 1 })])
  := by
  rintro ⟨text, request, params, params', htext, _⟩
  cases htext

end EventSubRequest
