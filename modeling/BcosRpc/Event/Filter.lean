import BcosRpc.Common.Table
import BcosRpc.Event.Request

/-!
# The meaning of a subscription filter

A `FilterRequest` is a subscription request whose filter is well formed: an array of
hexadecimal addresses and an array of at most four topic slots. `FilterRequest.Accepts` says
which log entries such a request asks for. The decoder accepts every such request;
`FilterRequest.matches_iff` says for which of them the decoded parameters match the log
entries asked for.
-/

/-! ### Hexadecimal texts -/

/-- A text of lower-case hexadecimal digits. -/
def IsLowerHex (s : String) : Prop := ∀ c ∈ s.toList, isLowerHexDigit c = true

/-- The text `s` is `h` up to a prefix and the case of the letters. -/
def Spells (s h : String) : Prop :=
  ∃ digits, (s = digits ∨ s = "0x" ++ digits ∨ s = "0X" ++ digits) ∧ tolower digits = h

/-- A hexadecimal text, with or without prefix, in any letter case. -/
def IsHexText (s : String) : Prop := ∃ h, IsLowerHex h ∧ Spells s h

theorem HashType.isLowerHex_hex (h : HashType) :
  IsLowerHex h.hex
  := fun _ => isLowerHexDigit_of_mem_toHexString

theorem comparesEqual_iff (s : String) (n : Nat) (t : String) :
  comparesEqual s n t = true ↔ s.toList.take n = t.toList
  := by
  rw [comparesEqual, beq_iff_eq]

@[simp]
theorem toList_tolower (s : String) :
  (tolower s).toList = s.toList.map Char.toLower
  := by
  rw [tolower, String.toList_ofList]

/-- A text that begins with a prefix of two characters is the prefix and the rest. -/
theorem eq_append_substr {s t : String} (hs : comparesEqual s 2 t = true) :
  s = t ++ substr s 2
  := by
  apply String.toList_inj.mp
  rw [comparesEqual_iff] at hs
  rw [String.toList_append, substr, String.toList_ofList, ← hs, List.take_append_drop]

theorem substr_append {t : String} (ht : t.length = 2) (s : String) :
  substr (t ++ s) 2 = s
  := by
  apply String.toList_inj.mp
  rw [substr, String.toList_ofList, String.toList_append]
  apply List.drop_left' ht

theorem comparesEqual_append {t : String} (ht : t.length = 2) (s : String) :
  comparesEqual (t ++ s) 2 t = true
  := by
  rw [comparesEqual_iff, String.toList_append]
  apply List.take_left' ht

/-- Digits that are hexadecimal in lower case have no prefix whose second character is
not a digit. -/
theorem comparesEqual_eq_false {digits h t : String} (hh : IsLowerHex h)
    (hd : tolower digits = h) {c : Char} (hc : c ∈ t.toList)
    (hx : isLowerHexDigit c.toLower = false) :
  comparesEqual digits 2 t = false
  := by
  apply Bool.eq_false_iff.mpr
  intro hpre
  rw [comparesEqual_iff] at hpre
  have hmem : c ∈ digits.toList := List.mem_of_mem_take (hpre ▸ hc)
  have hlow : c.toLower ∈ h.toList := by
    rw [← hd, toList_tolower]
    apply List.mem_map_of_mem hmem
  rw [hh _ hlow] at hx
  cases hx

/-- No text has the prefix the decoder compares two characters with. -/
theorem comparesEqual_0XC (s : String) :
  comparesEqual s 2 "0XC" = false
  := by
  apply Bool.eq_false_iff.mpr
  intro h
  have hlen := congrArg List.length ((comparesEqual_iff s 2 "0XC").mp h)
  have h3 : ("0XC" : String).toList.length = 3 := by decide
  rw [h3, List.length_take] at hlen
  omega

theorem toLower_of_isLowerHexDigit {c : Char} (h : isLowerHexDigit c = true) :
  c.toLower = c
  := by
  simp only [isLowerHexDigit, Bool.or_eq_true, Bool.and_eq_true, decide_eq_true_eq,
    Char.le_def] at h
  apply dif_neg
  rintro ⟨hA, hZ⟩
  simp only [UInt32.le_iff_toNat_le, Char.reduceVal, UInt32.reduceToNat, ge_iff_le] at h hA hZ
  omega

theorem tolower_of_isLowerHex {h : String} (hh : IsLowerHex h) :
  tolower h = h
  := by
  apply String.toList_inj.mp
  rw [toList_tolower]
  calc
    h.toList.map Char.toLower = h.toList.map id :=
      List.map_congr_left fun c hc => toLower_of_isLowerHexDigit (hh c hc)
    _ = h.toList := List.map_id _

theorem spells_self {h : String} (hh : IsLowerHex h) :
  Spells h h
  := ⟨h, Or.inl rfl, tolower_of_isLowerHex hh⟩

namespace EventSubRequest

/-- The decoder stores an address as the text it spells. -/
theorem readAddress_eq_iff {s h : String} (hh : IsLowerHex h) :
  readAddress s = h ↔ Spells s h
  := by
  rw [readAddress]
  constructor
  · intro heq
    split at heq
    · rename_i hpre
      rw [Bool.or_eq_true] at hpre
      use substr s 2
      rcases hpre with hpre | hpre
      · exact ⟨Or.inr (Or.inl (eq_append_substr hpre)), heq⟩
      · exact ⟨Or.inr (Or.inr (eq_append_substr hpre)), heq⟩
    · exact ⟨s, Or.inl rfl, heq⟩
  · rintro ⟨digits, rfl | rfl | rfl, hd⟩
    · rw [comparesEqual_eq_false (c := 'x') hh hd (by decide) (by decide),
        comparesEqual_eq_false (c := 'X') hh hd (by decide) (by decide)]
      apply hd
    · rw [comparesEqual_append (by decide), Bool.true_or, if_pos rfl, substr_append (by decide)]
      apply hd
    · rw [comparesEqual_append (by decide), Bool.or_true, if_pos rfl, substr_append (by decide)]
      apply hd

/-- The decoder stores a topic of an array as the text it spells, unless it has the prefix
`0X`. -/
theorem readTopic_eq_iff {s h : String} (hh : IsLowerHex h) :
  readTopic s = h ↔ Spells s h ∧ comparesEqual s 2 "0X" = false
  := by
  rw [readTopic, comparesEqual_0XC, Bool.or_false]
  constructor
  · intro heq
    split at heq
    · rename_i hpre
      constructor
      · exact ⟨substr s 2, Or.inr (Or.inl (eq_append_substr hpre)), heq⟩
      · apply Bool.eq_false_iff.mpr
        intro h0X
        rw [comparesEqual_iff] at hpre h0X
        rw [hpre] at h0X
        apply absurd h0X (by decide)
    · constructor
      · exact ⟨s, Or.inl rfl, heq⟩
      · apply comparesEqual_eq_false (c := 'X') hh heq (by decide) (by decide)
  · rintro ⟨⟨digits, rfl | rfl | rfl, hd⟩, h0X⟩
    · rw [comparesEqual_eq_false (c := 'x') hh hd (by decide) (by decide)]
      apply hd
    · rw [comparesEqual_append (by decide), if_pos rfl, substr_append (by decide)]
      apply hd
    · rw [comparesEqual_append (by decide)] at h0X
      cases h0X

end EventSubRequest

/-! ### Well-formed requests -/

/-- A slot of the member `topics`. -/
inductive TopicSlot where
  | any
  | one (topic : String)
  | anyOf (topics : List String)

namespace TopicSlot

def json : TopicSlot → Json
  | any => .null
  | one topic => .string topic
  | anyOf topics => .array (topics.map .string)

/-- The topics a slot lists. -/
def topics : TopicSlot → List String
  | any => []
  | one topic => [topic]
  | anyOf topics => topics

/-- The topics the decoder stores for a slot. -/
def stored : TopicSlot → List String
  | any => []
  | one topic => [topic]
  | anyOf topics => topics.map EventSubRequest.readTopic

/-- A slot lists a hash. -/
def Lists (slot : TopicSlot) (h : HashType) : Prop := ∃ topic ∈ slot.topics, Spells topic h.hex

/-- The decoder stores the hash, if the slot lists it: a single topic is not prefixed and in
lower case already, some topic of an array does not have the prefix `0X`. -/
def Keeps (slot : TopicSlot) (h : HashType) : Prop :=
  match slot with
  | any => True
  | one topic => Spells topic h.hex → topic = h.hex
  | anyOf topics =>
      slot.Lists h → ∃ topic ∈ topics, Spells topic h.hex ∧ comparesEqual topic 2 "0X" = false

/-- The stored topics of a slot have a hash exactly when the slot lists it and keeps it. -/
theorem hex_mem_stored_iff (slot : TopicSlot) (h : HashType) :
  h.hex ∈ slot.stored ↔ slot.Lists h ∧ slot.Keeps h
  := by
  cases slot with
  | any => simp [stored, Lists, topics]
  | one topic =>
      simp only [stored, Lists, topics, Keeps, List.mem_singleton, exists_eq_left]
      constructor
      · rintro rfl
        exact ⟨spells_self h.isLowerHex_hex, fun _ => rfl⟩
      · rintro ⟨hlists, hkeeps⟩
        exact (hkeeps hlists).symm
  | anyOf topics =>
      simp only [stored, Keeps, List.mem_map, EventSubRequest.readTopic_eq_iff h.isLowerHex_hex]
      constructor
      · rintro ⟨topic, hmem, hspells, h0X⟩
        constructor
        · exact ⟨topic, hmem, hspells⟩
        · exact fun _ => ⟨topic, hmem, hspells, h0X⟩
      · rintro ⟨hlists, hkeeps⟩
        exact hkeeps hlists

/-- The decoder stores a topic exactly when the slot lists one. -/
theorem stored_eq_nil_iff (slot : TopicSlot) :
  slot.stored = [] ↔ slot.topics = []
  := by
  cases slot <;> simp [stored, topics]

end TopicSlot

/-- A subscription request whose filter is an array of hexadecimal addresses and an array of
at most four topic slots. -/
structure FilterRequest where
  members : List (String × Json)
  id : String
  group : String
  jParams : List (String × Json)
  addresses : List String
  slots : List TopicSlot
  id_member : members.lookup "id" = some (.string id)
  group_member : members.lookup "group" = some (.string group)
  params_member : members.lookup "params" = some (.object jParams)
  fromBlock_member : ∀ j, jParams.lookup "fromBlock" = some j → ∃ n, j.asInt64 = .ok n
  toBlock_member : ∀ j, jParams.lookup "toBlock" = some j → ∃ n, j.asInt64 = .ok n
  addresses_member : jParams.lookup "addresses" = some (.array (addresses.map .string))
  topics_member : jParams.lookup "topics" = some (.array (slots.map TopicSlot.json))
  length_slots : slots.length ≤ EVENT_LOG_TOPICS_MAX_INDEX
  hex_addresses : ∀ address ∈ addresses, IsHexText address
  hex_topics : ∀ slot ∈ slots, ∀ topic ∈ slot.topics, IsHexText topic

namespace FilterRequest

def root (r : FilterRequest) : Json := .object r.members

/-- The log entries the request asks for. -/
def Accepts (r : FilterRequest) (logEntry : LogEntry) : Prop :=
  (r.addresses = [] ∨ ∃ address ∈ r.addresses, Spells address logEntry.address)
    ∧ ∀ (i : Nat) (slot : TopicSlot), r.slots[i]? = some slot → slot.topics ≠ [] →
      ∃ topic, logEntry.topics[i]? = some topic ∧ slot.Lists topic

/-- Some slot lists topics, but no hash, so that the request asks for no log entry. -/
def Unsatisfiable (r : FilterRequest) : Prop :=
  ∃ slot ∈ r.slots, slot.topics ≠ [] ∧ ∀ h, ¬ slot.Lists h

/-- Every slot keeps every hash, or the request asks for no log entry. -/
def Kept (r : FilterRequest) : Prop :=
  r.Unsatisfiable ∨ ∀ slot ∈ r.slots, ∀ h, slot.Keeps h

end FilterRequest

/-! ### The loops of the decoder -/

/-- A loop over indices that does not throw and keeps an invariant from one index to the next
ends with the invariant. -/
theorem foldlM_range_ok {β ε : Type} {f : β → Nat → Except ε β} {I : Nat → β → Prop} {n : Nat}
    (step : ∀ i < n, ∀ b, I i b → ∃ b', f b i = .ok b' ∧ I (i + 1) b') {b : β} (hb : I 0 b) :
  ∃ b', (List.range n).foldlM f b = .ok b' ∧ I n b'
  := by
  induction n with
  | zero => exact ⟨b, rfl, hb⟩
  | succ n ih =>
      obtain ⟨b₁, hrun, hI⟩ := ih fun i hi => step i (by omega)
      obtain ⟨b₂, hlast, hI'⟩ := step n (by omega) b₁ hI
      use b₂
      rw [List.range_succ, List.foldlM_append, hrun]
      constructor
      · show (List.foldlM f b₁ [n]) = _
        rw [List.foldlM_cons, hlast]
        rfl
      · apply hI'

/-- A loop over indices that succeeds keeps an invariant from one index to the next. -/
theorem foldlM_range_inv {β ε : Type} {f : β → Nat → Except ε β} (I : Nat → β → Prop) {n : Nat}
    (step : ∀ i < n, ∀ b b', I i b → f b i = .ok b' → I (i + 1) b') {b b' : β} (hb : I 0 b)
    (h : (List.range n).foldlM f b = .ok b') :
  I n b'
  := by
  induction n generalizing b' with
  | zero =>
      cases h
      exact hb
  | succ n ih =>
      rw [List.range_succ, List.foldlM_append] at h
      obtain ⟨b₁, hrun, hlast⟩ := Except.bind_eq_ok_iff.mp h
      rw [List.foldlM_cons] at hlast
      obtain ⟨b₂, hstep, hnil⟩ := Except.bind_eq_ok_iff.mp hlast
      cases hnil
      apply step n (by omega) b₁ b' _ hstep
      apply ih (fun i hi => step i (by omega)) hrun

namespace EventSubRequest

/-- The parameters after some addresses are read into `params`. -/
structure AddressesRead (params : EventSubParams) (addresses : List String)
    (params' : EventSubParams) : Prop where
  topics : params'.topics = params.topics
  addresses : ∀ a, a ∈ params'.addresses ↔ a ∈ params.addresses ∨ a ∈ addresses.map readAddress

theorem readAddresses_ok (addresses : List String) (params : EventSubParams) :
  ∃ params', readAddresses (.array (addresses.map .string)) params = .ok params'
    ∧ AddressesRead params addresses params'
  := by
  have hloop : ∃ params', readAddresses (.array (addresses.map .string)) params = .ok params'
      ∧ AddressesRead params (addresses.take (addresses.map Json.string).length) params' := by
    apply foldlM_range_ok (I := fun i => AddressesRead params (addresses.take i))
    · intro i hi p hp
      rw [Json.size_array, List.length_map] at hi
      use p.addAddress (readAddress addresses[i])
      constructor
      · simp [Json.item, Json.asString, hi]
      · constructor
        · apply hp.topics
        · intro a
          rw [List.take_add_one, List.getElem?_eq_getElem hi]
          simp only [EventSubParams.addAddress, Std.ExtTreeSet.mem_insert, hp.addresses,
            Option.toList_some, List.map_append, List.map_singleton, List.mem_append,
            List.mem_singleton]
          grind
    · constructor
      · rfl
      · simp
  rwa [List.length_map, List.take_length] at hloop

/-- The parameters after some topics of the slot at an index are read into `params`. -/
structure SlotRead (index : Nat) (params : EventSubParams) (topics : List String)
    (params' : EventSubParams) : Prop where
  addresses : params'.addresses = params.addresses
  length : params'.topics.length ≤ index + 1
  below : ∀ j < index, params'.slot j = params.slot j
  topics : ∀ t, t ∈ params'.slot index ↔ t ∈ topics

theorem SlotRead.start {index : Nat} {params : EventSubParams}
    (h : params.topics.length ≤ index) :
  SlotRead index params [] params
  := by
  constructor
  · rfl
  · omega
  · apply fun _ _ => rfl
  · intro t
    rw [EventSubParams.slot, List.getD_eq_getElem?_getD, List.getElem?_eq_none h]
    simp

theorem SlotRead.add {index : Nat} {params params' : EventSubParams} {topics : List String}
    (hidx : index < EVENT_LOG_TOPICS_MAX_INDEX) (h : SlotRead index params topics params')
    (topic : String) :
  SlotRead index params (topics ++ [topic]) (params'.addTopic index topic).1
  := by
  constructor
  · rw [EventSubParams.addTopic_addresses]
    apply h.addresses
  · apply (EventSubParams.length_addTopic hidx topic).le
  · intro j hj
    rw [EventSubParams.slot_addTopic hidx hj.le, if_neg hj.ne]
    apply h.below j hj
  · intro t
    rw [EventSubParams.slot_addTopic hidx le_rfl, if_pos rfl]
    simp only [Std.ExtTreeSet.mem_insert, h.topics, List.mem_append, List.mem_singleton]
    grind

theorem readSlot_ok {index : Nat} (hidx : index < EVENT_LOG_TOPICS_MAX_INDEX) (slot : TopicSlot)
    {params : EventSubParams} (hlen : params.topics.length ≤ index) :
  ∃ params', readSlot index slot.json params = .ok params'
    ∧ SlotRead index params slot.stored params'
  := by
  cases slot with
  | any => exact ⟨params, rfl, SlotRead.start hlen⟩
  | one topic => exact ⟨_, rfl, (SlotRead.start hlen).add hidx topic⟩
  | anyOf topics =>
      have hloop : ∃ params', readSlot index (.array (topics.map .string)) params = .ok params'
          ∧ SlotRead index params
            ((topics.take (topics.map Json.string).length).map readTopic) params' := by
        apply foldlM_range_ok
          (I := fun i => SlotRead index params ((topics.take i).map readTopic))
        · intro i hi p hp
          rw [Json.size_array, List.length_map] at hi
          use (p.addTopic index (readTopic topics[i])).1
          constructor
          · simp [Json.item, Json.asString, hi]
          · rw [List.take_add_one, List.getElem?_eq_getElem hi, Option.toList_some,
              List.map_append, List.map_singleton]
            apply hp.add hidx _
        · apply SlotRead.start hlen
      rwa [List.length_map, List.take_length] at hloop

/-- The parameters after some slots are read into `params`. -/
structure TopicsRead (params : EventSubParams) (slots : List TopicSlot)
    (params' : EventSubParams) : Prop where
  addresses : params'.addresses = params.addresses
  length : params'.topics.length ≤ slots.length
  topics : ∀ (i : Nat) (slot : TopicSlot), slots[i]? = some slot →
    ∀ t, t ∈ params'.slot i ↔ t ∈ slot.stored

theorem TopicsRead.add {params params' params'' : EventSubParams} {slots : List TopicSlot}
    {slot : TopicSlot} (h : TopicsRead params slots params')
    (hslot : SlotRead slots.length params' slot.stored params'') :
  TopicsRead params (slots ++ [slot]) params''
  := by
  constructor
  · rw [hslot.addresses, h.addresses]
  · rw [List.length_append, List.length_singleton]
    apply hslot.length
  · intro i slot' hi t
    rcases Nat.lt_or_ge i slots.length with hlt | hge
    · rw [List.getElem?_append_left hlt] at hi
      rw [hslot.below i hlt]
      apply h.topics i slot' hi t
    · rw [List.getElem?_append_right hge, List.getElem?_singleton] at hi
      split at hi
      · rename_i h0
        obtain rfl := Option.some.inj hi
        obtain rfl : i = slots.length := by omega
        apply hslot.topics t
      · cases hi

theorem readTopics_ok {slots : List TopicSlot} (hlen : slots.length ≤ EVENT_LOG_TOPICS_MAX_INDEX)
    {params : EventSubParams} (hnil : params.topics = []) :
  ∃ params', readTopics (.array (slots.map TopicSlot.json)) params = .ok params'
    ∧ TopicsRead params slots params'
  := by
  have hloop : ∃ params', readTopics (.array (slots.map TopicSlot.json)) params = .ok params'
      ∧ TopicsRead params (slots.take (slots.map TopicSlot.json).length) params' := by
    apply foldlM_range_ok (I := fun i => TopicsRead params (slots.take i))
    · intro i hi p hp
      rw [Json.size_array, List.length_map] at hi
      have htake : (slots.take i).length = i := by rw [List.length_take]; omega
      have hp_len : p.topics.length ≤ i := by simpa [htake] using hp.length
      obtain ⟨p', hread, hslot⟩ := readSlot_ok (by omega) slots[i] hp_len
      use p'
      constructor
      · simp [Json.item, hi]
        apply hread
      · rw [List.take_add_one, List.getElem?_eq_getElem hi, Option.toList_some]
        apply hp.add
        rwa [htake]
    · constructor
      · rfl
      · simp [hnil]
      · simp
  rwa [List.length_map, List.take_length] at hloop

end EventSubRequest

/-! ### The parameters of a request -/

namespace FilterRequest

variable (r : FilterRequest)

/-- The parameters hold what the decoder stores for the addresses and the slots of the
request. -/
structure Decoded (params : EventSubParams) : Prop where
  addresses : ∀ a, a ∈ params.addresses ↔ a ∈ r.addresses.map EventSubRequest.readAddress
  length : params.topics.length ≤ r.slots.length
  topics : ∀ (i : Nat) (slot : TopicSlot), r.slots[i]? = some slot →
    ∀ t, t ∈ params.slot i ↔ t ∈ slot.stored

/-- Reading an optional block number leaves the addresses and the topics as they are. -/
theorem readMember_int64_ok {ms : List (String × Json)} {key : String}
    (hint : ∀ j, ms.lookup key = some j → ∃ n, j.asInt64 = .ok n)
    (assign : EventSubParams → Int → EventSubParams)
    (haddr : ∀ p n, (assign p n).addresses = p.addresses)
    (htop : ∀ p n, (assign p n).topics = p.topics) (params : EventSubParams) :
  ∃ params', EventSubRequest.readMember key (fun j p => return assign p (← j.asInt64))
      (.object ms) params = .ok params'
    ∧ params'.addresses = params.addresses ∧ params'.topics = params.topics
  := by
  cases hlk : ms.lookup key with
  | none => exact ⟨params, EventSubRequest.readMember_missing hlk _ _, rfl, rfl⟩
  | some j =>
      obtain ⟨n, hn⟩ := hint j hlk
      use assign params n
      rw [EventSubRequest.readMember_object hlk, hn]
      exact ⟨rfl, haddr params n, htop params n⟩

theorem readParams_ok :
  ∃ params, EventSubRequest.readParams (.object r.jParams) = .ok params ∧ r.Decoded params
  := by
  obtain ⟨p₁, h₁, haddr₁, htop₁⟩ := readMember_int64_ok r.fromBlock_member
    (fun p n => { p with fromBlock := n }) (fun _ _ => rfl) (fun _ _ => rfl) {}
  obtain ⟨p₂, h₂, haddr₂, htop₂⟩ := readMember_int64_ok r.toBlock_member
    (fun p n => { p with toBlock := n }) (fun _ _ => rfl) (fun _ _ => rfl) p₁
  obtain ⟨p₃, h₃, haddrs⟩ := EventSubRequest.readAddresses_ok r.addresses p₂
  have hnil : p₃.topics = [] := by rw [haddrs.topics, htop₂, htop₁]
  obtain ⟨p₄, h₄, htops⟩ := EventSubRequest.readTopics_ok r.length_slots hnil
  use p₄
  constructor
  · simp only [EventSubRequest.readParams, h₁, h₂, Except.ok_bind,
      EventSubRequest.readMember_object r.addresses_member, h₃,
      EventSubRequest.readMember_object r.topics_member, h₄]
  · constructor
    · intro a
      rw [htops.addresses, haddrs.addresses, haddr₂, haddr₁]
      simp
    · apply htops.length
    · apply htops.topics

/-- The decoder accepts the request. -/
theorem fromJson_ok {parse : String → Option Json} {text : String}
    (hparse : parse text = some r.root) (self : EventSubRequest) :
  ∃ params, self.fromJson parse text
      = ({ self with id := r.id, group := r.group, params := some params }, true)
    ∧ r.Decoded params
  := by
  obtain ⟨params, hread, hdec⟩ := r.readParams_ok
  refine ⟨params, ?_, hdec⟩
  have hroot : EventSubRequest.read r.root = .ok (r.id, r.group, params) := by
    simp only [EventSubRequest.read, readIdGroup, root, Json.isMember, Json.member, r.id_member,
      r.group_member, r.params_member]
    show (EventSubRequest.readParams (.object r.jParams) >>= _) = _
    rw [hread]
    rfl
  rw [EventSubRequest.fromJson, hparse]
  simp only [hroot]

/-! ### The filter of a request -/

variable {r}

/-- The decoded parameters select the addresses the request asks for. -/
theorem Decoded.address_iff {params : EventSubParams} (h : r.Decoded params) {a : String}
    (ha : IsLowerHex a) :
  (params.addresses.isEmpty = true ∨ a ∈ params.addresses)
    ↔ (r.addresses = [] ∨ ∃ address ∈ r.addresses, Spells address a)
  := by
  have hmem : a ∈ params.addresses ↔ ∃ address ∈ r.addresses, Spells address a := by
    rw [h.addresses, List.mem_map]
    simp only [EventSubRequest.readAddress_eq_iff ha]
  have hempty : params.addresses.isEmpty = true ↔ r.addresses = [] := by
    rw [Table.isEmpty_iff_forall_not_mem]
    simp only [h.addresses]
    constructor
    · intro hnone
      apply List.eq_nil_iff_forall_not_mem.mpr
      apply fun address hmem => hnone _ (List.mem_map_of_mem hmem)
    · intro hnil
      simp [hnil]
  rw [hmem, hempty]

/-- The decoded parameters match the log entries whose topics are listed and kept by the
slots. -/
theorem Decoded.matchesEntry_iff {params : EventSubParams} (h : r.Decoded params)
    {logEntry : LogEntry} (ha : IsLowerHex logEntry.address) :
  EventSubMatcher.matchesEntry params logEntry = true
    ↔ (r.addresses = [] ∨ ∃ address ∈ r.addresses, Spells address logEntry.address)
      ∧ ∀ (i : Nat) (slot : TopicSlot), r.slots[i]? = some slot → slot.topics ≠ [] →
        ∃ topic, logEntry.topics[i]? = some topic ∧ slot.Lists topic ∧ slot.Keeps topic
  := by
  rw [EventSubMatcher.matchesEntry_iff, h.address_iff ha]
  apply and_congr_right
  intro _
  have hempty (i : Nat) (slot : TopicSlot) (hi : r.slots[i]? = some slot) :
      (params.slot i).isEmpty = false ↔ slot.topics ≠ [] := by
    rw [← Bool.not_eq_true, Table.isEmpty_iff_forall_not_mem, ne_eq,
      ← slot.stored_eq_nil_iff, List.eq_nil_iff_forall_not_mem]
    simp only [h.topics i slot hi]
  constructor
  · intro hall i slot hi hne
    have hlt : i < r.slots.length := (List.getElem?_eq_some_iff.mp hi).1
    obtain ⟨topic, htopic, hmem⟩ :=
      hall i (lt_of_lt_of_le hlt r.length_slots) ((hempty i slot hi).mpr hne)
    rw [h.topics i slot hi, slot.hex_mem_stored_iff] at hmem
    exact ⟨topic, htopic, hmem⟩
  · intro hall i hi hne
    rcases Nat.lt_or_ge i r.slots.length with hlt | hge
    · have hslot := List.getElem?_eq_getElem hlt
      obtain ⟨topic, htopic, hmem⟩ := hall i _ hslot ((hempty i _ hslot).mp hne)
      use topic, htopic
      rw [h.topics i _ hslot, TopicSlot.hex_mem_stored_iff]
      apply hmem
    · rw [EventSubParams.slot, List.getD_eq_getElem?_getD,
        List.getElem?_eq_none (le_trans h.length hge)] at hne
      simp at hne

/-! ### Exactness -/

variable (r)

/-- Some lower-case address is asked for. -/
theorem exists_address :
  ∃ a, IsLowerHex a ∧ (r.addresses = [] ∨ ∃ address ∈ r.addresses, Spells address a)
  := by
  cases hr : r.addresses with
  | nil => exact ⟨"", by simp [IsLowerHex], Or.inl rfl⟩
  | cons address rest =>
      obtain ⟨a, ha, hspells⟩ := r.hex_addresses address (by simp [hr])
      exact ⟨a, ha, Or.inr ⟨address, by simp, hspells⟩⟩

variable {r}

theorem not_keeps_lists {slot : TopicSlot} {h : HashType} (hk : ¬ slot.Keeps h) :
  slot.Lists h
  := by
  cases slot with
  | any => exact absurd trivial hk
  | one topic =>
      simp only [TopicSlot.Keeps, Classical.not_imp] at hk
      exact ⟨topic, by simp [TopicSlot.topics], hk.1⟩
  | anyOf topics =>
      simp only [TopicSlot.Keeps, Classical.not_imp] at hk
      apply hk.1

/-- When no slot excludes all hashes, every hash that a slot lists is a topic, at the position
of the slot, of a log entry the request asks for. -/
theorem exists_accepted (hsat : ¬ r.Unsatisfiable) {i : Nat} {slot : TopicSlot}
    (hi : r.slots[i]? = some slot) {h : HashType} (hlists : slot.Lists h) :
  ∃ logEntry : LogEntry, IsLowerHex logEntry.address ∧ logEntry.topics[i]? = some h
    ∧ r.Accepts logEntry
  := by
  obtain ⟨a, ha, haddr⟩ := r.exists_address
  have hsome (slot : TopicSlot) :
      ∃ h, slot ∈ r.slots → slot.topics ≠ [] → slot.Lists h := by
    by_cases hslot : slot ∈ r.slots ∧ slot.topics ≠ []
    · by_contra hnone
      push Not at hnone
      apply hsat ⟨slot, hslot.1, hslot.2, fun h => (hnone h).2.2⟩
    · exact ⟨default, fun hmem hne => absurd ⟨hmem, hne⟩ hslot⟩
  choose f hf using hsome
  have hlt : i < r.slots.length := (List.getElem?_eq_some_iff.mp hi).1
  use ⟨a, (r.slots.map f).set i h, []⟩, ha
  constructor
  · apply List.getElem?_set_self (by rwa [List.length_map])
  · use haddr
    intro j slot' hj hne
    by_cases hij : i = j
    · subst hij
      obtain rfl := Option.some.inj (hi.symm.trans hj)
      exact ⟨h, List.getElem?_set_self (by rwa [List.length_map]), hlists⟩
    · use f slot'
      constructor
      · show ((r.slots.map f).set i h)[j]? = _
        rw [List.getElem?_set_ne hij, List.getElem?_map, hj]
        rfl
      · apply hf slot' (List.mem_of_getElem? hj) hne

/-- The decoded parameters match the log entries the request asks for exactly when every
slot keeps every hash, or the request asks for none. -/
theorem Decoded.matches_iff {params : EventSubParams} (h : r.Decoded params) :
  (∀ logEntry : LogEntry, IsLowerHex logEntry.address →
      (EventSubMatcher.matchesEntry params logEntry = true ↔ r.Accepts logEntry))
    ↔ r.Kept
  := by
  constructor
  · intro hall
    by_contra hkept
    rw [Kept, not_or] at hkept
    obtain ⟨hsat, hkeeps⟩ := hkept
    push Not at hkeeps
    obtain ⟨slot, hmem, hash, hnot⟩ := hkeeps
    obtain ⟨i, hi⟩ := List.mem_iff_getElem?.mp hmem
    have hlists := not_keeps_lists hnot
    have hne : slot.topics ≠ [] := by
      obtain ⟨topic, htopic, _⟩ := hlists
      apply List.ne_nil_of_mem htopic
    obtain ⟨logEntry, ha, htopic, hacc⟩ := exists_accepted hsat hi hlists
    have hmatch := (h.matchesEntry_iff ha).mp ((hall logEntry ha).mpr hacc)
    obtain ⟨topic, htopic', _, hk⟩ := hmatch.2 i slot hi hne
    obtain rfl := Option.some.inj (htopic.symm.trans htopic')
    apply hnot hk
  · intro hkept logEntry ha
    rw [h.matchesEntry_iff ha, Accepts]
    apply and_congr_right
    intro _
    rcases hkept with ⟨slot, hmem, hne, hnone⟩ | hkeeps
    · obtain ⟨i, hi⟩ := List.mem_iff_getElem?.mp hmem
      constructor
      · intro hall
        obtain ⟨topic, _, hlists, _⟩ := hall i slot hi hne
        apply absurd hlists (hnone topic)
      · intro hall
        obtain ⟨topic, _, hlists⟩ := hall i slot hi hne
        apply absurd hlists (hnone topic)
    · constructor
      · intro hall i slot hi hne
        obtain ⟨topic, htopic, hlists, _⟩ := hall i slot hi hne
        exact ⟨topic, htopic, hlists⟩
      · intro hall i slot hi hne
        obtain ⟨topic, htopic, hlists⟩ := hall i slot hi hne
        exact ⟨topic, htopic, hlists, hkeeps slot (List.mem_of_getElem? hi) topic⟩

variable (r)

/-- The decoder accepts a well-formed request, and its parameters match the log entries the
request asks for exactly when every slot keeps every hash, or the request asks for none. -/
theorem fromJson_matches_iff {parse : String → Option Json} {text : String}
    (hparse : parse text = some r.root) (self : EventSubRequest) :
  ∃ params, self.fromJson parse text
      = ({ self with id := r.id, group := r.group, params := some params }, true)
    ∧ ((∀ logEntry : LogEntry, IsLowerHex logEntry.address →
          (EventSubMatcher.matchesEntry params logEntry = true ↔ r.Accepts logEntry))
        ↔ r.Kept)
  := by
  obtain ⟨params, hjson, hdec⟩ := r.fromJson_ok hparse self
  exact ⟨params, hjson, hdec.matches_iff⟩

/-- A request with a single prefixed topic. -/
def prefixedTopic : FilterRequest where
  members := [("id", .string "1"), ("group", .string "group0"), ("params", .object
    [("addresses", .array []), ("topics", .array [.string HashType.zero.hexPrefixed])])]
  id := "1"
  group := "group0"
  jParams := [("addresses", .array []), ("topics", .array [.string HashType.zero.hexPrefixed])]
  addresses := []
  slots := [.one HashType.zero.hexPrefixed]
  id_member := rfl
  group_member := rfl
  params_member := rfl
  fromBlock_member := by simp [List.lookup_cons]
  toBlock_member := by simp [List.lookup_cons]
  addresses_member := rfl
  topics_member := rfl
  length_slots := by decide
  hex_addresses := by simp
  hex_topics := by
    intro slot hslot topic htopic
    obtain rfl := List.mem_singleton.mp hslot
    obtain rfl := List.mem_singleton.mp htopic
    use HashType.zero.hex, HashType.zero.isLowerHex_hex
    exact ⟨HashType.zero.hex, Or.inr (Or.inl rfl), by decide⟩

def prefixedTopicText : String :=
  "\x7b\"id\":\"1\",\"group\":\"group0\",\"params\":\x7b\"addresses\":[],\"topics\":[\""
    ++ HashType.zero.hexPrefixed ++ "\"]\x7d\x7d"

/-- The reading of the text of `prefixedTopic`. -/
def parsePrefixedTopic (text : String) : Option Json :=
  if text = prefixedTopicText then some prefixedTopic.root else none

theorem fromJson_matches_iff_prefixedTopic :
  ∃ params, ({} : EventSubRequest).fromJson parsePrefixedTopic prefixedTopicText
      = ({ id := "1", group := "group0", params := some params }, true)
    ∧ ((∀ logEntry : LogEntry, IsLowerHex logEntry.address →
          (EventSubMatcher.matchesEntry params logEntry = true ↔ prefixedTopic.Accepts logEntry))
        ↔ prefixedTopic.Kept)
  := prefixedTopic.fromJson_matches_iff (if_pos rfl) {}

/-- The log entry with the hash that `prefixedTopic` lists is asked for, but not matched. -/
theorem fromJson_matches_counterexample :
  ¬ ∀ (r : FilterRequest) (parse : String → Option Json) (text : String),
      parse text = some r.root → ∃ params, ({} : EventSubRequest).fromJson parse text
          = ({ id := r.id, group := r.group, params := some params }, true)
        ∧ ∀ logEntry : LogEntry, IsLowerHex logEntry.address →
          (EventSubMatcher.matchesEntry params logEntry = true ↔ r.Accepts logEntry)
  := by
  intro h
  obtain ⟨params, hjson, hall⟩ := h prefixedTopic parsePrefixedTopic prefixedTopicText (if_pos rfl)
  have hacc : prefixedTopic.Accepts ⟨"", [HashType.zero], []⟩ := by
    use Or.inl rfl
    intro i slot hi _
    obtain ⟨rfl, rfl⟩ : i = 0 ∧ TopicSlot.one HashType.zero.hexPrefixed = slot := by
      cases i with
      | zero => exact ⟨rfl, Option.some.inj hi⟩
      | succ i => cases hi
    use HashType.zero, rfl, HashType.zero.hexPrefixed, List.mem_singleton_self _
    exact ⟨HashType.zero.hex, Or.inr (Or.inl rfl), by decide⟩
  have hmatch := (hall ⟨"", [HashType.zero], []⟩ (by simp [IsLowerHex])).mpr hacc
  have hrun : (({} : EventSubRequest).fromJson (fun _ => some prefixedTopic.root) "").1.params.map
      (fun p => EventSubMatcher.matchesEntry p ⟨"", [HashType.zero], []⟩) = some false := by decide
  have hsame : ({} : EventSubRequest).fromJson parsePrefixedTopic prefixedTopicText
      = ({} : EventSubRequest).fromJson (fun _ => some prefixedTopic.root) "" := by
    rw [EventSubRequest.fromJson, EventSubRequest.fromJson, parsePrefixedTopic, if_pos rfl]
  rw [← hsame, hjson, Option.map_some, hmatch] at hrun
  apply absurd hrun (by decide)

end FilterRequest
