import BcosRpc.Event.Filter

/-!
# Filters that are widened

The decoder of subscription requests walks its members by size and index. What it does not walk
is dropped: a text in the place of an array, which has no elements, and the topics of a slot no
log has. A request that is accepted with such a part asks for less than it says.
-/

/-! ### Components of a filter -/

namespace EventSubRequest

/-- A topic is in a slot, as it is or as the topics of an array are stored. -/
def HasTopic (params : EventSubParams) (i : Nat) (topic : String) : Prop :=
  topic ∈ params.slot i ∨ readTopic topic ∈ params.slot i

/-- Every text of the member `addresses` is an address of the parameters, and every text of an
element of `topics` is in the slot of the element. A topic that is in no element is in any
slot. -/
structure Represents (jParams : Json) (params : EventSubParams) : Prop where
  addresses : ∀ j, jParams.find "addresses" = some j → ∀ a ∈ j.strings,
    readAddress a ∈ params.addresses
  slots : ∀ items, jParams.find "topics" = some (.array items) → ∀ i j, items[i]? = some j →
    ∀ t ∈ j.strings, HasTopic params i t
  topics : ∀ j, jParams.find "topics" = some j → j.isArray = false → ∀ t ∈ j.strings,
    ∃ i, HasTopic params i t

/-- A text stands in the place of an array, or in a slot no log has. -/
inductive Drops (jParams : Json) : Prop where
  | address (a : String) : jParams.find "addresses" = some (.string a) → Drops jParams
  | topic (t : String) : jParams.find "topics" = some (.string t) → Drops jParams
  | slot (items : List Json) (i : Nat) (j : Json) (t : String) :
      jParams.find "topics" = some (.array items) → items[i]? = some j →
      EVENT_LOG_TOPICS_MAX_INDEX ≤ i → t ∈ j.strings → Drops jParams

/-- Every component of the filter of a request is in the parameters decoded from it. -/
def KeepsFilter (root : Json) (request : EventSubRequest) : Prop :=
  ∃ jParams params, root.find "params" = some jParams ∧ request.params = some params
    ∧ Represents jParams params

/-- A request drops a component of its filter. -/
def DropsComponent (root : Json) : Prop :=
  ∃ jParams, root.find "params" = some jParams ∧ Drops jParams

/-! ### What the loops leave as it is -/

theorem readAddresses_frame {j : Json} {params params' : EventSubParams}
    (h : readAddresses j params = .ok params') :
  ∃ addresses, params' = { params with addresses := addresses }
  := by
  apply foldlM_range_inv (fun _ q => ∃ addresses, q = { params with addresses := addresses }) _ _ h
  · rintro i _ _ b' ⟨addresses, rfl⟩ hstep
    obtain ⟨x, _, hstep⟩ := Except.bind_eq_ok_iff.mp hstep
    obtain ⟨address, _, hstep⟩ := Except.bind_eq_ok_iff.mp hstep
    cases hstep
    exact ⟨_, rfl⟩
  · exact ⟨_, rfl⟩

theorem addTopic_frame (params : EventSubParams) (index : Nat) (topic : String) :
  ∃ topics, (params.addTopic index topic).1 = { params with topics := topics }
  := by
  rw [EventSubParams.addTopic]
  split
  · exact ⟨_, rfl⟩
  · exact ⟨_, rfl⟩

theorem readSlot_frame {index : Nat} {j : Json} {params params' : EventSubParams}
    (h : readSlot index j params = .ok params') :
  ∃ topics, params' = { params with topics := topics }
  := by
  rw [readSlot] at h
  split at h
  · cases h
    exact ⟨_, rfl⟩
  · split at h
    · apply foldlM_range_inv (fun _ q => ∃ topics, q = { params with topics := topics }) _ _ h
      · rintro i _ _ b' ⟨topics, rfl⟩ hstep
        obtain ⟨x, _, hstep⟩ := Except.bind_eq_ok_iff.mp hstep
        obtain ⟨topic, _, hstep⟩ := Except.bind_eq_ok_iff.mp hstep
        cases hstep
        obtain ⟨topics', htopics⟩ :=
          addTopic_frame { params with topics := topics } index (readTopic topic)
        exact ⟨topics', htopics⟩
      · exact ⟨_, rfl⟩
    · obtain ⟨topic, _, hstep⟩ := Except.bind_eq_ok_iff.mp h
      cases hstep
      apply addTopic_frame

theorem readTopics_frame {j : Json} {params params' : EventSubParams}
    (h : readTopics j params = .ok params') :
  ∃ topics, params' = { params with topics := topics }
  := by
  apply foldlM_range_inv (fun _ q => ∃ topics, q = { params with topics := topics }) _ _ h
  · rintro i _ _ b' ⟨topics, rfl⟩ hstep
    obtain ⟨x, _, hstep⟩ := Except.bind_eq_ok_iff.mp hstep
    obtain ⟨topics', htopics⟩ := readSlot_frame hstep
    exact ⟨topics', htopics⟩
  · exact ⟨_, rfl⟩

/-! ### What the loops read -/

/-- A loop over the elements of an object does not succeed, unless there is none. -/
theorem length_eq_zero_of_loop {β : Type} {ms : List (String × Json)} {b b' : β}
    {read : β → Nat → Json → Except String β}
    (h : (List.range ms.length).foldlM
      (fun b i => (Json.object ms).item i >>= read b i) b = .ok b') :
  ms = []
  := by
  apply List.eq_nil_of_length_eq_zero
  apply foldlM_range_inv (fun i _ => i = 0) _ rfl h
  rintro i _ b b' _ hstep
  cases hstep

theorem mem_addresses_of_readAddresses {j : Json} {params params' : EventSubParams}
    (h : readAddresses j params = .ok params') (hstring : ∀ a, j ≠ .string a) {a : String}
    (ha : a ∈ j.strings) :
  readAddress a ∈ params'.addresses
  := by
  cases j with
  | string s => exact absurd rfl (hstring s)
  | object ms =>
      obtain rfl := length_eq_zero_of_loop h
      cases ha
  | array items =>
      obtain ⟨x, hx, ha⟩ := (Json.mem_stringsOfItems_iff items).mp ha
      obtain ⟨k, hk⟩ := List.getElem?_of_mem hx
      have hinv : ∀ k < items.length, ∀ x, items[k]? = some x → ∀ a ∈ x.strings,
          readAddress a ∈ params'.addresses := by
        apply foldlM_range_inv (fun i q => ∀ k < i, ∀ x, items[k]? = some x → ∀ a ∈ x.strings,
          readAddress a ∈ q.addresses) _ _ h
        · intro i hi q q' hq hstep k hk x hx a ha
          obtain ⟨_, ⟨⟩, hstep⟩ := Except.bind_eq_ok_iff.mp hstep
          obtain ⟨address, haddress, hstep⟩ := Except.bind_eq_ok_iff.mp hstep
          cases hstep
          rw [EventSubParams.addAddress, Std.ExtTreeSet.mem_insert]
          obtain hlt | rfl := Nat.lt_succ_iff_lt_or_eq.mp hk
          · apply Or.inr (hq k hlt x hx a ha)
          · left
            rw [List.getD_eq_getElem?_getD, hx, Option.getD_some] at haddress
            rw [Json.eq_of_mem_strings haddress ha]
            apply Std.ReflCmp.compare_self
        · intro k hk
          cases hk
      apply hinv k (List.getElem?_eq_some_iff.mp hk).1 x hk a ha
  | _ => cases ha

/-- The parameters after the slot at an index is read into `params`, with every text of the
slot. -/
structure SlotFilled (index : Nat) (j : Json) (params params' : EventSubParams) : Prop where
  length : params'.topics.length ≤ index + 1
  below : ∀ i < index, params'.slot i = params.slot i
  topics : ∀ t ∈ j.strings, HasTopic params' index t

theorem slotFilled_addTopic {index : Nat} (hidx : index < EVENT_LOG_TOPICS_MAX_INDEX)
    {j : Json} {topic : String} (htopic : j.asString = .ok topic) (params : EventSubParams) :
  SlotFilled index j params (params.addTopic index topic).1
  := by
  constructor
  · apply (EventSubParams.length_addTopic hidx topic).le
  · intro i hi
    rw [EventSubParams.slot_addTopic hidx hi.le, if_neg hi.ne]
  · intro t ht
    left
    rw [Json.eq_of_mem_strings htopic ht, EventSubParams.slot_addTopic hidx le_rfl, if_pos rfl]
    simp

/-- The loop over a slot has added the topics of its first items. -/
structure ItemsAdded (index : Nat) (items : List Json) (params : EventSubParams) (i : Nat)
    (q : EventSubParams) : Prop where
  length : q.topics.length ≤ index + 1
  below : ∀ k < index, q.slot k = params.slot k
  topics : ∀ k < i, ∀ x, items[k]? = some x → ∀ t ∈ x.strings, readTopic t ∈ q.slot index

theorem ItemsAdded.addTopic {index : Nat} (hidx : index < EVENT_LOG_TOPICS_MAX_INDEX)
    {items : List Json} {params q : EventSubParams} {i : Nat} {topic : String}
    (h : ItemsAdded index items params i q)
    (htopic : (items.getD i .null).asString = .ok topic) :
  ItemsAdded index items params (i + 1) (q.addTopic index (readTopic topic)).1
  := by
  constructor
  · apply (EventSubParams.length_addTopic hidx _).le
  · intro k hk
    rw [EventSubParams.slot_addTopic hidx hk.le, if_neg hk.ne]
    apply h.below k hk
  · intro k hk x hx t ht
    rw [EventSubParams.slot_addTopic hidx le_rfl, if_pos rfl, Std.ExtTreeSet.mem_insert]
    obtain hlt | rfl := Nat.lt_succ_iff_lt_or_eq.mp hk
    · apply Or.inr (h.topics k hlt x hx t ht)
    · left
      rw [List.getD_eq_getElem?_getD, hx, Option.getD_some] at htopic
      rw [Json.eq_of_mem_strings htopic ht]
      apply Std.ReflCmp.compare_self

theorem readSlot_inv {index : Nat} (hidx : index < EVENT_LOG_TOPICS_MAX_INDEX) {j : Json}
    {params params' : EventSubParams} (hlen : params.topics.length ≤ index)
    (h : readSlot index j params = .ok params') :
  SlotFilled index j params params'
  := by
  cases j with
  | null =>
      cases h
      constructor
      · omega
      · apply fun _ _ => rfl
      · intro t ht
        cases ht
  | array items =>
      have hinv : ItemsAdded index items params items.length params' := by
        apply foldlM_range_inv (fun i q => ItemsAdded index items params i q) _ _ h
        · rintro i _ q q' hq hstep
          obtain ⟨_, ⟨⟩, hstep⟩ := Except.bind_eq_ok_iff.mp hstep
          obtain ⟨topic, htopic, hstep⟩ := Except.bind_eq_ok_iff.mp hstep
          cases hstep
          apply hq.addTopic hidx htopic
        · constructor
          · omega
          · apply fun _ _ => rfl
          · intro k hk
            cases hk
      constructor
      · apply hinv.length
      · apply hinv.below
      · intro t ht
        obtain ⟨x, hx, ht⟩ := (Json.mem_stringsOfItems_iff items).mp ht
        obtain ⟨k, hk⟩ := List.getElem?_of_mem hx
        apply Or.inr (hinv.topics k (List.getElem?_eq_some_iff.mp hk).1 x hk t ht)
  | _ =>
      obtain ⟨topic, htopic, hstep⟩ := Except.bind_eq_ok_iff.mp h
      cases hstep
      apply slotFilled_addTopic hidx htopic

/-- A slot no log has changes nothing. -/
theorem readSlot_beyond {index : Nat} (hidx : EVENT_LOG_TOPICS_MAX_INDEX ≤ index) {j : Json}
    {params params' : EventSubParams} (h : readSlot index j params = .ok params') :
  params' = params
  := by
  have hadd : ∀ topic, (params.addTopic index topic).1 = params := by
    intro topic
    rw [EventSubParams.addTopic, if_pos hidx]
  rw [readSlot] at h
  split at h
  · cases h
    rfl
  · split at h
    · apply foldlM_range_inv (fun _ q => q = params) _ rfl h
      rintro i _ _ q' rfl hstep
      obtain ⟨x, _, hstep⟩ := Except.bind_eq_ok_iff.mp hstep
      obtain ⟨topic, _, hstep⟩ := Except.bind_eq_ok_iff.mp hstep
      cases hstep
      apply hadd
    · obtain ⟨topic, _, hstep⟩ := Except.bind_eq_ok_iff.mp h
      cases hstep
      apply hadd

/-- The slots a log has are read, and no other one. -/
theorem readTopics_inv {items : List Json} {params params' : EventSubParams}
    (hnil : params.topics = []) (h : readTopics (.array items) params = .ok params') :
  params'.topics.length ≤ EVENT_LOG_TOPICS_MAX_INDEX
    ∧ ∀ i < EVENT_LOG_TOPICS_MAX_INDEX, ∀ j, items[i]? = some j → ∀ t ∈ j.strings,
      HasTopic params' i t
  := by
  have hinv : (params'.topics.length ≤ items.length
        ∧ params'.topics.length ≤ EVENT_LOG_TOPICS_MAX_INDEX)
      ∧ ∀ k < items.length, k < EVENT_LOG_TOPICS_MAX_INDEX → ∀ j, items[k]? = some j →
        ∀ t ∈ j.strings, HasTopic params' k t := by
    apply foldlM_range_inv (fun i q =>
      (q.topics.length ≤ i ∧ q.topics.length ≤ EVENT_LOG_TOPICS_MAX_INDEX)
        ∧ ∀ k < i, k < EVENT_LOG_TOPICS_MAX_INDEX → ∀ j, items[k]? = some j →
          ∀ t ∈ j.strings, HasTopic q k t) _ _ h
    · rintro i hi q q' ⟨⟨hlen, hmax⟩, hq⟩ hstep
      obtain ⟨_, ⟨⟩, hstep⟩ := Except.bind_eq_ok_iff.mp hstep
      obtain hidx | hidx := Nat.lt_or_ge i EVENT_LOG_TOPICS_MAX_INDEX
      · have hfilled := readSlot_inv hidx hlen hstep
        have hlength := hfilled.length
        use ⟨hlength, by omega⟩
        intro k hk hkmax j hj t ht
        obtain hlt | rfl := Nat.lt_succ_iff_lt_or_eq.mp hk
        · rw [HasTopic, hfilled.below k hlt]
          apply hq k hlt hkmax j hj t ht
        · apply hfilled.topics t
          rwa [List.getD_eq_getElem?_getD, hj]
      · obtain rfl := readSlot_beyond hidx hstep
        use ⟨by omega, hmax⟩
        intro k hk hkmax
        apply hq k (by omega) hkmax
    · simp [hnil]
  use hinv.1.2
  intro i hi j hj
  apply hinv.2 i (List.getElem?_eq_some_iff.mp hj).1 hi j hj

/-! ### The parameters -/

/-- What the parameters are read from, each part in turn. -/
structure ParamsRead (jParams : Json) (p p' params : EventSubParams) : Prop where
  no_addresses : p.addresses = ∅
  no_topics : p.topics = []
  fromBlock : (jParams.find "fromBlock").elim (params.fromBlock = -1) fun j =>
    j.asInt64 = .ok params.fromBlock
  toBlock : (jParams.find "toBlock").elim (params.toBlock = -1) fun j =>
    j.asInt64 = .ok params.toBlock
  addresses : (jParams.find "addresses").elim (p' = p) fun j => readAddresses j p = .ok p'
  topics : (jParams.find "topics").elim (params = p') fun j => readTopics j p' = .ok params

theorem readMember_int64_inv {key : String} (assign : EventSubParams → Int → EventSubParams)
    (default : Int) {jParams : Json} {params params' : EventSubParams}
    (hdefault : assign params default = params)
    (h : readMember key (fun j params => return assign params (← j.asInt64)) jParams params
      = .ok params') :
  ∃ n, params' = assign params n
    ∧ (jParams.find key).elim (n = default) fun j => j.asInt64 = .ok n
  := by
  have hmember := readMember_eq_ok h
  cases hj : jParams.find key with
  | none =>
      rw [hj] at hmember
      exact ⟨default, hmember.trans hdefault.symm, rfl⟩
  | some j =>
      rw [hj] at hmember
      obtain ⟨n, hn, hassign⟩ := Except.bind_eq_ok_iff.mp hmember
      cases hassign
      exact ⟨n, rfl, hn⟩

/-- Reading a member changes what its reader changes. -/
theorem readMember_frame {X : Type} {key : String} (assign : EventSubParams → X → EventSubParams)
    {read : Json → EventSubParams → Except String EventSubParams} {jParams : Json}
    {params params' : EventSubParams} {x : X} (hx : assign params x = params)
    (hread : ∀ j, read j params = .ok params' → ∃ x, params' = assign params x)
    (h : readMember key read jParams params = .ok params') :
  ∃ x, params' = assign params x
  := by
  have hmember := readMember_eq_ok h
  cases hj : jParams.find key with
  | none =>
      rw [hj] at hmember
      exact ⟨x, hmember.trans hx.symm⟩
  | some j =>
      rw [hj] at hmember
      apply hread j hmember

theorem readParams_inv {jParams : Json} {params : EventSubParams}
    (h : readParams jParams = .ok params) :
  ∃ p p', ParamsRead jParams p p' params
  := by
  obtain ⟨p₁, h₁, h⟩ := Except.bind_eq_ok_iff.mp h
  obtain ⟨p₂, h₂, h⟩ := Except.bind_eq_ok_iff.mp h
  obtain ⟨p₃, h₃, h₄⟩ := Except.bind_eq_ok_iff.mp h
  obtain ⟨n, rfl, hfrom⟩ := readMember_int64_inv
    (fun p n => { p with fromBlock := n }) (-1) rfl h₁
  obtain ⟨m, rfl, hto⟩ := readMember_int64_inv
    (fun p n => { p with toBlock := n }) (-1) rfl h₂
  have haddresses := readMember_eq_ok h₃
  have htopics := readMember_eq_ok h₄
  obtain ⟨addresses, rfl⟩ := readMember_frame (fun p x => { p with addresses := x })
    rfl (fun _ => readAddresses_frame) h₃
  obtain ⟨topics, rfl⟩ := readMember_frame (fun p x => { p with topics := x })
    rfl (fun _ => readTopics_frame) h₄
  exact ⟨_, _, ⟨rfl, rfl, hfrom, hto, haddresses, htopics⟩⟩

/-! ### What is dropped -/

theorem slot_eq_empty {params : EventSubParams} {i : Nat} (h : params.topics.length ≤ i) :
  params.slot i = ∅
  := by
  rw [EventSubParams.slot, List.getD_eq_getElem?_getD, List.getElem?_eq_none h]
  rfl

theorem not_hasTopic {params : EventSubParams} {i : Nat} (h : params.topics.length ≤ i)
    (topic : String) :
  ¬ HasTopic params i topic
  := by
  rw [HasTopic, slot_eq_empty h]
  simp

section

variable {jParams : Json} {p p' params : EventSubParams}

/-- The topics leave the addresses as they are. -/
theorem ParamsRead.addresses_eq (h : ParamsRead jParams p p' params) :
  params.addresses = p'.addresses
  := by
  have htopics := h.topics
  cases hj : jParams.find "topics" with
  | none =>
      rw [hj] at htopics
      rw [show params = p' from htopics]
  | some j =>
      rw [hj] at htopics
      obtain ⟨topics, rfl⟩ := readTopics_frame htopics
      rfl

/-- The addresses leave the topics as they are. -/
theorem ParamsRead.topics_eq_nil (h : ParamsRead jParams p p' params) :
  p'.topics = []
  := by
  have haddresses := h.addresses
  cases hj : jParams.find "addresses" with
  | none =>
      rw [hj] at haddresses
      rw [show p' = p from haddresses, h.no_topics]
  | some j =>
      rw [hj] at haddresses
      obtain ⟨addresses, rfl⟩ := readAddresses_frame haddresses
      apply h.no_topics

/-- What is dropped is not in the parameters. -/
theorem ParamsRead.not_represents (h : ParamsRead jParams p p' params) (hdrops : Drops jParams) :
  ¬ Represents jParams params
  := by
  intro hrep
  have haddresses := h.addresses
  have htopics := h.topics
  cases hdrops with
  | address a ha =>
      have hmem := hrep.addresses _ ha a (by simp [Json.strings])
      rw [ha] at haddresses
      cases haddresses
      rw [h.addresses_eq, h.no_addresses] at hmem
      simp at hmem
  | topic t ht =>
      obtain ⟨i, hmem⟩ := hrep.topics _ ht rfl t (by simp [Json.strings])
      rw [ht] at htopics
      cases htopics
      apply not_hasTopic _ t hmem
      simp [h.topics_eq_nil]
  | slot items i j t hitems hj hi ht =>
      have hmem := hrep.slots items hitems i j hj t ht
      rw [hitems] at htopics
      apply not_hasTopic _ t hmem
      apply (readTopics_inv h.topics_eq_nil htopics).1.trans hi

/-- Where nothing is dropped, all is in the parameters. -/
theorem ParamsRead.represents (h : ParamsRead jParams p p' params) (hdrops : ¬ Drops jParams) :
  Represents jParams params
  := by
  have haddresses := h.addresses
  have htopics := h.topics
  constructor
  · intro j hj a ha
    rw [hj] at haddresses
    rw [h.addresses_eq]
    apply mem_addresses_of_readAddresses haddresses _ ha
    rintro s rfl
    apply hdrops (.address s hj)
  · intro items hitems i j hj t ht
    rw [hitems] at htopics
    obtain hi | hi := Nat.lt_or_ge i EVENT_LOG_TOPICS_MAX_INDEX
    · apply (readTopics_inv h.topics_eq_nil htopics).2 i hi j hj t ht
    · apply absurd (.slot items i j t hitems hj hi ht) hdrops
  · intro j hj harray t ht
    rw [hj] at htopics
    cases j with
    | string s => exact absurd (.topic s hj) hdrops
    | object ms =>
        obtain rfl := length_eq_zero_of_loop htopics
        cases ht
    | array items => cases harray
    | _ => cases ht

end

/-- The parameters keep the filter exactly when nothing of it is dropped. -/
theorem represents_iff {jParams : Json} {params : EventSubParams}
    (h : readParams jParams = .ok params) :
  Represents jParams params ↔ ¬ Drops jParams
  := by
  obtain ⟨p, p', hread⟩ := readParams_inv h
  constructor
  · intro hrep hdrops
    apply hread.not_represents hdrops hrep
  · apply hread.represents

/-- An accepted request keeps its filter exactly when it drops no component. -/
theorem keepsFilter_iff {parse : String → Option Json} {self request : EventSubRequest}
    {text : String} (h : self.fromJson parse text = (request, true)) :
  (∃ root, parse text = some root ∧ KeepsFilter root request)
    ↔ ∃ root, parse text = some root ∧ ¬ DropsComponent root
  := by
  obtain ⟨root, id, group, params, hroot, hread, rfl⟩ := fromJson_eq_true_iff.mp h
  obtain ⟨jParams, hjParams, hparams⟩ := hread.params
  simp only [hroot, Option.some.injEq, exists_eq_left', KeepsFilter, DropsComponent, hjParams,
    exists_and_left]
  apply represents_iff hparams

/-- A request with one address and a topic in the second slot. -/
def narrowText : String :=
  "\x7b\"group\":\"group\",\"id\":\"0x1\",\"params\":\x7b\"addresses\":[\"0xca5e\"],"
    ++ "\"topics\":[null,[\"0x91c9\"]]\x7d\x7d"

def narrowRoot : Json :=
  .object [("group", .string "group"), ("id", .string "0x1"),
    ("params", .object [("addresses", .array [.string "0xca5e"]),
      ("topics", .array [.null, .array [.string "0x91c9"]])])]

/-- A request whose address is in no array. -/
def scalarText : String :=
  "\x7b\"group\":\"group\",\"id\":\"0x1\",\"params\":\x7b\"addresses\":\"0xca5e\"\x7d\x7d"

def scalarRoot : Json :=
  .object [("group", .string "group"), ("id", .string "0x1"),
    ("params", .object [("addresses", .string "0xca5e")])]

def filterParse (text : String) : Option Json :=
  if text = narrowText then some narrowRoot
  else if text = scalarText then some scalarRoot
  else none

theorem keepsFilter_iff_narrow :
  (∃ root, filterParse narrowText = some root
      ∧ KeepsFilter root (fromJson filterParse {} narrowText).1)
    ↔ ∃ root, filterParse narrowText = some root ∧ ¬ DropsComponent root
  := keepsFilter_iff (Prod.ext rfl rfl)

theorem keepsFilter_counterexample :
  (fromJson filterParse {} scalarText).2 = true
    ∧ ¬ ∃ root, filterParse scalarText = some root
      ∧ KeepsFilter root (fromJson filterParse {} scalarText).1
  := by
  constructor
  · rfl
  · rintro ⟨root, hroot, jParams, params, hjParams, hparams, hrep⟩
    cases hroot
    cases hjParams
    cases hparams
    have hmem := hrep.addresses (.string "0xca5e") rfl "0xca5e" (by simp [Json.strings])
    have hempty : readAddress "0xca5e" ∈ (∅ : Std.ExtTreeSet String) := hmem
    simp at hempty

end EventSubRequest
