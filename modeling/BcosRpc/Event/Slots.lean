import BcosRpc.Event.Filter
import Mathlib.Data.Finset.Max
import Mathlib.Data.List.Induction

/-!
# The topic slots of a filter

`addTopic` resizes the vector of slots so that it ends with the slot of its own index, hence a
call cuts the slots above it. `addTopics` runs any sequence of calls on fresh parameters. A
topic survives in its slot when no later call has a smaller index, `Kept`, and
`accumulates_iff` says for which sequences the slots nevertheless hold all topics and the filter
does not depend on the order of the calls.
-/

open Std

namespace EventSubParams

/-- The parameters after some calls of `addTopic`, each with an index and a topic. -/
def addTopics (calls : List (Nat × String)) (params : EventSubParams) : EventSubParams :=
  calls.foldl (fun params call => (params.addTopic call.1 call.2).1) params

/-- The calls accumulate the topics in their slots. -/
structure Accumulates (calls : List (Nat × String)) : Prop where
  slots : ∀ i < EVENT_LOG_TOPICS_MAX_INDEX, ∀ topic,
    topic ∈ (addTopics calls {}).slot i ↔ (i, topic) ∈ calls
  refused : ∀ before call after, calls = before ++ call :: after →
    EVENT_LOG_TOPICS_MAX_INDEX ≤ call.1 →
      (addTopics before {}).addTopic call.1 call.2 = (addTopics before {}, false)
  length : ∀ before after, calls = before ++ after →
    (addTopics before {}).topics.length ≤ EVENT_LOG_TOPICS_MAX_INDEX
  filter : ∀ calls' : List (Nat × String), calls'.Perm calls → ∀ logEntry,
    EventSubMatcher.matchesEntry (addTopics calls' {}) logEntry
      = EventSubMatcher.matchesEntry (addTopics calls {}) logEntry

/-- A topic is added to a slot by a call that no call with a smaller index follows. -/
def Kept (calls : List (Nat × String)) (i : Nat) (topic : String) : Prop :=
  ∃ before after, calls = before ++ (i, topic) :: after ∧ ∀ call ∈ after, i ≤ call.1

/-- The calls for which the cuts do no harm: a topic is added again after the last call that
cuts its slot, and where the smallest index comes with a topic that a log can have, no other
slot is used. -/
structure Harmless (calls : List (Nat × String)) : Prop where
  kept : ∀ i < EVENT_LOG_TOPICS_MAX_INDEX, ∀ topic, (i, topic) ∈ calls → Kept calls i topic
  alone : ∀ i (hash : HashType), (i, hash.hex) ∈ calls → (∀ call ∈ calls, i ≤ call.1) →
    ∀ call ∈ calls, call.1 < EVENT_LOG_TOPICS_MAX_INDEX → call.1 = i

/-! ### One call -/

theorem addTopic_of_ge (params : EventSubParams) {index : Nat}
    (h : EVENT_LOG_TOPICS_MAX_INDEX ≤ index) (topic : String) :
  params.addTopic index topic = (params, false)
  := if_pos h

/-- A call cuts the slots above its own. -/
theorem slot_addTopic_of_gt {params : EventSubParams} {index i : Nat}
    (h : index < EVENT_LOG_TOPICS_MAX_INDEX) (hi : index < i) (topic : String) :
  (params.addTopic index topic).1.slot i = ∅
  := by
  have hlen := @length_addTopic params index h topic
  rw [slot, List.getD_eq_getElem?_getD, List.getElem?_eq_none (by omega)]
  rfl

/-- What a call leaves in a slot a log can have: the topic in its own slot, nothing in the slots
above it, everything in the others. -/
theorem mem_slot_addTopic_iff (params : EventSubParams) (call : Nat × String) {i : Nat}
    (hi : i < EVENT_LOG_TOPICS_MAX_INDEX) (topic : String) :
  topic ∈ (params.addTopic call.1 call.2).1.slot i
    ↔ call = (i, topic) ∨ i ≤ call.1 ∧ topic ∈ params.slot i
  := by
  obtain ⟨index, topic'⟩ := call
  rcases Nat.lt_or_ge index EVENT_LOG_TOPICS_MAX_INDEX with hidx | hidx
  · rcases Nat.lt_or_ge index i with hlt | hge
    · have hne : index ≠ i := hlt.ne
      simp [slot_addTopic_of_gt hidx hlt, hne, Nat.not_le.mpr hlt]
    · rw [slot_addTopic hidx hge]
      by_cases heq : i = index
      · subst heq
        simp
      · simp [heq, Ne.symm heq, hge]
  · have hne : index ≠ i := by omega
    rw [addTopic_of_ge params hidx]
    simp [hne, hi.le.trans hidx]

theorem length_addTopic_le {params : EventSubParams}
    (h : params.topics.length ≤ EVENT_LOG_TOPICS_MAX_INDEX) (index : Nat) (topic : String) :
  (params.addTopic index topic).1.topics.length ≤ EVENT_LOG_TOPICS_MAX_INDEX
  := by
  rcases Nat.lt_or_ge index EVENT_LOG_TOPICS_MAX_INDEX with hidx | hidx
  · rw [length_addTopic hidx]
    omega
  · rw [addTopic_of_ge params hidx]
    apply h

/-! ### All calls -/

theorem addTopics_append (calls calls' : List (Nat × String)) (params : EventSubParams) :
  addTopics (calls ++ calls') params = addTopics calls' (addTopics calls params)
  := List.foldl_append

theorem addTopics_concat (calls : List (Nat × String)) (call : Nat × String)
    (params : EventSubParams) :
  addTopics (calls ++ [call]) params = ((addTopics calls params).addTopic call.1 call.2).1
  := addTopics_append calls [call] params

@[simp]
theorem addTopics_addresses (calls : List (Nat × String)) (params : EventSubParams) :
  (addTopics calls params).addresses = params.addresses
  := by
  induction calls using List.reverseRecOn with
  | nil => rfl
  | append_singleton calls call ih => rw [addTopics_concat, addTopic_addresses, ih]

theorem length_addTopics_le (calls : List (Nat × String)) :
  (addTopics calls {}).topics.length ≤ EVENT_LOG_TOPICS_MAX_INDEX
  := by
  induction calls using List.reverseRecOn with
  | nil => apply Nat.zero_le
  | append_singleton calls call ih =>
      rw [addTopics_concat]
      apply length_addTopic_le ih

theorem Kept.mem {calls : List (Nat × String)} {i : Nat} {topic : String}
    (h : Kept calls i topic) :
  (i, topic) ∈ calls
  := by
  obtain ⟨before, after, rfl, -⟩ := h
  simp

/-- A topic of the smallest index is never cut. -/
theorem kept_of_least {calls : List (Nat × String)} {i : Nat} {topic : String}
    (h : (i, topic) ∈ calls) (hleast : ∀ call ∈ calls, i ≤ call.1) :
  Kept calls i topic
  := by
  obtain ⟨before, after, rfl⟩ := List.append_of_mem h
  use before, after, rfl
  intro call hcall
  apply hleast
  simp [hcall]

theorem not_kept_nil (i : Nat) (topic : String) :
  ¬ Kept [] i topic
  := fun h => List.not_mem_nil h.mem

theorem kept_concat_iff (calls : List (Nat × String)) (call : Nat × String) (i : Nat)
    (topic : String) :
  Kept (calls ++ [call]) i topic ↔ call = (i, topic) ∨ i ≤ call.1 ∧ Kept calls i topic
  := by
  constructor
  · rintro ⟨before, after, heq, hafter⟩
    rcases List.eq_nil_or_concat after with rfl | ⟨after, last, rfl⟩
    · obtain ⟨-, hcall⟩ := List.append_inj' heq rfl
      apply Or.inl (List.singleton_inj.mp hcall)
    · rw [List.concat_eq_append, ← List.cons_append, ← List.append_assoc] at heq
      obtain ⟨rfl, hcall⟩ := List.append_inj' heq rfl
      obtain rfl := List.singleton_inj.mp hcall
      apply Or.inr
      constructor
      · apply hafter
        simp
      · use before, after, rfl
        intro c hc
        apply hafter
        simp [hc]
  · rintro (rfl | ⟨hle, before, after, rfl, hafter⟩)
    · exact ⟨calls, [], rfl, by simp⟩
    · use before, after ++ [call], by simp
      intro c hc
      rcases List.mem_append.mp hc with hc | hc
      · apply hafter c hc
      · rw [List.mem_singleton.mp hc]
        apply hle

/-- A topic is kept by the later calls, or by the earlier ones when no later call cuts it. -/
theorem kept_append_iff (before after : List (Nat × String)) (i : Nat) (topic : String) :
  Kept (before ++ after) i topic
    ↔ Kept after i topic ∨ (∀ call ∈ after, i ≤ call.1) ∧ Kept before i topic
  := by
  induction after using List.reverseRecOn with
  | nil => simp [not_kept_nil]
  | append_singleton after call ih =>
      rw [← List.append_assoc, kept_concat_iff, kept_concat_iff, ih]
      simp only [List.mem_append, List.mem_singleton]
      grind

/-- A slot ends up with the topics that are kept. -/
theorem mem_slot_addTopics_iff (calls : List (Nat × String)) {i : Nat}
    (hi : i < EVENT_LOG_TOPICS_MAX_INDEX) (topic : String) :
  topic ∈ (addTopics calls {}).slot i ↔ Kept calls i topic
  := by
  induction calls using List.reverseRecOn with
  | nil => simp [addTopics, slot, not_kept_nil]
  | append_singleton calls call ih =>
      rw [addTopics_concat, mem_slot_addTopic_iff _ _ hi, kept_concat_iff, ih]

/-! ### The calls of the decoder -/

/-- Calls with ascending indices keep all topics. -/
theorem kept_of_ascending {calls : List (Nat × String)} (h : calls.Pairwise (·.1 ≤ ·.1)) {i : Nat}
    {topic : String} (hcall : (i, topic) ∈ calls) :
  Kept calls i topic
  := by
  obtain ⟨before, after, rfl⟩ := List.append_of_mem hcall
  use before, after, rfl
  obtain ⟨-, hafter, -⟩ := List.pairwise_append.mp h
  apply (List.pairwise_cons.mp hafter).1

theorem readSlot_addTopics {index : Nat} {j : Json} {params params' : EventSubParams}
    (h : EventSubRequest.readSlot index j params = .ok params') :
  ∃ topics : List String, params' = addTopics (topics.map fun topic => (index, topic)) params
  := by
  rw [EventSubRequest.readSlot] at h
  split at h
  · cases h
    exact ⟨[], rfl⟩
  · split at h
    · apply foldlM_range_inv (fun _ q => ∃ topics : List String,
        q = addTopics (topics.map fun topic => (index, topic)) params) _ _ h
      · rintro i _ _ b' ⟨topics, rfl⟩ hstep
        obtain ⟨x, _, hstep⟩ := Except.bind_eq_ok_iff.mp hstep
        obtain ⟨topic, _, hstep⟩ := Except.bind_eq_ok_iff.mp hstep
        cases hstep
        use topics ++ [EventSubRequest.readTopic topic]
        rw [List.map_append, List.map_singleton, addTopics_concat]
      · exact ⟨[], rfl⟩
    · obtain ⟨topic, _, hstep⟩ := Except.bind_eq_ok_iff.mp h
      cases hstep
      exact ⟨[topic], rfl⟩

/-- The loop over the member `topics` calls `addTopic` with ascending indices. -/
theorem readTopics_addTopics {j : Json} {params params' : EventSubParams}
    (h : EventSubRequest.readTopics j params = .ok params') :
  ∃ calls : List (Nat × String), calls.Pairwise (·.1 ≤ ·.1) ∧ params' = addTopics calls params
  := by
  have hinv : ∃ calls : List (Nat × String), (calls.Pairwise (·.1 ≤ ·.1)
      ∧ ∀ call ∈ calls, call.1 < j.size) ∧ params' = addTopics calls params := by
    apply foldlM_range_inv (fun i q => ∃ calls : List (Nat × String),
      (calls.Pairwise (·.1 ≤ ·.1) ∧ ∀ call ∈ calls, call.1 < i) ∧ q = addTopics calls params) _ _ h
    · rintro i _ _ b' ⟨calls, ⟨hasc, hlt⟩, rfl⟩ hstep
      obtain ⟨x, _, hstep⟩ := Except.bind_eq_ok_iff.mp hstep
      obtain ⟨topics, rfl⟩ := readSlot_addTopics hstep
      refine ⟨calls ++ topics.map fun topic => (i, topic), ⟨?_, ?_⟩, ?_⟩
      · rw [List.pairwise_append, List.pairwise_map]
        use hasc, List.pairwise_of_forall fun _ _ => le_rfl
        intro call hcall call' hcall'
        obtain ⟨topic, -, rfl⟩ := List.mem_map.mp hcall'
        apply (hlt call hcall).le
      · intro call hcall
        rcases List.mem_append.mp hcall with hcall | hcall
        · apply (hlt call hcall).trans i.lt_succ_self
        · obtain ⟨topic, -, rfl⟩ := List.mem_map.mp hcall
          apply i.lt_succ_self
      · rw [addTopics_append]
    · exact ⟨[], by simp, rfl⟩
  obtain ⟨calls, ⟨hasc, -⟩, heq⟩ := hinv
  exact ⟨calls, hasc, heq⟩

/-- The decoder's own calls lose no topic. -/
theorem readTopics_slots {j : Json} {params : EventSubParams}
    (h : EventSubRequest.readTopics j {} = .ok params) :
  ∃ calls : List (Nat × String), params = addTopics calls {}
    ∧ ∀ i < EVENT_LOG_TOPICS_MAX_INDEX, ∀ topic, topic ∈ params.slot i ↔ (i, topic) ∈ calls
  := by
  obtain ⟨calls, hasc, rfl⟩ := readTopics_addTopics h
  use calls, rfl
  intro i hi topic
  rw [mem_slot_addTopics_iff calls hi]
  constructor
  · apply Kept.mem
  · apply kept_of_ascending hasc

/-! ### The filter -/

variable {calls calls' : List (Nat × String)} {logEntry : LogEntry}

/-- The filter of the calls: a slot with a kept topic selects the log entries with a kept topic
at its position. -/
theorem matchesEntry_addTopics_iff (calls : List (Nat × String)) (logEntry : LogEntry) :
  EventSubMatcher.matchesEntry (addTopics calls {}) logEntry = true
    ↔ ∀ i < EVENT_LOG_TOPICS_MAX_INDEX, (∃ topic, Kept calls i topic) →
      ∃ hash, logEntry.topics[i]? = some hash ∧ Kept calls i hash.hex
  := by
  have hused {i : Nat} (hi : i < EVENT_LOG_TOPICS_MAX_INDEX) :
      ((addTopics calls {}).slot i).isEmpty = false ↔ ∃ topic, Kept calls i topic := by
    simp only [← mem_slot_addTopics_iff calls hi]
    rw [← Bool.not_eq_true, Table.isEmpty_iff_forall_not_mem]
    simp
  rw [EventSubMatcher.matchesEntry_iff, addTopics_addresses]
  constructor
  · rintro ⟨-, hall⟩ i hi hkept
    obtain ⟨hash, hhash, hmem⟩ := hall i hi ((hused hi).mpr hkept)
    use hash, hhash
    apply (mem_slot_addTopics_iff calls hi _).mp hmem
  · intro hall
    use Or.inl rfl
    intro i hi hempty
    obtain ⟨hash, hhash, hkept⟩ := hall i hi ((hused hi).mp hempty)
    use hash, hhash
    apply (mem_slot_addTopics_iff calls hi _).mpr hkept

/-- Some call has the smallest index. -/
theorem exists_least {call : Nat × String} (h : call ∈ calls) :
  ∃ least ∈ calls, ∀ call ∈ calls, least.1 ≤ call.1
  := by
  obtain ⟨least, hmem, hleast⟩ :=
    calls.toFinset.exists_min_image Prod.fst ⟨call, List.mem_toFinset.mpr h⟩
  use least, List.mem_toFinset.mp hmem
  intro call hcall
  apply hleast call (List.mem_toFinset.mpr hcall)

/-- Where the smallest index stands alone or selects nothing, a permutation of the calls selects
what the calls select. -/
theorem matchesEntry_of_perm (hperm : calls'.Perm calls)
    (halone : ∀ i (hash : HashType), (i, hash.hex) ∈ calls → (∀ call ∈ calls, i ≤ call.1) →
      ∀ call ∈ calls, call.1 < EVENT_LOG_TOPICS_MAX_INDEX → call.1 = i)
    (h : EventSubMatcher.matchesEntry (addTopics calls {}) logEntry = true) :
  EventSubMatcher.matchesEntry (addTopics calls' {}) logEntry = true
  := by
  rw [matchesEntry_addTopics_iff] at h ⊢
  rintro i hi ⟨topic, hkept⟩
  have hcall : (i, topic) ∈ calls := hperm.mem_iff.mp hkept.mem
  obtain ⟨⟨least, topic'⟩, hmem, hleast⟩ := exists_least hcall
  have hlt : least < EVENT_LOG_TOPICS_MAX_INDEX := (hleast _ hcall).trans_lt hi
  obtain ⟨hash, hhash, hsel⟩ := h least hlt ⟨topic', kept_of_least hmem hleast⟩
  obtain rfl : i = least := halone least hash hsel.mem hleast _ hcall hi
  use hash, hhash
  apply kept_of_least (hperm.mem_iff.mpr hsel.mem)
  intro call hc
  apply hleast call (hperm.mem_iff.mp hc)

/-- When the calls with the smallest index come last, the filter selects a log entry with
nothing but a topic of theirs. -/
theorem matchesEntry_replicate {i : Nat} {hash : HashType} (hmem : (i, hash.hex) ∈ calls)
    (hleast : ∀ call ∈ calls, i ≤ call.1) :
  EventSubMatcher.matchesEntry
    (addTopics (calls.filter (·.1 ≠ i) ++ calls.filter (·.1 = i)) {})
    ⟨"", List.replicate (i + 1) hash, []⟩ = true
  := by
  have hlast : (i, hash.hex) ∈ calls.filter (·.1 = i) := by simp [hmem]
  rw [matchesEntry_addTopics_iff]
  rintro j hj ⟨topic, hkept⟩
  have hji : j = i := by
    rw [kept_append_iff] at hkept
    rcases hkept with hkept | ⟨hle, hkept⟩
    · simpa using List.of_mem_filter hkept.mem
    · have hcall := List.mem_of_mem_filter hkept.mem
      apply Nat.le_antisymm (hle _ hlast) (hleast _ hcall)
  subst hji
  use hash
  constructor
  · simp
  · rw [kept_append_iff]
    apply Or.inl
    apply kept_of_least hlast
    intro call hcall
    apply hleast call (List.mem_of_mem_filter hcall)

/-- When a call with another index comes last, the filter does not select that log entry. -/
theorem not_matchesEntry_replicate {i j : Nat} (hij : i < j) (hj : j < EVENT_LOG_TOPICS_MAX_INDEX)
    (calls : List (Nat × String)) (topic : String) (hash : HashType) :
  EventSubMatcher.matchesEntry (addTopics (calls ++ [(j, topic)]) {})
    ⟨"", List.replicate (i + 1) hash, []⟩ = false
  := by
  rw [← Bool.not_eq_true, matchesEntry_addTopics_iff]
  intro hall
  obtain ⟨_, hhash, -⟩ := hall j hj ⟨topic, (kept_concat_iff _ _ _ _).mpr (Or.inl rfl)⟩
  rw [List.getElem?_eq_none (by simp; omega)] at hhash
  cases hhash

/-- The filter does not depend on the order of the calls exactly when the smallest index stands
alone or selects nothing. -/
theorem filter_iff (calls : List (Nat × String)) :
  (∀ calls' : List (Nat × String), calls'.Perm calls → ∀ logEntry,
      EventSubMatcher.matchesEntry (addTopics calls' {}) logEntry
        = EventSubMatcher.matchesEntry (addTopics calls {}) logEntry)
    ↔ ∀ i (hash : HashType), (i, hash.hex) ∈ calls → (∀ call ∈ calls, i ≤ call.1) →
      ∀ call ∈ calls, call.1 < EVENT_LOG_TOPICS_MAX_INDEX → call.1 = i
  := by
  constructor
  · rintro hfilter i hash hmem hleast ⟨j, topic⟩ hcall hj
    by_contra hne
    have hij : i < j := Nat.lt_of_le_of_ne (hleast _ hcall) (Ne.symm hne)
    have hlast : (calls.erase (j, topic) ++ [(j, topic)]).Perm calls :=
      (List.perm_append_singleton _ _).trans (List.perm_cons_erase hcall).symm
    have hfirst : (calls.filter (·.1 ≠ i) ++ calls.filter (·.1 = i)).Perm calls := by
      simpa using List.filter_append_perm (·.1 ≠ i) calls
    have heq := (hfilter _ hfirst ⟨"", List.replicate (i + 1) hash, []⟩).trans
      (hfilter _ hlast _).symm
    rw [matchesEntry_replicate hmem hleast, not_matchesEntry_replicate hij hj] at heq
    cases heq
  · intro halone calls' hperm logEntry
    rw [Bool.eq_iff_iff]
    constructor
    · apply matchesEntry_of_perm hperm.symm
      intro i hash hmem hleast call hcall
      apply halone i hash (hperm.mem_iff.mp hmem) _ call (hperm.mem_iff.mp hcall)
      intro c hc
      apply hleast c (hperm.mem_iff.mpr hc)
    · apply matchesEntry_of_perm hperm halone

/-- The calls accumulate the topics in their slots, and make the same filter in every order,
exactly when they are harmless. -/
theorem accumulates_iff (calls : List (Nat × String)) :
  Accumulates calls ↔ Harmless calls
  := by
  constructor
  · intro h
    constructor
    · intro i hi topic hcall
      apply (mem_slot_addTopics_iff calls hi topic).mp
      apply (h.slots i hi topic).mpr hcall
    · apply (filter_iff calls).mp h.filter
  · intro h
    constructor
    · intro i hi topic
      rw [mem_slot_addTopics_iff calls hi]
      constructor
      · apply Kept.mem
      · apply h.kept i hi
    · intro before call after _ hge
      apply addTopic_of_ge _ hge
    · intro before after _
      apply length_addTopics_le
    · apply (filter_iff calls).mpr h.alone

/-- A topic in slot `0` cuts one in slot `1`. -/
theorem accumulates_counterexample :
  ¬ Accumulates [(1, "b"), (0, "a")]
  := by
  intro h
  have hkept := (mem_slot_addTopics_iff _ (by decide) "b").mp
    ((h.slots 1 (by decide) "b").mpr List.mem_cons_self)
  have hcut := (kept_concat_iff [(1, "b")] (0, "a") 1 "b").mp hkept
  simp at hcut

end EventSubParams
