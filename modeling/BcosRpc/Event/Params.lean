import BcosRpc.Common.Json
import BcosRpc.Common.Protocol
import Mathlib.Data.List.Basic

/-!
# Subscription parameters and their matcher

`EventSubParams` is the filter of a subscription: the blocks it covers, the addresses and,
by position, the topics it selects. `EventSubMatcher.matchesEntry` decides a single log
entry; `matchesBlock` collects the entries of a block that match.
-/

open Std

/-- The largest number of topics in one event log. -/
def EVENT_LOG_TOPICS_MAX_INDEX : Nat := 4

structure EventSubParams where
  fromBlock : Int := -1
  toBlock : Int := -1
  addresses : ExtTreeSet String := ∅
  topics : List (ExtTreeSet String) := []

namespace EventSubParams

/-- A vector of topic sets cut or filled up with empty sets to a length. -/
def resize (topics : List (ExtTreeSet String)) (n : Nat) : List (ExtTreeSet String) :=
  topics.take n ++ List.replicate (n - topics.length) ∅

@[simp]
theorem length_resize (topics : List (ExtTreeSet String)) (n : Nat) :
  (resize topics n).length = n
  := by
  simp only [resize, List.length_append, List.length_take, List.length_replicate]
  omega

/-- Resizing keeps the slots below the new length. -/
theorem getD_resize (topics : List (ExtTreeSet String)) {n i : Nat} (h : i < n) :
  (resize topics n).getD i ∅ = topics.getD i ∅
  := by
  rw [resize, List.getD_eq_getElem?_getD, List.getD_eq_getElem?_getD]
  by_cases hi : i < topics.length
  · rw [List.getElem?_append_left (by simp; omega), List.getElem?_take_of_lt h]
  · rw [List.getElem?_append_right (by simp; omega), List.getElem?_eq_none (l := topics) (by omega)]
    simp only [List.getElem?_replicate]
    split <;> rfl

def addAddress (params : EventSubParams) (address : String) : EventSubParams :=
  { params with addresses := params.addresses.insert address }

/-- Add a topic to a slot. The result says whether the index is one a log can have. -/
def addTopic (params : EventSubParams) (index : Nat) (topic : String) : EventSubParams × Bool :=
  if index ≥ EVENT_LOG_TOPICS_MAX_INDEX then (params, false)
  else
    let topics := resize params.topics (index + 1)
    ({ params with topics := topics.modify index (·.insert topic) }, true)

/-- The topics of a slot, none when the vector does not reach it. -/
def slot (params : EventSubParams) (i : Nat) : ExtTreeSet String :=
  params.topics.getD i ∅

@[simp]
theorem addTopic_addresses (params : EventSubParams) (index : Nat) (topic : String) :
  (params.addTopic index topic).1.addresses = params.addresses
  := by
  rw [addTopic]
  split <;> rfl

/-- Adding a topic to a slot a log can have makes the vector end with that slot. -/
theorem length_addTopic {params : EventSubParams} {index : Nat}
    (h : index < EVENT_LOG_TOPICS_MAX_INDEX) (topic : String) :
  (params.addTopic index topic).1.topics.length = index + 1
  := by
  rw [addTopic, if_neg (by omega)]
  simp

/-- Adding a topic to a slot changes only that slot among the slots up to it. -/
theorem slot_addTopic {params : EventSubParams} {index i : Nat}
    (h : index < EVENT_LOG_TOPICS_MAX_INDEX) (hi : i ≤ index) (topic : String) :
  (params.addTopic index topic).1.slot i
    = if i = index then (params.slot i).insert topic else params.slot i
  := by
  have hlen : i < (resize params.topics (index + 1)).length := by simp; omega
  rw [addTopic, if_neg (by omega), slot, slot,
    ← getD_resize params.topics (show i < index + 1 by omega)]
  simp only [List.getD_eq_getElem?_getD, List.getElem?_modify]
  rw [List.getElem?_eq_getElem hlen]
  by_cases hidx : i = index
  · simp [hidx]
  · simp [hidx, Ne.symm hidx]

end EventSubParams

namespace EventSubMatcher

/-- Whether the topics of a log entry miss a slot of the filter: the slot is not empty, and
the log has no topic at its position or another one. -/
def missesSlot (params : EventSubParams) (logEntry : LogEntry) (i : Nat) : Bool :=
  match params.topics[i]? with
  | none => false
  | some slot =>
      !slot.isEmpty &&
        match logEntry.topics[i]? with
        | none => true
        | some topic => !slot.contains topic.hex

/-- Whether a log entry matches the filter. An empty address set matches all addresses. -/
def matchesEntry (params : EventSubParams) (logEntry : LogEntry) : Bool :=
  if !params.addresses.isEmpty && !params.addresses.contains logEntry.address then false
  else (List.range EVENT_LOG_TOPICS_MAX_INDEX).all fun i => !missesSlot params logEntry i

/-- The event pushed for a log entry. -/
def eventOf (receipt : TransactionReceipt) (tx : Transaction) (txIndex logIndex : Nat)
    (logEntry : LogEntry) : Json :=
  Json.null
    |>.set "blockNumber" (.integer receipt.blockNumber)
    |>.set "address" (.string logEntry.address)
    |>.set "data" (.string (toHexStringWithPrefix logEntry.data))
    |>.set "logIndex" (.integer logIndex)
    |>.set "transactionHash" (.string tx.hash.hexPrefixed)
    |>.set "transactionIndex" (.integer txIndex)
    |>.set "topics" (.array (logEntry.topics.map fun topic => .string topic.hexPrefixed))

/-- The loop over the log entries of a receipt, from the one with index `logIndex` on. -/
def matchesLogs (params : EventSubParams) (receipt : TransactionReceipt) (tx : Transaction)
    (txIndex : Nat) : Nat → List LogEntry → UInt32 × List Json → UInt32 × List Json
  | _, [], acc => acc
  | logIndex, logEntry :: rest, (count, result) =>
      matchesLogs params receipt tx txIndex (logIndex + 1) rest <|
        if matchesEntry params logEntry then
          (count + 1, result ++ [eventOf receipt tx txIndex logIndex logEntry])
        else (count, result)

/-- The number of the log entries of a receipt that match, and the array with their events
appended. -/
def matchesReceipt (params : EventSubParams) (receipt : TransactionReceipt) (tx : Transaction)
    (txIndex : Nat) (result : List Json) : UInt32 × List Json :=
  matchesLogs params receipt tx txIndex 0 receipt.logEntries (0, result)

/-- One round of the loop over the transactions of a block. -/
def matchesTransaction (params : EventSubParams) (block : Block) (acc : UInt32 × List Json)
    (index : Nat) : UInt32 × List Json :=
  let found :=
    matchesReceipt params (block.receipt index) (block.transaction index) index acc.2
  (acc.1 + found.1, found.2)

/-- The number of the log entries of a block that match, and the array with their events
appended. -/
def matchesBlock (params : EventSubParams) (block : Block) (result : List Json) :
    UInt32 × List Json :=
  (List.range block.transactionsSize).foldl (matchesTransaction params block) (0, result)

/-- The count grows with the array. -/
theorem matchesLogs_count (params : EventSubParams) (receipt : TransactionReceipt)
    (tx : Transaction) (txIndex logIndex : Nat) (logs : List LogEntry)
    (acc : UInt32 × List Json) :
  ∃ n : Nat, (matchesLogs params receipt tx txIndex logIndex logs acc).1 = acc.1 + UInt32.ofNat n
    ∧ (matchesLogs params receipt tx txIndex logIndex logs acc).2.length = acc.2.length + n
  := by
  induction logs generalizing logIndex acc with
  | nil => exact ⟨0, by simp [matchesLogs], rfl⟩
  | cons logEntry rest ih =>
      rw [matchesLogs]
      split
      · obtain ⟨n, hcount, hlen⟩ := ih (logIndex + 1)
          (acc.1 + 1, acc.2 ++ [eventOf receipt tx txIndex logIndex logEntry])
        use n + 1
        rw [hcount, hlen, UInt32.ofNat_add, List.length_append]
        constructor
        · rw [UInt32.add_assoc, UInt32.add_comm 1]
          rfl
        · simp only [List.length_singleton]
          omega
      · apply ih

theorem matchesTransactions_count (params : EventSubParams) (block : Block)
    (indices : List Nat) (acc : UInt32 × List Json) :
  ∃ n : Nat, (indices.foldl (matchesTransaction params block) acc).1 = acc.1 + UInt32.ofNat n
    ∧ (indices.foldl (matchesTransaction params block) acc).2.length = acc.2.length + n
  := by
  induction indices generalizing acc with
  | nil => exact ⟨0, by simp, rfl⟩
  | cons index indices ih =>
      obtain ⟨k, hk, hklen⟩ := matchesLogs_count params (block.receipt index)
        (block.transaction index) index 0 (block.receipt index).logEntries (0, acc.2)
      obtain ⟨n, hcount, hlen⟩ := ih (matchesTransaction params block acc index)
      use k + n
      rw [List.foldl_cons, hcount, hlen, UInt32.ofNat_add, ← UInt32.add_assoc]
      simp only [matchesTransaction, matchesReceipt, hk, hklen, UInt32.zero_add]
      constructor
      · trivial
      · omega

/-- When the count is not zero, there are events. -/
theorem matchesBlock_ne_nil {params : EventSubParams} {block : Block}
    (h : (matchesBlock params block []).1 ≠ 0) :
  (matchesBlock params block []).2 ≠ []
  := by
  obtain ⟨n, hcount, hlen⟩ :=
    matchesTransactions_count params block (List.range block.transactionsSize) (0, [])
  rw [matchesBlock] at h ⊢
  intro hnil
  rw [hnil, List.length_nil, Nat.zero_add] at hlen
  apply h
  rw [hcount, ← hlen]
  rfl

/-- A log entry matches exactly when its address is selected and every slot that selects
topics selects the topic at its position. -/
theorem matchesEntry_iff (params : EventSubParams) (logEntry : LogEntry) :
  matchesEntry params logEntry = true
    ↔ (params.addresses.isEmpty = true ∨ logEntry.address ∈ params.addresses)
      ∧ ∀ i < EVENT_LOG_TOPICS_MAX_INDEX, (params.slot i).isEmpty = false →
        ∃ topic, logEntry.topics[i]? = some topic ∧ topic.hex ∈ params.slot i
  := by
  have hslot (i : Nat) : missesSlot params logEntry i = false
      ↔ ((params.slot i).isEmpty = false →
        ∃ topic, logEntry.topics[i]? = some topic ∧ topic.hex ∈ params.slot i) := by
    rw [missesSlot, EventSubParams.slot, List.getD_eq_getElem?_getD]
    cases params.topics[i]? with
    | none => simp
    | some slot => cases logEntry.topics[i]? <;> simp [← ExtTreeSet.contains_iff_mem]
  rw [matchesEntry]
  split
  · rename_i h
    simp only [Bool.and_eq_true, Bool.not_eq_true'] at h
    simp [h.1, ← ExtTreeSet.contains_iff_mem, h.2]
  · rename_i h
    have haddr : params.addresses.isEmpty = true ∨ logEntry.address ∈ params.addresses := by
      rw [← ExtTreeSet.contains_iff_mem]
      simp only [Bool.and_eq_true, Bool.not_eq_true', not_and, Bool.not_eq_false] at h
      by_cases he : params.addresses.isEmpty = true
      · apply Or.inl he
      · apply Or.inr (h (by simpa using he))
    simp only [List.all_eq_true, List.mem_range, Bool.not_eq_true', hslot, haddr, true_and]

end EventSubMatcher
