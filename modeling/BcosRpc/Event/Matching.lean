import BcosRpc.Common.Enumeration
import BcosRpc.Event.Params
import Mathlib.Data.List.Forall2

/-!
# The events of a block

`EventSubMatcher::matches` appends one event for each log entry of a block that matches, in the
order of the positions of the entries, and counts them modulo `2 ^ 32`.
-/

open Enumeration

namespace EventSubMatcher

/-- The log entry of a block at a position: the index of a transaction, and the index of the
entry in its receipt. -/
def logAt (block : Block) (position : Nat × Nat) : Option LogEntry := do
  let receipt ← block.receipts[position.1]?
  receipt.logEntries[position.2]?

/-- An event describes the log entry at a position. -/
structure Describes (block : Block) (position : Nat × Nat) (event : Json) : Prop where
  transactionIndex : event.find "transactionIndex" = some (.integer position.1)
  logIndex : event.find "logIndex" = some (.integer position.2)
  transactionHash : ∃ tx, block.transactions[position.1]? = some tx
    ∧ event.find "transactionHash" = some (.string tx.hash.hexPrefixed)
  logEntry : ∃ logEntry, logAt block position = some logEntry
    ∧ event.find "address" = some (.string logEntry.address)
    ∧ event.find "data" = some (.string (toHexStringWithPrefix logEntry.data))
    ∧ event.find "topics"
      = some (.array (logEntry.topics.map fun topic => .string topic.hexPrefixed))

/-- The events describe exactly the matching log entries of a block, each once and in the order
of their positions. -/
def Enumerates (params : EventSubParams) (block : Block) (events : List Json) : Prop :=
  ∃ positions : List (Nat × Nat), positions.Pairwise Before
    ∧ (∀ position, position ∈ positions
      ↔ ∃ logEntry, logAt block position = some logEntry ∧ matchesEntry params logEntry = true)
    ∧ List.Forall₂ (Describes block) positions events

/-! ### The loops -/

variable (params : EventSubParams)

/-- The loop over the entries of a receipt appends the events of those that match. -/
theorem matchesLogs_eq (receipt : TransactionReceipt) (tx : Transaction) (txIndex logIndex : Nat)
    (logs : List LogEntry) (acc : UInt32 × List Json) :
  matchesLogs params receipt tx txIndex logIndex logs acc
    = (acc.1 + UInt32.ofNat (hits (matchesEntry params) logIndex logs).length,
      acc.2 ++ (hits (matchesEntry params) logIndex logs).map fun x =>
        eventOf receipt tx txIndex x.2 x.1)
  := by
  induction logs generalizing logIndex acc with
  | nil => simp [matchesLogs]
  | cons logEntry rest ih =>
      obtain ⟨count, result⟩ := acc
      rw [matchesLogs, ih, hits_cons]
      split
      · simp only [List.length_cons, List.map_cons, List.append_assoc, List.singleton_append,
          UInt32.ofNat_add, UInt32.add_assoc]
        rw [UInt32.add_comm 1]
        rfl
      · rfl

/-- The log entries of some transactions that match, with their positions. -/
def found (block : Block) (indices : List Nat) : List ((Nat × Nat) × LogEntry) :=
  indices.flatMap fun i =>
    (hits (matchesEntry params) 0 (block.receipt i).logEntries).map fun x => ((i, x.2), x.1)

/-- The event of a log entry at a position. -/
def eventAt (block : Block) (x : (Nat × Nat) × LogEntry) : Json :=
  eventOf (block.receipt x.1.1) (block.transaction x.1.1) x.1.1 x.1.2 x.2

/-- The loop over transactions appends the events of the entries that match. -/
theorem foldl_matchesTransaction_eq (block : Block) (indices : List Nat)
    (acc : UInt32 × List Json) :
  indices.foldl (matchesTransaction params block) acc
    = (acc.1 + UInt32.ofNat (found params block indices).length,
      acc.2 ++ (found params block indices).map (eventAt block))
  := by
  induction indices generalizing acc with
  | nil => simp [found]
  | cons i indices ih =>
      rw [List.foldl_cons, ih, matchesTransaction, matchesReceipt, matchesLogs_eq]
      simp only [found, List.flatMap_cons, List.length_append, List.length_map, List.map_append,
        List.map_map, UInt32.ofNat_add, UInt32.zero_add, UInt32.add_assoc, List.append_assoc]
      rfl

theorem matchesBlock_eq (block : Block) (result : List Json) :
  matchesBlock params block result
    = (UInt32.ofNat (found params block (List.range block.transactionsSize)).length,
      result ++ (found params block (List.range block.transactionsSize)).map (eventAt block))
  := by
  rw [matchesBlock, foldl_matchesTransaction_eq, UInt32.zero_add]

/-! ### The events -/

variable {params} {block : Block}

theorem logAt_eq_some_iff (hsize : block.receipts.length = block.transactions.length)
    (i k : Nat) (logEntry : LogEntry) :
  logAt block (i, k) = some logEntry
    ↔ i < block.transactionsSize ∧ (block.receipt i).logEntries[k]? = some logEntry
  := by
  rw [logAt, Block.transactionsSize, ← hsize, Block.receipt, List.getD_eq_getElem?_getD]
  cases hi : block.receipts[i]? with
  | none =>
      have hlen := List.getElem?_eq_none_iff.mp hi
      simp [Nat.not_lt.mpr hlen]
  | some receipt =>
      have hlen := (List.getElem?_eq_some_iff.mp hi).1
      simp [hlen]

theorem mem_found_iff (hsize : block.receipts.length = block.transactions.length)
    (position : Nat × Nat) (logEntry : LogEntry) :
  (position, logEntry) ∈ found params block (List.range block.transactionsSize)
    ↔ logAt block position = some logEntry ∧ matchesEntry params logEntry = true
  := by
  obtain ⟨i, k⟩ := position
  rw [logAt_eq_some_iff hsize, and_assoc]
  apply mem_nestedHits_iff

theorem describes_eventAt {position : Nat × Nat} {logEntry : LogEntry} {tx : Transaction}
    (htx : block.transactions[position.1]? = some tx)
    (hlog : logAt block position = some logEntry) :
  Describes block position (eventAt block (position, logEntry))
  := by
  have hblock : block.transaction position.1 = tx := by
    rw [Block.transaction, List.getD_eq_getElem?_getD, htx]
    rfl
  constructor
  · simp [eventAt, eventOf]
  · simp [eventAt, eventOf]
  · exact ⟨tx, htx, by simp [eventAt, eventOf, hblock]⟩
  · exact ⟨logEntry, hlog, by simp [eventAt, eventOf]⟩

/-- The matcher appends to the result exactly the events of the matching log entries of a block
with one receipt for each transaction, and returns their number modulo `2 ^ 32`. -/
theorem matchesBlock_enumerates (params : EventSubParams) {block : Block}
    (hsize : block.receipts.length = block.transactions.length) (result : List Json) :
  ∃ events, Enumerates params block events
    ∧ (matchesBlock params block result).2 = result ++ events
    ∧ (matchesBlock params block result).1 = UInt32.ofNat events.length
  := by
  let hits := found params block (List.range block.transactionsSize)
  have hmem := @mem_found_iff params _ hsize
  refine ⟨hits.map (eventAt block), ⟨hits.map Prod.fst, ?_, ?_, ?_⟩, ?_, ?_⟩
  · apply pairwise_nestedHits
  · intro position
    simp only [List.mem_map, Prod.exists, exists_and_right, exists_eq_right, hits, hmem]
  · rw [List.forall₂_map_left_iff, List.forall₂_map_right_iff, List.forall₂_same]
    rintro ⟨position, logEntry⟩ hx
    obtain ⟨hlog, _⟩ := (hmem position logEntry).mp hx
    have hlt := ((logAt_eq_some_iff hsize position.1 position.2 logEntry).mp hlog).1
    apply describes_eventAt (List.getElem?_eq_getElem hlt) hlog
  · rw [matchesBlock_eq]
  · rw [matchesBlock_eq, List.length_map]

/-- A block with two transactions, which have two log entries each. -/
def twoLogsBlock : Block where
  blockHeader := none
  transactions := [{ (default : Transaction) with hash := .replicate 1 },
    { (default : Transaction) with hash := .replicate 2 }]
  receipts := [
    { (default : TransactionReceipt) with
      logEntries := [⟨"ca5e", [.replicate 7], [1]⟩, ⟨"ca5f", [.replicate 7], []⟩] },
    { (default : TransactionReceipt) with
      logEntries := [⟨"ca5e", [.replicate 8], []⟩, ⟨"ca5e", [.replicate 7, .replicate 8], [2]⟩] }]

/-- A filter for an address and a first topic. -/
def addressAndTopic : EventSubParams where
  addresses := {"ca5e"}
  topics := EventSubParams.resize [{(HashType.replicate 7).hex}] EVENT_LOG_TOPICS_MAX_INDEX

/-- The first entry of the first transaction and the second of the second one match. -/
theorem matchesBlock_enumerates_twoLogs :
  (matchesBlock addressAndTopic twoLogsBlock [.null]).1 = 2
    ∧ ∃ events, Enumerates addressAndTopic twoLogsBlock events
      ∧ (matchesBlock addressAndTopic twoLogsBlock [.null]).2 = [.null] ++ events
      ∧ (matchesBlock addressAndTopic twoLogsBlock [.null]).1 = UInt32.ofNat events.length
  := ⟨by decide, matchesBlock_enumerates addressAndTopic (by rfl) [.null]⟩

end EventSubMatcher
