import BcosRpc.Common.Leaders
import BcosRpc.Group.Select
import Mathlib.Data.Int.Order.Basic

/-!
# The nodes with the latest block

The manager keeps, for each group, a block number and the nodes that reported it. As long as
no sweep removes a node, these are the nodes that reported the greatest block number of the
group, in whatever order and however often the notifications arrive.
-/

open Std

namespace GroupManager

variable {Service : Type}

/-! ### Reports -/

/-- The node and the block number that an operation reports for a group. -/
def reportOf (groupID : String) : GroupAction Service → Option (String × Int)
  | .updateGroupBlockInfo group nodeName blockNumber =>
      if group = groupID then some (nodeName, blockNumber) else none
  | _ => none

/-- The reports for a group, in the order they arrive in. -/
def reports (groupID : String) (actions : List (GroupAction Service)) : List (String × Int) :=
  actions.filterMap (reportOf groupID)

/-- The operation removes no node, and reports a block that a chain can have. -/
def OnlyReports : GroupAction Service → Prop
  | .updateGroupInfo _ _ => True
  | .updateGroupBlockInfo _ _ blockNumber => 0 ≤ blockNumber
  | .updateGroupStatus refreshed _ => refreshed = false

/-- The block number recorded for a group, `0` when there is none. -/
def latestBlock (s : GroupManager Service) (groupID : String) : Int :=
  s.groupBlockInfos.getD groupID 0

/-- What the manager records of the reports for a group: a bound of the block numbers, which is
reported when it is recorded, and the nodes that reported it. -/
structure Tracks (s : GroupManager Service) (groupID : String) (reports : List (String × Int)) :
    Prop where
  nonneg : ∀ r ∈ reports, 0 ≤ r.2
  bound : ∀ r ∈ reports, r.2 ≤ s.latestBlock groupID
  recorded : groupID ∈ s.groupBlockInfos →
    ∃ nodeName, (nodeName, s.latestBlock groupID) ∈ reports
  nodes : ∀ nodeName, nodeName ∈ s.latestNodes groupID
    ↔ (nodeName, s.latestBlock groupID) ∈ reports

theorem tracks_init (groupID : String) :
  ({} : GroupManager Service).Tracks groupID []
  := by
  constructor <;> simp [latestNodes]

/-- When there are reports, the block number recorded is one of them. -/
theorem Tracks.reached {s : GroupManager Service} {groupID : String}
    {reports : List (String × Int)} (h : s.Tracks groupID reports) (hne : reports ≠ []) :
  ∃ nodeName, (nodeName, s.latestBlock groupID) ∈ reports
  := by
  by_cases hrecorded : groupID ∈ s.groupBlockInfos
  · apply h.recorded hrecorded
  · -- Nothing but blocks `0` has been reported.
    have hzero : s.latestBlock groupID = 0 := ExtTreeMap.getD_eq_fallback hrecorded
    obtain ⟨⟨nodeName, blockNumber⟩, hr⟩ := List.exists_mem_of_ne_nil reports hne
    have hle := h.bound _ hr
    have hge := h.nonneg _ hr
    obtain rfl : blockNumber = s.latestBlock groupID := by omega
    use nodeName

/-- The nodes recorded are those that reported the greatest block number. -/
theorem Tracks.leads_iff {s : GroupManager Service} {groupID : String}
    {reports : List (String × Int)} (h : s.Tracks groupID reports) (nodeName : String) :
  nodeName ∈ s.latestNodes groupID ↔ Leads reports nodeName
  := by
  rw [h.nodes]
  by_cases hnil : reports = []
  · simp [hnil, Leads]
  · rw [Leads.iff_mem h.bound (h.reached hnil)]

/-! ### Operations -/

theorem groupBlockInfos_foldl_update (build : ChainNodeInfo → Option Service) (groupID : String)
    (nodes : List ChainNodeInfo) (s : GroupManager Service) :
  (nodes.foldl (updateNodeServiceWithoutLock build groupID) s).groupBlockInfos
    = s.groupBlockInfos
  := by
  induction nodes generalizing s with
  | nil => rfl
  | cons node nodes ih =>
      rw [List.foldl_cons, ih, updateNodeServiceWithoutLock]
      split
      · rfl
      · cases build node <;> rfl

@[simp]
theorem groupBlockInfos_updateGroupInfo (build : ChainNodeInfo → Option Service)
    (groupInfo : GroupInfo) (s : GroupManager Service) :
  (s.updateGroupInfo build groupInfo).groupBlockInfos = s.groupBlockInfos
  := by
  rw [updateGroupInfo]
  split
  · rfl
  · apply groupBlockInfos_foldl_update

/-- A notification that is ignored reports an expired block, or repeats a report. -/
theorem ignoresBlock_iff (s : GroupManager Service) (groupID nodeName : String)
    (blockNumber : Int) :
  s.ignoresBlock groupID nodeName blockNumber = true
    ↔ groupID ∈ s.groupBlockInfos ∧ (blockNumber < s.latestBlock groupID
      ∨ blockNumber = s.latestBlock groupID ∧ nodeName ∈ s.latestNodes groupID)
  := by
  rw [ignoresBlock, latestBlock, ExtTreeMap.mem_iff_isSome_getElem?,
    ExtTreeMap.getD_eq_getD_getElem?]
  cases s.groupBlockInfos[groupID]? with
  | none => simp
  | some current =>
      rw [ExtTreeSet.contains_iff_mem.symm]
      simp [@eq_comm _ current]

/-- The block recorded is the greatest one a notification has brought. -/
theorem latestBlock_updateGroupBlockInfo (s : GroupManager Service) (groupID nodeName : String)
    (blockNumber : Int) (g : String) :
  (s.updateGroupBlockInfo groupID nodeName blockNumber).latestBlock g
    = if groupID = g then max (s.latestBlock groupID) blockNumber else s.latestBlock g
  := by
  rw [updateGroupBlockInfo]
  split
  · rename_i hignored
    have hle := ((s.ignoresBlock_iff groupID nodeName blockNumber).mp hignored).2
    split
    · rename_i hg
      subst hg
      omega
    · rfl
  · split
    · rename_i hlt
      simp only [latestBlock, ExtTreeMap.getD_insert, LawfulEqCmp.compare_eq_iff_eq]
      rw [← latestBlock] at hlt
      split
      · rw [← latestBlock]
        omega
      · rfl
    · rename_i hignored hle
      rw [← latestBlock] at hle
      split
      · rename_i hg
        subst hg
        show s.latestBlock groupID = _
        omega
      · rfl

section

variable {s : GroupManager Service} {groupID : String} {blockNumber : Int}

/-- A lower block changes no nodes. -/
theorem mem_latestNodes_of_lower (hrecorded : groupID ∈ s.groupBlockInfos)
    (hlt : blockNumber < s.latestBlock groupID) (nodeName name : String) :
  name ∈ (s.updateGroupBlockInfo groupID nodeName blockNumber).latestNodes groupID
    ↔ name ∈ s.latestNodes groupID
  := by
  have hignored := (s.ignoresBlock_iff groupID nodeName blockNumber).mpr ⟨hrecorded, Or.inl hlt⟩
  rw [mem_latestNodes_updateGroupBlockInfo, if_pos (Or.inl hignored)]

/-- The nodes that reported the block already stay. -/
theorem mem_latestNodes_of_same (nodeName name : String) :
  name ∈ (s.updateGroupBlockInfo groupID nodeName (s.latestBlock groupID)).latestNodes groupID
    ↔ name = nodeName ∨ name ∈ s.latestNodes groupID
  := by
  have hle : ¬ s.groupBlockInfos.getD groupID 0 < s.latestBlock groupID := lt_irrefl _
  rw [mem_latestNodes_updateGroupBlockInfo]
  split
  · rename_i hignored
    have hnode : nodeName ∈ s.latestNodes groupID := by
      simp only [s.ignoresBlock_iff, lt_self_iff_false, false_or, ne_eq, not_true_eq_false,
        or_false, true_and] at hignored
      apply hignored.2
    constructor
    · apply Or.inr
    · rintro (rfl | hname)
      · apply hnode
      · apply hname
  · simp [hle]

/-- A higher block is that of the node alone. -/
theorem mem_latestNodes_of_higher (hgt : s.latestBlock groupID < blockNumber)
    (nodeName name : String) :
  name ∈ (s.updateGroupBlockInfo groupID nodeName blockNumber).latestNodes groupID
    ↔ name = nodeName
  := by
  have hnew : ¬ (s.ignoresBlock groupID nodeName blockNumber = true ∨ groupID ≠ groupID) := by
    rw [s.ignoresBlock_iff]
    rintro (⟨_, hle | ⟨heq, _⟩⟩ | hne)
    · omega
    · omega
    · apply hne rfl
  rw [latestBlock] at hgt
  rw [mem_latestNodes_updateGroupBlockInfo, if_neg hnew]
  simp [hgt]

end

/-- A notification for the group is tracked. -/
theorem Tracks.notify {s : GroupManager Service} {groupID : String}
    {reports : List (String × Int)} (h : s.Tracks groupID reports) (nodeName : String)
    {blockNumber : Int} (hnonneg : 0 ≤ blockNumber) :
  (s.updateGroupBlockInfo groupID nodeName blockNumber).Tracks groupID
    (reports ++ [(nodeName, blockNumber)])
  := by
  have hblock := s.latestBlock_updateGroupBlockInfo groupID nodeName blockNumber groupID
  rw [if_pos rfl] at hblock
  have hrecorded : blockNumber < s.latestBlock groupID → groupID ∈ s.groupBlockInfos := by
    intro hlt
    by_contra hnew
    rw [latestBlock, ExtTreeMap.getD_eq_fallback hnew] at hlt
    omega
  constructor
  · intro r hr
    rcases List.mem_append.mp hr with hr | hr
    · apply h.nonneg r hr
    · rw [List.mem_singleton.mp hr]
      apply hnonneg
  · intro r hr
    rw [hblock]
    rcases List.mem_append.mp hr with hr | hr
    · apply (h.bound r hr).trans (le_max_left _ _)
    · rw [List.mem_singleton.mp hr]
      apply le_max_right
  · intro _
    rw [hblock]
    rcases le_or_gt (s.latestBlock groupID) blockNumber with hle | hlt
    · use nodeName
      rw [max_eq_right hle]
      apply List.mem_concat_self
    · obtain ⟨name, hname⟩ := h.recorded (hrecorded hlt)
      use name
      rw [max_eq_left hlt.le]
      apply List.mem_append_left _ hname
  · intro name
    rw [hblock]
    rcases Int.lt_trichotomy blockNumber (s.latestBlock groupID) with hlt | rfl | hgt
    · have hne : s.latestBlock groupID ≠ blockNumber := hlt.ne'
      rw [mem_latestNodes_of_lower (hrecorded hlt) hlt, max_eq_left hlt.le, h.nodes]
      simp [hne]
    · rw [mem_latestNodes_of_same, Int.max_self, h.nodes, List.mem_append, List.mem_singleton,
        Prod.mk.injEq, or_comm]
      simp
    · have hbelow : ∀ r ∈ reports, r.2 < blockNumber := by
        intro r hr
        apply (h.bound r hr).trans_lt hgt
      rw [mem_latestNodes_of_higher hgt, max_eq_right hgt.le, Leads.concat_mem_iff hbelow]

/-- A notification for another group changes nothing. -/
theorem Tracks.notify_of_ne {s : GroupManager Service} {groupID : String}
    {reports : List (String × Int)} (h : s.Tracks groupID reports) {group : String}
    (hne : group ≠ groupID) (nodeName : String) (blockNumber : Int) :
  (s.updateGroupBlockInfo group nodeName blockNumber).Tracks groupID reports
  := by
  have hblock := s.latestBlock_updateGroupBlockInfo group nodeName blockNumber groupID
  rw [if_neg hne] at hblock
  constructor
  · apply h.nonneg
  · rw [hblock]
    apply h.bound
  · intro hmem
    rw [hblock]
    apply h.recorded
    rw [updateGroupBlockInfo] at hmem
    split at hmem
    · apply hmem
    · split at hmem
      · rw [ExtTreeMap.mem_insert, LawfulEqCmp.compare_eq_iff_eq] at hmem
        apply hmem.resolve_left hne
      · apply hmem
  · intro name
    rw [hblock, mem_latestNodes_updateGroupBlockInfo, if_pos (Or.inr hne), h.nodes]

/-- The other operations change nothing, as long as no sweep removes nodes. -/
theorem Tracks.step {s t : GroupManager Service} {groupID : String}
    {before : List (String × Int)} (h : s.Tracks groupID before) {action : GroupAction Service}
    (honly : OnlyReports action) {e : List Empty}
    (hstep : (groupMachine Service).step s action = some (t, e)) :
  t.Tracks groupID (before ++ reports groupID [action])
  := by
  cases action with
  | updateGroupInfo build groupInfo =>
      obtain ⟨rfl, rfl⟩ := Prod.mk.inj (Option.some.inj hstep)
      have hblock : (s.updateGroupInfo build groupInfo).latestBlock groupID
          = s.latestBlock groupID := by
        rw [latestBlock, groupBlockInfos_updateGroupInfo, latestBlock]
      rw [reports, List.filterMap_cons_none rfl, List.filterMap_nil, List.append_nil]
      constructor
      · apply h.nonneg
      · rw [hblock]
        apply h.bound
      · rw [hblock, groupBlockInfos_updateGroupInfo]
        apply h.recorded
      · rw [hblock, latestNodes_updateGroupInfo]
        apply h.nodes
  | updateGroupBlockInfo group nodeName blockNumber =>
      obtain ⟨rfl, rfl⟩ := Prod.mk.inj (Option.some.inj hstep)
      by_cases hgroup : group = groupID
      · subst hgroup
        have hreport : reportOf group
            (GroupAction.updateGroupBlockInfo group nodeName blockNumber : GroupAction Service)
            = some (nodeName, blockNumber) := if_pos rfl
        rw [reports, List.filterMap_cons_some hreport, List.filterMap_nil]
        apply h.notify nodeName honly
      · have hreport : reportOf groupID
            (GroupAction.updateGroupBlockInfo group nodeName blockNumber : GroupAction Service)
            = none := if_neg hgroup
        rw [reports, List.filterMap_cons_none hreport, List.filterMap_nil, List.append_nil]
        apply h.notify_of_ne hgroup
  | updateGroupStatus refreshed unreachable =>
      obtain ⟨rfl, rfl⟩ := Prod.mk.inj (Option.some.inj hstep)
      obtain rfl : refreshed = false := honly
      rw [reports, List.filterMap_cons_none rfl, List.filterMap_nil, List.append_nil]
      apply h

theorem Tracks.run {s t : GroupManager Service} {groupID : String}
    {before : List (String × Int)} (h : s.Tracks groupID before)
    {actions : List (GroupAction Service)} (honly : ∀ action ∈ actions, OnlyReports action)
    {e : List Empty} (hrun : (groupMachine Service).run s actions = some (t, e)) :
  t.Tracks groupID (before ++ reports groupID actions)
  := by
  induction actions generalizing s before e with
  | nil =>
      obtain ⟨rfl, rfl⟩ := Prod.mk.inj (Option.some.inj hrun)
      rw [reports, List.filterMap_nil, List.append_nil]
      apply h
  | cons action rest ih =>
      obtain ⟨u, e', o, hstep, hrest, rfl⟩ := (Machine.run_cons _).mp hrun
      have hu := h.step (honly action List.mem_cons_self) hstep
      have ht := ih hu (fun a ha => honly a (List.mem_cons_of_mem _ ha)) hrest
      rw [List.append_assoc, reports, reports, ← List.filterMap_append] at ht
      apply ht

/-! ### Selection -/

/-- When some node reported the latest block, one of them is selected. -/
theorem selectNodeByBlockNumber_mem_of_mem {s : GroupManager Service} {groupID nodeName : String}
    (h : nodeName ∈ s.latestNodes groupID) (rand : Nat) :
  s.selectNodeByBlockNumber rand groupID ∈ s.latestNodes groupID
  := by
  rw [latestNodes, ExtTreeMap.getD_eq_getD_getElem?] at h
  rw [selectNodeByBlockNumber, latestNodes, ExtTreeMap.getD_eq_getD_getElem?]
  cases hnodes : s.nodesWithLatestBlockNumber[groupID]? with
  | none =>
      rw [hnodes] at h
      apply absurd h ExtTreeSet.not_mem_empty
  | some nodesList =>
      rw [hnodes, Option.getD_some, ← ExtTreeSet.mem_toList] at h
      have hpos : 0 < nodesList.size := by
        rw [← ExtTreeSet.length_toList]
        apply List.length_pos_of_mem h
      have hlt : rand % nodesList.size < nodesList.toList.length := by
        rw [ExtTreeSet.length_toList]
        apply Nat.mod_lt _ hpos
      dsimp only
      rw [if_neg (by omega), List.getD_eq_getElem _ _ hlt, Option.getD_some,
        ← ExtTreeSet.mem_toList]
      apply List.getElem_mem

/-- When no sweep removes nodes, the nodes recorded for a group are those that reported its
greatest block number; the order of the reports and their repetitions do not matter, and one of
these nodes is selected, whatever index is drawn. -/
theorem latestNodes_exact {actions : List (GroupAction Service)}
    (honly : ∀ action ∈ actions, OnlyReports action) {s : GroupManager Service} {e : List Empty}
    (hrun : (groupMachine Service).run {} actions = some (s, e)) (groupID : String) :
  (∀ nodeName, nodeName ∈ s.latestNodes groupID ↔ Leads (reports groupID actions) nodeName)
    ∧ (∀ (actions' : List (GroupAction Service)) (t : GroupManager Service) (e' : List Empty),
      (∀ action ∈ actions', OnlyReports action) →
      (∀ r, r ∈ reports groupID actions' ↔ r ∈ reports groupID actions) →
      (groupMachine Service).run {} actions' = some (t, e') →
      t.latestNodes groupID = s.latestNodes groupID)
    ∧ ∀ rand, if reports groupID actions = [] then s.selectNodeByBlockNumber rand groupID = ""
      else Leads (reports groupID actions) (s.selectNodeByBlockNumber rand groupID)
  := by
  have htracks := (tracks_init groupID).run honly hrun
  rw [List.nil_append] at htracks
  refine ⟨htracks.leads_iff, ?_, ?_⟩
  · intro actions' t e' honly' hsame hrun'
    have htracks' := (tracks_init groupID).run honly' hrun'
    rw [List.nil_append] at htracks'
    apply ExtTreeSet.ext_mem
    intro nodeName
    rw [htracks'.leads_iff, htracks.leads_iff, Leads.congr hsame]
  · intro rand
    split
    · rename_i hnone
      rcases s.selectNodeByBlockNumber_mem rand groupID with hempty | hmem
      · apply hempty
      · rw [htracks.nodes, hnone] at hmem
        cases hmem
    · rename_i hsome
      obtain ⟨nodeName, hnode⟩ := htracks.reached hsome
      rw [← htracks.nodes] at hnode
      rw [← htracks.leads_iff]
      apply selectNodeByBlockNumber_mem_of_mem hnode

/-- Two nodes report the latest block, one of them after a later notification of another
node. -/
def twoLeaders : List (GroupAction String) :=
  [.updateGroupBlockInfo "group0" "node0" 0, .updateGroupBlockInfo "group0" "node1" 7,
    .updateGroupBlockInfo "group0" "node0" 6, .updateGroupBlockInfo "group0" "node2" 7]

theorem latestNodes_exact_twoLeaders :
  ∃ s e, (groupMachine String).run {} twoLeaders = some (s, e)
    ∧ ∀ nodeName, nodeName ∈ s.latestNodes "group0"
      ↔ Leads (reports "group0" twoLeaders) nodeName
  := by
  have honly : ∀ action ∈ twoLeaders, OnlyReports action := by
    simp [twoLeaders, OnlyReports]
  exact ⟨_, _, rfl, (latestNodes_exact honly rfl "group0").1⟩

end GroupManager
