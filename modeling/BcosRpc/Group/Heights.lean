import BcosRpc.Group.Latest

/-!
# Heights and latest nodes

`updateGroupBlockInfo` and `removeGroupBlockInfo` act on each group alone, on its height and on
its latest nodes. A group without a height counts as one of height `0`, so that a first report
of height `0` enters the node and no height; `getBlockNumberByGroup` takes such a group for
unknown, and the next removal takes out all its nodes. With every other report the two tables
stay in step.
-/

open Std

/-! ### The entries of a group -/

/-- What the two tables have of a group. -/
@[ext]
structure LatestEntry where
  height : Option Int := none
  nodes : Option (ExtTreeSet String) := none

namespace LatestEntry

/-- A notification changes nothing: its block is expired, or the node is entered with it. -/
def ignores (nodeName : String) (blockNumber : Int) (entry : LatestEntry) : Bool :=
  match entry.height with
  | none => false
  | some current =>
      current > blockNumber || (current == blockNumber && (entry.nodes.getD ∅).contains nodeName)

/-- The entries after a notification. -/
def notify (nodeName : String) (blockNumber : Int) (entry : LatestEntry) : LatestEntry :=
  if entry.ignores nodeName blockNumber then entry
  else if entry.height.getD 0 < blockNumber then
    { height := some blockNumber, nodes := some ((∅ : ExtTreeSet String).insert nodeName) }
  else { entry with nodes := some ((entry.nodes.getD ∅).insert nodeName) }

/-- The entries after the removal of nodes. -/
def remove (lost : ExtTreeSet String) (entry : LatestEntry) : LatestEntry :=
  match entry.height, entry.nodes with
  | some height, some nodes =>
      let left := lost.toList.foldl ExtTreeSet.erase nodes
      if left.isEmpty then {} else { height := some height, nodes := some left }
  | _, _ => {}

/-- The two entries are in step: neither is there, or the height is positive and reported by
every node, and there is one. -/
inductive InStep (Reported : String → Int → Prop) : LatestEntry → Prop where
  | absent : InStep Reported {}
  | present {height : Int} {nodes : ExtTreeSet String} :
      0 < height → (∃ nodeName, nodeName ∈ nodes) →
      (∀ nodeName ∈ nodes, Reported nodeName height) →
      InStep Reported { height := some height, nodes := some nodes }

variable {Reported Reported' : String → Int → Prop} {entry : LatestEntry}

theorem InStep.mono (h : entry.InStep Reported)
    (hmono : ∀ nodeName height, Reported nodeName height → Reported' nodeName height) :
  entry.InStep Reported'
  := by
  cases h with
  | absent => exact .absent
  | present hpos hsome hnodes =>
      apply InStep.present hpos hsome
      intro nodeName hnode
      apply hmono nodeName _ (hnodes nodeName hnode)

/-- The height is known exactly when there are latest nodes. -/
theorem InStep.known_iff (h : entry.InStep Reported) :
  0 ≤ entry.height.getD (-1)
    ↔ ∃ nodes, entry.nodes = some nodes ∧ ∃ nodeName, nodeName ∈ nodes
  := by
  cases h with
  | absent => simp
  | present hpos hsome _ => simp [hpos.le, hsome]

/-- The latest nodes reported the height. -/
theorem InStep.reported (h : entry.InStep Reported) {nodeName : String}
    (hnode : nodeName ∈ entry.nodes.getD ∅) :
  Reported nodeName (entry.height.getD (-1))
  := by
  cases h with
  | absent => cases ExtTreeSet.not_mem_empty hnode
  | present _ _ hnodes => apply hnodes nodeName hnode

/-- A report keeps the entries in step, unless it is a first one of height `0`. -/
theorem InStep.notify (h : entry.InStep Reported) {nodeName : String} {blockNumber : Int}
    (hnonneg : 0 ≤ blockNumber) (hfirst : entry.height = none → blockNumber ≠ 0)
    (hreported : Reported nodeName blockNumber) :
  (entry.notify nodeName blockNumber).InStep Reported
  := by
  cases h with
  | absent =>
      have hpos : 0 < blockNumber := by
        have := hfirst rfl
        omega
      have hnotify : LatestEntry.notify nodeName blockNumber {}
          = { height := some blockNumber
              nodes := some ((∅ : ExtTreeSet String).insert nodeName) } := if_pos hpos
      rw [hnotify]
      apply InStep.present hpos ⟨nodeName, ExtTreeSet.mem_insert_self⟩
      intro other hother
      obtain rfl : nodeName = other := by simpa using hother
      apply hreported
  | present hpos hsome hnodes =>
      rename_i height nodes
      rw [LatestEntry.notify]
      split
      · exact .present hpos hsome hnodes
      · rename_i hignored
        split
        · rename_i hlt
          apply InStep.present (hpos.trans hlt) ⟨nodeName, ExtTreeSet.mem_insert_self⟩
          intro other hother
          obtain rfl : nodeName = other := by simpa using hother
          apply hreported
        · -- The report is not expired: its height is the one recorded.
          rename_i hle
          have heq : blockNumber = height := by
            simp only [ignores, Bool.or_eq_true, decide_eq_true_eq, not_or] at hignored
            simp only [Option.getD_some] at hle
            omega
          apply InStep.present hpos ⟨nodeName, ExtTreeSet.mem_insert_self⟩
          intro other hother
          rw [Option.getD_some, ExtTreeSet.mem_insert, LawfulEqCmp.compare_eq_iff_eq] at hother
          obtain rfl | hother := hother
          · rw [← heq]
            apply hreported
          · apply hnodes other hother

/-- A first report of height `0` enters the node and no height. -/
theorem notify_zero_of_none (hnone : entry.height = none) (nodeName : String) :
  entry.notify nodeName 0
    = { height := none, nodes := some ((entry.nodes.getD ∅).insert nodeName) }
  := by
  obtain ⟨height, nodes⟩ := entry
  cases hnone
  rfl

/-- A removal keeps the entries in step. -/
theorem InStep.remove (h : entry.InStep Reported) (lost : ExtTreeSet String) :
  (entry.remove lost).InStep Reported
  := by
  cases h with
  | absent => exact .absent
  | present hpos hsome hnodes =>
      rename_i height nodes
      simp only [LatestEntry.remove]
      split
      · exact .absent
      · rename_i hleft
        apply InStep.present hpos
        · rw [Table.isEmpty_iff_forall_not_mem, not_forall] at hleft
          simpa only [not_not] using hleft
        · intro nodeName hnode
          apply hnodes
          apply ((Table.mem_foldl_eraseSet _ _ _).mp hnode).1

/-- Of entries that are in step, a removal takes out only the nodes it is given. -/
theorem InStep.mem_of_removed (h : entry.InStep Reported) {lost : ExtTreeSet String}
    {nodeName : String} (hbefore : nodeName ∈ entry.nodes.getD ∅)
    (hafter : nodeName ∉ (entry.remove lost).nodes.getD ∅) :
  nodeName ∈ lost
  := by
  cases h with
  | absent => cases ExtTreeSet.not_mem_empty hbefore
  | present hpos hsome hnodes =>
      rename_i height nodes
      rw [Option.getD_some] at hbefore
      have hleft : nodeName ∉ lost.toList.foldl ExtTreeSet.erase nodes := by
        intro hmem
        apply hafter
        have hempty : ¬ (lost.toList.foldl ExtTreeSet.erase nodes).isEmpty = true := by
          rw [Table.isEmpty_iff_forall_not_mem]
          intro hnone
          apply hnone nodeName hmem
        simp only [LatestEntry.remove]
        rw [if_neg hempty]
        apply hmem
      rw [Table.mem_foldl_eraseSet, not_and, not_not, ExtTreeSet.mem_toList] at hleft
      apply hleft hbefore

end LatestEntry

namespace GroupManager

variable {Service : Type}

/-- The entries of a group. -/
def latestEntry (s : GroupManager Service) (groupID : String) : LatestEntry where
  height := s.groupBlockInfos[groupID]?
  nodes := s.nodesWithLatestBlockNumber[groupID]?

/-- The height of a group, `-1` when it is unknown. -/
def getBlockNumberByGroup (s : GroupManager Service) (groupID : String) : Int :=
  s.groupBlockInfos.getD groupID (-1)

theorem latestNodes_eq (s : GroupManager Service) (groupID : String) :
  s.latestNodes groupID = (s.latestEntry groupID).nodes.getD ∅
  := ExtTreeMap.getD_eq_getD_getElem?

theorem getBlockNumberByGroup_eq (s : GroupManager Service) (groupID : String) :
  s.getBlockNumberByGroup groupID = (s.latestEntry groupID).height.getD (-1)
  := ExtTreeMap.getD_eq_getD_getElem?

/-! ### The operations, group by group -/

/-- A notification acts on the entries of its group. -/
theorem latestEntry_updateGroupBlockInfo (s : GroupManager Service)
    (groupID nodeName : String) (blockNumber : Int) (g : String) :
  (s.updateGroupBlockInfo groupID nodeName blockNumber).latestEntry g
    = if g = groupID then (s.latestEntry g).notify nodeName blockNumber else s.latestEntry g
  := by
  have hignores : (s.latestEntry groupID).ignores nodeName blockNumber
      = s.ignoresBlock groupID nodeName blockNumber := by
    rw [LatestEntry.ignores, ignoresBlock, latestNodes_eq]
    rfl
  have hheight : s.groupBlockInfos.getD groupID 0 = (s.latestEntry groupID).height.getD 0 :=
    ExtTreeMap.getD_eq_getD_getElem?
  rw [updateGroupBlockInfo]
  by_cases hg : g = groupID
  · subst hg
    rw [if_pos rfl, LatestEntry.notify, hignores, hheight, latestNodes_eq]
    split
    · rfl
    · split <;> simp [latestEntry]
  · rw [if_neg hg]
    split
    · rfl
    · split <;> simp [latestEntry, ExtTreeMap.getElem?_insert, Ne.symm hg]

theorem latestEntry_removeLatest (s : GroupManager Service) (lost : String × ExtTreeSet String)
    (g : String) :
  (s.removeLatest lost).latestEntry g
    = if g = lost.1 then (s.latestEntry g).remove lost.2 else s.latestEntry g
  := by
  by_cases hg : g = lost.1
  · subst hg
    rw [if_pos rfl, removeLatest]
    cases hnodes : s.nodesWithLatestBlockNumber[lost.1]? with
    | none => simp [latestEntry, LatestEntry.remove, hnodes]
    | some nodes =>
        cases hheight : s.groupBlockInfos[lost.1]? with
        | none =>
            have hnew : lost.1 ∉ s.groupBlockInfos := by
              simp [ExtTreeMap.mem_iff_isSome_getElem?, hheight]
            simp [latestEntry, LatestEntry.remove, hnew]
        | some height =>
            have hknown : lost.1 ∈ s.groupBlockInfos := by
              simp [ExtTreeMap.mem_iff_isSome_getElem?, hheight]
            simp only [latestEntry, LatestEntry.remove, hnodes, hheight, hknown,
              not_true_eq_false, if_false]
            split <;> simp [hheight]
  · rw [if_neg hg, removeLatest]
    split
    · simp [latestEntry, ExtTreeMap.getElem?_erase, Ne.symm hg]
    · split
      · simp [latestEntry, ExtTreeMap.getElem?_erase, Ne.symm hg]
      · dsimp only
        split <;>
          simp [latestEntry, ExtTreeMap.getElem?_erase, ExtTreeMap.getElem?_insert, Ne.symm hg]

/-- A removal acts on the entries of the groups it is given nodes of. -/
theorem latestEntry_removeGroupBlockInfo
    (unreachableNodes : ExtTreeMap String (ExtTreeSet String)) (s : GroupManager Service)
    (g : String) :
  (removeGroupBlockInfo unreachableNodes s).latestEntry g
    = match unreachableNodes[g]? with
      | none => s.latestEntry g
      | some lost => (s.latestEntry g).remove lost
  := by
  rw [removeGroupBlockInfo, Table.view_foldl latestEntry LatestEntry.remove
    latestEntry_removeLatest (Table.nodup_keys_toList _), Table.lookup_toList]
  cases unreachableNodes[g]? <;> rfl

/-! ### Runs -/

end GroupManager

/-- A notification of a height that a chain can have, or a removal of nodes. -/
inductive HeightAction where
  | updateGroupBlockInfo (groupID nodeName : String) (blockNumber : Nat)
  | removeGroupBlockInfo (unreachableNodes : ExtTreeMap String (ExtTreeSet String))

/-- The notifications and removals one at a time. The outputs are the heights that the nodes
report. -/
def heightMachine (Service : Type) :
    Machine (GroupManager Service) HeightAction (String × String × Int) where
  step
    | s, .updateGroupBlockInfo groupID nodeName blockNumber =>
        some (s.updateGroupBlockInfo groupID nodeName blockNumber,
          [(groupID, nodeName, (blockNumber : Int))])
    | s, .removeGroupBlockInfo unreachableNodes =>
        some (s.removeGroupBlockInfo unreachableNodes, [])

namespace GroupManager

/-- The height of a group is known exactly when it has latest nodes, and then they reported it;
a removal takes out only nodes it is given. -/
structure HeightsInStep (reported : List (String × String × Int)) (s : GroupManager Service) :
    Prop where
  known : ∀ groupID, 0 ≤ s.getBlockNumberByGroup groupID
    ↔ ∃ nodes, s.nodesWithLatestBlockNumber[groupID]? = some nodes ∧ ∃ nodeName, nodeName ∈ nodes
  reported : ∀ groupID, 0 ≤ s.getBlockNumberByGroup groupID →
    ∀ nodeName ∈ s.latestNodes groupID,
      (groupID, nodeName, s.getBlockNumberByGroup groupID) ∈ reported
  removed : ∀ (unreachableNodes : ExtTreeMap String (ExtTreeSet String)) groupID nodeName,
    nodeName ∈ s.latestNodes groupID →
    nodeName ∉ (removeGroupBlockInfo unreachableNodes s).latestNodes groupID →
    nodeName ∈ unreachableNodes.getD groupID ∅

/-- The first report for a group without a height is not of height `0`. -/
def EntersHeight (s : GroupManager Service) : HeightAction → Prop
  | .updateGroupBlockInfo groupID _ blockNumber => groupID ∉ s.groupBlockInfos → blockNumber ≠ 0
  | .removeGroupBlockInfo _ => True

/-- The entries of every group are in step. -/
def EntriesInStep (reported : List (String × String × Int)) (s : GroupManager Service) : Prop :=
  ∀ groupID, (s.latestEntry groupID).InStep fun nodeName height =>
    (groupID, nodeName, height) ∈ reported

theorem entriesInStep_init :
  EntriesInStep [] ({} : GroupManager Service)
  := by
  intro groupID
  have hempty : ({} : GroupManager Service).latestEntry groupID = {} := by
    simp [latestEntry]
  rw [hempty]
  exact .absent

/-- Where the entries are in step, so are the tables. -/
theorem EntriesInStep.heightsInStep {reported : List (String × String × Int)}
    {s : GroupManager Service} (h : s.EntriesInStep reported) :
  s.HeightsInStep reported
  := by
  constructor
  · intro groupID
    rw [getBlockNumberByGroup_eq]
    apply (h groupID).known_iff
  · intro groupID _ nodeName hnode
    rw [latestNodes_eq] at hnode
    rw [getBlockNumberByGroup_eq]
    apply (h groupID).reported hnode
  · intro unreachableNodes groupID nodeName hbefore hafter
    rw [latestNodes_eq] at hbefore hafter
    rw [latestEntry_removeGroupBlockInfo] at hafter
    rw [ExtTreeMap.getD_eq_getD_getElem?]
    cases hlost : unreachableNodes[groupID]? with
    | none =>
        rw [hlost] at hafter
        apply absurd hbefore hafter
    | some lost =>
        rw [hlost] at hafter
        apply (h groupID).mem_of_removed hbefore hafter

/-- A step that enters a height keeps the entries in step. -/
theorem EntriesInStep.step {reported e : List (String × String × Int)}
    {s t : GroupManager Service} {action : HeightAction} (h : s.EntriesInStep reported)
    (henters : s.EntersHeight action)
    (hstep : (heightMachine Service).step s action = some (t, e)) :
  t.EntriesInStep (reported ++ e)
  := by
  cases action with
  | updateGroupBlockInfo groupID nodeName blockNumber =>
      obtain ⟨rfl, rfl⟩ := Prod.mk.inj (Option.some.inj hstep)
      intro g
      have hbefore : (s.latestEntry g).InStep fun name height =>
          (g, name, height) ∈ reported ++ [(groupID, nodeName, (blockNumber : Int))] := by
        apply (h g).mono
        intro name height
        apply List.mem_append_left
      rw [latestEntry_updateGroupBlockInfo]
      split
      · rename_i hg
        subst hg
        apply hbefore.notify (by omega)
        · intro hnone hzero
          apply henters _ (by omega)
          rw [ExtTreeMap.mem_iff_isSome_getElem?, Option.not_isSome_iff_eq_none]
          apply hnone
        · apply List.mem_concat_self
      · apply hbefore
  | removeGroupBlockInfo unreachableNodes =>
      obtain ⟨rfl, rfl⟩ := Prod.mk.inj (Option.some.inj hstep)
      intro g
      rw [List.append_nil, latestEntry_removeGroupBlockInfo]
      cases unreachableNodes[g]? with
      | none => exact h g
      | some lost => exact (h g).remove lost

/-- After a report of height `0` for a group without a height, its height is unknown and it has a
latest node. -/
theorem not_heightsInStep_of_zero {reported : List (String × String × Int)}
    {s : GroupManager Service} {groupID : String} (hnone : groupID ∉ s.groupBlockInfos)
    (nodeName : String) :
  ¬ (s.updateGroupBlockInfo groupID nodeName 0).HeightsInStep reported
  := by
  intro h
  have hentry := s.latestEntry_updateGroupBlockInfo groupID nodeName 0 groupID
  rw [if_pos rfl, LatestEntry.notify_zero_of_none (ExtTreeMap.getElem?_eq_none hnone)] at hentry
  have hknown := (h.known groupID).mpr
    ⟨_, congrArg LatestEntry.nodes hentry, nodeName, ExtTreeSet.mem_insert_self⟩
  rw [getBlockNumberByGroup_eq, hentry] at hknown
  simp at hknown

/-- What single steps show: the tables are in step exactly when the entries of each group are. -/
theorem heightMachine_exact :
  Machine.Exact (heightMachine Service) (fun reported s => s.EntriesInStep reported)
    (fun reported s => s.HeightsInStep reported) (fun _ _ _ => True)
    (fun _ s action => s.EntersHeight action)
  := by
  constructor
  · intro reported s h
    apply h.heightsInStep
  · intro reported s action t e h _ henters hstep
    apply h.step henters hstep
  · intro reported s action t e h _ hstep hP
    cases action with
    | updateGroupBlockInfo groupID nodeName blockNumber =>
        rintro hnone rfl
        obtain ⟨rfl, _⟩ := Prod.mk.inj (Option.some.inj hstep)
        apply not_heightsInStep_of_zero hnone nodeName hP
    | removeGroupBlockInfo unreachableNodes => trivial

/-- From the empty manager on, the tables stay in step throughout a run exactly when every first
report for a group without a height is of a height other than `0`. -/
theorem heightsThroughout_iff (actions : List HeightAction) :
  (heightMachine Service).Throughout (fun reported s => s.HeightsInStep reported) [] {} actions
    ↔ (heightMachine Service).Along (fun _ s action => s.EntersHeight action) [] {} actions
  := by
  apply heightMachine_exact.throughout_iff entriesInStep_init
  apply Machine.along_of_forall
  intros
  trivial

/-- The first block of a chain leaves its height unknown. -/
theorem heightsThroughout_counterexample :
  ¬ ∀ (actions : List HeightAction) (s : GroupManager String) (reported : List (String × String × Int)),
    (heightMachine String).run {} actions = some (s, reported) → s.HeightsInStep reported
  := by
  intro h
  have hknown := (h [.updateGroupBlockInfo "group0" "node0" 0] _ _ rfl).known "group0"
  have hnonneg := hknown.mpr ⟨_, rfl, "node0", by decide⟩
  revert hnonneg
  decide

end GroupManager
