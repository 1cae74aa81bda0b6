import BcosRpc.Rpc.Server

/-!
# The notifier

The groups that the notifier of the manager is given by an operation are those the operation
changes, each as it is afterwards: a table that follows them has the groups of the manager.
-/

open Std

namespace GroupManager

variable {Service : Type}

/-- Groups as writes to their names. -/
def writes (groupInfos : List GroupInfo) : List (String × GroupInfo) :=
  groupInfos.map fun groupInfo => (groupInfo.groupID, groupInfo)

/-- The groups of a manager, by name. -/
def recorded (s : GroupManager Service) (groupID : String) : Option GroupInfo :=
  s.groupInfos[groupID]?

theorem fst_writes (groupInfos : List GroupInfo) :
  (writes groupInfos).map Prod.fst = groupInfos.map GroupInfo.groupID
  := by
  rw [writes, List.map_map]
  rfl

theorem follows_updateNodeServiceWithoutLock (build : ChainNodeInfo → Option Service)
    (groupID : String) (s : GroupManager Service) (node : ChainNodeInfo) :
  Follows (writes (notifiedByNode build groupID s node)) s.recorded
    (updateNodeServiceWithoutLock build groupID s node).recorded
  := by
  rw [notifiedByNode]
  split
  · rename_i hknown
    rw [updateNodeServiceWithoutLock, if_pos hknown]
    apply Follows.refl
  · rename_i hnew
    cases hbuild : build node with
    | none =>
        rw [updateNodeServiceWithoutLock, if_neg hnew, hbuild]
        apply Follows.refl
    | some service =>
        intro k
        have hinfos : (updateNodeServiceWithoutLock build groupID s node).groupInfos
            = s.groupInfos.modify groupID (GroupInfo.appendNodeInfo node) := by
          rw [updateNodeServiceWithoutLock, if_neg hnew, hbuild]
          rfl
        have hid := (updateNodeServiceWithoutLock build groupID s node).groupID_eq groupID
        dsimp only
        simp only [recorded, hinfos, ExtTreeMap.getElem?_modify, LawfulEqCmp.compare_eq_iff_eq,
          if_true] at hid ⊢
        by_cases hk : groupID = k
        · subst hk
          cases hrecorded : s.groupInfos[groupID]? with
          | none => simp [writes]
          | some info =>
              have hname := hid _ (by rw [hrecorded]; rfl)
              simp [writes, lastWrite_singleton, hname]
        · have hnot : k ∉ (writes ((s.groupInfos[groupID]?.map
              (GroupInfo.appendNodeInfo node)).toList)).map Prod.fst := by
            rw [fst_writes]
            intro hmem
            obtain ⟨info, hinfo, rfl⟩ := List.mem_map.mp hmem
            apply hk (hid info (Option.mem_toList.mp hinfo)).symm
          rw [(lastWrite_eq_none_iff _ _).mpr hnot, if_neg hk, Option.none_or]

theorem follows_updateNodes (build : ChainNodeInfo → Option Service) (groupID : String)
    (nodes : List ChainNodeInfo) (s : GroupManager Service) :
  Follows (writes (notifiedByNodes build groupID s nodes)) s.recorded
    (nodes.foldl (updateNodeServiceWithoutLock build groupID) s).recorded
  := by
  induction nodes generalizing s with
  | nil => apply Follows.refl
  | cons node nodes ih =>
      rw [notifiedByNodes, writes, List.map_append, List.foldl_cons]
      apply (follows_updateNodeServiceWithoutLock build groupID s node).trans (ih _)

/-- The notifier is given every group that an update changes, as it is after the update. -/
theorem follows_updateGroupInfo (build : ChainNodeInfo → Option Service) (groupInfo : GroupInfo)
    (s : GroupManager Service) :
  Follows (writes (s.notifiedByUpdate build groupInfo)) s.recorded
    (s.updateGroupInfo build groupInfo).recorded
  := by
  rw [notifiedByUpdate, updateGroupInfo]
  split
  · intro k
    simp only [recorded, ExtTreeMap.getElem?_insert, LawfulEqCmp.compare_eq_iff_eq, writes,
      List.map_cons, List.map_nil, lastWrite_singleton, eq_comm (a := k)]
    split <;> rfl
  · apply follows_updateNodes

theorem removeNodeInfos_of_none_lost {lost : String → Bool} {info : GroupInfo}
    (h : ∀ name ∈ info.nodeInfos, lost name = false) :
  info.removeNodeInfos lost = info
  := by
  have hnodes : info.nodeInfos.filter (fun name _ => !lost name) = info.nodeInfos := by
    apply ExtTreeMap.ext_getElem?
    intro name
    rw [ExtTreeMap.getElem?_filter']
    cases hname : info.nodeInfos[name]? with
    | none => rfl
    | some node =>
        have hmem : name ∈ info.nodeInfos := by
          rw [ExtTreeMap.mem_iff_isSome_getElem?, hname]
          rfl
        simp [h name hmem]
  simp only [GroupInfo.removeNodeInfos, hnodes]

/-- A check leaves a group without lost nodes as it is. -/
theorem recorded_checkNodeStatus_of_not_mem {unreachable : String → String → Bool}
    {s : GroupManager Service} {groupID : String}
    (h : groupID ∉ (s.checkNodeStatus unreachable).2) :
  (s.checkNodeStatus unreachable).1.recorded groupID = s.recorded groupID
  := by
  simp only [recorded, checkNodeStatus, ExtTreeMap.getElem?_map]
  cases hinfo : s.groupInfos[groupID]? with
  | none => rfl
  | some info =>
      rw [Option.map_some, removeNodeInfos_of_none_lost]
      intro name hname
      rw [s.groupID_eq groupID info hinfo, ← Bool.not_eq_true]
      intro hlost
      apply h
      obtain ⟨p, hp, rfl, _⟩ :=
        (mem_checkNodeStatus unreachable s _ _).mpr ⟨info, hinfo, hname, hlost⟩
      rw [ExtTreeMap.mem_iff_isSome_getElem?,
        ExtTreeMap.mem_toList_iff_getElem?_eq_some.mp hp]
      rfl

theorem exists_recorded_of_mem {unreachable : String → String → Bool} {s : GroupManager Service}
    {groupID : String} (h : groupID ∈ (s.checkNodeStatus unreachable).2) :
  ∃ info, (s.checkNodeStatus unreachable).1.recorded groupID = some info
  := by
  obtain ⟨info, hinfo, _⟩ := (Table.mem_filterMap_iff _ _ _).mp h
  simp only [recorded, checkNodeStatus, ExtTreeMap.getElem?_map, hinfo, Option.map_some]
  exact ⟨_, rfl⟩

/-- The notifier is given every group that loses nodes, as it is after the check. -/
theorem follows_checkNodeStatus (unreachable : String → String → Bool)
    (s : GroupManager Service) :
  Follows (writes (s.notifiedByCheck unreachable)) s.recorded
    (s.checkNodeStatus unreachable).1.recorded
  := by
  have hwrites : ∀ g info, (g, info) ∈ writes (s.notifiedByCheck unreachable)
      ↔ g ∈ (s.checkNodeStatus unreachable).2
        ∧ (s.checkNodeStatus unreachable).1.recorded g = some info := by
    intro g info
    simp only [writes, notifiedByCheck, List.mem_map, List.mem_filterMap, ExtTreeMap.mem_keys,
      Prod.mk.injEq, recorded]
    constructor
    · rintro ⟨_, ⟨g', hg', hinfo⟩, rfl, rfl⟩
      rw [(s.checkNodeStatus unreachable).1.groupID_eq _ _ hinfo]
      exact ⟨hg', hinfo⟩
    · rintro ⟨hg, hinfo⟩
      exact ⟨info, ⟨g, hg, hinfo⟩, (s.checkNodeStatus unreachable).1.groupID_eq _ _ hinfo, rfl⟩
  intro k
  by_cases hk : k ∈ (s.checkNodeStatus unreachable).2
  · obtain ⟨info, hinfo⟩ := exists_recorded_of_mem hk
    rw [lastWrite_eq_some_of_unique ((hwrites k info).mpr ⟨hk, hinfo⟩), Option.some_or, hinfo]
    intro y hy
    apply Option.some.inj
    rw [← hinfo, ((hwrites k y).mp hy).2]
  · have hnot : k ∉ (writes (s.notifiedByCheck unreachable)).map Prod.fst := by
      intro hmem
      obtain ⟨⟨_, info⟩, hinfo, rfl⟩ := List.mem_map.mp hmem
      apply hk ((hwrites _ _).mp hinfo).1
    rw [(lastWrite_eq_none_iff _ _).mpr hnot, Option.none_or,
      recorded_checkNodeStatus_of_not_mem hk]

end GroupManager
