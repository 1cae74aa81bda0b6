import BcosRpc.Group.Manager
import BcosRpc.Machine.Basic
import Mathlib.Data.List.GetD
import Mathlib.Tactic.Common

/-!
# Node selection

A request without a node name is sent to one of the nodes that reported the latest block of
its group, and such a node need not have a service: a block notification is recorded under
whatever name it carries. Selection finds a service of every group that has one exactly when
the names recorded are, each time, names of nodes with a service.
-/

open Std

namespace GroupManager

variable {Service : Type}

/-! ### What the tables say -/

/-- A node has a service. -/
def Registered (s : GroupManager Service) (groupID nodeName : String) : Prop :=
  (s.queryNodeService groupID nodeName).isSome

instance (s : GroupManager Service) (groupID nodeName : String) :
    Decidable (s.Registered groupID nodeName) :=
  inferInstanceAs (Decidable (_ = true))

/-- A group has a node with a service. -/
def HasService (s : GroupManager Service) (groupID : String) : Prop :=
  ∃ nodeName, s.Registered groupID nodeName

/-- Every node with a service is a node of its group. -/
def Consistent (s : GroupManager Service) : Prop :=
  ∀ groupID nodeName, s.Registered groupID nodeName →
    ∃ groupInfo, s.groupInfos[groupID]? = some groupInfo ∧ nodeName ∈ groupInfo.nodeInfos

/-- Whatever index is drawn, the node selected for a group that has a service is one of the
services of the group. -/
def Selects (s : GroupManager Service) : Prop :=
  ∀ groupID, s.HasService groupID → ∀ rand, ∃ nodeName service,
    s.queryNodeService groupID nodeName = some service
      ∧ s.getNodeService rand groupID "" = some service

theorem registered_iff {s : GroupManager Service} {groupID nodeName : String} :
  s.Registered groupID nodeName
    ↔ ∃ services, s.nodeServiceList[groupID]? = some services ∧ nodeName ∈ services
  := by
  rw [Registered, queryNodeService, Option.isSome_bind, Option.any_eq_true]
  simp only [ExtTreeMap.mem_iff_isSome_getElem?]

theorem registered_iff_exists {s : GroupManager Service} {groupID nodeName : String} :
  s.Registered groupID nodeName
    ↔ ∃ service, s.queryNodeService groupID nodeName = some service
  := Option.isSome_iff_exists

/-! ### The selected node -/

/-- The node selected by block number reported the latest block, if there is one. -/
theorem selectNodeByBlockNumber_mem (s : GroupManager Service) (rand : Nat) (groupID : String) :
  s.selectNodeByBlockNumber rand groupID = ""
    ∨ s.selectNodeByBlockNumber rand groupID ∈ s.latestNodes groupID
  := by
  rw [selectNodeByBlockNumber, latestNodes, ExtTreeMap.getD_eq_getD_getElem?]
  cases s.nodesWithLatestBlockNumber[groupID]? with
  | none =>
      left
      rfl
  | some nodesList =>
      dsimp only
      split
      · left
        rfl
      · rename_i hsize
        right
        have hlt : rand % nodesList.size < nodesList.toList.length := by
          rw [ExtTreeSet.length_toList]
          apply Nat.mod_lt
          omega
        rw [List.getD_eq_getElem _ _ hlt, Option.getD_some, ← ExtTreeSet.mem_toList]
        apply List.getElem_mem

/-- Every node that reported the latest block is selected with some index. -/
theorem exists_selectNodeByBlockNumber_eq {s : GroupManager Service} {groupID nodeName : String}
    (h : nodeName ∈ s.latestNodes groupID) :
  ∃ rand, s.selectNodeByBlockNumber rand groupID = nodeName
  := by
  rw [latestNodes, ExtTreeMap.getD_eq_getD_getElem?] at h
  cases hnodes : s.nodesWithLatestBlockNumber[groupID]? with
  | none =>
      rw [hnodes] at h
      apply absurd h ExtTreeSet.not_mem_empty
  | some nodesList =>
      rw [hnodes, Option.getD_some, ← ExtTreeSet.mem_toList] at h
      obtain ⟨i, hi, hget⟩ := List.mem_iff_getElem.mp h
      use i
      have hsize : i < nodesList.size := by
        rwa [ExtTreeSet.length_toList] at hi
      rw [selectNodeByBlockNumber, hnodes]
      dsimp only
      rw [if_neg (by omega), Nat.mod_eq_of_lt hsize, List.getD_eq_getElem _ _ hi, hget]

/-- The node found by going through the nodes of a group is one of its services, and there is
one when the group has a service. -/
theorem selectNodeRandomly_spec {s : GroupManager Service} (hs : s.Consistent)
    {groupID : String} (h : s.HasService groupID) :
  ∃ nodeName service, s.queryNodeService groupID nodeName = some service
    ∧ s.selectNodeRandomly groupID = some service
  := by
  obtain ⟨nodeName, hreg⟩ := h
  obtain ⟨groupInfo, hinfo, hnode⟩ := hs groupID nodeName hreg
  obtain ⟨services, hservices, hmem⟩ := registered_iff.mp hreg
  have hsome : (groupInfo.nodeInfos.toList.findSome?
      fun node => services[node.2.nodeName]?).isSome = true := by
    rw [List.findSome?_isSome_iff]
    use (nodeName, groupInfo.nodeInfos[nodeName])
    constructor
    · apply ExtTreeMap.mem_toList_iff_getElem?_eq_some.mpr
      apply ExtTreeMap.getElem?_eq_some_getElem
    · rw [groupInfo.nodeName_eq nodeName _ (ExtTreeMap.getElem?_eq_some_getElem hnode)]
      rwa [← ExtTreeMap.mem_iff_isSome_getElem?]
  obtain ⟨service, hservice⟩ := Option.isSome_iff_exists.mp hsome
  obtain ⟨node, _, hnodeService⟩ := List.exists_of_findSome?_eq_some hservice
  use node.2.nodeName, service
  constructor
  · rw [queryNodeService, hservices]
    apply hnodeService
  · rw [selectNodeRandomly, hinfo, hservices]
    apply hservice

/-- Selection finds a service of every group that has one exactly when the nodes that
reported the latest block of the group have one, the empty name apart. -/
theorem selects_iff {s : GroupManager Service} (hs : s.Consistent) :
  s.Selects ↔ ∀ groupID, s.HasService groupID → ∀ nodeName ∈ s.latestNodes groupID,
    nodeName = "" ∨ s.Registered groupID nodeName
  := by
  constructor
  · intro h groupID hservice nodeName hnode
    obtain ⟨rand, hrand⟩ := exists_selectNodeByBlockNumber_eq hnode
    obtain ⟨_, service, _, hget⟩ := h groupID hservice rand
    by_cases hempty : nodeName = ""
    · left
      apply hempty
    · right
      rw [getNodeService, if_pos rfl, selectNode, hrand, if_neg hempty] at hget
      apply registered_iff_exists.mpr ⟨service, hget⟩
  · intro h groupID hservice rand
    rw [getNodeService, if_pos rfl, selectNode]
    split
    · apply selectNodeRandomly_spec hs hservice
    · rename_i hne
      have hmem := (s.selectNodeByBlockNumber_mem rand groupID).resolve_left hne
      have hreg := (h groupID hservice _ hmem).resolve_left hne
      obtain ⟨service, hquery⟩ := registered_iff_exists.mp hreg
      use s.selectNodeByBlockNumber rand groupID, service

/-! ### Registration -/

@[simp]
theorem queryNodeService_addService (s : GroupManager Service) (groupID nodeName : String)
    (service : Service) (g n : String) :
  (s.addService groupID nodeName service).queryNodeService g n
    = if groupID = g ∧ nodeName = n then some service else s.queryNodeService g n
  := by
  rw [queryNodeService, addService, queryNodeService, ExtTreeMap.getElem?_insert]
  by_cases hg : groupID = g
  · subst hg
    rw [ExtTreeMap.getD_eq_getD_getElem?]
    by_cases hn : nodeName = n
    · simp [hn]
    · cases s.nodeServiceList[groupID]? <;> simp [hn, ExtTreeMap.getElem?_insert]
  · simp [hg]

@[simp]
theorem queryNodeService_appendNodeInfo (s : GroupManager Service) (groupID : String)
    (node : ChainNodeInfo) (g n : String) :
  (s.appendNodeInfo groupID node).queryNodeService g n = s.queryNodeService g n
  := rfl

/-- Registering a node gives it a service, if one can be built, and no other one. -/
theorem registered_updateNodeServiceWithoutLock (build : ChainNodeInfo → Option Service)
    (groupID : String) (s : GroupManager Service) (node : ChainNodeInfo) (g n : String) :
  (updateNodeServiceWithoutLock build groupID s node).Registered g n
    ↔ s.Registered g n ∨ g = groupID ∧ n = node.nodeName ∧ (build node).isSome
  := by
  rw [updateNodeServiceWithoutLock]
  split
  · rename_i hknown
    constructor
    · intro h
      left
      apply h
    · rintro (h | ⟨rfl, rfl, _⟩)
      · apply h
      · apply hknown
  · cases build node with
    | none => simp
    | some service =>
        simp only [Registered, queryNodeService_appendNodeInfo, queryNodeService_addService]
        split
        · rename_i heq
          simp [heq.1, heq.2]
        · rename_i hne
          constructor
          · intro h
            left
            apply h
          · rintro (h | ⟨rfl, rfl, _⟩)
            · apply h
            · apply absurd ⟨rfl, rfl⟩ hne

theorem registered_foldl_update (build : ChainNodeInfo → Option Service) (groupID : String)
    (nodes : List ChainNodeInfo) (s : GroupManager Service) (g n : String) :
  (nodes.foldl (updateNodeServiceWithoutLock build groupID) s).Registered g n
    ↔ s.Registered g n
      ∨ g = groupID ∧ ∃ node ∈ nodes, n = node.nodeName ∧ (build node).isSome
  := by
  induction nodes generalizing s with
  | nil => simp
  | cons node nodes ih =>
      rw [List.foldl_cons, ih, registered_updateNodeServiceWithoutLock, or_assoc]
      simp only [List.mem_cons, exists_eq_or_imp, ← and_or_left]

/-- Registering a node of a recorded group leaves the nodes with a service among the nodes of
their groups. -/
theorem consistent_updateNodeServiceWithoutLock (build : ChainNodeInfo → Option Service)
    {groupID : String} {s : GroupManager Service} (node : ChainNodeInfo)
    (hgroup : groupID ∈ s.groupInfos) (hs : s.Consistent) :
  groupID ∈ (updateNodeServiceWithoutLock build groupID s node).groupInfos
    ∧ (updateNodeServiceWithoutLock build groupID s node).Consistent
  := by
  rw [updateNodeServiceWithoutLock]
  split
  · exact ⟨hgroup, hs⟩
  · cases build node with
    | none => exact ⟨hgroup, hs⟩
    | some service =>
        constructor
        · simp only [appendNodeInfo, addService, ExtTreeMap.mem_modify]
          apply hgroup
        · intro g n hreg
          rw [Registered, queryNodeService_appendNodeInfo, queryNodeService_addService] at hreg
          simp only [appendNodeInfo, addService, ExtTreeMap.getElem?_modify,
            LawfulEqCmp.compare_eq_iff_eq]
          split at hreg
          · rename_i heq
            obtain ⟨rfl, rfl⟩ := heq
            use (s.groupInfos[groupID]).appendNodeInfo node
            rw [if_pos rfl, ExtTreeMap.getElem?_eq_some_getElem hgroup]
            use rfl
            rw [GroupInfo.appendNodeInfo, ExtTreeMap.mem_insertIfNew]
            simp
          · obtain ⟨groupInfo, hinfo, hmem⟩ := hs g n hreg
            by_cases hg : groupID = g
            · subst hg
              use groupInfo.appendNodeInfo node
              rw [if_pos rfl, hinfo]
              use rfl
              rw [GroupInfo.appendNodeInfo, ExtTreeMap.mem_insertIfNew]
              right
              apply hmem
            · use groupInfo
              rw [if_neg hg]
              exact ⟨hinfo, hmem⟩

theorem consistent_foldl_update (build : ChainNodeInfo → Option Service) {groupID : String}
    (nodes : List ChainNodeInfo) {s : GroupManager Service} (hgroup : groupID ∈ s.groupInfos)
    (hs : s.Consistent) :
  (nodes.foldl (updateNodeServiceWithoutLock build groupID) s).Consistent
  := by
  induction nodes generalizing s with
  | nil => exact hs
  | cons node nodes ih =>
      obtain ⟨hgroup', hs'⟩ := consistent_updateNodeServiceWithoutLock build node hgroup hs
      apply ih hgroup' hs'

/-- The update of a group builds a service for a node. -/
def Builds (build : ChainNodeInfo → Option Service) (groupInfo : GroupInfo) (nodeName : String) :
    Prop :=
  ∃ node, groupInfo.nodeInfos[nodeName]? = some node ∧ (build node).isSome

theorem registered_updateGroupInfo (build : ChainNodeInfo → Option Service)
    (groupInfo : GroupInfo) (s : GroupManager Service) (g n : String) :
  (s.updateGroupInfo build groupInfo).Registered g n
    ↔ s.Registered g n
      ∨ g = groupInfo.groupID ∧ groupInfo.groupID ∈ s.groupInfos ∧ Builds build groupInfo n
  := by
  rw [updateGroupInfo]
  split
  · rename_i hnew
    simp [hnew, Registered, queryNodeService]
  · rename_i hknown
    rw [registered_foldl_update]
    apply or_congr_right
    apply and_congr_right
    rintro rfl
    rw [not_not] at hknown
    simp only [hknown, true_and, Builds, List.mem_map, Prod.exists,
      ExtTreeMap.mem_toList_iff_getElem?_eq_some]
    constructor
    · rintro ⟨node, ⟨name, node', hnode, rfl⟩, rfl, hbuild⟩
      use node'
      rw [groupInfo.nodeName_eq name node' hnode]
      exact ⟨hnode, hbuild⟩
    · rintro ⟨node, hnode, hbuild⟩
      exact ⟨node, ⟨n, node, hnode, rfl⟩, (groupInfo.nodeName_eq n node hnode).symm, hbuild⟩

theorem consistent_updateGroupInfo (build : ChainNodeInfo → Option Service)
    (groupInfo : GroupInfo) {s : GroupManager Service} (hs : s.Consistent) :
  (s.updateGroupInfo build groupInfo).Consistent
  := by
  rw [updateGroupInfo]
  split
  · rename_i hnew
    intro g n hreg
    obtain ⟨info, hinfo, hmem⟩ := hs g n hreg
    use info
    dsimp only
    rw [ExtTreeMap.getElem?_insert, if_neg]
    · exact ⟨hinfo, hmem⟩
    · rw [LawfulEqCmp.compare_eq_iff_eq]
      rintro rfl
      apply hnew
      rw [ExtTreeMap.mem_iff_isSome_getElem?, hinfo]
      rfl
  · rename_i hknown
    apply consistent_foldl_update build _ (not_not.mp hknown) hs

theorem latestNodes_foldl_update (build : ChainNodeInfo → Option Service) (groupID : String)
    (nodes : List ChainNodeInfo) (s : GroupManager Service) (g : String) :
  (nodes.foldl (updateNodeServiceWithoutLock build groupID) s).latestNodes g = s.latestNodes g
  := by
  induction nodes generalizing s with
  | nil => rfl
  | cons node nodes ih =>
      rw [List.foldl_cons, ih, updateNodeServiceWithoutLock]
      split
      · rfl
      · cases build node <;> rfl

@[simp]
theorem latestNodes_updateGroupInfo (build : ChainNodeInfo → Option Service)
    (groupInfo : GroupInfo) (s : GroupManager Service) (g : String) :
  (s.updateGroupInfo build groupInfo).latestNodes g = s.latestNodes g
  := by
  rw [updateGroupInfo]
  split
  · rfl
  · apply latestNodes_foldl_update

/-! ### Notifications -/

/-- A notification changes the nodes that reported the latest block of its group only: the node
is added to those with the same block, or takes their place. -/
theorem mem_latestNodes_updateGroupBlockInfo (s : GroupManager Service)
    (groupID nodeName : String) (blockNumber : Int) (g n : String) :
  n ∈ (s.updateGroupBlockInfo groupID nodeName blockNumber).latestNodes g
    ↔ if s.ignoresBlock groupID nodeName blockNumber ∨ groupID ≠ g then n ∈ s.latestNodes g
      else n = nodeName
        ∨ ¬ s.groupBlockInfos.getD groupID 0 < blockNumber ∧ n ∈ s.latestNodes g
  := by
  rw [updateGroupBlockInfo]
  by_cases hignored : s.ignoresBlock groupID nodeName blockNumber = true
  · simp [hignored]
  · rw [if_neg hignored]
    simp only [hignored, Bool.false_eq_true, false_or]
    by_cases hg : groupID = g
    · subst hg
      by_cases hlt : s.groupBlockInfos.getD groupID 0 < blockNumber
      · simp [hlt, latestNodes, @eq_comm _ n]
      · simp [hlt, latestNodes, @eq_comm _ n]
    · split <;> simp [latestNodes, ExtTreeMap.getD_insert, hg]

theorem queryNodeService_updateGroupBlockInfo (s : GroupManager Service)
    (groupID nodeName : String) (blockNumber : Int) (g n : String) :
  (s.updateGroupBlockInfo groupID nodeName blockNumber).queryNodeService g n
    = s.queryNodeService g n
  := by
  rw [updateGroupBlockInfo]
  split
  · rfl
  · split <;> rfl

theorem consistent_updateGroupBlockInfo {s : GroupManager Service} (groupID nodeName : String)
    (blockNumber : Int) (hs : s.Consistent) :
  (s.updateGroupBlockInfo groupID nodeName blockNumber).Consistent
  := by
  intro g n hreg
  rw [Registered, queryNodeService_updateGroupBlockInfo] at hreg
  have hinfos : (s.updateGroupBlockInfo groupID nodeName blockNumber).groupInfos
      = s.groupInfos := by
    rw [updateGroupBlockInfo]
    split
    · rfl
    · split <;> rfl
  rw [hinfos]
  apply hs g n hreg

/-! ### The sweep -/

/-- A node of a recorded group is lost to a sweep. -/
def Lost (unreachable : String → String → Bool) (s : GroupManager Service)
    (groupID nodeName : String) : Prop :=
  ∃ groupInfo, s.groupInfos[groupID]? = some groupInfo ∧ nodeName ∈ groupInfo.nodeInfos
    ∧ s.isLost unreachable groupID nodeName

/-- The sweep collects the lost nodes. -/
theorem mem_checkNodeStatus (unreachable : String → String → Bool) (s : GroupManager Service)
    (g n : String) :
  (∃ p ∈ (s.checkNodeStatus unreachable).2.toList, p.1 = g ∧ n ∈ p.2)
    ↔ s.Lost unreachable g n
  := by
  have hmem : ∀ groupInfo : GroupInfo, n ∈ s.lostNodes unreachable groupInfo
      ↔ n ∈ groupInfo.nodeInfos ∧ s.isLost unreachable groupInfo.groupID n := by
    intro groupInfo
    rw [lostNodes, ExtTreeSet.mem_ofList, List.contains_iff_mem, List.mem_filter,
      ExtTreeMap.mem_keys]
  simp only [checkNodeStatus, Prod.exists, ExtTreeMap.mem_toList_iff_getElem?_eq_some,
    ExtTreeMap.getElem?_filterMap', Option.bind_eq_some_iff]
  constructor
  · rintro ⟨_, nodes, ⟨groupInfo, hinfo, hnodes⟩, rfl, hn⟩
    split at hnodes
    · cases hnodes
    · obtain rfl := Option.some.inj hnodes
      rw [hmem, s.groupID_eq _ groupInfo hinfo] at hn
      exact ⟨groupInfo, hinfo, hn⟩
  · rintro ⟨groupInfo, hinfo, hn, hlost⟩
    have hn' : n ∈ s.lostNodes unreachable groupInfo := by
      rw [hmem, s.groupID_eq g groupInfo hinfo]
      exact ⟨hn, hlost⟩
    use g, s.lostNodes unreachable groupInfo
    refine ⟨⟨groupInfo, hinfo, ?_⟩, rfl, hn'⟩
    rw [if_neg]
    intro hempty
    apply (Table.isEmpty_iff_forall_not_mem _).mp hempty n hn'

/-- The services of lost nodes are removed, the others stay. -/
theorem queryNodeService_removeServices (s : GroupManager Service)
    (p : String × ExtTreeSet String) (g n : String) (service : Service) :
  (s.removeServices p).queryNodeService g n = some service
    ↔ s.queryNodeService g n = some service ∧ ¬ (p.1 = g ∧ n ∈ p.2)
  := by
  rw [removeServices]
  cases hservices : s.nodeServiceList[p.1]? with
  | none =>
      dsimp only
      constructor
      · intro h
        use h
        rintro ⟨rfl, _⟩
        rw [queryNodeService, hservices] at h
        cases h
      · rintro ⟨h, _⟩
        apply h
  | some services =>
      by_cases hg : p.1 = g
      · subst hg
        have hleft : (p.2.toList.foldl ExtTreeMap.erase services)[n]? = some service
            ↔ services[n]? = some service ∧ n ∉ p.2 := by
          rw [Table.getElem?_foldl_erase, Option.ite_none_left_eq_some, ExtTreeSet.mem_toList,
            and_comm]
        have hbefore : s.queryNodeService p.1 n = services[n]? := by
          rw [queryNodeService, hservices]
          rfl
        rw [hbefore, eq_self, true_and, ← hleft]
        dsimp only
        split
        · rename_i hempty
          rw [ExtTreeMap.isEmpty_iff] at hempty
          simp [queryNodeService, hempty]
        · simp [queryNodeService]
      · dsimp only
        split <;>
          simp [queryNodeService, ExtTreeMap.getElem?_erase, ExtTreeMap.getElem?_insert, hg]

theorem queryNodeService_removeUnreachableNodeService
    (unreachableNodes : ExtTreeMap String (ExtTreeSet String)) (s : GroupManager Service)
    (g n : String) (service : Service) :
  (removeUnreachableNodeService unreachableNodes s).queryNodeService g n = some service
    ↔ s.queryNodeService g n = some service
      ∧ ¬ ∃ p ∈ unreachableNodes.toList, p.1 = g ∧ n ∈ p.2
  := by
  rw [removeUnreachableNodeService]
  induction unreachableNodes.toList generalizing s with
  | nil => simp
  | cons p rest ih =>
      rw [List.foldl_cons, ih, queryNodeService_removeServices, and_assoc, ← not_or]
      simp only [List.mem_cons, exists_eq_or_imp]

/-- The sweep removes lost nodes from those that reported the latest block. -/
theorem mem_latestNodes_removeLatest {s : GroupManager Service}
    {p : String × ExtTreeSet String} {g n : String}
    (h : n ∈ (s.removeLatest p).latestNodes g) :
  n ∈ s.latestNodes g ∧ ¬ (p.1 = g ∧ n ∈ p.2)
  := by
  rw [removeLatest] at h
  by_cases hg : p.1 = g
  · subst hg
    cases hnodes : s.nodesWithLatestBlockNumber[p.1]? with
    | none =>
        rw [hnodes] at h
        simp [latestNodes, ExtTreeMap.getD_eq_getD_getElem?, hnodes] at h
    | some nodes =>
        rw [hnodes] at h
        dsimp only at h
        split at h
        · simp [latestNodes] at h
        · split at h
          · simp [latestNodes] at h
          · simp only [latestNodes, ExtTreeMap.getD_insert_self] at h
            rw [Table.mem_foldl_eraseSet, ExtTreeSet.mem_toList] at h
            simp only [latestNodes, ExtTreeMap.getD_eq_getD_getElem?, hnodes, Option.getD_some,
              true_and]
            apply h
  · simp only [hg, false_and, not_false_eq_true, and_true]
    cases hnodes : s.nodesWithLatestBlockNumber[p.1]? with
    | none =>
        rw [hnodes] at h
        apply h
    | some nodes =>
        rw [hnodes] at h
        dsimp only at h
        split at h
        · simpa [latestNodes, ExtTreeMap.getD_erase, hg] using h
        · split at h
          · simpa [latestNodes, ExtTreeMap.getD_erase, hg] using h
          · simpa [latestNodes, ExtTreeMap.getD_insert, hg] using h

theorem queryNodeService_removeLatest (s : GroupManager Service)
    (p : String × ExtTreeSet String) (g n : String) :
  (s.removeLatest p).queryNodeService g n = s.queryNodeService g n
  := by
  rw [removeLatest]
  split
  · rfl
  · split
    · rfl
    · dsimp only
      split <;> rfl

theorem mem_latestNodes_removeGroupBlockInfo
    {unreachableNodes : ExtTreeMap String (ExtTreeSet String)} {s : GroupManager Service}
    {g n : String} (h : n ∈ (removeGroupBlockInfo unreachableNodes s).latestNodes g) :
  n ∈ s.latestNodes g ∧ ¬ ∃ p ∈ unreachableNodes.toList, p.1 = g ∧ n ∈ p.2
  := by
  rw [removeGroupBlockInfo] at h
  generalize unreachableNodes.toList = lost at h ⊢
  induction lost generalizing s with
  | nil => simpa using h
  | cons p rest ih =>
      obtain ⟨hmem, hrest⟩ := ih h
      obtain ⟨hmem', hp⟩ := mem_latestNodes_removeLatest hmem
      use hmem'
      simp only [List.mem_cons, exists_eq_or_imp]
      rintro (h' | h')
      · apply hp h'
      · apply hrest h'

theorem queryNodeService_removeGroupBlockInfo
    (unreachableNodes : ExtTreeMap String (ExtTreeSet String)) (s : GroupManager Service)
    (g n : String) :
  (removeGroupBlockInfo unreachableNodes s).queryNodeService g n = s.queryNodeService g n
  := by
  rw [removeGroupBlockInfo]
  induction unreachableNodes.toList generalizing s with
  | nil => rfl
  | cons p rest ih => rw [List.foldl_cons, ih, queryNodeService_removeLatest]

/-- A sweep that finds no lost node is one that removes none. -/
theorem updateGroupStatus_refreshed (unreachable : String → String → Bool)
    (s : GroupManager Service) :
  s.updateGroupStatus true unreachable
    = removeGroupBlockInfo (s.checkNodeStatus unreachable).2
        (removeUnreachableNodeService (s.checkNodeStatus unreachable).2
          (s.checkNodeStatus unreachable).1)
  := by
  rw [updateGroupStatus, if_neg (by simp)]
  dsimp only
  split
  · rename_i hempty
    rw [ExtTreeMap.isEmpty_iff] at hempty
    rw [hempty, removeGroupBlockInfo, removeUnreachableNodeService,
      ExtTreeMap.toList_eq_nil_iff.mpr rfl]
    rfl
  · rfl

/-- A sweep keeps the services of the nodes that are not lost. -/
theorem queryNodeService_updateGroupStatus (unreachable : String → String → Bool)
    (s : GroupManager Service) (g n : String) (service : Service) :
  (s.updateGroupStatus true unreachable).queryNodeService g n = some service
    ↔ s.queryNodeService g n = some service ∧ ¬ s.Lost unreachable g n
  := by
  rw [updateGroupStatus_refreshed, queryNodeService_removeGroupBlockInfo, ← mem_checkNodeStatus]
  apply queryNodeService_removeUnreachableNodeService

theorem registered_updateGroupStatus (unreachable : String → String → Bool)
    (s : GroupManager Service) (g n : String) :
  (s.updateGroupStatus true unreachable).Registered g n
    ↔ s.Registered g n ∧ ¬ s.Lost unreachable g n
  := by
  simp only [registered_iff_exists, queryNodeService_updateGroupStatus, exists_and_right]

theorem latestNodes_foldl_removeServices (lost : List (String × ExtTreeSet String))
    (s : GroupManager Service) (g : String) :
  (lost.foldl removeServices s).latestNodes g = s.latestNodes g
  := by
  induction lost generalizing s with
  | nil => rfl
  | cons p rest ih =>
      rw [List.foldl_cons, ih, removeServices]
      split
      · rfl
      · dsimp only
        split <;> rfl

theorem mem_latestNodes_updateGroupStatus {unreachable : String → String → Bool}
    {s : GroupManager Service} {g n : String}
    (h : n ∈ (s.updateGroupStatus true unreachable).latestNodes g) :
  n ∈ s.latestNodes g ∧ ¬ s.Lost unreachable g n
  := by
  rw [updateGroupStatus_refreshed] at h
  rw [← mem_checkNodeStatus]
  obtain ⟨hmem, hlost⟩ := mem_latestNodes_removeGroupBlockInfo h
  rw [removeUnreachableNodeService, latestNodes_foldl_removeServices] at hmem
  exact ⟨hmem, hlost⟩

theorem groupInfos_foldl_removeServices (lost : List (String × ExtTreeSet String))
    (s : GroupManager Service) :
  (lost.foldl removeServices s).groupInfos = s.groupInfos
  := by
  induction lost generalizing s with
  | nil => rfl
  | cons p rest ih =>
      rw [List.foldl_cons, ih, removeServices]
      split
      · rfl
      · dsimp only
        split <;> rfl

theorem groupInfos_foldl_removeLatest (lost : List (String × ExtTreeSet String))
    (s : GroupManager Service) :
  (lost.foldl removeLatest s).groupInfos = s.groupInfos
  := by
  induction lost generalizing s with
  | nil => rfl
  | cons p rest ih =>
      rw [List.foldl_cons, ih, removeLatest]
      split
      · rfl
      · split
        · rfl
        · dsimp only
          split <;> rfl

/-- A sweep removes the lost nodes from the groups. -/
theorem groupInfos_updateGroupStatus (unreachable : String → String → Bool)
    (s : GroupManager Service) (g : String) :
  (s.updateGroupStatus true unreachable).groupInfos[g]?
    = (s.groupInfos[g]?).map fun groupInfo =>
      groupInfo.removeNodeInfos (s.isLost unreachable groupInfo.groupID)
  := by
  rw [updateGroupStatus_refreshed, removeGroupBlockInfo, groupInfos_foldl_removeLatest,
    removeUnreachableNodeService, groupInfos_foldl_removeServices, checkNodeStatus,
    ExtTreeMap.getElem?_map]

theorem mem_removeNodeInfos (lost : String → Bool) (info : GroupInfo) (n : String) :
  n ∈ (info.removeNodeInfos lost).nodeInfos ↔ n ∈ info.nodeInfos ∧ lost n = false
  := by
  rw [GroupInfo.removeNodeInfos, Table.mem_filter_iff, ExtTreeMap.mem_iff_isSome_getElem?,
    Option.isSome_iff_exists, exists_and_right, Bool.not_eq_true']

theorem consistent_updateGroupStatus (unreachable : String → String → Bool)
    {s : GroupManager Service} (hs : s.Consistent) :
  (s.updateGroupStatus true unreachable).Consistent
  := by
  intro g n hreg
  obtain ⟨hreg', hlost⟩ := (registered_updateGroupStatus unreachable s g n).mp hreg
  obtain ⟨groupInfo, hinfo, hmem⟩ := hs g n hreg'
  use groupInfo.removeNodeInfos (s.isLost unreachable groupInfo.groupID)
  constructor
  · rw [groupInfos_updateGroupStatus, hinfo]
    rfl
  · rw [mem_removeNodeInfos]
    use hmem
    rw [← Bool.not_eq_true, s.groupID_eq g groupInfo hinfo]
    intro h
    apply hlost ⟨groupInfo, hinfo, hmem, h⟩

end GroupManager

/-! ### The manager as a machine -/

/-- The operations that change the group manager. The services built for the nodes of a group
and the services found unreachable by a sweep are given with them. -/
inductive GroupAction (Service : Type) where
  | updateGroupInfo (buildNodeService : ChainNodeInfo → Option Service) (groupInfo : GroupInfo)
  | updateGroupBlockInfo (groupID nodeName : String) (blockNumber : Int)
  | updateGroupStatus (refreshed : Bool) (unreachable : String → String → Bool)

namespace GroupManager

variable {Service : Type}

/-- The group manager runs every operation to completion. -/
def groupMachine (Service : Type) :
    Machine (GroupManager Service) (GroupAction Service) Empty where
  step s action :=
    match action with
    | .updateGroupInfo buildNodeService groupInfo =>
        some (s.updateGroupInfo buildNodeService groupInfo, [])
    | .updateGroupBlockInfo groupID nodeName blockNumber =>
        some (s.updateGroupBlockInfo groupID nodeName blockNumber, [])
    | .updateGroupStatus refreshed unreachable =>
        some (s.updateGroupStatus refreshed unreachable, [])

/-- The operation leaves only nodes with a service selected for a group that has one: a
notification that is recorded for such a group names a node with a service or the empty name,
and the update that gives a group its first services gives one to every node recorded with
the latest block. -/
def Selectable (s : GroupManager Service) : GroupAction Service → Prop
  | .updateGroupInfo buildNodeService groupInfo =>
      groupInfo.groupID ∈ s.groupInfos → ¬ s.HasService groupInfo.groupID →
      (∃ nodeName, Builds buildNodeService groupInfo nodeName) →
      ∀ nodeName ∈ s.latestNodes groupInfo.groupID,
        nodeName = "" ∨ Builds buildNodeService groupInfo nodeName
  | .updateGroupBlockInfo groupID nodeName blockNumber =>
      s.ignoresBlock groupID nodeName blockNumber = false → s.HasService groupID →
      nodeName = "" ∨ s.Registered groupID nodeName
  | .updateGroupStatus _ _ => True

/-- Every node with a service is a node of its group, and selection finds the services. -/
structure SelectsRegistered (s : GroupManager Service) : Prop where
  consistent : s.Consistent
  selects : s.Selects

theorem consistent_step {s t : GroupManager Service} {action : GroupAction Service}
    {e : List Empty} (hs : s.Consistent)
    (hstep : (groupMachine Service).step s action = some (t, e)) :
  t.Consistent
  := by
  cases action with
  | updateGroupInfo build groupInfo =>
      obtain ⟨rfl, rfl⟩ := Prod.mk.inj (Option.some.inj hstep)
      apply consistent_updateGroupInfo build groupInfo hs
  | updateGroupBlockInfo groupID nodeName blockNumber =>
      obtain ⟨rfl, rfl⟩ := Prod.mk.inj (Option.some.inj hstep)
      apply consistent_updateGroupBlockInfo groupID nodeName blockNumber hs
  | updateGroupStatus refreshed unreachable =>
      obtain ⟨rfl, rfl⟩ := Prod.mk.inj (Option.some.inj hstep)
      cases refreshed with
      | false => exact hs
      | true => apply consistent_updateGroupStatus unreachable hs

/-- An update of a group keeps selection exactly when it meets the condition. -/
theorem selects_updateGroupInfo {s : GroupManager Service}
    (build : ChainNodeInfo → Option Service) (groupInfo : GroupInfo)
    (hs : s.SelectsRegistered) :
  (s.updateGroupInfo build groupInfo).Selects
    ↔ s.Selectable (.updateGroupInfo build groupInfo)
  := by
  rw [selects_iff (consistent_updateGroupInfo build groupInfo hs.consistent)]
  have hselects := (selects_iff hs.consistent).mp hs.selects
  simp only [latestNodes_updateGroupInfo, registered_updateGroupInfo]
  constructor
  · rintro h hgroup hnone ⟨built, hbuilt⟩ nodeName hnode
    have hservice : (s.updateGroupInfo build groupInfo).HasService groupInfo.groupID := by
      use built
      rw [registered_updateGroupInfo]
      right
      exact ⟨rfl, hgroup, hbuilt⟩
    obtain h | h | ⟨_, _, h⟩ := h groupInfo.groupID hservice nodeName hnode
    · left
      apply h
    · apply absurd ⟨nodeName, h⟩ hnone
    · right
      apply h
  · rintro h g ⟨m, hm⟩ nodeName hnode
    by_cases hbefore : s.HasService g
    · obtain h | h := hselects g hbefore nodeName hnode
      · left
        apply h
      · right
        left
        apply h
    · obtain hm | ⟨rfl, hgroup, hbuilt⟩ := (registered_updateGroupInfo build groupInfo s g m).mp hm
      · apply absurd ⟨m, hm⟩ hbefore
      · obtain h | h := h hgroup hbefore ⟨m, hbuilt⟩ nodeName hnode
        · left
          apply h
        · right
          right
          exact ⟨rfl, hgroup, h⟩

/-- A notification keeps selection exactly when it meets the condition. -/
theorem selects_updateGroupBlockInfo {s : GroupManager Service} (groupID nodeName : String)
    (blockNumber : Int) (hs : s.SelectsRegistered) :
  (s.updateGroupBlockInfo groupID nodeName blockNumber).Selects
    ↔ s.Selectable (.updateGroupBlockInfo groupID nodeName blockNumber)
  := by
  rw [selects_iff (consistent_updateGroupBlockInfo groupID nodeName blockNumber hs.consistent)]
  have hselects := (selects_iff hs.consistent).mp hs.selects
  simp only [HasService, Registered, queryNodeService_updateGroupBlockInfo,
    mem_latestNodes_updateGroupBlockInfo]
  constructor
  · intro h hrecorded hservice
    apply h groupID hservice nodeName
    simp [hrecorded]
  · intro h g hservice n hn
    split at hn
    · apply hselects g hservice n hn
    · rename_i hrecorded
      obtain ⟨hignored, hg⟩ := not_or.mp hrecorded
      rw [not_ne_iff] at hg
      subst hg
      obtain rfl | ⟨_, hn⟩ := hn
      · apply h (Bool.eq_false_iff.mpr hignored) hservice
      · apply hselects groupID hservice n hn

/-- A sweep keeps selection: a node that loses its service is not selected any more. -/
theorem selects_updateGroupStatus {s : GroupManager Service} (refreshed : Bool)
    (unreachable : String → String → Bool) (hs : s.SelectsRegistered) :
  (s.updateGroupStatus refreshed unreachable).Selects
  := by
  cases refreshed with
  | false => exact hs.selects
  | true =>
      rw [selects_iff (consistent_updateGroupStatus unreachable hs.consistent)]
      rintro g ⟨m, hm⟩ n hn
      obtain ⟨hn, hlost⟩ := mem_latestNodes_updateGroupStatus hn
      rw [registered_updateGroupStatus] at hm ⊢
      obtain h | h := (selects_iff hs.consistent).mp hs.selects g ⟨m, hm.1⟩ n hn
      · left
        apply h
      · right
        exact ⟨h, hlost⟩

theorem groupMachine_exact :
  Machine.Exact (groupMachine Service) (fun _ s => s.SelectsRegistered) (fun _ s => s.Selects)
    (fun _ _ _ => True) (fun _ s action => s.Selectable action)
  := by
  constructor
  · intro _ s hs
    apply hs.selects
  · intro _ s action t e hs _ hC hstep
    use consistent_step hs.consistent hstep
    cases action with
    | updateGroupInfo build groupInfo =>
        obtain ⟨rfl, rfl⟩ := Prod.mk.inj (Option.some.inj hstep)
        apply (selects_updateGroupInfo build groupInfo hs).mpr hC
    | updateGroupBlockInfo groupID nodeName blockNumber =>
        obtain ⟨rfl, rfl⟩ := Prod.mk.inj (Option.some.inj hstep)
        apply (selects_updateGroupBlockInfo groupID nodeName blockNumber hs).mpr hC
    | updateGroupStatus refreshed unreachable =>
        obtain ⟨rfl, rfl⟩ := Prod.mk.inj (Option.some.inj hstep)
        apply selects_updateGroupStatus refreshed unreachable hs
  · intro _ s action t e hs _ hstep hP
    cases action with
    | updateGroupInfo build groupInfo =>
        obtain ⟨rfl, rfl⟩ := Prod.mk.inj (Option.some.inj hstep)
        apply (selects_updateGroupInfo build groupInfo hs).mp hP
    | updateGroupBlockInfo groupID nodeName blockNumber =>
        obtain ⟨rfl, rfl⟩ := Prod.mk.inj (Option.some.inj hstep)
        apply (selects_updateGroupBlockInfo groupID nodeName blockNumber hs).mp hP
    | updateGroupStatus refreshed unreachable => trivial

theorem selectsRegistered_init :
  ({} : GroupManager Service).SelectsRegistered
  := by
  have hnone : ∀ g n, ¬ ({} : GroupManager Service).Registered g n := by
    intro g n
    simp [Registered, queryNodeService]
  constructor
  · intro g n h
    apply absurd h (hnone g n)
  · rintro g ⟨n, h⟩
    apply absurd h (hnone g n)

/-- From the empty manager on, selection finds the services of every group throughout a run
exactly when every operation of the run meets the condition. -/
theorem selectsThroughout_iff (actions : List (GroupAction Service)) :
  (groupMachine Service).Throughout (fun _ s => s.Selects) [] {} actions
    ↔ (groupMachine Service).Along (fun _ s action => s.Selectable action) [] {} actions
  := by
  apply groupMachine_exact.throughout_iff selectsRegistered_init
  apply Machine.along_of_forall
  intros
  trivial

/-- A group with one node. -/
def oneNodeGroup (groupID nodeName : String) : GroupInfo :=
  GroupInfo.appendNodeInfo { nodeName } { groupID }

/-- The group is registered with its node after a block notification from another node. -/
def unregisteredNotification : List (GroupAction String) :=
  [.updateGroupInfo (fun _ => some "service") (oneNodeGroup "group0" "node0"),
    .updateGroupBlockInfo "group0" "node1" 1,
    .updateGroupInfo (fun _ => some "service") (oneNodeGroup "group0" "node0")]

theorem selectsThroughout_counterexample :
  ¬ ∀ actions : List (GroupAction String), ∀ s e,
    (groupMachine String).run {} actions = some (s, e) → s.Selects
  := by
  intro h
  obtain ⟨_, _, _, hget⟩ := h unregisteredNotification _ _ rfl "group0" ⟨"node0", by decide⟩ 0
  have hsome := Option.isSome_of_eq_some hget
  revert hsome
  decide

end GroupManager
