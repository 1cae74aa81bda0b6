import BcosRpc.Group.Select

/-!
# The registry

Which nodes and services the manager has after an update of a group and after a sweep.
Every service belongs to a node of its group in every state the operations reach, and after a
sweep the two are the same (`GroupManager.registry_consistent`). An update of a group builds
the services of its nodes only when the group is recorded already
(`GroupManager.registersStarted_iff`).
-/

open Std

namespace GroupManager

variable {Service : Type}

/-! ### Queries -/

/-- The node of a group with a name. -/
def getNodeInfo (s : GroupManager Service) (groupID nodeName : String) : Option ChainNodeInfo :=
  (s.groupInfos[groupID]?).bind fun groupInfo => groupInfo.nodeInfos[nodeName]?

/-- The groups that have nodes. -/
def groupList (s : GroupManager Service) : ExtTreeSet String :=
  ExtTreeSet.ofList (s.groupInfos.filter fun _ groupInfo => groupInfo.nodeInfos.size != 0).keys

theorem mem_groupList_iff (s : GroupManager Service) (groupID : String) :
  groupID ∈ s.groupList
    ↔ ∃ groupInfo, s.groupInfos[groupID]? = some groupInfo ∧ ∃ nodeName, nodeName ∈ groupInfo.nodeInfos
  := by
  rw [groupList, ExtTreeSet.mem_ofList, List.contains_iff_mem, ExtTreeMap.mem_keys,
    Table.mem_filter_iff]
  simp only [bne_iff_ne, Table.size_ne_zero_iff]

/-! ### After a sweep -/

/-- The nodes of the groups are those with a service. -/
def Matched (s : GroupManager Service) : Prop :=
  ∀ groupID groupInfo, s.groupInfos[groupID]? = some groupInfo →
    ∀ nodeName, s.Registered groupID nodeName ↔ nodeName ∈ groupInfo.nodeInfos

/-- What holds after a sweep that found the services `unreachable` in the state `s`. -/
structure Swept (unreachable : String → String → Bool) (s t : GroupManager Service) : Prop where
  matched : t.Matched
  reachable : ∀ groupID nodeName service, t.queryNodeService groupID nodeName = some service →
    s.queryNodeService groupID nodeName = some service ∧ unreachable groupID nodeName = false
  latest : ∀ groupID nodeName, (s.getNodeInfo groupID nodeName).isSome →
    t.getNodeInfo groupID nodeName = none → nodeName ∉ t.latestNodes groupID
  groups : ∀ groupID, groupID ∈ t.groupList ↔ t.HasService groupID

theorem getNodeInfo_isSome_iff (s : GroupManager Service) (groupID nodeName : String) :
  (s.getNodeInfo groupID nodeName).isSome
    ↔ ∃ groupInfo, s.groupInfos[groupID]? = some groupInfo ∧ nodeName ∈ groupInfo.nodeInfos
  := by
  rw [getNodeInfo, Option.isSome_bind, Option.any_eq_true]
  simp only [ExtTreeMap.mem_iff_isSome_getElem?]

/-- A node that a sweep leaves in its group is not lost. -/
theorem lost_iff_getNodeInfo {unreachable : String → String → Bool} {s : GroupManager Service}
    {groupID nodeName : String} (h : (s.getNodeInfo groupID nodeName).isSome) :
  s.Lost unreachable groupID nodeName
    ↔ (s.updateGroupStatus true unreachable).getNodeInfo groupID nodeName = none
  := by
  obtain ⟨groupInfo, hinfo, hmem⟩ := (s.getNodeInfo_isSome_iff groupID nodeName).mp h
  have hid := s.groupID_eq groupID groupInfo hinfo
  have hleft : (s.updateGroupStatus true unreachable).getNodeInfo groupID nodeName
      = (groupInfo.removeNodeInfos (s.isLost unreachable groupID)).nodeInfos[nodeName]? := by
    rw [getNodeInfo, groupInfos_updateGroupStatus, hinfo, Option.map_some, Option.bind_some, hid]
  rw [hleft, ← Option.not_isSome_iff_eq_none, ← ExtTreeMap.mem_iff_isSome_getElem?,
    mem_removeNodeInfos]
  simp [Lost, hinfo, hmem]

theorem swept_updateGroupStatus (unreachable : String → String → Bool)
    {s : GroupManager Service} (hs : s.Consistent) :
  Swept unreachable s (s.updateGroupStatus true unreachable)
  := by
  have hconsistent := consistent_updateGroupStatus unreachable hs
  have hmatched : (s.updateGroupStatus true unreachable).Matched := by
    intro g info hinfo n
    constructor
    · intro hreg
      obtain ⟨info', hinfo', hmem⟩ := hconsistent g n hreg
      rw [hinfo] at hinfo'
      obtain rfl := Option.some.inj hinfo'
      apply hmem
    · intro hmem
      rw [groupInfos_updateGroupStatus] at hinfo
      obtain ⟨before, hbefore, rfl⟩ := Option.map_eq_some_iff.mp hinfo
      rw [mem_removeNodeInfos, s.groupID_eq g before hbefore] at hmem
      obtain ⟨_, hkept⟩ := hmem
      rw [registered_updateGroupStatus]
      constructor
      · rw [isLost, Bool.or_eq_false_iff] at hkept
        rw [Registered, ← Option.not_isNone, hkept.1]
        rfl
      · rintro ⟨_, _, _, hlost⟩
        rw [hkept] at hlost
        cases hlost
  constructor
  · apply hmatched
  · intro g n service hquery
    rw [queryNodeService_updateGroupStatus] at hquery
    obtain ⟨hquery, hlost⟩ := hquery
    use hquery
    obtain ⟨info, hinfo, hmem⟩ := hs g n (registered_iff_exists.mpr ⟨service, hquery⟩)
    rw [← Bool.not_eq_true]
    intro hunreachable
    apply hlost ⟨info, hinfo, hmem, _⟩
    rw [isLost, hunreachable, Bool.or_true]
  · intro g n hbefore hafter hmem
    have hlost := (lost_iff_getNodeInfo hbefore).mpr hafter
    apply (mem_latestNodes_updateGroupStatus hmem).2 hlost
  · intro g
    rw [mem_groupList_iff]
    constructor
    · rintro ⟨info, hinfo, n, hmem⟩
      exact ⟨n, (hmatched g info hinfo n).mpr hmem⟩
    · rintro ⟨n, hreg⟩
      obtain ⟨info, hinfo, hmem⟩ := hconsistent g n hreg
      exact ⟨info, hinfo, n, hmem⟩

/-! ### Runs of the manager -/

theorem consistent_init :
  ({} : GroupManager Service).Consistent
  := selectsRegistered_init.consistent

/-- Throughout every run the nodes with a service are nodes of their groups; a sweep leaves a
registry in which they are all the nodes, were reachable, and are the only ones that can have
the latest block, and whose groups are the ones with a service. -/
theorem registry_consistent (actions : List (GroupAction Service)) :
  (groupMachine Service).Throughout (fun _ s => s.Consistent) [] {} actions
    ∧ ∀ s e, (groupMachine Service).run {} actions = some (s, e) →
      ∀ unreachable, Swept unreachable s (s.updateGroupStatus true unreachable)
  := by
  constructor
  · apply Machine.throughout_iff_run.mpr
    intro before _ s e hrun
    apply Machine.run_invariant (I := fun _ s => s.Consistent) (o := []) consistent_step
      consistent_init hrun
  · intro s e hrun unreachable
    apply swept_updateGroupStatus
    apply Machine.run_invariant (I := fun _ s => s.Consistent) (o := []) consistent_step
      consistent_init hrun

/-! ### After an update of a group -/

/-- The service that an update of a group builds for a node. -/
def builtService (build : ChainNodeInfo → Option Service) (groupInfo : GroupInfo)
    (nodeName : String) : Option Service :=
  (groupInfo.nodeInfos[nodeName]?).bind build

/-- Registering a node leaves the service it has, or gives it the one that is built. -/
theorem queryNodeService_updateNodeServiceWithoutLock (build : ChainNodeInfo → Option Service)
    (groupID : String) (s : GroupManager Service) (node : ChainNodeInfo) (g n : String) :
  (updateNodeServiceWithoutLock build groupID s node).queryNodeService g n
    = (s.queryNodeService g n).or
      (if groupID = g ∧ node.nodeName = n then build node else none)
  := by
  rw [updateNodeServiceWithoutLock]
  by_cases heq : groupID = g ∧ node.nodeName = n
  · obtain ⟨rfl, rfl⟩ := heq
    simp only [and_self, if_true]
    split
    · rename_i hknown
      rw [Option.or_of_isSome hknown]
    · rename_i hnew
      rw [Option.not_isSome_iff_eq_none.mp hnew, Option.none_or]
      cases build node with
      | none => apply Option.not_isSome_iff_eq_none.mp hnew
      | some service =>
          dsimp only
          rw [queryNodeService_appendNodeInfo, queryNodeService_addService, if_pos ⟨rfl, rfl⟩]
  · rw [if_neg heq, Option.or_none]
    split
    · rfl
    · cases build node with
      | none => rfl
      | some service =>
          dsimp only
          rw [queryNodeService_appendNodeInfo, queryNodeService_addService, if_neg heq]

theorem queryNodeService_foldl_update (build : ChainNodeInfo → Option Service)
    (groupID : String) (nodes : List ChainNodeInfo) (s : GroupManager Service) (g n : String) :
  (nodes.foldl (updateNodeServiceWithoutLock build groupID) s).queryNodeService g n
    = (s.queryNodeService g n).or
      (if groupID = g then nodes.findSome? fun node => if node.nodeName = n then build node else none
        else none)
  := by
  induction nodes generalizing s with
  | nil => simp
  | cons node nodes ih =>
      rw [List.foldl_cons, ih, queryNodeService_updateNodeServiceWithoutLock, Option.or_assoc,
        List.findSome?_cons]
      congr 1
      by_cases hg : groupID = g
      · by_cases hn : node.nodeName = n
        · cases build node <;> simp [hg, hn]
        · simp [hg, hn]
      · simp [hg]

/-- Among the nodes of a group the one with a name is found. -/
theorem findSome?_nodes {β : Type*} (f : ChainNodeInfo → Option β) (groupInfo : GroupInfo)
    (n : String) :
  ((groupInfo.nodeInfos.toList.map Prod.snd).findSome?
      fun node => if node.nodeName = n then f node else none)
    = (groupInfo.nodeInfos[n]?).bind f
  := by
  have hfound : ∀ x, ((groupInfo.nodeInfos.toList.map Prod.snd).findSome?
      fun node => if node.nodeName = n then f node else none) = some x →
      (groupInfo.nodeInfos[n]?).bind f = some x := by
    intro x hx
    obtain ⟨node, hmem, hnode⟩ := List.exists_of_findSome?_eq_some hx
    obtain ⟨rfl, hf⟩ := Option.ite_none_right_eq_some.mp hnode
    obtain ⟨⟨name, node'⟩, hentry, rfl⟩ := List.mem_map.mp hmem
    rw [ExtTreeMap.mem_toList_iff_getElem?_eq_some] at hentry
    rw [groupInfo.nodeName_eq name node' hentry, hentry]
    apply hf
  cases hsome : (groupInfo.nodeInfos.toList.map Prod.snd).findSome?
      fun node => if node.nodeName = n then f node else none with
  | some x => exact (hfound x hsome).symm
  | none =>
      rw [List.findSome?_eq_none_iff] at hsome
      cases hnode : groupInfo.nodeInfos[n]? with
      | none => rfl
      | some node =>
          have hmem : node ∈ groupInfo.nodeInfos.toList.map Prod.snd := by
            rw [List.mem_map]
            use (n, node)
            rw [ExtTreeMap.mem_toList_iff_getElem?_eq_some]
            exact ⟨hnode, rfl⟩
          have hnone := hsome node hmem
          rw [if_pos (groupInfo.nodeName_eq n node hnode)] at hnone
          apply hnone.symm

/-- An update of a recorded group leaves the services there are and builds the missing ones; an
update of a new group builds none. -/
theorem queryNodeService_updateGroupInfo (build : ChainNodeInfo → Option Service)
    (groupInfo : GroupInfo) (s : GroupManager Service) (g n : String) :
  (s.updateGroupInfo build groupInfo).queryNodeService g n
    = (s.queryNodeService g n).or
      (if groupInfo.groupID = g ∧ groupInfo.groupID ∈ s.groupInfos then
        builtService build groupInfo n
        else none)
  := by
  rw [updateGroupInfo]
  split
  · rename_i hnew
    rw [if_neg (fun h => hnew h.2), Option.or_none]
    rfl
  · rename_i hknown
    rw [not_not] at hknown
    rw [queryNodeService_foldl_update, findSome?_nodes]
    simp [hknown, builtService]

/-- Registering a node of a recorded group records it when it gets a service, unless a node is
recorded under its name. -/
theorem getNodeInfo_updateNodeServiceWithoutLock (build : ChainNodeInfo → Option Service)
    {groupID : String} {s : GroupManager Service} (node : ChainNodeInfo) (hs : s.Consistent)
    (hgroup : groupID ∈ s.groupInfos) (g n : String) :
  (updateNodeServiceWithoutLock build groupID s node).getNodeInfo g n
    = (s.getNodeInfo g n).or
      (if groupID = g ∧ node.nodeName = n ∧ (build node).isSome then some node else none)
  := by
  rw [updateNodeServiceWithoutLock]
  split
  · rename_i hknown
    split
    · rename_i heq
      obtain ⟨rfl, rfl, _⟩ := heq
      have hinfo := (s.getNodeInfo_isSome_iff _ _).mpr (hs _ _ hknown)
      rw [Option.or_of_isSome hinfo]
    · rw [Option.or_none]
  · cases build node with
    | none => simp
    | some service =>
        obtain ⟨info, hinfo⟩ :=
          Option.isSome_iff_exists.mp (ExtTreeMap.mem_iff_isSome_getElem?.mp hgroup)
        simp only [getNodeInfo, appendNodeInfo, addService, ExtTreeMap.getElem?_modify,
          LawfulEqCmp.compare_eq_iff_eq, Option.isSome_some, and_true]
        by_cases hg : groupID = g
        · subst hg
          simp only [hinfo, if_true, Option.map_some, Option.bind_some, GroupInfo.appendNodeInfo,
            ExtTreeMap.getElem?_insertIfNew, LawfulEqCmp.compare_eq_iff_eq, true_and]
          by_cases hn : node.nodeName = n
          · subst hn
            cases hold : info.nodeInfos[node.nodeName]? with
            | none => simp [ExtTreeMap.mem_iff_isSome_getElem?, hold]
            | some node' => simp [ExtTreeMap.mem_iff_isSome_getElem?, hold]
          · simp [hn]
        · simp [hg]

/-- A node, when a service can be built for it. -/
def ifBuilt (build : ChainNodeInfo → Option Service) (node : ChainNodeInfo) :
    Option ChainNodeInfo :=
  if (build node).isSome then some node else none

theorem getNodeInfo_foldl_update (build : ChainNodeInfo → Option Service) {groupID : String}
    (nodes : List ChainNodeInfo) {s : GroupManager Service} (hs : s.Consistent)
    (hgroup : groupID ∈ s.groupInfos) (g n : String) :
  (nodes.foldl (updateNodeServiceWithoutLock build groupID) s).getNodeInfo g n
    = (s.getNodeInfo g n).or
      (if groupID = g then
        nodes.findSome? fun node => if node.nodeName = n then ifBuilt build node else none
        else none)
  := by
  induction nodes generalizing s with
  | nil => simp
  | cons node nodes ih =>
      obtain ⟨hgroup', hs'⟩ := consistent_updateNodeServiceWithoutLock build node hgroup hs
      rw [List.foldl_cons, ih hs' hgroup',
        getNodeInfo_updateNodeServiceWithoutLock build node hs hgroup, Option.or_assoc,
        List.findSome?_cons]
      congr 1
      by_cases hg : groupID = g
      · by_cases hn : node.nodeName = n
        · cases hbuild : build node <;> simp [hg, hn, hbuild, ifBuilt]
        · simp [hg, hn]
      · simp [hg]

/-- An update of a recorded group adds the nodes it gives a service, an update of a new group
records all nodes; a node that is recorded stays as it is. -/
theorem getNodeInfo_updateGroupInfo (build : ChainNodeInfo → Option Service)
    (groupInfo : GroupInfo) {s : GroupManager Service} (hs : s.Consistent) (g n : String) :
  (s.updateGroupInfo build groupInfo).getNodeInfo g n
    = (s.getNodeInfo g n).or
      (if groupInfo.groupID = g then
        (groupInfo.nodeInfos[n]?).bind
          fun node => if groupInfo.groupID ∈ s.groupInfos then ifBuilt build node else some node
        else none)
  := by
  rw [updateGroupInfo]
  split
  · rename_i hnew
    rw [getNodeInfo, ExtTreeMap.getElem?_insert]
    simp only [LawfulEqCmp.compare_eq_iff_eq]
    by_cases hg : groupInfo.groupID = g
    · subst hg
      have hnone : s.getNodeInfo groupInfo.groupID n = none := by
        rw [ExtTreeMap.mem_iff_isSome_getElem?, Option.not_isSome_iff_eq_none] at hnew
        rw [getNodeInfo, hnew]
        rfl
      simp [hnone]
    · simp [hg, getNodeInfo]
  · rename_i hknown
    rw [not_not] at hknown
    simp only [hknown, if_true]
    rw [getNodeInfo_foldl_update build _ hs hknown, findSome?_nodes]

/-! ### Started nodes -/

/-- A node of an update that has a service, or for which one can be built. -/
def Started (build : ChainNodeInfo → Option Service) (groupInfo : GroupInfo)
    (s : GroupManager Service) (nodeName : String) (node : ChainNodeInfo) : Prop :=
  groupInfo.nodeInfos[nodeName]? = some node
    ∧ ((build node).isSome ∨ s.Registered groupInfo.groupID nodeName)

/-- After an update the started nodes it names are found with their services, and no other node
has changed, be it named by the update or not. -/
structure RegistersStarted (build : ChainNodeInfo → Option Service) (groupInfo : GroupInfo)
    (s : GroupManager Service) : Prop where
  service : ∀ nodeName node, Started build groupInfo s nodeName node → ∀ rand,
    ((s.updateGroupInfo build groupInfo).getNodeService rand groupInfo.groupID nodeName).isSome
  node : ∀ nodeName node, Started build groupInfo s nodeName node →
    (s.updateGroupInfo build groupInfo).getNodeInfo groupInfo.groupID nodeName = some node
  others : ∀ groupID nodeName,
    (groupID = groupInfo.groupID → ∀ node, ¬ Started build groupInfo s nodeName node) →
    (s.updateGroupInfo build groupInfo).queryNodeService groupID nodeName
        = s.queryNodeService groupID nodeName
      ∧ (s.updateGroupInfo build groupInfo).getNodeInfo groupID nodeName
        = s.getNodeInfo groupID nodeName

/-- The group is recorded unless the update names no node; no other node is recorded under the
name of a started one; and when the name of a started node is empty, the nodes with the latest
block have services. -/
structure Registrable (build : ChainNodeInfo → Option Service) (groupInfo : GroupInfo)
    (s : GroupManager Service) : Prop where
  known : ∀ nodeName ∈ groupInfo.nodeInfos, groupInfo.groupID ∈ s.groupInfos
  recorded : ∀ nodeName node, Started build groupInfo s nodeName node →
    ∀ recorded, s.getNodeInfo groupInfo.groupID nodeName = some recorded → recorded = node
  latest : ∀ node, Started build groupInfo s "" node →
    ∀ latest ∈ s.latestNodes groupInfo.groupID,
      latest = "" ∨ s.Registered groupInfo.groupID latest ∨ Builds build groupInfo latest

/-- A service is selected for a group that has one exactly when the nodes with its latest block
have one, the empty name apart. -/
theorem getNodeService_isSome_iff {s : GroupManager Service} (hs : s.Consistent) {groupID : String}
    (hservice : s.HasService groupID) :
  (∀ rand, (s.getNodeService rand groupID "").isSome)
    ↔ ∀ nodeName ∈ s.latestNodes groupID, nodeName = "" ∨ s.Registered groupID nodeName
  := by
  constructor
  · intro h nodeName hnode
    obtain ⟨rand, hrand⟩ := exists_selectNodeByBlockNumber_eq hnode
    have hsome := h rand
    by_cases hempty : nodeName = ""
    · left
      apply hempty
    · right
      rw [getNodeService, if_pos rfl, selectNode, hrand, if_neg hempty] at hsome
      apply hsome
  · intro h rand
    rw [getNodeService, if_pos rfl, selectNode]
    split
    · obtain ⟨_, service, _, hselected⟩ := selectNodeRandomly_spec hs hservice
      rw [hselected]
      rfl
    · rename_i hne
      have hmem := (s.selectNodeByBlockNumber_mem rand groupID).resolve_left hne
      apply (h _ hmem).resolve_left hne

/-- Only a group with a service has one found, with or without the name of a node. -/
theorem hasService_of_getNodeService {s : GroupManager Service} {rand : Nat}
    {groupID nodeName : String} (h : (s.getNodeService rand groupID nodeName).isSome) :
  s.HasService groupID
  := by
  have hquery : ∀ nodeName, (s.queryNodeService groupID nodeName).isSome → s.HasService groupID :=
    fun nodeName hsome => ⟨nodeName, hsome⟩
  rw [getNodeService] at h
  split at h
  · rw [selectNode] at h
    split at h
    · rw [selectNodeRandomly] at h
      split at h
      · rename_i groupInfo services _ hservices
        obtain ⟨service, hsome⟩ := Option.isSome_iff_exists.mp h
        obtain ⟨node, _, hnode⟩ := List.exists_of_findSome?_eq_some hsome
        apply hquery node.2.nodeName
        rw [queryNodeService, hservices, Option.bind_some, hnode]
        rfl
      · cases h
    · apply hquery _ h
  · apply hquery _ h

theorem latestRegistered_updateGroupInfo {build : ChainNodeInfo → Option Service}
    {groupInfo : GroupInfo} {s : GroupManager Service} (hknown : groupInfo.groupID ∈ s.groupInfos) :
  (∀ nodeName ∈ (s.updateGroupInfo build groupInfo).latestNodes groupInfo.groupID,
      nodeName = "" ∨ (s.updateGroupInfo build groupInfo).Registered groupInfo.groupID nodeName)
    ↔ ∀ latest ∈ s.latestNodes groupInfo.groupID,
      latest = "" ∨ s.Registered groupInfo.groupID latest ∨ Builds build groupInfo latest
  := by
  simp only [latestNodes_updateGroupInfo, registered_updateGroupInfo, hknown, true_and]

theorem Started.mem {build : ChainNodeInfo → Option Service} {groupInfo : GroupInfo}
    {s : GroupManager Service} {nodeName : String} {node : ChainNodeInfo}
    (h : Started build groupInfo s nodeName node) :
  nodeName ∈ groupInfo.nodeInfos
  := by
  rw [ExtTreeMap.mem_iff_isSome_getElem?, h.1]
  rfl

/-- Only the group of an update changes. -/
theorem otherGroup_updateGroupInfo (build : ChainNodeInfo → Option Service)
    (groupInfo : GroupInfo) {s : GroupManager Service} (hs : s.Consistent)
    {groupID nodeName : String} (hgroup : groupInfo.groupID ≠ groupID) :
  (s.updateGroupInfo build groupInfo).queryNodeService groupID nodeName
      = s.queryNodeService groupID nodeName
    ∧ (s.updateGroupInfo build groupInfo).getNodeInfo groupID nodeName
      = s.getNodeInfo groupID nodeName
  := by
  rw [queryNodeService_updateGroupInfo, getNodeInfo_updateGroupInfo build groupInfo hs]
  simp [hgroup]

/-- An update of a recorded group changes its started nodes only. -/
theorem notStarted_updateGroupInfo (build : ChainNodeInfo → Option Service)
    {groupInfo : GroupInfo} {s : GroupManager Service} (hs : s.Consistent) {nodeName : String}
    (hknown : ∀ nodeName ∈ groupInfo.nodeInfos, groupInfo.groupID ∈ s.groupInfos)
    (hnot : ∀ node, ¬ Started build groupInfo s nodeName node) :
  (s.updateGroupInfo build groupInfo).queryNodeService groupInfo.groupID nodeName
      = s.queryNodeService groupInfo.groupID nodeName
    ∧ (s.updateGroupInfo build groupInfo).getNodeInfo groupInfo.groupID nodeName
      = s.getNodeInfo groupInfo.groupID nodeName
  := by
  rw [queryNodeService_updateGroupInfo, getNodeInfo_updateGroupInfo build groupInfo hs]
  cases hnode : groupInfo.nodeInfos[nodeName]? with
  | none => simp [builtService, hnode]
  | some node =>
      have hmem : nodeName ∈ groupInfo.nodeInfos := by
        rw [ExtTreeMap.mem_iff_isSome_getElem?, hnode]
        rfl
      -- the node has no service, so none was built for it
      have hbuild : build node = none := by
        rw [← Option.not_isSome_iff_eq_none]
        intro hsome
        apply hnot node ⟨hnode, Or.inl hsome⟩
      simp [builtService, hnode, hbuild, ifBuilt, hknown nodeName hmem]

/-- The first update of a group records every node it names. -/
theorem getNodeInfo_updateGroupInfo_new (build : ChainNodeInfo → Option Service)
    {groupInfo : GroupInfo} {s : GroupManager Service} (hs : s.Consistent)
    (hnew : groupInfo.groupID ∉ s.groupInfos) (nodeName : String) :
  s.getNodeInfo groupInfo.groupID nodeName = none
    ∧ (s.updateGroupInfo build groupInfo).getNodeInfo groupInfo.groupID nodeName
      = groupInfo.nodeInfos[nodeName]?
  := by
  have hnone : s.getNodeInfo groupInfo.groupID nodeName = none := by
    rw [ExtTreeMap.mem_iff_isSome_getElem?, Option.not_isSome_iff_eq_none] at hnew
    rw [getNodeInfo, hnew]
    rfl
  use hnone
  rw [getNodeInfo_updateGroupInfo build groupInfo hs, hnone]
  simp [hnew]

/-- A group with a started node that is found with its service is recorded. -/
theorem mem_groupInfos_of_getNodeService {build : ChainNodeInfo → Option Service}
    {groupInfo : GroupInfo} {s : GroupManager Service} (hs : s.Consistent) {rand : Nat}
    {nodeName : String}
    (h : ((s.updateGroupInfo build groupInfo).getNodeService rand groupInfo.groupID
      nodeName).isSome) :
  groupInfo.groupID ∈ s.groupInfos
  := by
  obtain ⟨name, hreg⟩ := hasService_of_getNodeService h
  rcases (registered_updateGroupInfo build groupInfo s _ name).mp hreg with hreg | hreg
  · obtain ⟨info, hinfo, _⟩ := hs _ name hreg
    rw [ExtTreeMap.mem_iff_isSome_getElem?, hinfo]
    rfl
  · apply hreg.2.1

/-- An update that names a node and leaves the others as they are is one of a recorded group. -/
theorem RegistersStarted.known {build : ChainNodeInfo → Option Service} {groupInfo : GroupInfo}
    {s : GroupManager Service} (h : RegistersStarted build groupInfo s) (hs : s.Consistent)
    {nodeName : String} (hmem : nodeName ∈ groupInfo.nodeInfos) :
  groupInfo.groupID ∈ s.groupInfos
  := by
  by_contra hnew
  obtain ⟨hnone, hafter⟩ := getNodeInfo_updateGroupInfo_new build hs hnew nodeName
  by_cases hstarted : ∃ node, Started build groupInfo s nodeName node
  · obtain ⟨node, hstarted⟩ := hstarted
    apply hnew (mem_groupInfos_of_getNodeService hs (h.service nodeName node hstarted 0))
  · rw [not_exists] at hstarted
    obtain ⟨_, hsame⟩ := h.others groupInfo.groupID nodeName fun _ => hstarted
    rw [hafter, hnone] at hsame
    rw [ExtTreeMap.mem_iff_isSome_getElem?, hsame] at hmem
    cases hmem

/-- From every state a run reaches, an update registers the started nodes it names, and leaves
all other nodes as they are, exactly when their group is recorded, no other node is recorded
under one of their names, and the nodes with the latest block have services if one of the names
is empty. -/
theorem registersStarted_iff {actions : List (GroupAction Service)} {s : GroupManager Service}
    {e : List Empty} (hrun : (groupMachine Service).run {} actions = some (s, e))
    (build : ChainNodeInfo → Option Service) (groupInfo : GroupInfo) :
  RegistersStarted build groupInfo s ↔ Registrable build groupInfo s
  := by
  have hs : s.Consistent :=
    Machine.run_invariant (I := fun _ s => s.Consistent) (o := []) consistent_step
      consistent_init hrun
  have hafter := consistent_updateGroupInfo build groupInfo hs
  constructor
  · intro h
    constructor
    · intro nodeName hmem
      apply h.known hs hmem
    · intro nodeName node hstarted recorded hrecorded
      have hnode := h.node nodeName node hstarted
      rw [getNodeInfo_updateGroupInfo build groupInfo hs, hrecorded, Option.some_or] at hnode
      apply Option.some.inj hnode
    · intro node hstarted
      have hservice := h.service "" node hstarted
      have hgroup := hasService_of_getNodeService (hservice 0)
      rw [getNodeService_isSome_iff hafter hgroup,
        latestRegistered_updateGroupInfo (h.known hs hstarted.mem)] at hservice
      apply hservice
  · intro h
    constructor
    · intro nodeName node hstarted
      have hknown := h.known nodeName hstarted.mem
      have hreg : (s.updateGroupInfo build groupInfo).Registered groupInfo.groupID nodeName := by
        rw [registered_updateGroupInfo]
        rcases hstarted.2 with hbuild | hreg
        · exact Or.inr ⟨rfl, hknown, node, hstarted.1, hbuild⟩
        · exact Or.inl hreg
      by_cases hempty : nodeName = ""
      · subst hempty
        rw [getNodeService_isSome_iff hafter ⟨"", hreg⟩,
          latestRegistered_updateGroupInfo hknown]
        apply h.latest node hstarted
      · intro rand
        rw [getNodeService, if_neg hempty]
        apply hreg
    · intro nodeName node hstarted
      have hknown := h.known nodeName hstarted.mem
      rw [getNodeInfo_updateGroupInfo build groupInfo hs]
      cases hrecorded : s.getNodeInfo groupInfo.groupID nodeName with
      | some recorded =>
          rw [Option.some_or, h.recorded nodeName node hstarted recorded hrecorded]
      | none =>
          have hbuild : (build node).isSome := by
            apply hstarted.2.resolve_right
            intro hreg
            have hsome := (s.getNodeInfo_isSome_iff _ nodeName).mpr (hs _ nodeName hreg)
            rw [hrecorded] at hsome
            cases hsome
          rw [Option.none_or, if_pos rfl, hstarted.1, Option.bind_some, if_pos hknown, ifBuilt,
            if_pos hbuild]
    · intro groupID nodeName hother
      by_cases hgroup : groupInfo.groupID = groupID
      · subst hgroup
        apply notStarted_updateGroupInfo build hs h.known (hother rfl)
      · apply otherGroup_updateGroupInfo build groupInfo hs hgroup

theorem registersStarted_iff_known :
  ∃ s e, (groupMachine String).run {}
      [.updateGroupInfo (fun _ => none) (oneNodeGroup "group0" "node0")] = some (s, e)
    ∧ (RegistersStarted (fun _ => some "service") (oneNodeGroup "group0" "node1") s
      ↔ Registrable (fun _ => some "service") (oneNodeGroup "group0" "node1") s)
  := by
  have hrun : (groupMachine String).run {}
      [.updateGroupInfo (fun _ => none) (oneNodeGroup "group0" "node0")] = some (_, _) := rfl
  exact ⟨_, _, hrun, registersStarted_iff hrun _ _⟩

/-- The first update of a group builds no service for its node. -/
theorem registersStarted_counterexample :
  ¬ ∀ (actions : List (GroupAction String)) (s : GroupManager String) (e : List Empty),
    (groupMachine String).run {} actions = some (s, e) →
      ∀ build groupInfo, RegistersStarted build groupInfo s
  := by
  intro h
  have hregisters := h [] _ _ rfl (fun _ => some "service") (oneNodeGroup "group0" "node0")
  have hsome := hregisters.service "node0" { nodeName := "node0" } ⟨by decide, Or.inl rfl⟩ 0
  revert hsome
  decide

end GroupManager
