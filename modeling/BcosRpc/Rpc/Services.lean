import BcosRpc.Rpc.Mirror

/-!
# The services of the nodes over a run

The three locks that a sweep takes leave room for updates, so a node can announce itself while
it is removed. `services_kept_iff` says when a node keeps its service through every interleaving
of updates, blocks and sweeps, and `service_removed` what becomes of a node that a check finds
unreachable.
-/

open Std

namespace GroupManager

variable {Service : Type}

/-! ### Nodes that an update leaves as they are -/

/-- Registering a node leaves every other node, the nodes that have a service and those that are
recorded. -/
theorem getNodeInfo_updateNodeServiceWithoutLock_of_kept (build : ChainNodeInfo → Option Service)
    {groupID : String} {s : GroupManager Service} {node : ChainNodeInfo} {g n : String}
    (h : groupID = g → node.nodeName = n →
      s.Registered g n ∨ build node = none ∨ (s.getNodeInfo g n).isSome) :
  (updateNodeServiceWithoutLock build groupID s node).getNodeInfo g n = s.getNodeInfo g n
  := by
  rw [updateNodeServiceWithoutLock]
  split
  · rfl
  · rename_i hnew
    cases hbuild : build node with
    | none => rfl
    | some service =>
        simp only [getNodeInfo, appendNodeInfo, addService, ExtTreeMap.getElem?_modify,
          LawfulEqCmp.compare_eq_iff_eq]
        by_cases hg : groupID = g
        · subst hg
          rw [if_pos rfl]
          cases hinfo : s.groupInfos[groupID]? with
          | none => rfl
          | some info =>
              simp only [Option.map_some, Option.bind_some, GroupInfo.appendNodeInfo,
                ExtTreeMap.getElem?_insertIfNew, LawfulEqCmp.compare_eq_iff_eq]
              rw [if_neg]
              rintro ⟨rfl, hmissing⟩
              rcases h rfl rfl with hregistered | hnone | hrecorded
              · apply hnew hregistered
              · rw [hbuild] at hnone
                cases hnone
              · apply hmissing
                obtain ⟨info', hinfo', hmem⟩ := (s.getNodeInfo_isSome_iff _ _).mp hrecorded
                rw [hinfo] at hinfo'
                rwa [Option.some.inj hinfo']
        · rw [if_neg hg]

theorem registered_of_registered {build : ChainNodeInfo → Option Service} {groupID : String}
    {s : GroupManager Service} (node : ChainNodeInfo) {g n : String} (h : s.Registered g n) :
  (updateNodeServiceWithoutLock build groupID s node).Registered g n
  := (registered_updateNodeServiceWithoutLock build groupID s node g n).mpr (Or.inl h)

theorem getNodeInfo_foldl_update_of_kept (build : ChainNodeInfo → Option Service)
    {groupID : String} (nodes : List ChainNodeInfo) {s : GroupManager Service} {g n : String}
    (h : groupID = g → s.Registered g n ∨ (s.getNodeInfo g n).isSome
      ∨ ∀ node ∈ nodes, node.nodeName = n → build node = none) :
  (nodes.foldl (updateNodeServiceWithoutLock build groupID) s).getNodeInfo g n
    = s.getNodeInfo g n
  := by
  induction nodes generalizing s with
  | nil => rfl
  | cons node nodes ih =>
      have hnode : (updateNodeServiceWithoutLock build groupID s node).getNodeInfo g n
          = s.getNodeInfo g n := by
        apply getNodeInfo_updateNodeServiceWithoutLock_of_kept
        intro hg hn
        rcases h hg with hregistered | hrecorded | hnone
        · exact Or.inl hregistered
        · exact Or.inr (Or.inr hrecorded)
        · exact Or.inr (Or.inl (hnone node List.mem_cons_self hn))
      rw [List.foldl_cons, ih, hnode]
      intro hg
      rcases h hg with hregistered | hrecorded | hnone
      · left
        apply registered_of_registered node hregistered
      · right
        left
        rwa [hnode]
      · right
        right
        intro later hlater
        apply hnone later (List.mem_cons_of_mem _ hlater)

/-- An update leaves the nodes that are recorded and, in a recorded group, those that have a
service or get none. -/
theorem getNodeInfo_updateGroupInfo_of_kept (build : ChainNodeInfo → Option Service)
    {groupInfo : GroupInfo} {s : GroupManager Service} {g n : String}
    (h : groupInfo.groupID = g → (s.getNodeInfo g n).isSome
      ∨ g ∈ s.groupInfos ∧ (s.Registered g n ∨ ¬ Builds build groupInfo n)) :
  (s.updateGroupInfo build groupInfo).getNodeInfo g n = s.getNodeInfo g n
  := by
  rw [updateGroupInfo]
  split
  · rename_i hnew
    have hne : groupInfo.groupID ≠ g := by
      rintro rfl
      rcases h rfl with hrecorded | ⟨hknown, _⟩
      · obtain ⟨info, hinfo, _⟩ := (s.getNodeInfo_isSome_iff _ _).mp hrecorded
        apply hnew
        rw [ExtTreeMap.mem_iff_isSome_getElem?, hinfo]
        rfl
      · apply hnew hknown
    rw [getNodeInfo, ExtTreeMap.getElem?_insert, if_neg, getNodeInfo]
    rwa [LawfulEqCmp.compare_eq_iff_eq]
  · apply getNodeInfo_foldl_update_of_kept
    intro hg
    rcases h hg with hrecorded | ⟨_, hregistered | hunbuilt⟩
    · exact Or.inr (Or.inl hrecorded)
    · exact Or.inl hregistered
    · right
      right
      intro node hnode hn
      obtain ⟨⟨name, node'⟩, hentry, rfl⟩ := List.mem_map.mp hnode
      rw [ExtTreeMap.mem_toList_iff_getElem?_eq_some] at hentry
      rw [← Option.not_isSome_iff_eq_none]
      intro hbuilt
      apply hunbuilt
      use node'
      rw [← hn, groupInfo.nodeName_eq name node' hentry]
      exact ⟨hentry, hbuilt⟩

/-! ### Nodes that an update gives a service -/

theorem getNodeInfo_isSome_of_registered (build : ChainNodeInfo → Option Service)
    {groupID : String} {s : GroupManager Service} (node : ChainNodeInfo)
    (hgroup : groupID ∈ s.groupInfos) {g n : String}
    (h : (updateNodeServiceWithoutLock build groupID s node).Registered g n) :
  s.Registered g n ∨ ((updateNodeServiceWithoutLock build groupID s node).getNodeInfo g n).isSome
  := by
  rw [updateNodeServiceWithoutLock] at h ⊢
  split
  · rename_i hknown
    rw [if_pos hknown] at h
    apply Or.inl h
  · rename_i hnew
    rw [if_neg hnew] at h
    cases hbuild : build node with
    | none =>
        rw [hbuild] at h
        apply Or.inl h
    | some service =>
        rw [hbuild] at h
        dsimp only at h ⊢
        rw [Registered, queryNodeService_appendNodeInfo, queryNodeService_addService] at h
        split at h
        · rename_i heq
          obtain ⟨rfl, rfl⟩ := heq
          right
          apply (getNodeInfo_isSome_iff _ _ _).mpr
          use (s.groupInfos[groupID]).appendNodeInfo node
          simp only [appendNodeInfo, addService, ExtTreeMap.getElem?_modify,
            LawfulEqCmp.compare_eq_iff_eq, if_true, ExtTreeMap.getElem?_eq_some_getElem hgroup,
            Option.map_some, true_and]
          rw [GroupInfo.appendNodeInfo, ExtTreeMap.mem_insertIfNew]
          simp
        · apply Or.inl h

theorem mem_groupInfos_updateNodeServiceWithoutLock (build : ChainNodeInfo → Option Service)
    {groupID : String} {s : GroupManager Service} (node : ChainNodeInfo) {g : String}
    (h : g ∈ s.groupInfos) :
  g ∈ (updateNodeServiceWithoutLock build groupID s node).groupInfos
  := by
  rw [updateNodeServiceWithoutLock]
  split
  · exact h
  · cases build node with
    | none => exact h
    | some service =>
        simp only [appendNodeInfo, addService, ExtTreeMap.mem_modify]
        exact h

theorem mem_groupInfos_foldl_update (build : ChainNodeInfo → Option Service) {groupID : String}
    (nodes : List ChainNodeInfo) {s : GroupManager Service} {g : String} (h : g ∈ s.groupInfos) :
  g ∈ (nodes.foldl (updateNodeServiceWithoutLock build groupID) s).groupInfos
  := by
  induction nodes generalizing s with
  | nil => exact h
  | cons node nodes ih => apply ih (mem_groupInfos_updateNodeServiceWithoutLock build node h)

theorem registered_foldl_update_cases (build : ChainNodeInfo → Option Service)
    {groupID : String} (nodes : List ChainNodeInfo) {s : GroupManager Service}
    (hgroup : groupID ∈ s.groupInfos) {g n : String}
    (h : (nodes.foldl (updateNodeServiceWithoutLock build groupID) s).Registered g n) :
  s.Registered g n
    ∨ ((nodes.foldl (updateNodeServiceWithoutLock build groupID) s).getNodeInfo g n).isSome
  := by
  induction nodes generalizing s with
  | nil => exact Or.inl h
  | cons node nodes ih =>
      have hgroup' : groupID ∈ (updateNodeServiceWithoutLock build groupID s node).groupInfos :=
        mem_groupInfos_updateNodeServiceWithoutLock build node hgroup
      rcases ih hgroup' h with hregistered | hrecorded
      · apply (getNodeInfo_isSome_of_registered build node hgroup hregistered).imp_right
        intro hrecorded
        rwa [List.foldl_cons, getNodeInfo_foldl_update_of_kept]
        intro _
        apply Or.inr (Or.inl hrecorded)
      · apply Or.inr hrecorded

theorem mem_groupInfos_updateGroupInfo (build : ChainNodeInfo → Option Service)
    (groupInfo : GroupInfo) {s : GroupManager Service} {g : String} (h : g ∈ s.groupInfos) :
  g ∈ (s.updateGroupInfo build groupInfo).groupInfos
  := by
  rw [updateGroupInfo]
  split
  · rw [ExtTreeMap.mem_insert]
    apply Or.inr h
  · apply mem_groupInfos_foldl_update build _ h

/-- A node that an update gives a service is in its group then. -/
theorem registered_updateGroupInfo_cases (build : ChainNodeInfo → Option Service)
    (groupInfo : GroupInfo) {s : GroupManager Service} {g n : String}
    (h : (s.updateGroupInfo build groupInfo).Registered g n) :
  s.Registered g n ∨ ((s.updateGroupInfo build groupInfo).getNodeInfo g n).isSome
  := by
  rw [updateGroupInfo] at h ⊢
  split
  · rename_i hnew
    rw [if_pos hnew] at h
    apply Or.inl h
  · rename_i hknown
    rw [if_neg hknown] at h
    apply registered_foldl_update_cases build _ (not_not.mp hknown) h

end GroupManager

namespace RpcServer

open GroupManager

variable {Service : Type} {o e : List (WsSession × ServerMessage)} {s t : RpcServer Service}
  {groupID nodeName : String}

/-! ### Steps of the server -/

/-- The steps that change the services or remove nodes. -/
def ChangesServices : ServerAction Service → Bool
  | .asyncNotifyGroupInfo _ _ | .checkNodeStatus _ | .removeUnreachableNodeService => true
  | _ => false

/-- What a step does to the services, the groups and the sweep. -/
inductive ServiceStep (s t : RpcServer Service) : ServerAction Service → Prop where
  | update {buildNodeService : ChainNodeInfo → Option Service} {groupInfo : GroupInfo} :
      t.groupManager = { s.groupManager with
        toGroupManager := s.groupManager.updateGroupInfo buildNodeService groupInfo } →
      ServiceStep s t (.asyncNotifyGroupInfo buildNodeService groupInfo)
  | check {unreachable : String → String → Bool} : s.groupManager.phase = .ended →
      t.groupManager = s.groupManager.afterCheck unreachable →
      ServiceStep s t (.checkNodeStatus unreachable)
  | remove : s.groupManager.phase = .checked →
      t.groupManager = { s.groupManager with
        toGroupManager := GroupManager.removeUnreachableNodeService
          s.groupManager.unreachableNodes s.groupManager.toGroupManager
        phase := .removed } →
      ServiceStep s t .removeUnreachableNodeService
  | leave {action : ServerAction Service} : ChangesServices action = false →
      (∀ groupID nodeName, t.groupManager.queryNodeService groupID nodeName
        = s.groupManager.queryNodeService groupID nodeName) →
      t.groupManager.recorded = s.groupManager.recorded →
      t.groupManager.unreachableNodes = s.groupManager.unreachableNodes →
      (t.groupManager.phase = .checked ↔ s.groupManager.phase = .checked) →
      ServiceStep s t action

theorem serviceStep {action : ServerAction Service}
    (hstep : (serverMachine Service).step s action = some (t, e)) :
  ServiceStep s t action
  := by
  cases hmeets : Meets action with
  | true =>
      obtain ⟨hmanager, _⟩ := meets_step hmeets hstep
      apply ServiceStep.leave
      · cases action with
        | asyncNotifyGroupInfo => cases hmeets
        | checkNodeStatus => cases hmeets
        | removeUnreachableNodeService => cases hmeets
        | _ => rfl
      · intro g n
        rw [hmanager]
      · rw [hmanager]
      · rw [hmanager]
      · rw [hmanager]
  | false =>
      cases action with
      | asyncNotifyGroupInfo build groupInfo =>
          obtain ⟨rfl, _⟩ := Prod.mk.inj (Option.some.inj hstep)
          exact .update rfl
      | checkNodeStatus unreachable =>
          obtain ⟨hended, heq⟩ := Option.ite_none_right_eq_some.mp hstep
          obtain ⟨rfl, _⟩ := Prod.mk.inj (Option.some.inj heq)
          exact .check hended rfl
      | removeUnreachableNodeService =>
          obtain ⟨⟨u, events⟩, hu, heq⟩ := Option.map_eq_some_iff.mp hstep
          obtain ⟨rfl, _⟩ := Prod.mk.inj heq
          obtain ⟨hchecked, hu⟩ := Option.ite_none_right_eq_some.mp hu
          obtain ⟨rfl, _⟩ := Prod.mk.inj (Option.some.inj hu)
          exact .remove hchecked rfl
      | removeGroupBlockInfo =>
          obtain ⟨⟨u, events⟩, hu, heq⟩ := Option.map_eq_some_iff.mp hstep
          obtain ⟨rfl, _⟩ := Prod.mk.inj heq
          obtain ⟨hremoved, hu⟩ := Option.ite_none_right_eq_some.mp hu
          obtain ⟨rfl, _⟩ := Prod.mk.inj (Option.some.inj hu)
          apply ServiceStep.leave rfl
          · apply queryNodeService_removeGroupBlockInfo
          · apply recorded_removeGroupBlockInfo
          · rfl
          · simp [hremoved]
      | disconnect session =>
          obtain ⟨rfl, _⟩ := Prod.mk.inj (Option.some.inj hstep)
          exact .leave rfl (fun _ _ => rfl) rfl rfl Iff.rfl
      | asyncNotifyBlockNumber groupID nodeName blockNumber =>
          obtain ⟨rfl, _⟩ := Prod.mk.inj (Option.some.inj hstep)
          exact .leave rfl (fun _ _ => rfl) rfl rfl Iff.rfl
      | updateGroupBlockInfo index =>
          simp only [serverMachine] at hstep
          split at hstep
          · cases hstep
          · obtain ⟨rfl, _⟩ := Prod.mk.inj (Option.some.inj hstep)
            exact .leave rfl
              (queryNodeService_updateGroupBlockInfo _ _ _ _)
              (recorded_updateGroupBlockInfo _ _ _ _) rfl Iff.rfl
      | _ => cases hmeets

/-! ### Nodes and their services -/

/-- A node has a service, and is in its group. -/
structure Serves (groupID nodeName : String) (service : Service) (node : ChainNodeInfo)
    (s : RpcServer Service) : Prop where
  service : s.groupManager.queryNodeService groupID nodeName = some service
  node : s.groupManager.getNodeInfo groupID nodeName = some node

/-- The sweep under way has found a node lost, and its service is not removed yet. -/
def BeingRemoved (s : RpcServer Service) (groupID nodeName : String) : Prop :=
  s.groupManager.phase = .checked
    ∧ Flagged s.groupManager.unreachableNodes groupID nodeName

/-- A check finds a node reachable. -/
def FindsReachable (groupID nodeName : String) : ServerAction Service → Prop
  | .checkNodeStatus unreachable => unreachable groupID nodeName = false
  | _ => True

theorem getNodeInfo_eq (manager : GroupManager Service) (groupID nodeName : String) :
  manager.getNodeInfo groupID nodeName
    = (manager.recorded groupID).bind fun groupInfo => groupInfo.nodeInfos[nodeName]?
  := rfl

/-- The nodes that a check leaves in the groups. -/
theorem getNodeInfo_afterCheck (unreachable : String → String → Bool)
    (manager : GroupManager Service) (groupID nodeName : String) :
  (manager.afterCheck unreachable).getNodeInfo groupID nodeName
    = if manager.isLost unreachable groupID nodeName then none
      else manager.getNodeInfo groupID nodeName
  := by
  rw [getNodeInfo, getNodeInfo, afterCheck, checkNodeStatus, ExtTreeMap.getElem?_map]
  cases hinfo : manager.groupInfos[groupID]? with
  | none => simp
  | some info =>
      have hid := manager.groupID_eq groupID info hinfo
      simp only [Option.map_some, Option.bind_some, GroupInfo.removeNodeInfos, hid,
        ExtTreeMap.getElem?_filter']
      cases hnode : info.nodeInfos[nodeName]? with
      | none => simp
      | some node => cases manager.isLost unreachable groupID nodeName <;> simp

theorem flagged_afterCheck (unreachable : String → String → Bool)
    (manager : GroupManager Service) (groupID nodeName : String) :
  Flagged (manager.afterCheck unreachable).unreachableNodes groupID nodeName
    ↔ manager.Lost unreachable groupID nodeName
  := mem_checkNodeStatus unreachable manager groupID nodeName

/-! ### A node that is found reachable -/

/-- A node that serves is not being removed. -/
structure Remains (groupID nodeName : String) (service : Service) (node : ChainNodeInfo)
    (s : RpcServer Service) : Prop extends Serves groupID nodeName service node s where
  spared : ¬ s.BeingRemoved groupID nodeName

theorem remains_step {service : Service} {node : ChainNodeInfo}
    (h : Remains groupID nodeName service node s) {action : ServerAction Service}
    (hreachable : FindsReachable groupID nodeName action)
    (hstep : (serverMachine Service).step s action = some (t, e)) :
  Remains groupID nodeName service node t
  := by
  cases serviceStep hstep with
  | @update build groupInfo hmanager =>
      constructor
      · constructor
        · rw [hmanager]
          change (s.groupManager.updateGroupInfo build groupInfo).queryNodeService _ _ = _
          rw [queryNodeService_updateGroupInfo, h.service, Option.some_or]
        · rw [hmanager]
          change (s.groupManager.updateGroupInfo build groupInfo).getNodeInfo _ _ = _
          rw [getNodeInfo_updateGroupInfo_of_kept, h.node]
          intro _
          left
          rw [h.node]
          rfl
      · rw [BeingRemoved, hmanager]
        apply h.spared
  | @check unreachable _ hmanager =>
      have hkept : s.groupManager.isLost unreachable groupID nodeName = false := by
        rw [isLost, h.service]
        apply hreachable
      constructor
      · constructor
        · rw [hmanager]
          apply h.service
        · rw [hmanager, getNodeInfo_afterCheck, hkept]
          apply h.node
      · rw [BeingRemoved, hmanager, flagged_afterCheck]
        rintro ⟨_, _, _, _, hlost⟩
        rw [hkept] at hlost
        cases hlost
  | remove hchecked hmanager =>
      constructor
      · constructor
        · rw [hmanager]
          apply (queryNodeService_removeUnreachableNodeService _ _ _ _ _).mpr
          use h.service
          intro hflagged
          apply h.spared ⟨hchecked, hflagged⟩
        · rw [hmanager, getNodeInfo_eq, recorded_removeUnreachableNodeService]
          apply h.node
      · rw [BeingRemoved, hmanager]
        rintro ⟨hphase, _⟩
        cases hphase
  | leave _ hquery hrecorded hnodes hphase =>
      constructor
      · constructor
        · rw [hquery, h.service]
        · rw [getNodeInfo_eq, hrecorded]
          apply h.node
      · rw [BeingRemoved, hnodes, hphase]
        apply h.spared

/-- A node that a check finds unreachable leaves its group. -/
theorem findsReachable_of_serves {node : ChainNodeInfo} {action : ServerAction Service}
    (hstep : (serverMachine Service).step s action = some (t, e))
    (hnode : t.groupManager.getNodeInfo groupID nodeName = some node) :
  FindsReachable groupID nodeName action
  := by
  cases action with
  | checkNodeStatus unreachable =>
      cases serviceStep hstep with
      | check _ hmanager =>
          rw [hmanager, getNodeInfo_afterCheck] at hnode
          obtain ⟨hkept, _⟩ := Option.ite_none_left_eq_some.mp hnode
          rw [isLost, Bool.or_eq_true, not_or, Bool.not_eq_true, Bool.not_eq_true] at hkept
          exact hkept.2
      | leave hchanges => cases hchanges
  | _ => trivial

theorem exact_serves (groupID nodeName : String) (service : Service) (node : ChainNodeInfo) :
  Machine.Exact (serverMachine Service) (fun _ s => Remains groupID nodeName service node s)
    (fun _ s => Serves groupID nodeName service node s) (fun _ _ _ => True)
    (fun _ _ action => FindsReachable groupID nodeName action)
  := by
  constructor
  · intro _ _ h
    apply h.toServes
  · intro _ _ _ _ _ h _ hreachable hstep
    apply remains_step h hreachable hstep
  · intro _ _ _ _ _ _ _ hstep hserves
    apply findsReachable_of_serves hstep hserves.node

/-! ### Nodes with a service are in their groups -/

/-- Every node with a service is in its group, or the sweep under way removes it. -/
def Placed (s : RpcServer Service) : Prop :=
  ∀ groupID nodeName, s.groupManager.Registered groupID nodeName →
    (s.groupManager.getNodeInfo groupID nodeName).isSome ∨ s.BeingRemoved groupID nodeName

theorem placed_step (h : s.Placed) {action : ServerAction Service}
    (hstep : (serverMachine Service).step s action = some (t, e)) :
  t.Placed
  := by
  intro g n hregistered
  cases serviceStep hstep with
  | @update build groupInfo hmanager =>
      rw [hmanager] at hregistered
      rw [BeingRemoved, hmanager]
      rcases registered_updateGroupInfo_cases build groupInfo hregistered with hbefore | hnew
      · apply (h g n hbefore).imp_left
        intro hrecorded
        change ((s.groupManager.updateGroupInfo build groupInfo).getNodeInfo g n).isSome
        rwa [getNodeInfo_updateGroupInfo_of_kept]
        intro _
        apply Or.inl hrecorded
      · apply Or.inl hnew
  | @check unreachable hended hmanager =>
      rw [hmanager] at hregistered
      rw [BeingRemoved, hmanager]
      have hrecorded : (s.groupManager.getNodeInfo g n).isSome := by
        apply (h g n hregistered).resolve_right
        rintro ⟨hchecked, _⟩
        rw [hended] at hchecked
        cases hchecked
      cases hlost : s.groupManager.isLost unreachable g n with
      | false =>
          left
          rw [getNodeInfo_afterCheck, hlost]
          apply hrecorded
      | true =>
          right
          obtain ⟨info, hinfo, hmem⟩ := (getNodeInfo_isSome_iff _ _ _).mp hrecorded
          have hlost' : s.groupManager.Lost unreachable g n := ⟨info, hinfo, hmem, hlost⟩
          exact ⟨phase_afterCheck hlost', (flagged_afterCheck _ _ _ _).mpr hlost'⟩
  | remove hchecked hmanager =>
      rw [hmanager] at hregistered ⊢
      obtain ⟨service, hservice⟩ := Option.isSome_iff_exists.mp hregistered
      obtain ⟨hbefore, hspared⟩ :=
        (queryNodeService_removeUnreachableNodeService _ _ _ _ _).mp hservice
      left
      rw [getNodeInfo_eq, recorded_removeUnreachableNodeService]
      apply (h g n (registered_iff_exists.mpr ⟨service, hbefore⟩)).resolve_right
      rintro ⟨_, hflagged⟩
      apply hspared hflagged
  | leave _ hquery hrecorded hnodes hphase =>
      rw [Registered, hquery] at hregistered
      rw [BeingRemoved, hnodes, hphase, getNodeInfo_eq, hrecorded]
      apply h g n hregistered

theorem placed_run {actions : List (ServerAction Service)}
    (hrun : (serverMachine Service).run (start {}) actions = some (s, o)) :
  s.Placed
  := by
  apply Machine.run_invariant (I := fun _ s => s.Placed) (o := []) _ _ hrun
  · intro _ _ _ _ _ h hstep
    apply placed_step h hstep
  · intro g n hregistered
    obtain ⟨info, hinfo, _⟩ := consistent_init g n hregistered
    cases hinfo

/-- A node that has a service and is not being removed has this service and its place in its
group throughout a run exactly when every check of the run finds it reachable. -/
theorem services_kept_iff {before : List (ServerAction Service)}
    (hbefore : (serverMachine Service).run (start {}) before = some (s, o)) {service : Service}
    (hservice : s.groupManager.queryNodeService groupID nodeName = some service)
    (hspared : ¬ s.BeingRemoved groupID nodeName) :
  ∃ node, ∀ actions,
    (serverMachine Service).Throughout (fun _ t => Serves groupID nodeName service node t) o s
        actions
      ↔ (serverMachine Service).Along (fun _ _ action => FindsReachable groupID nodeName action)
        o s actions
  := by
  have hregistered : s.groupManager.Registered groupID nodeName :=
    registered_iff_exists.mpr ⟨service, hservice⟩
  have hrecorded := ((placed_run hbefore) groupID nodeName hregistered).resolve_right hspared
  obtain ⟨node, hnode⟩ := Option.isSome_iff_exists.mp hrecorded
  use node
  intro actions
  apply (exact_serves groupID nodeName service node).throughout_iff ⟨⟨hservice, hnode⟩, hspared⟩
  apply Machine.along_of_forall
  intros
  trivial

/-- The node of a group that is recorded first and started then. -/
theorem services_kept_iff_started :
  ∃ s o, (serverMachine String).run (start {}) [
      .asyncNotifyGroupInfo (fun _ => none) (oneNodeGroup "group0" "node0"),
      .asyncNotifyGroupInfo (fun _ => some "service") (oneNodeGroup "group0" "node0")]
      = some (s, o)
    ∧ ∃ node, ∀ actions,
      (serverMachine String).Throughout (fun _ t => Serves "group0" "node0" "service" node t) o s
          actions
        ↔ (serverMachine String).Along (fun _ _ action => FindsReachable "group0" "node0" action)
          o s actions
  := by
  have hrun : (serverMachine String).run (start {}) [
      .asyncNotifyGroupInfo (fun _ => none) (oneNodeGroup "group0" "node0"),
      .asyncNotifyGroupInfo (fun _ => some "service") (oneNodeGroup "group0" "node0")]
      = some (_, _) := rfl
  refine ⟨_, _, hrun, services_kept_iff hrun ?_ ?_⟩
  · rfl
  · rintro ⟨hchecked, _⟩
    cases hchecked

/-! ### A node that is found unreachable -/

/-- An update that names a node for which a service can be built. -/
def Announces (groupID nodeName : String) : ServerAction Service → Prop
  | .asyncNotifyGroupInfo buildNodeService groupInfo =>
      groupInfo.groupID = groupID ∧ Builds buildNodeService groupInfo nodeName
  | _ => False

/-- A node that a check found unreachable, before its service is removed. -/
structure Leaving (groupID nodeName : String) (service : Service) (s : RpcServer Service) :
    Prop where
  removed : s.BeingRemoved groupID nodeName
  service : s.groupManager.queryNodeService groupID nodeName = some service
  node : s.groupManager.getNodeInfo groupID nodeName = none
  group : groupID ∈ s.groupManager.groupInfos

/-- A node of a recorded group that has no service and is not in its group. -/
structure Absent (groupID nodeName : String) (s : RpcServer Service) : Prop where
  service : s.groupManager.queryNodeService groupID nodeName = none
  node : s.groupManager.getNodeInfo groupID nodeName = none
  group : groupID ∈ s.groupManager.groupInfos

theorem mem_groupInfos_iff (manager : GroupManager Service) (groupID : String) :
  groupID ∈ manager.groupInfos ↔ (manager.recorded groupID).isSome
  := ExtTreeMap.mem_iff_isSome_getElem?

/-- A check that finds a node unreachable takes it from its group. -/
theorem leaving_of_check (hplaced : s.Placed) {service : Service}
    (hservice : s.groupManager.queryNodeService groupID nodeName = some service)
    {unreachable : String → String → Bool} (hunreachable : unreachable groupID nodeName = true)
    (hstep : (serverMachine Service).step s (.checkNodeStatus unreachable) = some (t, e)) :
  Leaving groupID nodeName service t
  := by
  cases serviceStep hstep with
  | check hended hmanager =>
      have hlost : s.groupManager.isLost unreachable groupID nodeName = true := by
        rw [isLost, hunreachable, Bool.or_true]
      have hrecorded : (s.groupManager.getNodeInfo groupID nodeName).isSome := by
        have hregistered := registered_iff_exists.mpr ⟨service, hservice⟩
        apply (hplaced groupID nodeName hregistered).resolve_right
        rintro ⟨hchecked, _⟩
        rw [hended] at hchecked
        cases hchecked
      obtain ⟨info, hinfo, hmem⟩ := (getNodeInfo_isSome_iff _ _ _).mp hrecorded
      have hlost' : s.groupManager.Lost unreachable groupID nodeName := ⟨info, hinfo, hmem, hlost⟩
      constructor
      · rw [BeingRemoved, hmanager, flagged_afterCheck]
        exact ⟨phase_afterCheck hlost', hlost'⟩
      · rw [hmanager]
        apply hservice
      · rw [hmanager, getNodeInfo_afterCheck, hlost]
        rfl
      · rw [hmanager, afterCheck, checkNodeStatus, ExtTreeMap.mem_map,
          ExtTreeMap.mem_iff_isSome_getElem?, hinfo]
        rfl
  | leave hchanges => cases hchanges

/-- Until its service is removed, the node keeps it and is in no group, whatever is announced. -/
theorem leaving_step {service : Service} (h : Leaving groupID nodeName service s)
    {action : ServerAction Service} (hremove : action ≠ .removeUnreachableNodeService)
    (hstep : (serverMachine Service).step s action = some (t, e)) :
  Leaving groupID nodeName service t
  := by
  cases serviceStep hstep with
  | @update build groupInfo hmanager =>
      constructor
      · rw [BeingRemoved, hmanager]
        apply h.removed
      · rw [hmanager]
        change (s.groupManager.updateGroupInfo build groupInfo).queryNodeService _ _ = _
        rw [queryNodeService_updateGroupInfo, h.service, Option.some_or]
      · rw [hmanager]
        change (s.groupManager.updateGroupInfo build groupInfo).getNodeInfo _ _ = _
        rw [getNodeInfo_updateGroupInfo_of_kept, h.node]
        intro _
        right
        use h.group
        left
        apply registered_iff_exists.mpr ⟨service, h.service⟩
      · rw [hmanager]
        apply mem_groupInfos_updateGroupInfo build groupInfo h.group
  | check hended hmanager =>
      have hchecked := h.removed.1
      rw [hended] at hchecked
      cases hchecked
  | remove => apply absurd rfl hremove
  | leave _ hquery hrecorded hnodes hphase =>
      constructor
      · rw [BeingRemoved, hnodes, hphase]
        apply h.removed
      · rw [hquery, h.service]
      · rw [getNodeInfo_eq, hrecorded]
        apply h.node
      · rw [mem_groupInfos_iff, hrecorded]
        apply (mem_groupInfos_iff _ _).mp h.group

theorem absent_of_remove {service : Service} (h : Leaving groupID nodeName service s)
    (hstep : (serverMachine Service).step s .removeUnreachableNodeService = some (t, e)) :
  Absent groupID nodeName t
  := by
  cases serviceStep hstep with
  | remove _ hmanager =>
      constructor
      · rw [hmanager, Option.eq_none_iff_forall_ne_some]
        intro other hother
        apply ((queryNodeService_removeUnreachableNodeService _ _ _ _ _).mp hother).2
        apply h.removed.2
      · rw [hmanager, getNodeInfo_eq, recorded_removeUnreachableNodeService]
        apply h.node
      · rw [hmanager, mem_groupInfos_iff, recorded_removeUnreachableNodeService]
        apply (mem_groupInfos_iff _ _).mp h.group
  | leave hchanges => cases hchanges

theorem absent_step (h : Absent groupID nodeName s) {action : ServerAction Service}
    (hannounced : ¬ Announces groupID nodeName action)
    (hstep : (serverMachine Service).step s action = some (t, e)) :
  Absent groupID nodeName t
  := by
  cases serviceStep hstep with
  | @update build groupInfo hmanager =>
      constructor
      · rw [hmanager]
        change (s.groupManager.updateGroupInfo build groupInfo).queryNodeService _ _ = _
        rw [← Option.not_isSome_iff_eq_none]
        intro hregistered
        rcases (registered_updateGroupInfo build groupInfo _ _ _).mp hregistered with
          hbefore | ⟨hgroup, _, hbuilds⟩
        · rw [Registered, h.service] at hbefore
          cases hbefore
        · apply hannounced ⟨hgroup.symm, hbuilds⟩
      · rw [hmanager]
        change (s.groupManager.updateGroupInfo build groupInfo).getNodeInfo _ _ = _
        rw [getNodeInfo_updateGroupInfo_of_kept, h.node]
        intro hgroup
        right
        use h.group
        right
        intro hbuilds
        apply hannounced ⟨hgroup, hbuilds⟩
      · rw [hmanager]
        apply mem_groupInfos_updateGroupInfo build groupInfo h.group
  | check hended hmanager =>
      constructor
      · rw [hmanager]
        apply h.service
      · rw [hmanager, getNodeInfo_afterCheck, h.node, ite_self]
      · rw [hmanager, afterCheck, checkNodeStatus, ExtTreeMap.mem_map]
        apply h.group
  | remove _ hmanager =>
      constructor
      · rw [hmanager, Option.eq_none_iff_forall_ne_some]
        intro other hother
        have hbefore := ((queryNodeService_removeUnreachableNodeService _ _ _ _ _).mp hother).1
        rw [h.service] at hbefore
        cases hbefore
      · rw [hmanager, getNodeInfo_eq, recorded_removeUnreachableNodeService]
        apply h.node
      · rw [hmanager, mem_groupInfos_iff, recorded_removeUnreachableNodeService]
        apply (mem_groupInfos_iff _ _).mp h.group
  | leave _ hquery hrecorded _ _ =>
      constructor
      · rw [hquery, h.service]
      · rw [getNodeInfo_eq, hrecorded]
        apply h.node
      · rw [mem_groupInfos_iff, hrecorded]
        apply (mem_groupInfos_iff _ _).mp h.group

/-- An announcement gives a node of a recorded group a service, and enters it. -/
theorem registered_of_announces (h : Absent groupID nodeName s) {action : ServerAction Service}
    (hannounced : Announces groupID nodeName action)
    (hstep : (serverMachine Service).step s action = some (t, e)) :
  t.groupManager.Registered groupID nodeName
    ∧ (t.groupManager.getNodeInfo groupID nodeName).isSome
  := by
  cases action with
  | asyncNotifyGroupInfo build groupInfo =>
      obtain ⟨rfl, _⟩ := Prod.mk.inj (Option.some.inj hstep)
      obtain ⟨rfl, hbuilds⟩ := hannounced
      have hregistered :=
        (registered_updateGroupInfo build groupInfo s.groupManager.toGroupManager _ _).mpr
          (Or.inr ⟨rfl, h.group, hbuilds⟩)
      use hregistered
      apply (registered_updateGroupInfo_cases build groupInfo hregistered).resolve_left
      intro hbefore
      rw [Registered, h.service] at hbefore
      cases hbefore
  | _ => cases hannounced

/-- A node that a check finds unreachable keeps its service until the sweep removes it, and an
announcement in between is lost: afterwards the node has no service and is in no group until it
is announced again, which gives it a service. -/
theorem service_removed {before during after : List (ServerAction Service)}
    {u : RpcServer Service} {o' : List (WsSession × ServerMessage)}
    (hbefore : (serverMachine Service).run (start {}) before = some (s, o)) {service : Service}
    (hservice : s.groupManager.queryNodeService groupID nodeName = some service)
    {unreachable : String → String → Bool} (hunreachable : unreachable groupID nodeName = true)
    (hduring : (serverMachine Service).run s (.checkNodeStatus unreachable :: during)
      = some (t, e))
    (hchecked : .removeUnreachableNodeService ∉ during)
    (hafter : (serverMachine Service).run t (.removeUnreachableNodeService :: after)
      = some (u, o'))
    (hannounced : ∀ action ∈ after, ¬ Announces groupID nodeName action) :
  Leaving groupID nodeName service t ∧ Absent groupID nodeName u
    ∧ ∀ action v e, Announces groupID nodeName action →
      (serverMachine Service).step u action = some (v, e) →
      v.groupManager.Registered groupID nodeName
        ∧ (v.groupManager.getNodeInfo groupID nodeName).isSome
  := by
  have hleaving : Leaving groupID nodeName service t := by
    obtain ⟨r, _, _, hcheck, hrest, _⟩ := (Machine.run_cons _).mp hduring
    have hkept := Machine.along_of_forall_mem (M := serverMachine Service)
      (C := fun _ _ action => action ≠ .removeUnreachableNodeService)
      (fun action hmem _ _ => ne_of_mem_of_not_mem hmem hchecked) [] r
    apply (hkept.invariant (I := fun _ s => Leaving groupID nodeName service s) _ _).run hrest
    · intro _ _ _ _ _ h hremove hstep
      apply leaving_step h hremove hstep
    · apply leaving_of_check (placed_run hbefore) hservice hunreachable hcheck
  have habsent : Absent groupID nodeName u := by
    obtain ⟨r, _, _, hremove, hrest, _⟩ := (Machine.run_cons _).mp hafter
    have hkept := Machine.along_of_forall_mem (M := serverMachine Service)
      (C := fun _ _ action => ¬ Announces groupID nodeName action)
      (fun action hmem _ _ => hannounced action hmem) [] r
    apply (hkept.invariant (I := fun _ s => Absent groupID nodeName s) _ _).run hrest
    · intro _ _ _ _ _ h hnone hstep
      apply absent_step h hnone hstep
    · apply absent_of_remove hleaving hremove
  refine ⟨hleaving, habsent, ?_⟩
  intro action v e hannounces hstep
  apply registered_of_announces habsent hannounces hstep

/-- A sweep whose check has found a lost node can be run to its end. -/
theorem run_removal (hchecked : s.groupManager.phase = .checked) :
  ∃ t o, (serverMachine Service).run s [.removeUnreachableNodeService, .removeGroupBlockInfo]
    = some (t, o)
  := by
  simp [Machine.run, serverMachine, sweep, sweepMachine, hchecked]

/-- A node announces itself again between the check and the removal. -/
theorem service_removed_announced :
  ∃ s o t e u o', (serverMachine String).run (start {}) [
      .asyncNotifyGroupInfo (fun _ => none) (oneNodeGroup "group0" "node0"),
      .asyncNotifyGroupInfo (fun _ => some "service") (oneNodeGroup "group0" "node0")]
      = some (s, o)
    ∧ (serverMachine String).run s [.checkNodeStatus fun _ _ => true,
      .asyncNotifyGroupInfo (fun _ => some "service") (oneNodeGroup "group0" "node0")]
      = some (t, e)
    ∧ (serverMachine String).run t [.removeUnreachableNodeService, .removeGroupBlockInfo]
      = some (u, o')
    ∧ Leaving "group0" "node0" "service" t ∧ Absent "group0" "node0" u
    ∧ ∀ action v e, Announces "group0" "node0" action →
      (serverMachine String).step u action = some (v, e) →
      v.groupManager.Registered "group0" "node0"
        ∧ (v.groupManager.getNodeInfo "group0" "node0").isSome
  := by
  have hrun : (serverMachine String).run (start {}) [
      .asyncNotifyGroupInfo (fun _ => none) (oneNodeGroup "group0" "node0"),
      .asyncNotifyGroupInfo (fun _ => some "service") (oneNodeGroup "group0" "node0")]
      = some (_, _) := rfl
  obtain ⟨s, o, hbefore, hservice, hended⟩ : ∃ s o, (serverMachine String).run (start {}) [
      .asyncNotifyGroupInfo (fun _ => none) (oneNodeGroup "group0" "node0"),
      .asyncNotifyGroupInfo (fun _ => some "service") (oneNodeGroup "group0" "node0")]
      = some (s, o)
      ∧ s.groupManager.queryNodeService "group0" "node0" = some "service"
      ∧ s.groupManager.phase = .ended := ⟨_, _, hrun, rfl, rfl⟩
  obtain ⟨t, e, hduring⟩ : ∃ t e, (serverMachine String).run s [.checkNodeStatus fun _ _ => true,
      .asyncNotifyGroupInfo (fun _ => some "service") (oneNodeGroup "group0" "node0")]
      = some (t, e) := by
    simp [Machine.run, serverMachine, hended]
  have hchecked : t.groupManager.phase = .checked := by
    obtain ⟨r, _, _, hcheck, hrest, _⟩ := (Machine.run_cons _).mp hduring
    have hleaving : Leaving "group0" "node0" "service" r :=
      leaving_of_check (placed_run hbefore) hservice rfl hcheck
    obtain ⟨_, _, _, hannounce, hend, _⟩ := (Machine.run_cons _).mp hrest
    obtain ⟨rfl, _⟩ := Prod.mk.inj (Option.some.inj hend)
    apply (leaving_step hleaving _ hannounce).removed.1
    intro heq
    cases heq
  obtain ⟨u, o', hafter⟩ := run_removal hchecked
  refine ⟨s, o, t, e, u, o', hbefore, hduring, hafter, ?_⟩
  apply service_removed hbefore hservice _ hduring _ hafter
  · simp [Announces]
  · rfl
  · simp

end RpcServer
