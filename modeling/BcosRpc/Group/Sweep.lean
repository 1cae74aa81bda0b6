import BcosRpc.Group.Registry

/-!
# The phases of a sweep

A sweep takes the locks of the manager three times: it collects the lost nodes, removes their
services, and removes them from the nodes with the latest block. Only names pass from one phase
to the next, so a node that has no service when the nodes are checked can be given one that the
second phase removes. `sweepMachine` interleaves the phases with the other operations;
`GroupManager.createdKept_iff` says when no such service is removed.
-/

open Std

/-- A service with its node. -/
structure NodeOf (Service : Type) where
  groupID : String
  nodeName : String
  service : Service
  deriving DecidableEq

/-- What happens to the services: an update creates one, a sweep erases one. -/
inductive ServiceEvent (Service : Type) where
  | created (node : NodeOf Service)
  | erased (node : NodeOf Service)
  deriving DecidableEq

/-- The phases of a sweep that are over. -/
inductive SweepPhase where
  | checked
  | removed
  | ended
  deriving DecidableEq

/-- The manager during a sweep, with the nodes its check found lost. -/
structure SweepState (Service : Type) extends GroupManager Service where
  unreachableNodes : ExtTreeMap String (ExtTreeSet String)
  phase : SweepPhase

/-- The operations between the phases, and the phases after the check. -/
inductive SweepAction (Service : Type) where
  | updateGroupInfo (buildNodeService : ChainNodeInfo → Option Service) (groupInfo : GroupInfo)
  | updateGroupBlockInfo (groupID nodeName : String) (blockNumber : Int)
  | removeUnreachableNodeService
  | removeGroupBlockInfo

namespace GroupManager

variable {Service : Type}

/-! ### The events -/

/-- The services that an update of a group creates. -/
def createdBy (build : ChainNodeInfo → Option Service) (groupInfo : GroupInfo)
    (s : GroupManager Service) : List (NodeOf Service) :=
  if groupInfo.groupID ∈ s.groupInfos then
    groupInfo.nodeInfos.keys.filterMap fun nodeName =>
      if (s.queryNodeService groupInfo.groupID nodeName).isSome then none
      else (builtService build groupInfo nodeName).map (⟨groupInfo.groupID, nodeName, ·⟩)
  else []

/-- A node is among the lost ones. -/
def Flagged (unreachableNodes : ExtTreeMap String (ExtTreeSet String))
    (groupID nodeName : String) : Prop :=
  ∃ lost ∈ unreachableNodes.toList, lost.1 = groupID ∧ nodeName ∈ lost.2

/-- The services that the lost nodes have. -/
def erasedBy (unreachableNodes : ExtTreeMap String (ExtTreeSet String))
    (s : GroupManager Service) : List (NodeOf Service) :=
  unreachableNodes.toList.flatMap fun lost => lost.2.toList.filterMap fun nodeName =>
    (s.queryNodeService lost.1 nodeName).map (⟨lost.1, nodeName, ·⟩)

/-- A service is created when a node without service has it after the update. -/
theorem mem_createdBy_iff (build : ChainNodeInfo → Option Service) (groupInfo : GroupInfo)
    (s : GroupManager Service) (node : NodeOf Service) :
  node ∈ createdBy build groupInfo s
    ↔ s.queryNodeService node.groupID node.nodeName = none
      ∧ (s.updateGroupInfo build groupInfo).queryNodeService node.groupID node.nodeName
        = some node.service
  := by
  obtain ⟨groupID, nodeName, service⟩ := node
  rw [queryNodeService_updateGroupInfo, createdBy]
  split
  · rename_i hknown
    simp only [List.mem_filterMap, ExtTreeMap.mem_keys, hknown, and_true]
    constructor
    · rintro ⟨name, hmem, hnode⟩
      rw [Option.ite_none_left_eq_some] at hnode
      obtain ⟨hnew, hnode⟩ := hnode
      obtain ⟨built, hbuilt, heq⟩ := Option.map_eq_some_iff.mp hnode
      obtain ⟨rfl, rfl, rfl⟩ := NodeOf.mk.inj heq
      rw [Option.not_isSome_iff_eq_none.mp hnew, if_pos rfl, Option.none_or]
      exact ⟨rfl, hbuilt⟩
    · rintro ⟨hnew, hafter⟩
      rw [hnew, Option.none_or] at hafter
      obtain ⟨rfl, hbuilt⟩ := Option.ite_none_right_eq_some.mp hafter
      use nodeName
      constructor
      · obtain ⟨info, hinfo, _⟩ := Option.bind_eq_some_iff.mp hbuilt
        rw [ExtTreeMap.mem_iff_isSome_getElem?, hinfo]
        rfl
      · simp [hnew, hbuilt]
  · rename_i hnew
    simp only [List.not_mem_nil, hnew, and_false, if_false, Option.or_none, false_iff, not_and]
    intro hnone hsome
    rw [hnone] at hsome
    cases hsome

theorem mem_erasedBy_iff (unreachableNodes : ExtTreeMap String (ExtTreeSet String))
    (s : GroupManager Service) (node : NodeOf Service) :
  node ∈ erasedBy unreachableNodes s
    ↔ Flagged unreachableNodes node.groupID node.nodeName
      ∧ s.queryNodeService node.groupID node.nodeName = some node.service
  := by
  obtain ⟨groupID, nodeName, service⟩ := node
  simp only [erasedBy, List.mem_flatMap, List.mem_filterMap, ExtTreeSet.mem_toList,
    Option.map_eq_some_iff, Flagged]
  constructor
  · rintro ⟨lost, hlost, name, hname, found, hfound, heq⟩
    obtain ⟨rfl, rfl, rfl⟩ := NodeOf.mk.inj heq
    exact ⟨⟨lost, hlost, rfl, hname⟩, hfound⟩
  · rintro ⟨⟨lost, hlost, rfl, hname⟩, hfound⟩
    exact ⟨lost, hlost, nodeName, hname, service, hfound, rfl⟩

end GroupManager

open GroupManager in
/-- The manager from the check of a sweep on. -/
def sweepMachine (Service : Type) :
    Machine (SweepState Service) (SweepAction Service) (ServiceEvent Service) where
  step
    | s, .updateGroupInfo build groupInfo =>
        some ({ s with toGroupManager := s.updateGroupInfo build groupInfo },
          (createdBy build groupInfo s.toGroupManager).map .created)
    | s, .updateGroupBlockInfo groupID nodeName blockNumber =>
        some ({ s with toGroupManager := s.updateGroupBlockInfo groupID nodeName blockNumber }, [])
    | s, .removeUnreachableNodeService =>
        if s.phase = .checked then
          some ({ s with
            toGroupManager := GroupManager.removeUnreachableNodeService s.unreachableNodes
              s.toGroupManager
            phase := .removed },
            (erasedBy s.unreachableNodes s.toGroupManager).map .erased)
        else none
    | s, .removeGroupBlockInfo =>
        if s.phase = .removed then
          some ({ s with
            toGroupManager := GroupManager.removeGroupBlockInfo s.unreachableNodes
              s.toGroupManager
            phase := .ended }, [])
        else none

namespace GroupManager

variable {Service : Type}

/-- The state after the check of a sweep, which is over when no node is lost. -/
def afterCheck (unreachable : String → String → Bool) (s : GroupManager Service) :
    SweepState Service where
  toGroupManager := (s.checkNodeStatus unreachable).1
  unreachableNodes := (s.checkNodeStatus unreachable).2
  phase := if (s.checkNodeStatus unreachable).2.isEmpty then .ended else .checked

/-- The services created since the check are still registered, and the services erased are ones
that the check has found unreachable. -/
structure CreatedKept (unreachable : String → String → Bool) (s : GroupManager Service)
    (o : List (ServiceEvent Service)) (t : SweepState Service) : Prop where
  created : ∀ node, .created node ∈ o →
    t.queryNodeService node.groupID node.nodeName = some node.service
  erased : ∀ node, .erased node ∈ o →
    s.queryNodeService node.groupID node.nodeName = some node.service
      ∧ unreachable node.groupID node.nodeName = true

/-- When the services of the lost nodes are removed, none of these nodes has been given a
service since the check. -/
def NoneCreated (o : List (ServiceEvent Service)) (t : SweepState Service) :
    SweepAction Service → Prop
  | .removeUnreachableNodeService => ∀ node, .created node ∈ o →
      ¬ Flagged t.unreachableNodes node.groupID node.nodeName
  | _ => True

/-! ### The invariant -/

/-- Besides, the lost nodes are those the check found, and every service was there at the check
or has been created since. -/
structure SweepInvariant (unreachable : String → String → Bool) (s : GroupManager Service)
    (o : List (ServiceEvent Service)) (t : SweepState Service) : Prop
    extends CreatedKept unreachable s o t where
  lost : ∀ groupID nodeName,
    Flagged t.unreachableNodes groupID nodeName ↔ s.Lost unreachable groupID nodeName
  origin : ∀ node : NodeOf Service,
    t.queryNodeService node.groupID node.nodeName = some node.service →
      s.queryNodeService node.groupID node.nodeName = some node.service ∨ .created node ∈ o

theorem sweepInvariant_afterCheck (unreachable : String → String → Bool)
    (s : GroupManager Service) :
  SweepInvariant unreachable s [] (s.afterCheck unreachable)
  := by
  constructor
  · constructor
    · intro node h
      cases h
    · intro node h
      cases h
  · apply mem_checkNodeStatus
  · intro node h
    apply Or.inl h

namespace SweepInvariant

variable {unreachable : String → String → Bool} {s : GroupManager Service}
  {o : List (ServiceEvent Service)} {t : SweepState Service}

/-- The service a lost node had at the check was found unreachable. -/
theorem unreachable_of_flagged (h : SweepInvariant unreachable s o t) {node : NodeOf Service}
    (hflagged : Flagged t.unreachableNodes node.groupID node.nodeName)
    (hquery : s.queryNodeService node.groupID node.nodeName = some node.service) :
  unreachable node.groupID node.nodeName = true
  := by
  obtain ⟨_, _, _, hlost⟩ := (h.lost _ _).mp hflagged
  rw [isLost, hquery] at hlost
  simpa using hlost

/-- Services that stay as they are keep the invariant. -/
theorem unchanged (h : SweepInvariant unreachable s o t) {next : SweepState Service}
    (hlost : next.unreachableNodes = t.unreachableNodes)
    (hquery : ∀ g n, next.queryNodeService g n = t.queryNodeService g n) :
  SweepInvariant unreachable s (o ++ []) next
  := by
  rw [List.append_nil]
  constructor
  · constructor
    · intro node hnode
      rw [hquery]
      apply h.created node hnode
    · apply h.erased
  · rw [hlost]
    apply h.lost
  · intro node hnode
    rw [hquery] at hnode
    apply h.origin node hnode

/-- An update keeps the services there are, and creates those that are new. -/
theorem update (h : SweepInvariant unreachable s o t) (build : ChainNodeInfo → Option Service)
    (groupInfo : GroupInfo) :
  SweepInvariant unreachable s
    (o ++ (createdBy build groupInfo t.toGroupManager).map .created)
    { t with toGroupManager := t.updateGroupInfo build groupInfo }
  := by
  constructor
  · constructor
    · intro node hnode
      simp only [List.mem_append, List.mem_map, ServiceEvent.created.injEq,
        exists_eq_right] at hnode
      rcases hnode with hold | hnew
      · show (t.updateGroupInfo build groupInfo).queryNodeService _ _ = _
        rw [queryNodeService_updateGroupInfo, h.created node hold, Option.some_or]
      · apply ((mem_createdBy_iff build groupInfo _ node).mp hnew).2
    · intro node hnode
      simp only [List.mem_append, List.mem_map, reduceCtorEq, and_false, exists_false,
        or_false] at hnode
      apply h.erased node hnode
  · apply h.lost
  · intro node hquery
    simp only [List.mem_append, List.mem_map, ServiceEvent.created.injEq, exists_eq_right]
    cases hold : t.queryNodeService node.groupID node.nodeName with
    | none =>
        right
        right
        apply (mem_createdBy_iff build groupInfo _ node).mpr ⟨hold, hquery⟩
    | some service =>
        have hkept : t.queryNodeService node.groupID node.nodeName = some node.service := by
          rw [← hquery]
          show _ = (t.updateGroupInfo build groupInfo).queryNodeService _ _
          rw [queryNodeService_updateGroupInfo, hold, Option.some_or]
        rw [← or_assoc]
        apply Or.inl (h.origin node hkept)

/-- The removal of the lost nodes erases services that were unreachable, when none was
created. -/
theorem remove (h : SweepInvariant unreachable s o t)
    (hnone : NoneCreated o t .removeUnreachableNodeService) :
  SweepInvariant unreachable s
    (o ++ (erasedBy t.unreachableNodes t.toGroupManager).map .erased)
    { t with
      toGroupManager := GroupManager.removeUnreachableNodeService t.unreachableNodes
        t.toGroupManager
      phase := .removed }
  := by
  constructor
  · constructor
    · intro node hnode
      simp only [List.mem_append, List.mem_map, reduceCtorEq, and_false, exists_false,
        or_false] at hnode
      apply (queryNodeService_removeUnreachableNodeService _ _ _ _ _).mpr
      exact ⟨h.created node hnode, hnone node hnode⟩
    · intro node hnode
      simp only [List.mem_append, List.mem_map, ServiceEvent.erased.injEq,
        exists_eq_right] at hnode
      rcases hnode with hold | hnew
      · apply h.erased node hold
      · obtain ⟨hflagged, hquery⟩ := (mem_erasedBy_iff _ _ node).mp hnew
        have hcheck := (h.origin node hquery).resolve_right
          (fun hcreated => hnone node hcreated hflagged)
        exact ⟨hcheck, h.unreachable_of_flagged hflagged hcheck⟩
  · apply h.lost
  · intro node hquery
    have hbefore := ((queryNodeService_removeUnreachableNodeService _ _ _ _ _).mp hquery).1
    rw [List.mem_append]
    apply (h.origin node hbefore).imp_right
    apply Or.inl

end SweepInvariant

theorem exact_createdKept (unreachable : String → String → Bool) (s : GroupManager Service) :
  Machine.Exact (sweepMachine Service) (SweepInvariant unreachable s) (CreatedKept unreachable s)
    (fun _ _ _ => True) NoneCreated
  := by
  constructor
  · intro o t h
    apply h.toCreatedKept
  · intro o t a next e h _ hC hstep
    cases a with
    | updateGroupInfo build groupInfo =>
        obtain ⟨rfl, rfl⟩ := Prod.mk.inj (Option.some.inj hstep)
        apply h.update
    | updateGroupBlockInfo groupID nodeName blockNumber =>
        obtain ⟨rfl, rfl⟩ := Prod.mk.inj (Option.some.inj hstep)
        refine h.unchanged ?_ ?_
        · rfl
        · apply queryNodeService_updateGroupBlockInfo
    | removeUnreachableNodeService =>
        obtain ⟨_, heq⟩ := Option.ite_none_right_eq_some.mp hstep
        obtain ⟨rfl, rfl⟩ := Prod.mk.inj (Option.some.inj heq)
        apply h.remove hC
    | removeGroupBlockInfo =>
        obtain ⟨_, heq⟩ := Option.ite_none_right_eq_some.mp hstep
        obtain ⟨rfl, rfl⟩ := Prod.mk.inj (Option.some.inj heq)
        refine h.unchanged ?_ ?_
        · rfl
        · apply queryNodeService_removeGroupBlockInfo
  · intro o t a next e h _ hstep hP
    cases a with
    | removeUnreachableNodeService =>
        obtain ⟨_, heq⟩ := Option.ite_none_right_eq_some.mp hstep
        obtain ⟨rfl, rfl⟩ := Prod.mk.inj (Option.some.inj heq)
        intro node hnode hflagged
        have hquery := hP.created node (List.mem_append_left _ hnode)
        apply ((queryNodeService_removeUnreachableNodeService _ _ _ _ _).mp hquery).2 hflagged
    | _ => trivial

/-- From the check of a sweep on, the services created stay registered and only services found
unreachable are erased, throughout a run, exactly when no node found lost is given a service
before the services of the lost nodes are removed. -/
theorem createdKept_iff (unreachable : String → String → Bool) (s : GroupManager Service)
    (actions : List (SweepAction Service)) :
  (sweepMachine Service).Throughout (CreatedKept unreachable s) [] (s.afterCheck unreachable)
      actions
    ↔ (sweepMachine Service).Along NoneCreated [] (s.afterCheck unreachable) actions
  := by
  apply (exact_createdKept unreachable s).throughout_iff (sweepInvariant_afterCheck unreachable s)
  apply Machine.along_of_forall
  intros
  trivial

/-- A sweep that finds a lost node goes on. -/
theorem phase_afterCheck {unreachable : String → String → Bool} {s : GroupManager Service}
    {groupID nodeName : String} (h : s.Lost unreachable groupID nodeName) :
  (s.afterCheck unreachable).phase = .checked
  := by
  obtain ⟨lost, hlost, _⟩ := (mem_checkNodeStatus unreachable s groupID nodeName).mpr h
  rw [afterCheck, if_neg]
  intro hempty
  rw [ExtTreeMap.isEmpty_iff] at hempty
  rw [hempty, ExtTreeMap.toList_eq_nil_iff.mpr rfl] at hlost
  cases hlost

/-- A group whose node has no service yet. -/
def justRecorded : GroupManager String :=
  ({} : GroupManager String).updateGroupInfo (fun _ => none) (oneNodeGroup "group0" "node0")

/-- A sweep of the group erases the service that an update creates after the check. -/
theorem createdKept_counterexample :
  ¬ ∀ (before : List (GroupAction String)) (s : GroupManager String) (e : List Empty),
    (groupMachine String).run {} before = some (s, e) →
      ∀ unreachable actions, (sweepMachine String).Throughout (CreatedKept unreachable s) []
        (s.afterCheck unreachable) actions
  := by
  intro h
  have hlost : justRecorded.Lost (fun _ _ => false) "group0" "node0" :=
    ⟨oneNodeGroup "group0" "node0", rfl, by decide, by decide⟩
  have hphase := phase_afterCheck hlost
  have hthrough := h [.updateGroupInfo (fun _ => none) (oneNodeGroup "group0" "node0")]
    justRecorded [] rfl (fun _ _ => false)
    [.updateGroupInfo (fun _ => some "service") (oneNodeGroup "group0" "node0"),
      .removeUnreachableNodeService]
  have hkept := ((hthrough.2 _ _ rfl).2 _ _ (if_pos hphase)).head
  have hquery := hkept.created ⟨"group0", "node0", "service"⟩ (by
    apply List.mem_append_left
    decide)
  have hkeeps := (queryNodeService_removeUnreachableNodeService _ _ _ _ _).mp hquery
  apply hkeeps.2
  apply (mem_checkNodeStatus _ _ _ _).mpr hlost

end GroupManager
