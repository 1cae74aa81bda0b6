import BcosRpc.JsonRpc.Agreement
import BcosRpc.Rpc.Blocks
import BcosRpc.Rpc.NodeService

/-!
# A single group

A node that runs the server itself has a `LocalGroupManager`, which holds one group and one node
service, and needs no notifications. It stands in for a group manager that has been told of this
group alone: `RpcServer.local_answers` says that requests are answered alike, and which requests
are not.
-/

open Std

/-! ### The local group manager -/

structure LocalGroupManager where
  chainID : String
  nodeService : NodeService
  groupInfo : GroupInfo

namespace LocalGroupManager

variable (s : LocalGroupManager)

/-- The name of the node does not count. -/
def getNodeService (groupID _nodeName : String) : Option NodeService :=
  if 0 < groupID.length ∧ groupID ≠ s.groupInfo.groupID then none else some s.nodeService

def groupList : List String := [s.groupInfo.groupID]

def getGroupInfo (groupID : String) : Option GroupInfo :=
  if s.groupInfo.groupID = groupID then some s.groupInfo else none

def getNodeInfo (groupID nodeName : String) : Option ChainNodeInfo :=
  if s.groupInfo.groupID ≠ groupID then none else s.groupInfo.nodeInfos[nodeName]?

def groupInfoList : List GroupInfo := [s.groupInfo]

/-- What a method sees of the local group manager. -/
def world (asyncGetPeers : RpcReply (Option GatewayInfo × Option (List (Option GatewayInfo)))) :
    World where
  chainID := s.chainID
  getNodeService := s.getNodeService
  groupList := s.groupList
  getGroupInfo := s.getGroupInfo
  groupInfoList := s.groupInfoList
  getNodeInfo := s.getNodeInfo
  asyncGetPeers := asyncGetPeers

/-- A group and a node that mean the same to a group manager that has only the group of the local
one: another group, unless no group is named, or the group itself with one of its nodes or none. -/
def Knows (groupID nodeName : String) : Prop :=
  (groupID = s.groupInfo.groupID → nodeName = "" ∨ nodeName ∈ s.groupInfo.nodeInfos)
    ∧ (groupID = "" → s.groupInfo.groupID = "")

end LocalGroupManager

/-! ### A manager with one group -/

namespace GroupManager

variable {Service : Type}

theorem recorded_updateNodeServiceWithoutLock_of_ne (build : ChainNodeInfo → Option Service)
    {groupID g : String} (h : groupID ≠ g) (s : GroupManager Service) (node : ChainNodeInfo) :
  (updateNodeServiceWithoutLock build groupID s node).recorded g = s.recorded g
  := by
  rw [updateNodeServiceWithoutLock]
  split
  · rfl
  · cases build node with
    | none => rfl
    | some service =>
        simp only [recorded, appendNodeInfo, addService, ExtTreeMap.getElem?_modify,
          LawfulEqCmp.compare_eq_iff_eq, if_neg h]

theorem recorded_foldl_update_of_ne (build : ChainNodeInfo → Option Service) {groupID g : String}
    (h : groupID ≠ g) (nodes : List ChainNodeInfo) (s : GroupManager Service) :
  (nodes.foldl (updateNodeServiceWithoutLock build groupID) s).recorded g = s.recorded g
  := by
  induction nodes generalizing s with
  | nil => rfl
  | cons node nodes ih =>
      rw [List.foldl_cons, ih, recorded_updateNodeServiceWithoutLock_of_ne build h]

/-- An update leaves the other groups. -/
theorem recorded_updateGroupInfo_of_ne (build : ChainNodeInfo → Option Service)
    {groupInfo : GroupInfo} {g : String} (h : groupInfo.groupID ≠ g) (s : GroupManager Service) :
  (s.updateGroupInfo build groupInfo).recorded g = s.recorded g
  := by
  rw [updateGroupInfo]
  split
  · simp only [recorded, ExtTreeMap.getElem?_insert, LawfulEqCmp.compare_eq_iff_eq, if_neg h]
  · apply recorded_foldl_update_of_ne build h

end GroupManager

namespace RpcServer

open GroupManager

variable {Service : Type} {o e : List (WsSession × ServerMessage)} {s t : RpcServer Service}
  {groupInfo : GroupInfo} {service : Service}

/-- The action tells of no group but one, and of no service and no block but those of its
nodes. -/
def TellsOf (groupInfo : GroupInfo) (service : Service) : ServerAction Service → Prop
  | .asyncNotifyGroupInfo buildNodeService info => info = groupInfo
      ∧ ∀ nodeInfo built, buildNodeService nodeInfo = some built → built = service
  | .asyncNotifyBlockNumber groupID nodeName _ => groupID = groupInfo.groupID →
      nodeName ∈ groupInfo.nodeInfos
  | _ => True

/-- The server has recorded no group but one, and no service and no block but those of its
nodes. -/
structure OnlyGroup (groupInfo : GroupInfo) (service : Service) (s : RpcServer Service) :
    Prop where
  groups : ∀ groupID, groupID ≠ groupInfo.groupID → s.groupManager.recorded groupID = none
  services : ∀ groupID nodeName found,
    s.groupManager.queryNodeService groupID nodeName = some found →
      groupID = groupInfo.groupID ∧ nodeName ∈ groupInfo.nodeInfos ∧ found = service
  latest : ∀ nodeName ∈ s.groupManager.latestNodes groupInfo.groupID,
    nodeName ∈ groupInfo.nodeInfos
  blocks : ∀ nodeName blockNumber, (groupInfo.groupID, nodeName, blockNumber) ∈ s.blocks →
    nodeName ∈ groupInfo.nodeInfos

theorem onlyGroup_start (groupInfo : GroupInfo) (service : Service) :
  OnlyGroup groupInfo service (start {})
  := by
  constructor
  · intro groupID _
    rfl
  · intro groupID nodeName found hfound
    cases hfound
  · intro nodeName hmem
    apply absurd hmem ExtTreeSet.not_mem_empty
  · intro nodeName blockNumber hmem
    cases hmem

/-- The nodes with the latest block are those there were, but for one whose block is recorded. -/
theorem latestNodes_step {action : ServerAction Service} {groupID nodeName : String}
    (hstep : (serverMachine Service).step s action = some (t, e))
    (hmem : nodeName ∈ t.groupManager.latestNodes groupID) :
  nodeName ∈ s.groupManager.latestNodes groupID
    ∨ ∃ blockNumber, (groupID, nodeName, blockNumber) ∈ s.blocks
  := by
  cases hmeets : Meets action with
  | true =>
      rw [(meets_step hmeets hstep).1] at hmem
      apply Or.inl hmem
  | false =>
      cases action with
      | asyncNotifyGroupInfo build info =>
          obtain ⟨rfl, _⟩ := Prod.mk.inj (Option.some.inj hstep)
          change nodeName ∈ (s.groupManager.updateGroupInfo build info).latestNodes groupID at hmem
          rw [latestNodes_updateGroupInfo] at hmem
          apply Or.inl hmem
      | checkNodeStatus unreachable =>
          obtain ⟨_, heq⟩ := Option.ite_none_right_eq_some.mp hstep
          obtain ⟨rfl, _⟩ := Prod.mk.inj (Option.some.inj heq)
          apply Or.inl hmem
      | removeUnreachableNodeService =>
          obtain ⟨⟨u, events⟩, hu, heq⟩ := Option.map_eq_some_iff.mp hstep
          obtain ⟨rfl, _⟩ := Prod.mk.inj heq
          obtain ⟨_, hu⟩ := Option.ite_none_right_eq_some.mp hu
          obtain ⟨rfl, _⟩ := Prod.mk.inj (Option.some.inj hu)
          left
          rw [← latestNodes_foldl_removeServices]
          apply hmem
      | removeGroupBlockInfo =>
          obtain ⟨⟨u, events⟩, hu, heq⟩ := Option.map_eq_some_iff.mp hstep
          obtain ⟨rfl, _⟩ := Prod.mk.inj heq
          obtain ⟨_, hu⟩ := Option.ite_none_right_eq_some.mp hu
          obtain ⟨rfl, _⟩ := Prod.mk.inj (Option.some.inj hu)
          apply Or.inl (mem_latestNodes_removeGroupBlockInfo hmem).1
      | disconnect session =>
          obtain ⟨rfl, _⟩ := Prod.mk.inj (Option.some.inj hstep)
          apply Or.inl hmem
      | asyncNotifyBlockNumber group node blockNumber =>
          obtain ⟨rfl, _⟩ := Prod.mk.inj (Option.some.inj hstep)
          apply Or.inl hmem
      | updateGroupBlockInfo index =>
          simp only [serverMachine] at hstep
          split at hstep
          · cases hstep
          · rename_i group node blockNumber hfound
            obtain ⟨rfl, _⟩ := Prod.mk.inj (Option.some.inj hstep)
            change nodeName ∈ (s.groupManager.updateGroupBlockInfo group node
              blockNumber).latestNodes groupID at hmem
            rw [mem_latestNodes_updateGroupBlockInfo] at hmem
            split at hmem
            · apply Or.inl hmem
            · rename_i hrecords
              rcases hmem with rfl | ⟨_, hmem⟩
              · right
                rw [not_or, not_not] at hrecords
                use blockNumber
                rw [← hrecords.2]
                apply List.mem_of_getElem? hfound
              · apply Or.inl hmem
      | _ => cases hmeets

theorem OnlyGroup.step (h : OnlyGroup groupInfo service s) {action : ServerAction Service}
    (htells : TellsOf groupInfo service action)
    (hstep : (serverMachine Service).step s action = some (t, e)) :
  OnlyGroup groupInfo service t
  := by
  have hlatest : ∀ nodeName ∈ t.groupManager.latestNodes groupInfo.groupID,
      nodeName ∈ groupInfo.nodeInfos := by
    intro nodeName hmem
    rcases latestNodes_step hstep hmem with hbefore | ⟨blockNumber, hblock⟩
    · apply h.latest nodeName hbefore
    · apply h.blocks nodeName blockNumber hblock
  have hblocks : ∀ nodeName blockNumber, (groupInfo.groupID, nodeName, blockNumber) ∈ t.blocks →
      nodeName ∈ groupInfo.nodeInfos := by
    intro nodeName blockNumber hmem
    cases recordsBlock_step hstep with
    | notify hafter _ =>
        rw [hafter, List.mem_append, List.mem_singleton] at hmem
        rcases hmem with hbefore | hnew
        · apply h.blocks nodeName blockNumber hbefore
        · obtain ⟨hgroup, hrest⟩ := Prod.mk.inj hnew
          rw [(Prod.mk.inj hrest).1]
          apply htells hgroup.symm
    | record _ hafter _ =>
        rw [hafter] at hmem
        apply h.blocks nodeName blockNumber (List.mem_of_mem_eraseIdx hmem)
    | remove hafter _ =>
        rw [hafter] at hmem
        apply h.blocks nodeName blockNumber hmem
    | leave _ hafter _ =>
        rw [hafter] at hmem
        apply h.blocks nodeName blockNumber hmem
  cases serviceStep hstep with
  | @update build info hmanager =>
      obtain ⟨rfl, hbuilds⟩ := htells
      refine ⟨?_, ?_, hlatest, hblocks⟩
      · intro groupID hne
        rw [hmanager]
        change (s.groupManager.updateGroupInfo build info).recorded groupID = none
        rw [recorded_updateGroupInfo_of_ne build (Ne.symm hne), h.groups groupID hne]
      · intro groupID nodeName found hquery
        rw [hmanager] at hquery
        change (s.groupManager.updateGroupInfo build info).queryNodeService _ _ = _ at hquery
        rw [queryNodeService_updateGroupInfo, Option.or_eq_some_iff] at hquery
        rcases hquery with hbefore | ⟨_, hnew⟩
        · apply h.services groupID nodeName found hbefore
        · obtain ⟨⟨hgroup, _⟩, hnew⟩ := Option.ite_none_right_eq_some.mp hnew
          obtain ⟨node, hnode, hbuild⟩ := Option.bind_eq_some_iff.mp hnew
          use hgroup.symm
          constructor
          · rw [ExtTreeMap.mem_iff_isSome_getElem?, hnode]
            rfl
          · apply hbuilds node found hbuild
  | @check unreachable _ hmanager =>
      refine ⟨?_, ?_, hlatest, hblocks⟩
      · intro groupID hne
        rw [hmanager, recorded, afterCheck, checkNodeStatus, ExtTreeMap.getElem?_map]
        rw [show s.groupManager.groupInfos[groupID]? = none from h.groups groupID hne]
        rfl
      · rw [hmanager]
        apply h.services
  | remove _ hmanager =>
      refine ⟨?_, ?_, hlatest, hblocks⟩
      · intro groupID hne
        rw [hmanager, recorded_removeUnreachableNodeService]
        apply h.groups groupID hne
      · intro groupID nodeName found hquery
        rw [hmanager] at hquery
        apply h.services groupID nodeName found
        apply ((queryNodeService_removeUnreachableNodeService _ _ _ _ _).mp hquery).1
  | leave _ hleft hrecorded _ _ =>
      refine ⟨?_, ?_, hlatest, hblocks⟩
      · intro groupID hne
        rw [hrecorded]
        apply h.groups groupID hne
      · intro groupID nodeName found hquery
        rw [hleft] at hquery
        apply h.services groupID nodeName found hquery

theorem onlyGroup_run {actions : List (ServerAction Service)}
    (htells : ∀ action ∈ actions, TellsOf groupInfo service action)
    (h : OnlyGroup groupInfo service s)
    (hrun : (serverMachine Service).run s actions = some (t, o)) :
  OnlyGroup groupInfo service t
  := by
  have halong := Machine.along_of_forall_mem (M := serverMachine Service)
    (C := fun _ _ action => TellsOf groupInfo service action)
    (fun action hmem _ _ => htells action hmem) [] s
  apply (halong.invariant (I := fun _ s => OnlyGroup groupInfo service s) _ h).run hrun
  intro _ _ _ _ _ h htells hstep
  apply h.step htells hstep

/-- A group is recorded with all its nodes, and every node has a service. -/
structure Up (groupInfo : GroupInfo) (s : RpcServer Service) : Prop where
  recorded : s.groupManager.recorded groupInfo.groupID = some groupInfo
  registered : ∀ nodeName ∈ groupInfo.nodeInfos,
    s.groupManager.Registered groupInfo.groupID nodeName

/-! ### Services -/

theorem OnlyGroup.consistent (h : OnlyGroup groupInfo service s) (hup : s.Up groupInfo) :
  s.groupManager.Consistent
  := by
  intro groupID nodeName hreg
  obtain ⟨found, hfound⟩ := registered_iff_exists.mp hreg
  obtain ⟨rfl, hmem, _⟩ := h.services groupID nodeName found hfound
  exact ⟨groupInfo, hup.recorded, hmem⟩

/-- Every service that is found is the one of the group. -/
theorem OnlyGroup.of_getNodeService (h : OnlyGroup groupInfo service s) {rand : Nat}
    {groupID nodeName : String} {found : Service}
    (hfound : s.groupManager.getNodeService rand groupID nodeName = some found) :
  groupID = groupInfo.groupID ∧ found = service
  := by
  obtain ⟨name, hquery⟩ := registered_of_getNodeService hfound
  obtain ⟨hgroup, _, hservice⟩ := h.services groupID name found hquery
  exact ⟨hgroup, hservice⟩

/-- A service is found for the group, with the name of one of its nodes or with none. -/
theorem OnlyGroup.getNodeService_eq (h : OnlyGroup groupInfo service s) (hup : s.Up groupInfo)
    (hnodes : ∃ nodeName, nodeName ∈ groupInfo.nodeInfos) (rand : Nat) {nodeName : String}
    (hnode : nodeName = "" ∨ nodeName ∈ groupInfo.nodeInfos) :
  s.groupManager.getNodeService rand groupInfo.groupID nodeName = some service
  := by
  have hsome : (s.groupManager.getNodeService rand groupInfo.groupID nodeName).isSome := by
    by_cases hempty : nodeName = ""
    · obtain ⟨name, hname⟩ := hnodes
      rw [hempty]
      apply (getNodeService_isSome_iff (h.consistent hup) ⟨name, hup.registered name hname⟩).mpr
      intro latest hlatest
      apply Or.inr (hup.registered latest (h.latest latest hlatest))
    · rw [getNodeService, if_neg hempty]
      apply hup.registered nodeName (hnode.resolve_left hempty)
  obtain ⟨found, hfound⟩ := Option.isSome_iff_exists.mp hsome
  rw [hfound, (h.of_getNodeService hfound).2]

/-- No other service is found. -/
theorem OnlyGroup.getNodeService_eq_none (h : OnlyGroup groupInfo service s) (rand : Nat)
    {groupID nodeName : String}
    (hnode : groupID = groupInfo.groupID → nodeName ≠ "" ∧ nodeName ∉ groupInfo.nodeInfos) :
  s.groupManager.getNodeService rand groupID nodeName = none
  := by
  cases hfound : s.groupManager.getNodeService rand groupID nodeName with
  | none => rfl
  | some found =>
      obtain ⟨hne, hnot⟩ := hnode (h.of_getNodeService hfound).1
      rw [getNodeService, if_neg hne] at hfound
      apply absurd (h.services groupID nodeName found hfound).2.1 hnot

/-- The server has recorded the group alone. -/
theorem OnlyGroup.groupInfos_iff (h : OnlyGroup groupInfo service s) (hup : s.Up groupInfo)
    (groupID : String) (info : GroupInfo) :
  s.groupManager.groupInfos[groupID]? = some info ↔ groupID = groupInfo.groupID ∧ info = groupInfo
  := by
  constructor
  · intro hinfo
    by_cases hgroup : groupID = groupInfo.groupID
    · subst hgroup
      exact ⟨rfl, Option.some.inj (hinfo.symm.trans hup.recorded)⟩
    · cases hinfo.symm.trans (h.groups groupID hgroup)
  · rintro ⟨rfl, rfl⟩
    apply hup.recorded

/-- The groups that have nodes are the group alone. -/
theorem OnlyGroup.keys_filter (h : OnlyGroup groupInfo service s) (hup : s.Up groupInfo)
    (hnodes : ∃ nodeName, nodeName ∈ groupInfo.nodeInfos) :
  (s.groupManager.groupInfos.filter fun _ info => info.nodeInfos.size != 0).keys
    = [groupInfo.groupID]
  := by
  have hsize : (groupInfo.nodeInfos.size != 0) = true :=
    bne_iff_ne.mpr ((Table.size_ne_zero_iff _).mpr hnodes)
  have hsingle := Table.toList_eq_singleton (a := groupInfo.groupID) (x := groupInfo)
    (t := s.groupManager.groupInfos.filter fun _ info => info.nodeInfos.size != 0) (by
      intro groupID info
      rw [ExtTreeMap.getElem?_filter', Option.filter_eq_some_iff, h.groupInfos_iff hup]
      constructor
      · rintro ⟨hgroup, _⟩
        apply hgroup
      · rintro ⟨rfl, rfl⟩
        exact ⟨⟨rfl, rfl⟩, hsize⟩)
  rw [← ExtTreeMap.map_fst_toList_eq_keys, hsingle]
  rfl

section

variable {l : LocalGroupManager} {s t : RpcServer NodeService}

/-- The local group manager finds the same services for the nodes that it knows. -/
theorem OnlyGroup.getNodeService_of_knows (h : OnlyGroup l.groupInfo l.nodeService s)
    (hup : s.Up l.groupInfo) (hnodes : ∃ nodeName, nodeName ∈ l.groupInfo.nodeInfos) (rand : Nat)
    {groupID nodeName : String} (hknows : l.Knows groupID nodeName) :
  s.groupManager.getNodeService rand groupID nodeName = l.getNodeService groupID nodeName
  := by
  obtain ⟨hnode, hempty⟩ := hknows
  by_cases hgroup : groupID = l.groupInfo.groupID
  · rw [LocalGroupManager.getNodeService, if_neg (fun hother => hother.2 hgroup), hgroup]
    apply h.getNodeService_eq hup hnodes rand (hnode hgroup)
  · have hlength : 0 < groupID.length := by
      apply Nat.pos_of_ne_zero
      intro hzero
      obtain rfl := String.length_eq_zero_iff.mp hzero
      apply hgroup (hempty rfl).symm
    rw [LocalGroupManager.getNodeService, if_pos ⟨hlength, hgroup⟩]
    apply h.getNodeService_eq_none
    intro heq
    apply absurd heq hgroup

/-- For any other node it finds a service where there is none. -/
theorem OnlyGroup.getNodeService_of_not_knows (h : OnlyGroup l.groupInfo l.nodeService s)
    (rand : Nat) {groupID nodeName : String} (hknows : ¬ l.Knows groupID nodeName) :
  s.groupManager.getNodeService rand groupID nodeName = none
    ∧ l.getNodeService groupID nodeName = some l.nodeService
  := by
  rw [LocalGroupManager.Knows, Classical.not_and_iff_not_or_not, Classical.not_imp,
    Classical.not_imp, not_or] at hknows
  constructor
  · apply h.getNodeService_eq_none
    intro hgroup
    rcases hknows with ⟨_, hnode⟩ | ⟨hempty, hne⟩
    · apply hnode
    · apply absurd (hgroup.symm.trans hempty) hne
  · rw [LocalGroupManager.getNodeService, if_neg]
    rintro ⟨hlength, hother⟩
    rcases hknows with ⟨hgroup, _⟩ | ⟨rfl, _⟩
    · apply hother hgroup
    · apply Nat.lt_irrefl 0 hlength

/-- What the methods see of the server and of the local group manager. -/
theorem OnlyGroup.agrees (h : OnlyGroup l.groupInfo l.nodeService s) (hup : s.Up l.groupInfo)
    (hnodes : ∃ nodeName, nodeName ∈ l.groupInfo.nodeInfos) (rand : Nat)
    (asyncGetPeers : RpcReply (Option GatewayInfo × Option (List (Option GatewayInfo)))) :
  (s.world rand l.chainID asyncGetPeers).Agrees l.Knows (l.world asyncGetPeers)
  := by
  have hrecorded : ∀ groupID, s.groupManager.groupInfos[groupID]? = l.getGroupInfo groupID := by
    intro groupID
    rw [LocalGroupManager.getGroupInfo]
    split
    · rename_i hgroup
      rw [← hgroup]
      apply hup.recorded
    · rename_i hgroup
      apply h.groups groupID (Ne.symm hgroup)
  constructor
  · rfl
  · intro groupID nodeName hknows
    apply h.getNodeService_of_knows hup hnodes rand hknows
  · apply h.keys_filter hup hnodes
  · funext groupID
    apply hrecorded
  · show s.groupManager.groupInfos.toList.map Prod.snd = _
    rw [Table.toList_eq_singleton (h.groupInfos_iff hup)]
    rfl
  · funext groupID nodeName
    show (s.groupManager.groupInfos[groupID]?.bind fun info => info.nodeInfos[nodeName]?) = _
    rw [hrecorded, LocalGroupManager.getGroupInfo]
    show _ = l.getNodeInfo groupID nodeName
    rw [LocalGroupManager.getNodeInfo]
    by_cases hgroup : l.groupInfo.groupID = groupID
    · rw [if_pos hgroup, if_neg (not_not.mpr hgroup)]
      rfl
    · rw [if_neg hgroup, if_pos hgroup]
      rfl
  · rfl

/-- In every run of the server that tells it of one group only, with one service for its nodes,
whenever the group and its nodes are all registered, requests are answered as by the local group
manager of this group and service, whatever happens between the two queries of a method, unless
they name no group or an unknown node of the group; for these a service is found here only. -/
theorem local_answers (hnodes : ∃ nodeName, nodeName ∈ l.groupInfo.nodeInfos)
    {before between : List (ServerAction NodeService)} {o' : List (WsSession × ServerMessage)}
    (htells : ∀ action ∈ before ++ between, TellsOf l.groupInfo l.nodeService action)
    (hbefore : (serverMachine NodeService).run (start {}) before = some (s, o))
    (hbetween : (serverMachine NodeService).run s between = some (t, o'))
    (hs : s.Up l.groupInfo) (ht : t.Up l.groupInfo) :
  (∀ (framework : Framework) (rand₁ rand₂ : Nat)
      (asyncGetPeers : RpcReply (Option GatewayInfo × Option (List (Option GatewayInfo))))
      (uninitialized : Int) (requestBody : String),
      (∀ request, parseRpcRequestJson framework requestBody = .ok request →
        request.Names l.Knows) →
      JsonRpcImpl_2_0.onRPCRequest framework (s.world rand₁ l.chainID asyncGetPeers)
          (t.world rand₂ l.chainID asyncGetPeers) uninitialized requestBody
        = JsonRpcImpl_2_0.onRPCRequest framework (l.world asyncGetPeers) (l.world asyncGetPeers)
          uninitialized requestBody)
    ∧ ∀ rand groupID nodeName, ¬ l.Knows groupID nodeName →
      s.groupManager.getNodeService rand groupID nodeName = none
        ∧ l.getNodeService groupID nodeName = some l.nodeService
  := by
  have honly : OnlyGroup l.groupInfo l.nodeService s :=
    onlyGroup_run (fun action hmem => htells action (List.mem_append_left _ hmem))
      (onlyGroup_start _ _) hbefore
  have hlater : OnlyGroup l.groupInfo l.nodeService t :=
    onlyGroup_run (fun action hmem => htells action (List.mem_append_right _ hmem)) honly hbetween
  constructor
  · intro framework rand₁ rand₂ asyncGetPeers uninitialized requestBody hnames
    apply JsonRpcImpl_2_0.onRPCRequest_congr (honly.agrees hs hnodes rand₁ asyncGetPeers)
      (hlater.agrees ht hnodes rand₂ asyncGetPeers) hnames
  · intro rand groupID nodeName hknows
    apply honly.getNodeService_of_not_knows rand hknows

end

/-- A node with a ledger only. -/
def ledgerOnly : NodeService where
  ledger := some JsonRpcImpl_2_0.failingLedger

/-- A group with two nodes. -/
def twoNodes : GroupInfo :=
  (oneNodeGroup "g" "n").appendNodeInfo { nodeName := "m" }

/-- A group with two nodes is announced twice and a block of the second is notified, which is
recorded while the request for the number of the blocks of the first is served. -/
theorem local_answers_numberBody :
  ∃ s o t o', (serverMachine NodeService).run (start {}) [
      .asyncNotifyGroupInfo (fun _ => some ledgerOnly) twoNodes,
      .asyncNotifyGroupInfo (fun _ => some ledgerOnly) twoNodes,
      .asyncNotifyBlockNumber "g" "m" 5] = some (s, o)
    ∧ (serverMachine NodeService).run s [.updateGroupBlockInfo 0] = some (t, o')
    ∧ JsonRpcImpl_2_0.onRPCRequest JsonRpcImpl_2_0.queryFramework
        (s.world 0 "" (.later (none, none, none))) (t.world 0 "" (.later (none, none, none))) 0
        JsonRpcImpl_2_0.numberBody
      = JsonRpcImpl_2_0.onRPCRequest JsonRpcImpl_2_0.queryFramework
        (LocalGroupManager.world ⟨"", ledgerOnly, twoNodes⟩ (.later (none, none, none)))
        (LocalGroupManager.world ⟨"", ledgerOnly, twoNodes⟩ (.later (none, none, none)))
        0 JsonRpcImpl_2_0.numberBody
  := by
  have hkeys : twoNodes.nodeInfos.keys = ["m", "n"] := rfl
  have hmem : ∀ nodeName, nodeName ∈ twoNodes.nodeInfos ↔ nodeName = "m" ∨ nodeName = "n" := by
    intro nodeName
    rw [← ExtTreeMap.mem_keys, hkeys, List.mem_pair]
  have hrun : (serverMachine NodeService).run (start {}) [
      .asyncNotifyGroupInfo (fun _ => some ledgerOnly) twoNodes,
      .asyncNotifyGroupInfo (fun _ => some ledgerOnly) twoNodes,
      .asyncNotifyBlockNumber "g" "m" 5] = some (_, _) := rfl
  have hup : ∀ s : RpcServer NodeService,
      s.groupManager.recorded "g" = some twoNodes →
      s.groupManager.Registered "g" "m" → s.groupManager.Registered "g" "n" →
      Up twoNodes s := by
    intro s hrecorded hm hn
    use hrecorded
    intro nodeName hnode
    rcases (hmem nodeName).mp hnode with rfl | rfl
    · apply hm
    · apply hn
  have htells : ∀ action ∈ [
      .asyncNotifyGroupInfo (fun _ => some ledgerOnly) twoNodes,
      .asyncNotifyGroupInfo (fun _ => some ledgerOnly) twoNodes,
      .asyncNotifyBlockNumber "g" "m" 5] ++ [.updateGroupBlockInfo 0],
      TellsOf twoNodes ledgerOnly action := by
    simp [TellsOf, hmem]
  have hnames : ∀ request, parseRpcRequestJson JsonRpcImpl_2_0.queryFramework
      JsonRpcImpl_2_0.numberBody = .ok request →
      request.Names (LocalGroupManager.Knows ⟨"", ledgerOnly, twoNodes⟩) := by
    intro request hparse groupID nodeName hgroup hnode
    obtain rfl := Except.ok.inj hparse
    obtain rfl := Except.ok.inj hgroup
    obtain rfl := Except.ok.inj hnode
    constructor
    · intro _
      apply Or.inr ((hmem "n").mpr (Or.inr rfl))
    · intro hempty
      apply absurd hempty (by decide)
  have hanswers := local_answers (l := ⟨"", ledgerOnly, twoNodes⟩)
    ⟨"n", (hmem "n").mpr (Or.inr rfl)⟩ htells hrun rfl (hup _ rfl rfl rfl) (hup _ rfl rfl rfl)
  exact ⟨_, _, _, _, hrun, rfl, hanswers.1 _ 0 0 _ 0 _ hnames⟩

end RpcServer
