import BcosRpc.Group.Heights
import BcosRpc.Group.Latest
import BcosRpc.Rpc.Mirror

/-!
# The blocks a client is told of

`asyncNotifyBlockNumber` tells the sessions of a block before the manager records it, and the
notifications of several nodes overtake each other in between. `blocks_told` says what a client
that stays connected knows of the heights of the groups.
-/

open Std

/-! ### Notifications of blocks -/

/-- The responses of the notifications of blocks. -/
def blockResponses (messages : List ServerMessage) : List Json :=
  messages.filterMap fun message =>
    match message with
    | .BLOCK_NOTIFY response => some response
    | _ => none

theorem blockNotifyToJson_injective {groupID nodeName groupID' nodeName' : String}
    {blockNumber blockNumber' : Int}
    (h : blockNotifyToJson groupID nodeName blockNumber
      = blockNotifyToJson groupID' nodeName' blockNumber') :
  groupID = groupID' ∧ nodeName = nodeName' ∧ blockNumber = blockNumber'
  := by
  have hgroup := congrArg (Json.find "group") h
  have hnode := congrArg (Json.find "nodeName") h
  have hblock := congrArg (Json.find "blockNumber") h
  simp only [blockNotifyToJson, Json.find_set, String.reduceEq, if_true, if_false,
    Option.some.injEq, Json.string.injEq, Json.integer.injEq] at hgroup hnode hblock
  exact ⟨hgroup, hnode, hblock⟩

namespace RpcServer

variable {Service : Type} {o e : List (WsSession × ServerMessage)} {s t : RpcServer Service}

/-- The response of the notification that an action is. -/
def blockNotification : ServerAction Service → Option Json
  | .asyncNotifyBlockNumber groupID nodeName blockNumber =>
      some (blockNotifyToJson groupID nodeName blockNumber)
  | _ => none

/-- A session has been told of a block. -/
def Told (session : WsSession) (o : List (WsSession × ServerMessage)) (groupID nodeName : String)
    (blockNumber : Int) : Prop :=
  blockNotifyToJson groupID nodeName blockNumber ∈ blockResponses (received session o)

/-- The height that the manager has of a group, `-1` when it has none. -/
def height (s : RpcServer Service) (groupID : String) : Int :=
  s.groupManager.getBlockNumberByGroup groupID

theorem blockResponses_received_append (session : WsSession)
    (o o' : List (WsSession × ServerMessage)) :
  blockResponses (received session (o ++ o'))
    = blockResponses (received session o) ++ blockResponses (received session o')
  := by
  rw [received_append, blockResponses, List.filterMap_append]
  rfl

theorem Told.append {session : WsSession} {groupID nodeName : String} {blockNumber : Int}
    (h : Told session o groupID nodeName blockNumber) (o' : List (WsSession × ServerMessage)) :
  Told session (o ++ o') groupID nodeName blockNumber
  := by
  rw [Told, blockResponses_received_append]
  apply List.mem_append_left _ h

theorem blockResponses_notifyGroupInfo (session : WsSession) (groupInfos : List GroupInfo) :
  blockResponses (received session (s.notifyGroupInfo groupInfos)) = []
  := by
  rw [blockResponses, List.filterMap_eq_nil_iff]
  intro message hmessage
  obtain ⟨groupInfo, _, hmem⟩ := List.mem_flatMap.mp ((mem_received_iff _ _ _).mp hmessage)
  obtain ⟨_, rfl⟩ := (mem_toSessions_iff s _ _).mp hmem
  rfl

/-- A connected session is told of a block by the notifications of blocks, once by each. -/
theorem blockResponses_step (hnodup : (s.sessions.map Prod.fst).Nodup) {session : WsSession}
    (hsession : s.IsConnected session) {action : ServerAction Service}
    (hstep : (serverMachine Service).step s action = some (t, e)) :
  blockResponses (received session e) = (blockNotification action).toList
  := by
  cases hmeets : Meets action with
  | true =>
      have hnone : blockNotification action = none := by
        cases action with
        | asyncNotifyBlockNumber => cases hmeets
        | _ => rfl
      rw [hnone]
      obtain ⟨_, _, rfl | ⟨index, session', groupInfoList, _, _, rfl⟩⟩ := meets_step hmeets hstep
      · rfl
      · by_cases hsame : session' = session <;> simp [received, blockResponses, hsame]
  | false =>
      cases action with
      | asyncNotifyBlockNumber groupID nodeName blockNumber =>
          obtain ⟨rfl, rfl⟩ := Prod.mk.inj (Option.some.inj hstep)
          rw [received_toSessions hnodup hsession]
          rfl
      | asyncNotifyGroupInfo build groupInfo =>
          obtain ⟨rfl, rfl⟩ := Prod.mk.inj (Option.some.inj hstep)
          apply blockResponses_notifyGroupInfo
      | checkNodeStatus unreachable =>
          obtain ⟨_, heq⟩ := Option.ite_none_right_eq_some.mp hstep
          obtain ⟨rfl, rfl⟩ := Prod.mk.inj (Option.some.inj heq)
          apply blockResponses_notifyGroupInfo
      | disconnect session' =>
          obtain ⟨rfl, rfl⟩ := Prod.mk.inj (Option.some.inj hstep)
          rfl
      | removeUnreachableNodeService =>
          obtain ⟨_, _, heq⟩ := Option.map_eq_some_iff.mp hstep
          obtain ⟨rfl, rfl⟩ := Prod.mk.inj heq
          rfl
      | removeGroupBlockInfo =>
          obtain ⟨_, _, heq⟩ := Option.map_eq_some_iff.mp hstep
          obtain ⟨rfl, rfl⟩ := Prod.mk.inj heq
          rfl
      | updateGroupBlockInfo index =>
          simp only [serverMachine] at hstep
          split at hstep
          · cases hstep
          · obtain ⟨rfl, rfl⟩ := Prod.mk.inj (Option.some.inj hstep)
            rfl
      | _ => cases hmeets

/-! ### The heights -/

/-- What a step does to the recorded heights and to the blocks that are not recorded yet. -/
inductive RecordsBlock (s t : RpcServer Service) : ServerAction Service → Prop where
  | notify {groupID nodeName : String} {blockNumber : Int} :
      t.blocks = s.blocks ++ [(groupID, nodeName, blockNumber)] →
      t.groupManager.groupBlockInfos = s.groupManager.groupBlockInfos →
      RecordsBlock s t (.asyncNotifyBlockNumber groupID nodeName blockNumber)
  | record {index : Nat} {groupID nodeName : String} {blockNumber : Int} :
      s.blocks[index]? = some (groupID, nodeName, blockNumber) →
      t.blocks = s.blocks.eraseIdx index →
      t.groupManager.toGroupManager
        = s.groupManager.updateGroupBlockInfo groupID nodeName blockNumber →
      RecordsBlock s t (.updateGroupBlockInfo index)
  | remove : t.blocks = s.blocks →
      (∀ (groupID : String) (height : Int), t.groupManager.groupBlockInfos[groupID]? = some height →
        s.groupManager.groupBlockInfos[groupID]? = some height) →
      RecordsBlock s t .removeGroupBlockInfo
  | leave {action : ServerAction Service} : blockNotification action = none → t.blocks = s.blocks →
      t.groupManager.groupBlockInfos = s.groupManager.groupBlockInfos →
      RecordsBlock s t action

theorem groupBlockInfos_foldl_removeServices (lost : List (String × ExtTreeSet String))
    (manager : GroupManager Service) :
  (lost.foldl GroupManager.removeServices manager).groupBlockInfos = manager.groupBlockInfos
  := by
  induction lost generalizing manager with
  | nil => rfl
  | cons p rest ih =>
      rw [List.foldl_cons, ih, GroupManager.removeServices]
      split
      · rfl
      · dsimp only
        split <;> rfl

/-- A removal leaves a height as it is, or forgets it. -/
theorem height_of_removeGroupBlockInfo {manager : GroupManager Service}
    {unreachableNodes : ExtTreeMap String (ExtTreeSet String)} {groupID : String} {height : Int}
    (h : (GroupManager.removeGroupBlockInfo unreachableNodes manager).groupBlockInfos[groupID]?
      = some height) :
  manager.groupBlockInfos[groupID]? = some height
  := by
  have hheight := congrArg LatestEntry.height
    (GroupManager.latestEntry_removeGroupBlockInfo unreachableNodes manager groupID)
  change (GroupManager.removeGroupBlockInfo unreachableNodes manager).groupBlockInfos[groupID]? = _
    at hheight
  rw [h] at hheight
  cases hlost : unreachableNodes[groupID]? with
  | none =>
      rw [hlost] at hheight
      apply hheight.symm
  | some lost =>
      rw [hlost] at hheight
      dsimp only at hheight
      rw [LatestEntry.remove] at hheight
      split at hheight
      · rename_i current nodes hcurrent _
        dsimp only at hheight
        split at hheight
        · cases hheight
        · rw [hheight]
          apply hcurrent
      · cases hheight

theorem recordsBlock_step {action : ServerAction Service}
    (hstep : (serverMachine Service).step s action = some (t, e)) :
  RecordsBlock s t action
  := by
  cases hmeets : Meets action with
  | true =>
      obtain ⟨hmanager, hblocks, _⟩ := meets_step hmeets hstep
      apply RecordsBlock.leave
      · cases action with
        | asyncNotifyBlockNumber => cases hmeets
        | _ => rfl
      · apply hblocks
      · rw [hmanager]
  | false =>
      cases action with
      | asyncNotifyBlockNumber groupID nodeName blockNumber =>
          obtain ⟨rfl, _⟩ := Prod.mk.inj (Option.some.inj hstep)
          exact .notify rfl rfl
      | asyncNotifyGroupInfo build groupInfo =>
          obtain ⟨rfl, _⟩ := Prod.mk.inj (Option.some.inj hstep)
          exact .leave rfl rfl (GroupManager.groupBlockInfos_updateGroupInfo build groupInfo _)
      | checkNodeStatus unreachable =>
          obtain ⟨_, heq⟩ := Option.ite_none_right_eq_some.mp hstep
          obtain ⟨rfl, _⟩ := Prod.mk.inj (Option.some.inj heq)
          exact .leave rfl rfl rfl
      | disconnect session' =>
          obtain ⟨rfl, _⟩ := Prod.mk.inj (Option.some.inj hstep)
          exact .leave rfl rfl rfl
      | removeUnreachableNodeService =>
          obtain ⟨⟨u, events⟩, hu, heq⟩ := Option.map_eq_some_iff.mp hstep
          obtain ⟨rfl, _⟩ := Prod.mk.inj heq
          obtain ⟨_, hu⟩ := Option.ite_none_right_eq_some.mp hu
          obtain ⟨rfl, _⟩ := Prod.mk.inj (Option.some.inj hu)
          exact .leave rfl rfl (groupBlockInfos_foldl_removeServices _ _)
      | removeGroupBlockInfo =>
          obtain ⟨⟨u, events⟩, hu, heq⟩ := Option.map_eq_some_iff.mp hstep
          obtain ⟨rfl, _⟩ := Prod.mk.inj heq
          obtain ⟨_, hu⟩ := Option.ite_none_right_eq_some.mp hu
          obtain ⟨rfl, _⟩ := Prod.mk.inj (Option.some.inj hu)
          exact .remove rfl fun _ _ => height_of_removeGroupBlockInfo
      | updateGroupBlockInfo index =>
          simp only [serverMachine] at hstep
          split at hstep
          · cases hstep
          · rename_i hfound
            obtain ⟨rfl, _⟩ := Prod.mk.inj (Option.some.inj hstep)
            exact .record hfound rfl rfl
      | _ => cases hmeets

/-! ### What a client knows -/

/-- A session that stays connected has been told of every height that is recorded, and of every
block that is to be recorded. -/
structure ToldHeights (session : WsSession) (o : List (WsSession × ServerMessage))
    (s : RpcServer Service) : Prop where
  nodup : (s.sessions.map Prod.fst).Nodup
  connected : s.IsConnected session
  pending : ∀ groupID nodeName blockNumber, (groupID, nodeName, blockNumber) ∈ s.blocks →
    Told session o groupID nodeName blockNumber
  recorded : ∀ (groupID : String) (height : Int),
    s.groupManager.groupBlockInfos[groupID]? = some height →
    0 < height ∧ ∃ nodeName, Told session o groupID nodeName height

/-- Every block that a session has been told of is to be recorded, or not above the height. -/
def HeightsTold (session : WsSession) (o : List (WsSession × ServerMessage))
    (s : RpcServer Service) : Prop :=
  ∀ groupID nodeName blockNumber, Told session o groupID nodeName blockNumber →
    (groupID, nodeName, blockNumber) ∈ s.blocks
      ∨ blockNumber ≤ s.groupManager.latestBlock groupID

theorem ToldHeights.latestBlock_nonneg {session : WsSession} (h : ToldHeights session o s)
    (groupID : String) :
  0 ≤ s.groupManager.latestBlock groupID
  := by
  rw [GroupManager.latestBlock, ExtTreeMap.getD_eq_getD_getElem?]
  cases hheight : s.groupManager.groupBlockInfos[groupID]? with
  | none => rfl
  | some height => apply (h.recorded groupID height hheight).1.le

/-- A height that a notification leaves was there before, or is its block. -/
theorem height_of_updateGroupBlockInfo {manager : GroupManager Service}
    {groupID nodeName g : String} {blockNumber height : Int}
    (h : (manager.updateGroupBlockInfo groupID nodeName blockNumber).groupBlockInfos[g]?
      = some height) :
  manager.groupBlockInfos[g]? = some height
    ∨ g = groupID ∧ height = blockNumber ∧ manager.latestBlock groupID < blockNumber
  := by
  rw [GroupManager.updateGroupBlockInfo] at h
  split at h
  · left
    apply h
  · split at h
    · rename_i hlt
      dsimp only at h
      rw [ExtTreeMap.getElem?_insert] at h
      split at h
      · rename_i heq
        right
        exact ⟨(LawfulEqCmp.compare_eq_iff_eq.mp heq).symm, (Option.some.inj h).symm, hlt⟩
      · left
        apply h
    · left
      apply h

theorem ToldHeights.step {session : WsSession} (h : ToldHeights session o s)
    {action : ServerAction Service} (hstays : action ≠ .disconnect session)
    (hstep : (serverMachine Service).step s action = some (t, e)) :
  ToldHeights session (o ++ e) t
  := by
  have htold := blockResponses_step h.nodup h.connected hstep
  constructor
  · apply nodup_step h.nodup hstep
  · apply isConnected_step h.connected hstays hstep
  · intro groupID nodeName blockNumber hmem
    have hrecords := recordsBlock_step hstep
    cases hrecords with
    | notify hblocks _ =>
        rw [hblocks] at hmem
        rcases List.mem_append.mp hmem with hold | hnew
        · apply (h.pending _ _ _ hold).append
        · obtain ⟨rfl, rfl, rfl⟩ := List.mem_singleton.mp hnew
          rw [Told, blockResponses_received_append, htold]
          apply List.mem_append_right
          apply List.mem_singleton_self
    | record _ hblocks _ =>
        rw [hblocks] at hmem
        apply (h.pending _ _ _ (List.mem_of_mem_eraseIdx hmem)).append
    | remove hblocks _ =>
        rw [hblocks] at hmem
        apply (h.pending _ _ _ hmem).append
    | leave _ hblocks _ =>
        rw [hblocks] at hmem
        apply (h.pending _ _ _ hmem).append
  · intro groupID height hheight
    have hold : s.groupManager.groupBlockInfos[groupID]? = some height →
        0 < height ∧ ∃ nodeName, Told session (o ++ e) groupID nodeName height := by
      intro hsome
      obtain ⟨hpos, nodeName, hnode⟩ := h.recorded groupID height hsome
      exact ⟨hpos, nodeName, hnode.append e⟩
    have hrecords := recordsBlock_step hstep
    cases hrecords with
    | notify _ hinfos =>
        rw [hinfos] at hheight
        apply hold hheight
    | @record _ group nodeName blockNumber hfound _ hmanager =>
        rw [hmanager] at hheight
        rcases height_of_updateGroupBlockInfo hheight with hsome | ⟨rfl, rfl, hlt⟩
        · apply hold hsome
        · have hpending := h.pending _ _ _ (List.mem_of_getElem? hfound)
          exact ⟨(h.latestBlock_nonneg _).trans_lt hlt, nodeName, hpending.append e⟩
    | remove _ hinfos => apply hold (hinfos groupID height hheight)
    | leave _ _ hinfos =>
        rw [hinfos] at hheight
        apply hold hheight

theorem HeightsTold.step {session : WsSession} (h : HeightsTold session o s)
    (htold : ToldHeights session o s) {action : ServerAction Service}
    (hkeeps : action ≠ .removeGroupBlockInfo)
    (hstep : (serverMachine Service).step s action = some (t, e)) :
  HeightsTold session (o ++ e) t
  := by
  intro groupID nodeName blockNumber hmem
  rw [Told, blockResponses_received_append, List.mem_append,
    blockResponses_step htold.nodup htold.connected hstep] at hmem
  have hrecords := recordsBlock_step hstep
  cases hrecords with
  | @notify group node number hblocks hinfos =>
      rw [hblocks, List.mem_append, GroupManager.latestBlock, hinfos, ← GroupManager.latestBlock]
      rcases hmem with hold | hnew
      · rcases h groupID nodeName blockNumber hold with hin | hle
        · exact Or.inl (Or.inl hin)
        · right
          apply hle
      · left
        right
        obtain ⟨rfl, rfl, rfl⟩ := blockNotifyToJson_injective (List.mem_singleton.mp hnew)
        apply List.mem_singleton_self
  | @record index group node number hfound hblocks hmanager =>
      have hold := h groupID nodeName blockNumber (hmem.resolve_right List.not_mem_nil)
      rw [hmanager, GroupManager.latestBlock_updateGroupBlockInfo, hblocks]
      rcases hold with hin | hle
      · obtain ⟨i, hi⟩ := List.mem_iff_getElem?.mp hin
        by_cases hindex : i = index
        · subst hindex
          rw [hfound] at hi
          obtain ⟨rfl, rfl, rfl⟩ := Prod.mk.inj (Option.some.inj hi)
          right
          rw [if_pos rfl]
          apply le_max_right
        · left
          apply List.mem_eraseIdx_iff_getElem?.mpr ⟨i, hindex, hi⟩
      · right
        split
        · rename_i heq
          subst heq
          omega
        · apply hle
  | remove => exact absurd rfl hkeeps
  | leave hnone hblocks hinfos =>
      rw [hnone] at hmem
      rw [hblocks, GroupManager.latestBlock, hinfos, ← GroupManager.latestBlock]
      apply h groupID nodeName blockNumber (hmem.resolve_right List.not_mem_nil)

/-! ### Runs -/

/-- A session that stays connected is told of the blocks in the order of the notifications. -/
theorem blockResponses_run {session : WsSession} (hnodup : (s.sessions.map Prod.fst).Nodup)
    (hsession : s.IsConnected session) {actions : List (ServerAction Service)}
    (hstays : .disconnect session ∉ actions)
    (hrun : (serverMachine Service).run s actions = some (t, o)) :
  blockResponses (received session o) = actions.filterMap blockNotification
  := by
  induction actions generalizing s o with
  | nil =>
      obtain ⟨rfl, rfl⟩ := Prod.mk.inj (Option.some.inj hrun)
      rfl
  | cons action actions ih =>
      obtain ⟨u, e, o', hstep, hrest, rfl⟩ := (Machine.run_cons _).mp hrun
      have hne : action ≠ .disconnect session := by
        rintro rfl
        apply hstays List.mem_cons_self
      rw [blockResponses_received_append, blockResponses_step hnodup hsession hstep,
        ih (nodup_step hnodup hstep) (isConnected_step hsession hne hstep)
          (mt (List.mem_cons_of_mem _) hstays) hrest]
      cases hblock : blockNotification action with
      | none => rw [List.filterMap_cons_none hblock, Option.toList_none, List.nil_append]
      | some response => rw [List.filterMap_cons_some hblock]; rfl

theorem height_eq (s : RpcServer Service) (groupID : String) :
  s.height groupID = (s.groupManager.groupBlockInfos[groupID]?).getD (-1)
  := ExtTreeMap.getD_eq_getD_getElem?

theorem latestBlock_eq (s : RpcServer Service) (groupID : String) :
  s.groupManager.latestBlock groupID = (s.groupManager.groupBlockInfos[groupID]?).getD 0
  := ExtTreeMap.getD_eq_getD_getElem?

/-- When every block is recorded, a height is the greatest block told. -/
theorem ToldHeights.height_iff {session : WsSession} (htold : ToldHeights session o s)
    (hheights : HeightsTold session o s) (hblocks : s.blocks = []) {groupID : String}
    {blockNumber : Int} (hpos : 0 < blockNumber) :
  s.height groupID = blockNumber
    ↔ (∃ nodeName, Told session o groupID nodeName blockNumber)
      ∧ ∀ nodeName number, Told session o groupID nodeName number → number ≤ blockNumber
  := by
  have hbound : ∀ nodeName number, Told session o groupID nodeName number →
      number ≤ s.groupManager.latestBlock groupID := by
    intro nodeName number htold
    rcases hheights groupID nodeName number htold with hin | hle
    · rw [hblocks] at hin
      cases hin
    · apply hle
  rw [latestBlock_eq] at hbound
  rw [height_eq]
  cases hheight : s.groupManager.groupBlockInfos[groupID]? with
  | none =>
      rw [hheight] at hbound
      constructor
      · intro heq
        simp only [Option.getD_none] at heq
        omega
      · rintro ⟨⟨nodeName, hnode⟩, _⟩
        have hle := hbound nodeName blockNumber hnode
        simp only [Option.getD_none] at hle
        omega
  | some height =>
      rw [hheight] at hbound
      obtain ⟨_, nodeName, hnode⟩ := htold.recorded groupID height hheight
      constructor
      · rintro rfl
        exact ⟨⟨nodeName, hnode⟩, hbound⟩
      · rintro ⟨⟨nodeName', hnode'⟩, hgreatest⟩
        apply Int.le_antisymm
        · apply hgreatest nodeName height hnode
        · apply hbound nodeName' blockNumber hnode'

/-- The server after its first session has been accepted. -/
def connected (groupManager : GroupManager Service) (session : WsSession) : RpcServer Service :=
  { start groupManager with sessions := [(session, true)] }

theorem toldHeights_connected (session : WsSession) :
  ToldHeights session [] (connected {} session : RpcServer Service)
  := by
  constructor
  · exact List.pairwise_singleton _ _
  · apply List.mem_singleton_self
  · intro _ _ _ hmem
    cases hmem
  · intro groupID height hheight
    change (∅ : ExtTreeMap String Int)[groupID]? = some height at hheight
    rw [ExtTreeMap.getElem?_empty] at hheight
    cases hheight

/-- A client that stays connected from the start is told of every notified block once, in order;
it has been told of the height of every group that has one; and while no node is removed, the
height of a group is the greatest block that it was told of, once all blocks are recorded. -/
theorem blocks_told {session : WsSession} {actions : List (ServerAction Service)}
    (hstays : .disconnect session ∉ actions)
    (hrun : (serverMachine Service).run (start {}) (.connect session :: actions) = some (t, o)) :
  blockResponses (received session o) = actions.filterMap blockNotification
    ∧ (∀ groupID, 0 ≤ t.height groupID →
      ∃ nodeName, Told session o groupID nodeName (t.height groupID))
    ∧ (.removeGroupBlockInfo ∉ actions → t.blocks = [] →
      ∀ groupID blockNumber, 0 < blockNumber → (t.height groupID = blockNumber
        ↔ (∃ nodeName, Told session o groupID nodeName blockNumber)
          ∧ ∀ nodeName number, Told session o groupID nodeName number → number ≤ blockNumber))
  := by
  obtain ⟨s, e, o', hstep, hrest, rfl⟩ := (Machine.run_cons _).mp hrun
  obtain ⟨rfl, rfl⟩ := Prod.mk.inj (Option.some.inj hstep)
  have hfirst : ToldHeights session [] (connected {} session : RpcServer Service) :=
    toldHeights_connected session
  rw [List.nil_append]
  refine ⟨?_, ?_, ?_⟩
  · apply blockResponses_run hfirst.nodup hfirst.connected hstays hrest
  · intro groupID hnonneg
    have htold := ((Machine.along_of_forall_mem
      (C := fun _ _ (a : ServerAction Service) => a ≠ .disconnect session)
      (fun a ha _ _ heq => hstays (heq ▸ ha)) [] _).invariant
        (fun h hstays hstep => h.step hstays hstep) hfirst).run hrest
    rw [height_eq] at hnonneg ⊢
    cases hheight : t.groupManager.groupBlockInfos[groupID]? with
    | none =>
        rw [hheight] at hnonneg
        simp at hnonneg
    | some height => apply (htold.recorded groupID height hheight).2
  · intro hkeeps hblocks groupID blockNumber hpos
    have hboth := ((Machine.along_of_forall_mem
      (C := fun _ _ (a : ServerAction Service) =>
        a ≠ .disconnect session ∧ a ≠ .removeGroupBlockInfo)
      (fun a ha _ _ => ⟨fun heq => hstays (heq ▸ ha), fun heq => hkeeps (heq ▸ ha)⟩) [] _).invariant
        (I := fun o s => ToldHeights session o s ∧ HeightsTold session o s)
        (fun h hmeets hstep => ⟨h.1.step hmeets.1 hstep, h.2.step h.1 hmeets.2 hstep⟩)
        ⟨hfirst, nofun⟩).run hrest
    apply hboth.1.height_iff hboth.2 hblocks hpos

/-- The notifications of two nodes, recorded in the other order. -/
def overtaking : List (ServerAction String) :=
  [.asyncNotifyBlockNumber "group0" "node0" 7, .asyncNotifyBlockNumber "group0" "node1" 6,
    .updateGroupBlockInfo 1, .updateGroupBlockInfo 0]

theorem blocks_told_overtaking :
  ∃ s o, (serverMachine String).run (start {}) (.connect ⟨0, "127.0.0.1:20200"⟩ :: overtaking)
      = some (s, o)
    ∧ ∀ blockNumber, 0 < blockNumber → (s.height "group0" = blockNumber
      ↔ (∃ nodeName, Told ⟨0, "127.0.0.1:20200"⟩ o "group0" nodeName blockNumber)
        ∧ ∀ nodeName number, Told ⟨0, "127.0.0.1:20200"⟩ o "group0" nodeName number →
          number ≤ blockNumber)
  := by
  have hstays : .disconnect ⟨0, "127.0.0.1:20200"⟩ ∉ overtaking := by
    simp [overtaking]
  have hkeeps : .removeGroupBlockInfo ∉ overtaking := by
    simp [overtaking]
  exact ⟨_, _, rfl, (blocks_told hstays rfl).2.2 hkeeps rfl "group0"⟩

end RpcServer
