import BcosRpc.Rpc.Notifier
import Mathlib.Data.List.Nodup

/-!
# The groups a client knows

A client learns the groups from the answer to its handshake and from the notifications.
`mirrorsThroughout_iff` says exactly when every client whose handshake is answered has the groups
as the manager has them, and `registry_of_notified` that a notification repairs the copy of its
group.
-/

open Std

/-! ### The client -/

/-- A group that a client is sent, with its name. -/
def groupEntry (item : Json) : Option (String × Json) :=
  match item.find "groupID" with
  | some (.string groupID) => some (groupID, item)
  | _ => none

/-- The groups in a message. -/
def ServerMessage.groups : ServerMessage → List (String × Json)
  | .HANDESHAKE result =>
      match result.find "groupInfoList" with
      | some (.array items) => items.filterMap groupEntry
      | _ => []
  | .GROUP_NOTIFY response => (groupEntry response).toList
  | .BLOCK_NOTIFY _ => []

/-- The messages that a session is given. -/
def received (session : WsSession) (o : List (WsSession × ServerMessage)) : List ServerMessage :=
  o.filterMap fun sent => if sent.1 = session then some sent.2 else none

/-- What a client has of each group: the one it was sent last. -/
def registry (session : WsSession) (o : List (WsSession × ServerMessage)) (groupID : String) :
    Option Json :=
  lastWrite ((received session o).flatMap ServerMessage.groups) groupID

/-- The handshake of a session is answered. -/
def GotHandshake (session : WsSession) (o : List (WsSession × ServerMessage)) : Prop :=
  ∃ result, .HANDESHAKE result ∈ received session o

/-- Groups as they are sent, with their names. -/
def jsonWrites (groupInfos : List GroupInfo) : List (String × Json) :=
  (GroupManager.writes groupInfos).map fun w => (w.1, groupInfoToJson w.2)

theorem fst_jsonWrites (groupInfos : List GroupInfo) :
  (jsonWrites groupInfos).map Prod.fst = groupInfos.map GroupInfo.groupID
  := by
  rw [← GroupManager.fst_writes, jsonWrites, List.map_map]
  rfl

@[simp]
theorem received_append (session : WsSession) (o o' : List (WsSession × ServerMessage)) :
  received session (o ++ o') = received session o ++ received session o'
  := List.filterMap_append

theorem registry_append (session : WsSession) (o o' : List (WsSession × ServerMessage))
    (groupID : String) :
  registry session (o ++ o') groupID
    = (registry session o' groupID).or (registry session o groupID)
  := by
  rw [registry, received_append, List.flatMap_append, lastWrite_append]
  rfl

theorem mem_received_iff (session : WsSession) (o : List (WsSession × ServerMessage))
    (message : ServerMessage) :
  message ∈ received session o ↔ (session, message) ∈ o
  := by
  simp [received]

theorem groupEntry_groupInfoToJson (groupInfo : GroupInfo) :
  groupEntry (groupInfoToJson groupInfo) = some (groupInfo.groupID, groupInfoToJson groupInfo)
  := by
  simp [groupEntry, groupInfoToJson]

theorem groups_notification (groupInfo : GroupInfo) :
  (ServerMessage.GROUP_NOTIFY (groupInfoToJson groupInfo)).groups = jsonWrites [groupInfo]
  := by
  rw [ServerMessage.groups, groupEntry_groupInfoToJson]
  rfl

theorem groups_answer (groupInfoList : List GroupInfo) :
  (ServerMessage.HANDESHAKE (handshakeToJson groupInfoList)).groups = jsonWrites groupInfoList
  := by
  have hlist : (handshakeToJson groupInfoList).find "groupInfoList"
      = some (Json.array (groupInfoList.map groupInfoToJson)) := by
    simp [handshakeToJson, Json.arrayOf]
  simp only [ServerMessage.groups, hlist]
  induction groupInfoList with
  | nil => rfl
  | cons groupInfo rest ih =>
      rw [List.map_cons, List.filterMap_cons_some (groupEntry_groupInfoToJson groupInfo), ih]
      · rfl
      · simp [handshakeToJson, Json.arrayOf]

/-! ### Notifications -/

namespace RpcServer

variable {Service : Type}

/-- A group as it is sent at the moment. -/
def groupJson (s : RpcServer Service) (groupID : String) : Option Json :=
  (s.groupManager.recorded groupID).map groupInfoToJson

theorem mem_toSessions_iff (s : RpcServer Service) (message : ServerMessage)
    (sent : WsSession × ServerMessage) :
  sent ∈ s.toSessions message ↔ s.IsConnected sent.1 ∧ sent.2 = message
  := by
  obtain ⟨session, message'⟩ := sent
  simp only [toSessions, IsConnected, List.mem_filterMap, Option.ite_none_right_eq_some,
    Option.some.injEq, Prod.mk.injEq]
  constructor
  · rintro ⟨⟨_, _⟩, hmem, rfl, rfl, rfl⟩
    exact ⟨hmem, rfl⟩
  · rintro ⟨hmem, rfl⟩
    exact ⟨(session, true), hmem, rfl, rfl, rfl⟩

/-- A connected session is given a message to all sessions once. -/
theorem received_toSessions {s : RpcServer Service} (hnodup : (s.sessions.map Prod.fst).Nodup)
    {session : WsSession} (h : s.IsConnected session) (message : ServerMessage) :
  received session (s.toSessions message) = [message]
  := by
  -- the entry of the session is the only one that puts a message of the session into the list
  have hother : ∀ entry ∈ s.sessions, entry ≠ (session, true) →
      ((if entry.2 then some (entry.1, message) else none).bind fun sent =>
        if sent.1 = session then some sent.2 else none) = none := by
    rintro ⟨session', connected⟩ _ hne
    cases connected with
    | false => rfl
    | true =>
        apply if_neg
        intro heq
        apply hne (Prod.ext heq rfl)
  have hmem : (session, true) ∈ s.sessions := h
  rw [received, toSessions, List.filterMap_filterMap,
    Table.filterMap_eq_toList hnodup.of_map hother, if_pos hmem]
  simp

/-- The groups of a notification, as a connected session gets them. -/
theorem registry_notifyGroupInfo {s : RpcServer Service}
    (hnodup : (s.sessions.map Prod.fst).Nodup) {session : WsSession}
    (h : s.IsConnected session) (groupInfos : List GroupInfo) (groupID : String) :
  registry session (s.notifyGroupInfo groupInfos) groupID
    = lastWrite (jsonWrites groupInfos) groupID
  := by
  rw [registry]
  congr 1
  induction groupInfos with
  | nil => rfl
  | cons groupInfo groupInfos ih =>
      rw [notifyGroupInfo, List.flatMap_cons, received_append, received_toSessions hnodup h,
        List.flatMap_append, List.flatMap_singleton, groups_notification]
      change _ ++ List.flatMap _ (received session (s.notifyGroupInfo groupInfos)) = _
      rw [ih]
      rfl

variable {o e : List (WsSession × ServerMessage)} {s t : RpcServer Service}

/-- Messages that tell every connected session of some groups, and answer no handshake. -/
structure Tells (s : RpcServer Service) (e : List (WsSession × ServerMessage))
    (groupInfos : List GroupInfo) : Prop where
  accepted : ∀ sent ∈ e, sent.1 ∈ s.sessions.map Prod.fst
  registry : ∀ session, s.IsConnected session →
    ∀ groupID, registry session e groupID = lastWrite (jsonWrites groupInfos) groupID
  unanswered : ∀ session, ¬ GotHandshake session e

theorem tells_nil (s : RpcServer Service) :
  s.Tells [] []
  := by
  constructor
  · exact nofun
  · intro session _ groupID
    rfl
  · rintro session ⟨_, ⟨⟩⟩

theorem tells_toSessions (hnodup : (s.sessions.map Prod.fst).Nodup) (response : Json) :
  s.Tells (s.toSessions (.BLOCK_NOTIFY response)) []
  := by
  constructor
  · intro sent hsent
    apply List.mem_map_of_mem (f := Prod.fst) ((mem_toSessions_iff s _ sent).mp hsent).1
  · intro session hsession groupID
    change lastWrite ((received session _).flatMap ServerMessage.groups) groupID = _
    rw [received_toSessions hnodup hsession]
    rfl
  · rintro session ⟨result, hresult⟩
    cases ((mem_toSessions_iff s _ _).mp ((mem_received_iff _ _ _).mp hresult)).2

theorem tells_notifyGroupInfo (hnodup : (s.sessions.map Prod.fst).Nodup)
    (groupInfos : List GroupInfo) :
  s.Tells (s.notifyGroupInfo groupInfos) groupInfos
  := by
  constructor
  · intro sent hsent
    obtain ⟨groupInfo, _, hmem⟩ := List.mem_flatMap.mp hsent
    apply List.mem_map_of_mem (f := Prod.fst) ((mem_toSessions_iff s _ sent).mp hmem).1
  · intro session hsession groupID
    apply registry_notifyGroupInfo hnodup hsession
  · rintro session ⟨result, hresult⟩
    obtain ⟨groupInfo, _, hmem⟩ := List.mem_flatMap.mp ((mem_received_iff _ _ _).mp hresult)
    cases ((mem_toSessions_iff s _ _).mp hmem).2

/-! ### The steps of the server -/

/-- The groups that a step gives to the notifier. -/
def notified (s : RpcServer Service) : ServerAction Service → List GroupInfo
  | .asyncNotifyGroupInfo build groupInfo => s.groupManager.notifiedByUpdate build groupInfo
  | .checkNodeStatus unreachable => s.groupManager.notifiedByCheck unreachable
  | _ => []

theorem recorded_removeUnreachableNodeService
    (unreachableNodes : ExtTreeMap String (ExtTreeSet String)) (manager : GroupManager Service) :
  (GroupManager.removeUnreachableNodeService unreachableNodes manager).recorded
    = manager.recorded
  := by
  funext groupID
  rw [GroupManager.recorded, GroupManager.removeUnreachableNodeService,
    GroupManager.groupInfos_foldl_removeServices, GroupManager.recorded]

theorem recorded_removeGroupBlockInfo
    (unreachableNodes : ExtTreeMap String (ExtTreeSet String)) (manager : GroupManager Service) :
  (GroupManager.removeGroupBlockInfo unreachableNodes manager).recorded = manager.recorded
  := by
  funext groupID
  rw [GroupManager.recorded, GroupManager.removeGroupBlockInfo,
    GroupManager.groupInfos_foldl_removeLatest, GroupManager.recorded]

theorem recorded_updateGroupBlockInfo (manager : GroupManager Service) (groupID nodeName : String)
    (blockNumber : Int) :
  (manager.updateGroupBlockInfo groupID nodeName blockNumber).recorded = manager.recorded
  := by
  funext g
  rw [GroupManager.updateGroupBlockInfo]
  split
  · rfl
  · split <;> rfl

/-- What a step that is no part of a handshake and accepts no session does: the groups it changes
are those it tells the sessions of. -/
structure Relays (s : RpcServer Service) (action : ServerAction Service) (t : RpcServer Service)
    (e : List (WsSession × ServerMessage)) : Prop where
  sessions : t.sessions.map Prod.fst = s.sessions.map Prod.fst
  connected : ∀ session, t.IsConnected session → s.IsConnected session
  handshakes : t.handshakes = s.handshakes
  follows : Follows (GroupManager.writes (s.notified action)) s.groupManager.recorded
    t.groupManager.recorded
  tells : s.Tells e (s.notified action)

/-- A step is a part of a handshake, or accepts a session. -/
def Meets : ServerAction Service → Bool
  | .connect _ | .handshake _ | .convertGroup _ | .answerHandshake _ => true
  | _ => false

/-- Every other step relays the changes it makes. -/
theorem relays_step (hnodup : (s.sessions.map Prod.fst).Nodup) {action : ServerAction Service}
    (hmeets : Meets action = false)
    (hstep : (serverMachine Service).step s action = some (t, e)) :
  Relays s action t e
  := by
  have hsweep : ∀ {u : SweepState Service}, u.recorded = s.groupManager.recorded →
      ∀ {action}, s.notified action = [] → Relays s action { s with groupManager := u } [] := by
    intro u hrecorded action hnone
    constructor
    · rfl
    · exact fun _ => id
    · rfl
    · rw [hnone, hrecorded]
      apply Follows.refl
    · rw [hnone]
      apply tells_nil
  cases action with
  | disconnect session =>
      obtain ⟨rfl, rfl⟩ := Prod.mk.inj (Option.some.inj hstep)
      constructor
      · rw [List.map_map]
        rfl
      · intro session' hsession'
        obtain ⟨⟨x, connected⟩, hmem, heq⟩ := List.mem_map.mp hsession'
        obtain ⟨rfl, hand⟩ := Prod.mk.inj heq
        obtain ⟨rfl, _⟩ := Bool.and_eq_true_iff.mp hand
        apply hmem
      · rfl
      · apply Follows.refl
      · apply tells_nil
  | asyncNotifyGroupInfo build groupInfo =>
      obtain ⟨rfl, rfl⟩ := Prod.mk.inj (Option.some.inj hstep)
      constructor
      · rfl
      · exact fun _ => id
      · rfl
      · apply GroupManager.follows_updateGroupInfo
      · apply tells_notifyGroupInfo hnodup
  | checkNodeStatus unreachable =>
      obtain ⟨_, heq⟩ := Option.ite_none_right_eq_some.mp hstep
      obtain ⟨rfl, rfl⟩ := Prod.mk.inj (Option.some.inj heq)
      constructor
      · rfl
      · exact fun _ => id
      · rfl
      · apply GroupManager.follows_checkNodeStatus
      · apply tells_notifyGroupInfo hnodup
  | removeUnreachableNodeService =>
      obtain ⟨⟨u, events⟩, hu, heq⟩ := Option.map_eq_some_iff.mp hstep
      obtain ⟨rfl, rfl⟩ := Prod.mk.inj heq
      obtain ⟨_, hu⟩ := Option.ite_none_right_eq_some.mp hu
      obtain ⟨rfl, _⟩ := Prod.mk.inj (Option.some.inj hu)
      apply hsweep (recorded_removeUnreachableNodeService _ _) rfl
  | removeGroupBlockInfo =>
      obtain ⟨⟨u, events⟩, hu, heq⟩ := Option.map_eq_some_iff.mp hstep
      obtain ⟨rfl, rfl⟩ := Prod.mk.inj heq
      obtain ⟨_, hu⟩ := Option.ite_none_right_eq_some.mp hu
      obtain ⟨rfl, _⟩ := Prod.mk.inj (Option.some.inj hu)
      apply hsweep (recorded_removeGroupBlockInfo _ _) rfl
  | asyncNotifyBlockNumber groupID nodeName blockNumber =>
      obtain ⟨rfl, rfl⟩ := Prod.mk.inj (Option.some.inj hstep)
      constructor
      · rfl
      · exact fun _ => id
      · rfl
      · apply Follows.refl
      · apply tells_toSessions hnodup
  | updateGroupBlockInfo index =>
      simp only [serverMachine] at hstep
      split at hstep
      · cases hstep
      · obtain ⟨rfl, rfl⟩ := Prod.mk.inj (Option.some.inj hstep)
        constructor
        · rfl
        · exact fun _ => id
        · rfl
        · rw [recorded_updateGroupBlockInfo]
          apply Follows.refl
        · apply tells_nil
  | _ => cases hmeets

/-! ### Mirrors -/

/-- Every connected session whose handshake is answered has the groups that the manager has. -/
def Mirrors (o : List (WsSession × ServerMessage)) (s : RpcServer Service) : Prop :=
  ∀ session, s.IsConnected session → GotHandshake session o →
    ∀ groupID, registry session o groupID = s.groupJson groupID

/-- A connected session is answered with groups that have not changed since they were
converted. -/
def AnswersCurrent (s : RpcServer Service) : ServerAction Service → Prop
  | .answerHandshake index => ∀ session groupInfoList,
      s.handshakes[index]? = some ⟨session, [], groupInfoList⟩ → s.IsConnected session →
      ∀ groupInfo ∈ groupInfoList,
        s.groupJson groupInfo.groupID = some (groupInfoToJson groupInfo)
  | _ => True

/-- What a connected session has of a group is current, and it has every group once its
handshake is answered; before, a handshake has the groups it lacks. -/
structure Follower (o : List (WsSession × ServerMessage)) (s : RpcServer Service)
    (session : WsSession) : Prop where
  current : ∀ groupID,
    registry session o groupID = none ∨ registry session o groupID = s.groupJson groupID
  complete : GotHandshake session o → ∀ groupID, (s.groupJson groupID).isSome →
    (registry session o groupID).isSome
  handshakes : ∀ h ∈ s.handshakes, h.session = session →
    ∀ groupID, (s.groupJson groupID).isSome →
      groupID ∈ h.groups ∨ groupID ∈ h.groupInfoList.map GroupInfo.groupID
        ∨ (registry session o groupID).isSome

/-- Besides, only sessions that were accepted take part, and a handshake has every group once. -/
structure MirrorInvariant (o : List (WsSession × ServerMessage)) (s : RpcServer Service) : Prop
    where
  nodup : (s.sessions.map Prod.fst).Nodup
  accepted : ∀ sent ∈ o, sent.1 ∈ s.sessions.map Prod.fst
  begun : ∀ h ∈ s.handshakes, h.session ∈ s.sessions.map Prod.fst
    ∧ (h.groups ++ h.groupInfoList.map GroupInfo.groupID).Nodup
  follower : ∀ session, s.IsConnected session → Follower o s session

theorem mirrorInvariant_start (groupManager : GroupManager Service) :
  MirrorInvariant [] (start groupManager)
  := by
  constructor
  · exact List.nodup_nil
  · exact nofun
  · exact nofun
  · intro session h
    cases h

theorem MirrorInvariant.mirrors (h : MirrorInvariant o s) :
  Mirrors o s
  := by
  intro session hsession hanswered groupID
  have hfollower := h.follower session hsession
  rcases hfollower.current groupID with hnone | hcurrent
  · rw [hnone]
    cases hgroup : s.groupJson groupID with
    | none => rfl
    | some json =>
        have hsome := hfollower.complete hanswered groupID (by rw [hgroup]; rfl)
        rw [hnone] at hsome
        cases hsome
  · apply hcurrent

/-- A step that tells every connected session of the groups it changes. -/
theorem MirrorInvariant.relay (h : MirrorInvariant o s) {action : ServerAction Service}
    (hrelays : Relays s action t e) :
  MirrorInvariant (o ++ e) t
  := by
  have hjson : Follows (jsonWrites (s.notified action)) s.groupJson t.groupJson :=
    hrelays.follows.map groupInfoToJson
  constructor
  · rw [hrelays.sessions]
    apply h.nodup
  · intro sent hsent
    rw [hrelays.sessions]
    rcases List.mem_append.mp hsent with hold | hnew
    · apply h.accepted sent hold
    · apply hrelays.tells.accepted sent hnew
  · rw [hrelays.handshakes, hrelays.sessions]
    apply h.begun
  · intro session hsession
    have hsession' := hrelays.connected session hsession
    have hfollower := h.follower session hsession'
    have hregistry : Follows (jsonWrites (s.notified action)) (registry session o)
        (registry session (o ++ e)) := by
      intro groupID
      rw [registry_append, hrelays.tells.registry session hsession']
    have hsome : ∀ groupID, ((s.groupJson groupID).isSome →
          (registry session o groupID).isSome) →
        (t.groupJson groupID).isSome → (registry session (o ++ e) groupID).isSome := by
      intro groupID hbefore hafter
      rw [hjson groupID] at hafter
      rw [hregistry groupID]
      cases hwrite : lastWrite (jsonWrites (s.notified action)) groupID with
      | none =>
          rw [hwrite] at hafter
          apply hbefore hafter
      | some json => rfl
    constructor
    · intro groupID
      rw [hregistry groupID, hjson groupID]
      cases lastWrite (jsonWrites (s.notified action)) groupID with
      | none => apply hfollower.current groupID
      | some json =>
          right
          rfl
    · rintro ⟨result, hresult⟩ groupID
      apply hsome groupID
      apply hfollower.complete
      use result
      rw [received_append, List.mem_append] at hresult
      apply hresult.resolve_right
      intro hmem
      apply hrelays.tells.unanswered session ⟨result, hmem⟩
    · rw [hrelays.handshakes]
      intro handshake hmem heq groupID hgroup
      by_cases hold : (s.groupJson groupID).isSome
      · rcases hfollower.handshakes handshake hmem heq groupID hold with hin | hin | hin
        · left
          apply hin
        · right
          left
          apply hin
        · right
          right
          apply hsome groupID (fun _ => hin) hgroup
      · right
        right
        apply hsome groupID (fun hs => absurd hs hold) hgroup

/-- A session that is accepted has nothing yet. -/
theorem MirrorInvariant.connect (h : MirrorInvariant o s) {session : WsSession}
    (hnew : session ∉ s.sessions.map Prod.fst) :
  MirrorInvariant o { s with sessions := s.sessions ++ [(session, true)] }
  := by
  have hnone : received session o = [] := by
    rw [List.eq_nil_iff_forall_not_mem]
    intro message hmessage
    apply hnew (h.accepted _ ((mem_received_iff _ _ _).mp hmessage))
  constructor
  · rw [List.map_append, List.nodup_append]
    refine ⟨h.nodup, List.pairwise_singleton _ _, ?_⟩
    intro a ha b hb heq
    obtain rfl := List.mem_singleton.mp hb
    apply hnew (heq ▸ ha)
  · intro sent hsent
    rw [List.map_append, List.mem_append]
    left
    apply h.accepted sent hsent
  · intro handshake hmem
    rw [List.map_append, List.mem_append]
    exact ⟨Or.inl (h.begun handshake hmem).1, (h.begun handshake hmem).2⟩
  · intro session' hsession'
    rcases List.mem_append.mp hsession' with hold | hlast
    · have hfollower := h.follower session' hold
      exact ⟨hfollower.current, hfollower.complete, hfollower.handshakes⟩
    · obtain ⟨rfl, _⟩ := Prod.mk.inj (List.mem_singleton.mp hlast)
      constructor
      · intro groupID
        left
        rw [registry, hnone]
        rfl
      · rintro ⟨result, hresult⟩
        rw [hnone] at hresult
        cases hresult
      · rintro handshake hmem rfl
        apply absurd (h.begun handshake hmem).1 hnew

/-- A handshake begins with all groups to convert. -/
theorem MirrorInvariant.handshake (h : MirrorInvariant o s) {session : WsSession}
    (hsession : s.IsConnected session) :
  MirrorInvariant o { s with
    handshakes := s.handshakes ++ [⟨session, s.groupManager.groupInfos.keys, []⟩] }
  := by
  constructor
  · apply h.nodup
  · apply h.accepted
  · intro handshake hmem
    rcases List.mem_append.mp hmem with hold | hnew
    · apply h.begun handshake hold
    · obtain rfl := List.mem_singleton.mp hnew
      constructor
      · apply List.mem_map_of_mem (f := Prod.fst) hsession
      · rw [List.map_nil, List.append_nil]
        apply ExtTreeMap.nodup_keys
  · intro session' hsession'
    have hfollower := h.follower session' hsession'
    use hfollower.current, hfollower.complete
    intro handshake hmem heq groupID hgroup
    rcases List.mem_append.mp hmem with hold | hnew
    · apply hfollower.handshakes handshake hold heq groupID hgroup
    · obtain rfl := List.mem_singleton.mp hnew
      left
      rw [groupJson, Option.isSome_map] at hgroup
      rw [ExtTreeMap.mem_keys, ExtTreeMap.mem_iff_isSome_getElem?]
      apply hgroup

/-- A handshake keeps its groups when one of them is converted. -/
theorem MirrorInvariant.convertGroup (h : MirrorInvariant o s) {index : Nat}
    (hstep : s.convertGroup index = some t) :
  MirrorInvariant o t
  := by
  rw [RpcServer.convertGroup] at hstep
  split at hstep
  · rename_i session groupID groups groupInfoList hfound
    obtain ⟨groupInfo, hinfo, rfl⟩ := Option.map_eq_some_iff.mp hstep
    have hid := s.groupManager.groupID_eq groupID groupInfo hinfo
    have hold : (⟨session, groupID :: groups, groupInfoList⟩ : Handshake) ∈ s.handshakes :=
      List.mem_of_getElem? hfound
    have hmem : ∀ handshake ∈
        s.handshakes.set index ⟨session, groups, groupInfoList ++ [groupInfo]⟩,
        handshake ∈ s.handshakes ∨ handshake = ⟨session, groups, groupInfoList ++ [groupInfo]⟩ := by
      intro handshake hmem
      apply List.mem_or_eq_of_mem_set hmem
    constructor
    · apply h.nodup
    · apply h.accepted
    · intro handshake hin
      rcases hmem handshake hin with hin | rfl
      · apply h.begun handshake hin
      · obtain ⟨hknown, hdistinct⟩ := h.begun _ hold
        use hknown
        apply (List.Perm.nodup_iff _).mp hdistinct
        rw [List.map_append, List.map_cons, List.map_nil, hid, ← List.append_assoc]
        apply (List.perm_append_singleton groupID _).symm
    · intro session' hsession'
      have hfollower := h.follower session' hsession'
      use hfollower.current, hfollower.complete
      intro handshake hin heq group hgroup
      rcases hmem handshake hin with hin | rfl
      · apply hfollower.handshakes handshake hin heq group hgroup
      · rcases hfollower.handshakes _ hold heq group hgroup with hleft | hdone | hhas
        · rcases List.mem_cons.mp hleft with rfl | hrest
          · right
            left
            simp [hid]
          · left
            apply hrest
        · right
          left
          rw [List.map_append, List.mem_append]
          left
          apply hdone
        · right
          right
          apply hhas
  · cases hstep

theorem mem_jsonWrites_iff (groupInfos : List GroupInfo) (groupID : String) (json : Json) :
  (groupID, json) ∈ jsonWrites groupInfos
    ↔ ∃ groupInfo ∈ groupInfos, groupInfo.groupID = groupID ∧ groupInfoToJson groupInfo = json
  := by
  simp [jsonWrites, GroupManager.writes]

theorem registry_answer (session : WsSession) (groupInfoList : List GroupInfo) (groupID : String) :
  registry session [(session, .HANDESHAKE (handshakeToJson groupInfoList))] groupID
    = lastWrite (jsonWrites groupInfoList) groupID
  := by
  have hreceived : received session [(session, ServerMessage.HANDESHAKE
      (handshakeToJson groupInfoList))] = [.HANDESHAKE (handshakeToJson groupInfoList)] := by
    simp [received]
  rw [← groups_answer, registry, hreceived, List.flatMap_singleton]

/-- An answer with the groups as they are gives its session all groups. -/
theorem Follower.answer {session : WsSession} (h : Follower o s session)
    {groupInfoList : List GroupInfo} {index : Nat}
    (hcurrent : ∀ groupInfo ∈ groupInfoList,
      s.groupJson groupInfo.groupID = some (groupInfoToJson groupInfo))
    (hmem : (⟨session, [], groupInfoList⟩ : Handshake) ∈ s.handshakes) :
  Follower (o ++ [(session, .HANDESHAKE (handshakeToJson groupInfoList))])
    { s with handshakes := s.handshakes.eraseIdx index } session
  := by
  have hregistry : ∀ groupID, registry session (o ++
      [(session, .HANDESHAKE (handshakeToJson groupInfoList))]) groupID
        = (lastWrite (jsonWrites groupInfoList) groupID).or (registry session o groupID) := by
    intro groupID
    rw [registry_append, registry_answer]
  have hkept : ∀ groupID, (registry session o groupID).isSome →
      ((lastWrite (jsonWrites groupInfoList) groupID).or (registry session o groupID)).isSome := by
    intro groupID hsome
    rw [Option.isSome_or, hsome, Bool.or_true]
  constructor
  · intro groupID
    rw [hregistry]
    cases hwrite : lastWrite (jsonWrites groupInfoList) groupID with
    | none => apply h.current groupID
    | some json =>
        right
        obtain ⟨groupInfo, hin, rfl, rfl⟩ :=
          (mem_jsonWrites_iff _ _ _).mp (mem_of_lastWrite hwrite)
        apply (hcurrent groupInfo hin).symm
  · intro _ groupID hgroup
    rw [hregistry]
    rcases h.handshakes _ hmem rfl groupID hgroup with hleft | hdone | hhas
    · cases hleft
    · obtain ⟨groupInfo, hin, rfl⟩ := List.mem_map.mp hdone
      cases hwrite : lastWrite (jsonWrites groupInfoList) groupInfo.groupID with
      | none =>
          apply absurd (List.mem_map_of_mem (f := Prod.fst)
            ((mem_jsonWrites_iff _ _ _).mpr ⟨groupInfo, hin, rfl, rfl⟩))
            ((lastWrite_eq_none_iff _ _).mp hwrite)
      | some json => rfl
    · apply hkept groupID hhas
  · intro handshake hin heq groupID hgroup
    rw [hregistry]
    rcases h.handshakes handshake (List.mem_of_mem_eraseIdx hin) heq groupID hgroup with
      hleft | hdone | hhas
    · left
      apply hleft
    · right
      left
      apply hdone
    · right
      right
      apply hkept groupID hhas

/-- The answer to a handshake, with the groups as they are, leaves its session with all groups. -/
theorem MirrorInvariant.answerHandshake (h : MirrorInvariant o s) {index : Nat}
    (hcurrent : s.AnswersCurrent (.answerHandshake index))
    (hstep : s.answerHandshake index = some (t, e)) :
  MirrorInvariant (o ++ e) t
  := by
  rw [RpcServer.answerHandshake] at hstep
  split at hstep
  · rename_i session groupInfoList hfound
    obtain ⟨rfl, rfl⟩ := Prod.mk.inj (Option.some.inj hstep)
    have hold : (⟨session, [], groupInfoList⟩ : Handshake) ∈ s.handshakes :=
      List.mem_of_getElem? hfound
    have hknown := (h.begun _ hold).1
    constructor
    · apply h.nodup
    · intro sent hsent
      rcases List.mem_append.mp hsent with hin | hin
      · apply h.accepted sent hin
      · obtain rfl := List.mem_singleton.mp hin
        apply hknown
    · intro handshake hin
      apply h.begun handshake (List.mem_of_mem_eraseIdx hin)
    · intro session' hsession'
      have hfollower := h.follower session' hsession'
      by_cases hsession : session = session'
      · subst hsession
        apply hfollower.answer (hcurrent session groupInfoList hfound hsession') hold
      · have hnone : received session' [(session, ServerMessage.HANDESHAKE
            (handshakeToJson groupInfoList))] = [] := by
          simp [received, hsession]
        have hregistry : ∀ groupID, registry session' (o ++ [(session, ServerMessage.HANDESHAKE
            (handshakeToJson groupInfoList))]) groupID = registry session' o groupID := by
          intro groupID
          rw [registry, received_append, hnone, List.append_nil]
          rfl
        constructor
        · intro groupID
          rw [hregistry]
          apply hfollower.current groupID
        · intro hanswered groupID
          rw [hregistry]
          apply hfollower.complete
          rwa [GotHandshake, received_append, hnone, List.append_nil] at hanswered
        · intro handshake hin heq groupID
          rw [hregistry]
          apply hfollower.handshakes handshake (List.mem_of_mem_eraseIdx hin) heq groupID
  · cases hstep

/-- Every step keeps the invariant, an answer to a handshake if its groups are current. -/
theorem MirrorInvariant.step (h : MirrorInvariant o s) {action : ServerAction Service}
    (hcurrent : s.AnswersCurrent action)
    (hstep : (serverMachine Service).step s action = some (t, e)) :
  MirrorInvariant (o ++ e) t
  := by
  cases hmeets : Meets action with
  | false => apply h.relay (relays_step h.nodup hmeets hstep)
  | true =>
      cases action with
      | connect session =>
          obtain ⟨hnew, heq⟩ := Option.ite_none_left_eq_some.mp hstep
          obtain ⟨rfl, rfl⟩ := Prod.mk.inj (Option.some.inj heq)
          rw [List.append_nil]
          apply h.connect hnew
      | handshake session =>
          obtain ⟨hsession, heq⟩ := Option.ite_none_right_eq_some.mp hstep
          obtain ⟨rfl, rfl⟩ := Prod.mk.inj (Option.some.inj heq)
          rw [List.append_nil]
          apply h.handshake hsession
      | convertGroup index =>
          obtain ⟨u, hconvert, heq⟩ := Option.map_eq_some_iff.mp hstep
          obtain ⟨rfl, rfl⟩ := Prod.mk.inj heq
          rw [List.append_nil]
          apply h.convertGroup hconvert
      | answerHandshake index => apply h.answerHandshake hcurrent hstep
      | _ => cases hmeets

/-- A client that is answered with a group that has changed does not have it as it is. -/
theorem MirrorInvariant.answersCurrent (h : MirrorInvariant o s) {action : ServerAction Service}
    (hstep : (serverMachine Service).step s action = some (t, e)) (hmirrors : Mirrors (o ++ e) t) :
  s.AnswersCurrent action
  := by
  cases action with
  | answerHandshake index =>
      intro session groupInfoList hfound hsession groupInfo hin
      simp only [serverMachine, RpcServer.answerHandshake, hfound] at hstep
      obtain ⟨rfl, rfl⟩ := Prod.mk.inj (Option.some.inj hstep)
      have hanswered : GotHandshake session (o ++ [(session,
          ServerMessage.HANDESHAKE (handshakeToJson groupInfoList))]) := by
        use handshakeToJson groupInfoList
        simp [received]
      have hgroup := hmirrors session hsession hanswered groupInfo.groupID
      have hdistinct := (h.begun _ (List.mem_of_getElem? hfound)).2
      rw [List.nil_append] at hdistinct
      have hlast : lastWrite (jsonWrites groupInfoList) groupInfo.groupID
          = some (groupInfoToJson groupInfo) := by
        apply lastWrite_eq_some_of_unique
        · exact (mem_jsonWrites_iff _ _ _).mpr ⟨groupInfo, hin, rfl, rfl⟩
        · intro json hjson
          obtain ⟨groupInfo', hin', hid, rfl⟩ := (mem_jsonWrites_iff _ _ _).mp hjson
          rw [List.inj_on_of_nodup_map hdistinct hin' hin hid]
      rw [registry_append, registry_answer, hlast, Option.some_or] at hgroup
      apply hgroup.symm
  | _ => trivial

theorem serverMachine_exact :
  Machine.Exact (serverMachine Service) MirrorInvariant Mirrors (fun _ _ _ => True)
    (fun _ s action => s.AnswersCurrent action)
  := by
  constructor
  · intro o s h
    apply h.mirrors
  · intro o s action t e h _ hcurrent hstep
    apply h.step hcurrent hstep
  · intro o s action t e h _ hstep hmirrors
    apply h.answersCurrent hstep hmirrors

/-- Throughout a run every connected client whose handshake is answered has exactly the groups of
the manager, each as it is, if and only if no handshake is answered with a group that has changed
since it was converted. -/
theorem mirrorsThroughout_iff (groupManager : GroupManager Service)
    (actions : List (ServerAction Service)) :
  (serverMachine Service).Throughout Mirrors [] (start groupManager) actions
    ↔ (serverMachine Service).Along (fun _ s action => s.AnswersCurrent action) []
      (start groupManager) actions
  := by
  apply serverMachine_exact.throughout_iff (mirrorInvariant_start groupManager)
  apply Machine.along_of_forall
  intros
  trivial

/-! ### Repair -/

/-- A session is not disconnected, nor answered with a group that has changed since it was
converted. -/
def KeepsCopy (session : WsSession) (groupID : String) (s : RpcServer Service) :
    ServerAction Service → Prop
  | .disconnect session' => session' ≠ session
  | .answerHandshake index => ∀ groupInfoList,
      s.handshakes[index]? = some ⟨session, [], groupInfoList⟩ →
      ∀ groupInfo ∈ groupInfoList, groupInfo.groupID = groupID →
        s.groupJson groupID = some (groupInfoToJson groupInfo)
  | _ => True

theorem KeepsCopy.ne_disconnect {session : WsSession} {groupID : String}
    {action : ServerAction Service} (h : KeepsCopy session groupID s action) :
  action ≠ .disconnect session
  := by
  rintro rfl
  apply h rfl

/-- The sessions after a step. -/
def sessionsAfter (s : RpcServer Service) : ServerAction Service → List (WsSession × Bool)
  | .connect session => s.sessions ++ [(session, true)]
  | .disconnect session => s.sessions.map fun entry => (entry.1, entry.2 && entry.1 != session)
  | _ => s.sessions

theorem sessions_step {action : ServerAction Service}
    (hstep : (serverMachine Service).step s action = some (t, e)) :
  t.sessions = s.sessionsAfter action
  := by
  cases action with
  | connect session =>
      obtain ⟨_, heq⟩ := Option.ite_none_left_eq_some.mp hstep
      obtain ⟨rfl, _⟩ := Prod.mk.inj (Option.some.inj heq)
      rfl
  | handshake session =>
      obtain ⟨_, heq⟩ := Option.ite_none_right_eq_some.mp hstep
      obtain ⟨rfl, _⟩ := Prod.mk.inj (Option.some.inj heq)
      rfl
  | convertGroup index =>
      obtain ⟨u, hconvert, heq⟩ := Option.map_eq_some_iff.mp hstep
      obtain ⟨rfl, _⟩ := Prod.mk.inj heq
      rw [RpcServer.convertGroup] at hconvert
      split at hconvert
      · obtain ⟨_, _, rfl⟩ := Option.map_eq_some_iff.mp hconvert
        rfl
      · cases hconvert
  | answerHandshake index =>
      simp only [serverMachine, RpcServer.answerHandshake] at hstep
      split at hstep
      · obtain ⟨rfl, _⟩ := Prod.mk.inj (Option.some.inj hstep)
        rfl
      · cases hstep
  | checkNodeStatus unreachable =>
      obtain ⟨_, heq⟩ := Option.ite_none_right_eq_some.mp hstep
      obtain ⟨rfl, _⟩ := Prod.mk.inj (Option.some.inj heq)
      rfl
  | removeUnreachableNodeService =>
      obtain ⟨_, _, heq⟩ := Option.map_eq_some_iff.mp hstep
      obtain ⟨rfl, _⟩ := Prod.mk.inj heq
      rfl
  | removeGroupBlockInfo =>
      obtain ⟨_, _, heq⟩ := Option.map_eq_some_iff.mp hstep
      obtain ⟨rfl, _⟩ := Prod.mk.inj heq
      rfl
  | updateGroupBlockInfo index =>
      simp only [serverMachine] at hstep
      split at hstep
      · cases hstep
      · obtain ⟨rfl, _⟩ := Prod.mk.inj (Option.some.inj hstep)
        rfl
  | _ =>
      obtain ⟨rfl, _⟩ := Prod.mk.inj (Option.some.inj hstep)
      rfl

/-- A session is accepted at most once. -/
theorem nodup_step (hnodup : (s.sessions.map Prod.fst).Nodup) {action : ServerAction Service}
    (hstep : (serverMachine Service).step s action = some (t, e)) :
  (t.sessions.map Prod.fst).Nodup
  := by
  rw [sessions_step hstep]
  cases action with
  | connect session =>
      obtain ⟨hnew, _⟩ := Option.ite_none_left_eq_some.mp hstep
      rw [sessionsAfter, List.map_append, List.nodup_append]
      refine ⟨hnodup, List.pairwise_singleton _ _, ?_⟩
      intro a ha b hb heq
      obtain rfl := List.mem_singleton.mp hb
      apply hnew (heq ▸ ha)
  | disconnect session =>
      rw [sessionsAfter, List.map_map]
      apply hnodup
  | _ => apply hnodup

/-- A session stays connected until it is disconnected. -/
theorem isConnected_step {session : WsSession} (h : s.IsConnected session)
    {action : ServerAction Service} (hstays : action ≠ .disconnect session)
    (hstep : (serverMachine Service).step s action = some (t, e)) :
  t.IsConnected session
  := by
  rw [IsConnected, sessions_step hstep]
  cases action with
  | connect session' => apply List.mem_append_left _ h
  | disconnect session' =>
      apply List.mem_map.mpr ⟨_, h, ?_⟩
      have hne : session ≠ session' := fun heq => hstays (heq ▸ rfl)
      simp [hne]
  | _ => apply h

/-- A step of a handshake, or one that accepts a session, leaves the manager and the blocks as
they are, and sends nothing but the answer. -/
theorem meets_step {action : ServerAction Service} (hmeets : Meets action = true)
    (hstep : (serverMachine Service).step s action = some (t, e)) :
  t.groupManager = s.groupManager ∧ t.blocks = s.blocks
    ∧ (e = [] ∨ ∃ index session groupInfoList, action = .answerHandshake index
      ∧ s.handshakes[index]? = some ⟨session, [], groupInfoList⟩
      ∧ e = [(session, .HANDESHAKE (handshakeToJson groupInfoList))])
  := by
  cases action with
  | connect session =>
      obtain ⟨_, heq⟩ := Option.ite_none_left_eq_some.mp hstep
      obtain ⟨rfl, rfl⟩ := Prod.mk.inj (Option.some.inj heq)
      exact ⟨rfl, rfl, Or.inl rfl⟩
  | handshake session =>
      obtain ⟨_, heq⟩ := Option.ite_none_right_eq_some.mp hstep
      obtain ⟨rfl, rfl⟩ := Prod.mk.inj (Option.some.inj heq)
      exact ⟨rfl, rfl, Or.inl rfl⟩
  | convertGroup index =>
      obtain ⟨u, hconvert, heq⟩ := Option.map_eq_some_iff.mp hstep
      obtain ⟨rfl, rfl⟩ := Prod.mk.inj heq
      rw [RpcServer.convertGroup] at hconvert
      split at hconvert
      · obtain ⟨_, _, rfl⟩ := Option.map_eq_some_iff.mp hconvert
        exact ⟨rfl, rfl, Or.inl rfl⟩
      · cases hconvert
  | answerHandshake index =>
      simp only [serverMachine, RpcServer.answerHandshake] at hstep
      split at hstep
      · rename_i session groupInfoList hfound
        obtain ⟨rfl, rfl⟩ := Prod.mk.inj (Option.some.inj hstep)
        exact ⟨rfl, rfl, Or.inr ⟨index, session, groupInfoList, rfl, hfound, rfl⟩⟩
      · cases hstep
  | _ => cases hmeets

theorem notified_of_meets {action : ServerAction Service} (hmeets : Meets action = true) :
  s.notified action = []
  := by
  cases action with
  | asyncNotifyGroupInfo build groupInfo => cases hmeets
  | checkNodeStatus unreachable => cases hmeets
  | _ => rfl

/-- A connected session keeps a copy of a group that is as the manager has it. -/
theorem copy_step (hnodup : (s.sessions.map Prod.fst).Nodup) {session : WsSession}
    (hsession : s.IsConnected session) {groupID : String} {action : ServerAction Service}
    (hkeeps : KeepsCopy session groupID s action)
    (hstep : (serverMachine Service).step s action = some (t, e))
    (hcopy : registry session o groupID = s.groupJson groupID) :
  registry session (o ++ e) groupID = t.groupJson groupID
  := by
  rw [registry_append]
  cases hmeets : Meets action with
  | false =>
      have hrelays := relays_step hnodup hmeets hstep
      have hjson : t.groupJson groupID = _ := hrelays.follows.map groupInfoToJson groupID
      rw [hrelays.tells.registry session hsession, hjson, hcopy]
      rfl
  | true =>
      obtain ⟨hmanager, _, he⟩ := meets_step hmeets hstep
      have hjson : t.groupJson groupID = s.groupJson groupID := by
        rw [groupJson, hmanager, groupJson]
      rw [hjson, ← hcopy]
      rcases he with rfl | ⟨index, session', groupInfoList, rfl, hfound, rfl⟩
      · rfl
      · by_cases hsame : session' = session
        · subst hsame
          rw [registry_answer]
          cases hwrite : lastWrite (jsonWrites groupInfoList) groupID with
          | none => rfl
          | some json =>
              obtain ⟨groupInfo, hin, hid, rfl⟩ :=
                (mem_jsonWrites_iff _ _ _).mp (mem_of_lastWrite hwrite)
              rw [hcopy, hkeeps groupInfoList hfound groupInfo hin hid, Option.some_or]
        · have hnone : received session [(session', ServerMessage.HANDESHAKE
              (handshakeToJson groupInfoList))] = [] := by
            simp [received, hsame]
          rw [registry, hnone]
          rfl

/-- After a notification of a group, whatever the client had before, it has the group as the
manager has it until the session ends or is answered with a group that has changed since it was
converted. -/
theorem registry_of_notified {groupManager : GroupManager Service}
    {before after : List (ServerAction Service)} {action : ServerAction Service}
    {s t u : RpcServer Service} {o e o' : List (WsSession × ServerMessage)}
    (hrun : (serverMachine Service).run (start groupManager) before = some (s, o))
    (hstep : (serverMachine Service).step s action = some (t, e))
    (hrest : (serverMachine Service).run t after = some (u, o')) {session : WsSession}
    (hsession : t.IsConnected session) {groupID : String}
    (hnotified : groupID ∈ (s.notified action).map GroupInfo.groupID)
    (hkeeps : (serverMachine Service).Along
      (fun _ s action => KeepsCopy session groupID s action) (o ++ e) t after) :
  registry session (o ++ e ++ o') groupID = u.groupJson groupID
  := by
  have hnodup : (s.sessions.map Prod.fst).Nodup := by
    apply Machine.run_invariant (I := fun _ s => (s.sessions.map Prod.fst).Nodup) (o := []) _ _ hrun
    · intro o s a t e hnodup hstep
      apply nodup_step hnodup hstep
    · exact List.nodup_nil
  have hcopy : registry session (o ++ e) groupID = t.groupJson groupID := by
    cases hmeets : Meets action with
    | false =>
        have hrelays := relays_step hnodup hmeets hstep
        have hregistry : Follows (jsonWrites (s.notified action)) (registry session o)
            (registry session (o ++ e)) := by
          intro g
          rw [registry_append, hrelays.tells.registry session (hrelays.connected session hsession)]
        apply hregistry.agree (hrelays.follows.map groupInfoToJson)
        left
        rwa [fst_jsonWrites]
    | true =>
        rw [notified_of_meets hmeets] at hnotified
        cases hnotified
  have hkept := hkeeps.invariant
    (I := fun o s => (s.sessions.map Prod.fst).Nodup ∧ s.IsConnected session
      ∧ registry session o groupID = s.groupJson groupID)
    (by
      rintro o s a t e ⟨hnodup, hsession, hcopy⟩ hkeeps hstep
      exact ⟨nodup_step hnodup hstep, isConnected_step hsession hkeeps.ne_disconnect hstep,
        copy_step hnodup hsession hkeeps hstep hcopy⟩)
    ⟨nodup_step hnodup hstep, hsession, hcopy⟩
  apply (hkept.run hrest).2.2

/-- A server with two clients. -/
def twoClients (groupManager : GroupManager String) : RpcServer String :=
  { start groupManager with
    sessions := [(⟨0, "127.0.0.1:20200"⟩, true), (⟨1, "127.0.0.1:20201"⟩, true)] }

/-- The server when it has told them of a new group. -/
def newGroup (groupManager : GroupManager String) (groupInfo : GroupInfo) : RpcServer String :=
  { twoClients groupManager with
    groupManager := { (twoClients groupManager).groupManager with
      toGroupManager := groupManager.updateGroupInfo (fun _ => none) groupInfo } }

/-- One of the clients disconnects, the group is announced again with a node, and the other client
is told of it and of a block. -/
theorem registry_of_notified_newNode :
  ∃ s o, (serverMachine String).run (start {}) [.connect ⟨0, "127.0.0.1:20200"⟩,
      .connect ⟨1, "127.0.0.1:20201"⟩,
      .asyncNotifyGroupInfo (fun _ => none) { groupID := "group0" },
      .disconnect ⟨1, "127.0.0.1:20201"⟩,
      .asyncNotifyGroupInfo (fun _ => some "service") (GroupManager.oneNodeGroup "group0" "node0"),
      .asyncNotifyBlockNumber "group0" "node0" 1] = some (s, o)
    ∧ s.groupJson "group0" = some (groupInfoToJson (GroupManager.oneNodeGroup "group0" "node0"))
    ∧ registry ⟨0, "127.0.0.1:20200"⟩ o "group0" = s.groupJson "group0"
  := by
  have hrun : (serverMachine String).run (start {}) [.connect ⟨0, "127.0.0.1:20200"⟩,
      .connect ⟨1, "127.0.0.1:20201"⟩] = some (twoClients {}, []) := rfl
  have hstep : (serverMachine String).step (twoClients {}) (.asyncNotifyGroupInfo (fun _ => none)
      { groupID := "group0" }) = some (newGroup {} { groupID := "group0" }, _) := rfl
  have hrest : (serverMachine String).run (newGroup {} { groupID := "group0" })
      [.disconnect ⟨1, "127.0.0.1:20201"⟩,
        .asyncNotifyGroupInfo (fun _ => some "service") (GroupManager.oneNodeGroup "group0" "node0"),
        .asyncNotifyBlockNumber "group0" "node0" 1] = some (_, _) := rfl
  refine ⟨_, _, rfl, rfl, registry_of_notified hrun hstep hrest ?_ ?_ ?_⟩
  · decide
  · decide
  · intro t e _
    constructor
    · change (⟨1, "127.0.0.1:20201"⟩ : WsSession) ≠ ⟨0, "127.0.0.1:20200"⟩
      decide
    intro t e _
    use trivial
    intro t e _
    exact ⟨trivial, trivial⟩

end RpcServer
