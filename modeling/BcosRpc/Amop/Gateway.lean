import BcosRpc.Amop.Client
import BcosRpc.Machine.Basic

/-!
# The topics the gateways know

The topics are broadcast to the active gateways when a session subscribes, and again by the
periodic ping once it has found no gateway active. A single flag stands for all gateways, so
the ping does not notice that one of them has left and come back while others stayed.
`GatewayState.informed_iff` says after which pings every active gateway knows all topics.
-/

open Std

/-- The client with the gateways: the endpoints that are active, the flag of the ping, and what
each endpoint was told last, if anything since it became active. -/
structure GatewayState extends AMOPClient where
  activeEndPoints : ExtTreeSet String := ∅
  gatewayActivated : Bool := true
  told : String → Option Json := fun _ => none

/-- An endpoint becomes active or inactive, a session subscribes, or the timer fires. -/
inductive GatewayAction where
  | activate (endPoint : String)
  | inactivate (endPoint : String)
  | onRecvSubTopics (topicInfo : String) (session : WsSession)
  | pingGatewayAndNotifyTopics

namespace GatewayState

/-- The state after `start`. -/
def start (client : AMOPClient) (activeEndPoints : ExtTreeSet String) : GatewayState where
  toAMOPClient := client
  activeEndPoints := activeEndPoints
  gatewayActivated := !activeEndPoints.isEmpty

/-- An endpoint that becomes active has been told nothing. -/
def activate (endPoint : String) (s : GatewayState) : GatewayState :=
  { s with activeEndPoints := s.activeEndPoints.insert endPoint }

/-- An endpoint that becomes inactive forgets what it was told. -/
def inactivate (endPoint : String) (s : GatewayState) : GatewayState :=
  { s with
    activeEndPoints := s.activeEndPoints.erase endPoint
    told := fun e => if e = endPoint then none else s.told e }

/-- The topics are broadcast to the active endpoints. -/
def subscribeTopicToAllNodes (s : GatewayState) : GatewayState :=
  { s with told := fun e => if e ∈ s.activeEndPoints then some s.generateTopicInfo else s.told e }

def onRecvSubTopics (parseSubTopicsJson : String → Option (List String)) (topicInfo : String)
    (session : WsSession) (s : GatewayState) : GatewayState :=
  let (client, ret) := s.updateTopicInfos parseSubTopicsJson topicInfo session
  if !ret then s else { s with toAMOPClient := client }.subscribeTopicToAllNodes

def pingGatewayAndNotifyTopics (s : GatewayState) : GatewayState :=
  if s.activeEndPoints.isEmpty then
    if s.gatewayActivated then { s with gatewayActivated := false } else s
  else if s.gatewayActivated then s
  else { s.subscribeTopicToAllNodes with gatewayActivated := true }

end GatewayState

open GatewayState in
/-- The client with the gateways as a machine. -/
def gatewayMachine (parseSubTopicsJson : String → Option (List String)) :
    Machine GatewayState GatewayAction Empty where
  step
    | s, .activate endPoint => some (s.activate endPoint, [])
    | s, .inactivate endPoint => some (s.inactivate endPoint, [])
    | s, .onRecvSubTopics topicInfo session =>
        some (s.onRecvSubTopics parseSubTopicsJson topicInfo session, [])
    | s, .pingGatewayAndNotifyTopics => some (s.pingGatewayAndNotifyTopics, [])

namespace GatewayState

/-! ### What the endpoints know -/

/-- The text of a broadcast lists a topic. -/
def Lists (topic : String) (topicInfo : Json) : Prop :=
  ∃ topicItems, topicInfo.find "topics" = some (.array topicItems) ∧ .string topic ∈ topicItems

theorem lists_generateTopicInfo_iff (topic : String) (s : AMOPClient) :
  Lists topic s.generateTopicInfo ↔ topic ∈ s.topicInfos
  := s.announced_iff_mem topic

/-- Every active endpoint knows all topics recorded. -/
def AllKnown (s : GatewayState) : Prop :=
  ∀ e ∈ s.activeEndPoints, ∀ topic ∈ s.topicInfos, ∃ topicInfo, s.told e = some topicInfo
    ∧ Lists topic topicInfo

/-- After a ping every active endpoint knows all topics. -/
def Informed (s : GatewayState) : GatewayAction → Prop
  | .pingGatewayAndNotifyTopics => s.pingGatewayAndNotifyTopics.AllKnown
  | _ => True

/-- When a ping finds the flag set and there are topics, every active endpoint has been active
during a broadcast since it became active. -/
def AllTold (s : GatewayState) : GatewayAction → Prop
  | .pingGatewayAndNotifyTopics => s.gatewayActivated = true →
      (∃ topic, topic ∈ s.topicInfos) → ∀ e ∈ s.activeEndPoints, s.told e ≠ none
  | _ => True

/-- An endpoint that was told something was told the topics recorded now, and is active. -/
structure UpToDate (s : GatewayState) : Prop where
  lists : ∀ e topicInfo, s.told e = some topicInfo →
    ∀ topic ∈ s.topicInfos, Lists topic topicInfo
  active : ∀ e, s.told e ≠ none → e ∈ s.activeEndPoints

theorem upToDate_start (client : AMOPClient) (activeEndPoints : ExtTreeSet String) :
  (start client activeEndPoints).UpToDate
  := by
  constructor
  · intro e topicInfo h
    cases h
  · intro e h
    apply absurd rfl h

/-- A broadcast brings every active endpoint up to date. -/
theorem subscribeTopicToAllNodes_spec {s : GatewayState}
    (hactive : ∀ e, s.told e ≠ none → e ∈ s.activeEndPoints) :
  s.subscribeTopicToAllNodes.UpToDate ∧ s.subscribeTopicToAllNodes.AllKnown
  := by
  have htold : ∀ e ∈ s.activeEndPoints,
      s.subscribeTopicToAllNodes.told e = some s.generateTopicInfo := fun e he => if_pos he
  have hidle : ∀ e ∉ s.activeEndPoints, s.subscribeTopicToAllNodes.told e = none := by
    intro e he
    rw [subscribeTopicToAllNodes]
    dsimp only
    rw [if_neg he]
    by_contra hne
    apply he (hactive e hne)
  refine ⟨⟨?_, ?_⟩, ?_⟩
  · intro e topicInfo h topic htopic
    by_cases he : e ∈ s.activeEndPoints
    · rw [htold e he] at h
      obtain rfl := Option.some.inj h
      apply (lists_generateTopicInfo_iff topic _).mpr htopic
    · rw [hidle e he] at h
      cases h
  · intro e h
    by_contra he
    apply h (hidle e he)
  · intro e he topic htopic
    exact ⟨_, htold e he, (lists_generateTopicInfo_iff topic _).mpr htopic⟩

theorem UpToDate.step {parseSubTopicsJson : String → Option (List String)} {s t : GatewayState}
    {a : GatewayAction} {o : List Empty} (h : s.UpToDate)
    (hstep : (gatewayMachine parseSubTopicsJson).step s a = some (t, o)) :
  t.UpToDate
  := by
  cases a with
  | activate endPoint =>
      obtain ⟨rfl, _⟩ := Prod.mk.inj (Option.some.inj hstep)
      constructor
      · apply h.lists
      · intro e he
        apply ExtTreeSet.mem_insert.mpr (Or.inr (h.active e he))
  | inactivate endPoint =>
      obtain ⟨rfl, _⟩ := Prod.mk.inj (Option.some.inj hstep)
      constructor
      · intro e topicInfo he
        apply h.lists e topicInfo (Option.ite_none_left_eq_some.mp he).2
      · intro e he
        have hne : e ≠ endPoint := by
          rintro rfl
          apply he (if_pos rfl)
        rw [inactivate] at he
        simp only [hne, if_false] at he
        apply ExtTreeSet.mem_erase.mpr
        rw [ne_eq, LawfulEqCmp.compare_eq_iff_eq]
        exact ⟨hne.symm, h.active e he⟩
  | onRecvSubTopics topicInfo session =>
      obtain ⟨rfl, _⟩ := Prod.mk.inj (Option.some.inj hstep)
      rw [onRecvSubTopics]
      dsimp only
      split
      · apply h
      · apply (subscribeTopicToAllNodes_spec _).1
        apply h.active
  | pingGatewayAndNotifyTopics =>
      obtain ⟨rfl, _⟩ := Prod.mk.inj (Option.some.inj hstep)
      rw [GatewayState.pingGatewayAndNotifyTopics]
      split
      · split
        · exact ⟨h.lists, h.active⟩
        · apply h
      · split
        · apply h
        · obtain ⟨hlists, hactive⟩ := (subscribeTopicToAllNodes_spec h.active).1
          exact ⟨hlists, hactive⟩

/-- A ping leaves every active endpoint informed exactly when it has to broadcast or every
active endpoint has been told the topics before. -/
theorem UpToDate.informed_step_iff {s : GatewayState} (h : s.UpToDate) (a : GatewayAction) :
  s.Informed a ↔ s.AllTold a
  := by
  cases a with
  | pingGatewayAndNotifyTopics =>
      rw [Informed, AllTold, GatewayState.pingGatewayAndNotifyTopics]
      split
      · rename_i hempty
        have hnone := (Table.isEmpty_iff_forall_not_mem _).mp hempty
        constructor
        · intro _ _ _ e he
          apply absurd he (hnone e)
        · intro _
          split
          · intro e he
            apply absurd he (hnone e)
          · intro e he
            apply absurd he (hnone e)
      · split
        · rename_i hflag
          constructor
          · rintro hknown _ ⟨topic, htopic⟩ e he hnone
            obtain ⟨_, htold, _⟩ := hknown e he topic htopic
            rw [hnone] at htold
            cases htold
          · intro htold e he topic htopic
            obtain ⟨topicInfo, hsome⟩ :=
              Option.ne_none_iff_exists'.mp (htold hflag ⟨topic, htopic⟩ e he)
            exact ⟨topicInfo, hsome, h.lists e topicInfo hsome topic htopic⟩
        · rename_i hflag
          constructor
          · intro _ htrue
            apply absurd htrue hflag
          · intro _
            apply (subscribeTopicToAllNodes_spec h.active).2
  | _ => exact Iff.rfl

/-- In a run from `start` every active endpoint knows all topics after each ping exactly when,
at each ping that finds the flag set while there are topics, every active endpoint has been
active during a broadcast since it became active. -/
theorem informed_iff (parseSubTopicsJson : String → Option (List String)) (client : AMOPClient)
    (activeEndPoints : ExtTreeSet String) (actions : List GatewayAction) :
  (gatewayMachine parseSubTopicsJson).Along (fun _ s a => s.Informed a) []
      (start client activeEndPoints) actions
    ↔ (gatewayMachine parseSubTopicsJson).Along (fun _ s a => s.AllTold a) []
      (start client activeEndPoints) actions
  := by
  have hstart := upToDate_start client activeEndPoints
  constructor
  · intro h
    apply h.imp (I := fun _ s => s.UpToDate) (fun hI _ hstep => hI.step hstep) _ hstart
    intro o s a t e hI hinformed _
    apply (hI.informed_step_iff a).mp hinformed
  · intro h
    apply h.imp (I := fun _ s => s.UpToDate) (fun hI _ hstep => hI.step hstep) _ hstart
    intro o s a t e hI htold _
    apply (hI.informed_step_iff a).mpr htold

/-! ### An endpoint that comes back -/

/-- An endpoint that becomes active again was seen inactive by a ping; `unseen` are the ones
that became inactive since the last ping. -/
def DropsSeen : List String → List GatewayAction → Prop
  | _, [] => True
  | unseen, .activate endPoint :: actions => endPoint ∉ unseen ∧ DropsSeen unseen actions
  | unseen, .inactivate endPoint :: actions => DropsSeen (endPoint :: unseen) actions
  | unseen, .onRecvSubTopics _ _ :: actions => DropsSeen unseen actions
  | _, .pingGatewayAndNotifyTopics :: actions => DropsSeen [] actions

/-- One of two endpoints leaves, a ping sees it, and it comes back. -/
def endPointReturns : List GatewayAction :=
  [.onRecvSubTopics "" ⟨0, "127.0.0.1:1"⟩, .inactivate "gateway1", .pingGatewayAndNotifyTopics,
    .activate "gateway1", .pingGatewayAndNotifyTopics]

/-- The endpoint that came back in `endPointReturns` does not know the topic. -/
theorem informed_counterexample :
  ¬ ∀ (parseSubTopicsJson : String → Option (List String)) (client : AMOPClient)
      (activeEndPoints : ExtTreeSet String) (actions : List GatewayAction),
    DropsSeen [] actions →
      (gatewayMachine parseSubTopicsJson).Along (fun _ s a => s.Informed a) []
        (start client activeEndPoints) actions
  := by
  intro h
  have hall := h (fun _ => some ["topic"]) {} (ExtTreeSet.ofList ["gateway0", "gateway1"])
    endPointReturns (by simp [endPointReturns, DropsSeen])
  obtain ⟨-, hdrop⟩ := hall _ _ rfl
  obtain ⟨-, hseen⟩ := hdrop _ _ rfl
  obtain ⟨-, hback⟩ := hseen _ _ rfl
  obtain ⟨-, hping⟩ := hback _ _ rfl
  obtain ⟨hknown, -⟩ := hping _ _ rfl
  obtain ⟨topicInfo, htold, -⟩ := hknown "gateway1" (by decide) "topic" (by decide)
  have hnone : none = some topicInfo := htold
  cases hnone

end GatewayState
