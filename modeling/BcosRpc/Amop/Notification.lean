import BcosRpc.Amop.Relay

/-!
# Notifications of the gateway

A notification goes to one session that subscribes to its topic, whose answer goes back to the
gateway. `notification_relayed` says what is sent for each notification of a run, and what the
gateway is called back with, whatever happens before the answer comes.
-/

open Std

/-- The messages sent for a notification, with a callback. -/
def requestsOf (notification : Nat) (o : List RelayOutput) : List (WsSession × WsMessage) :=
  o.filterMap fun
    | .request notification' session message =>
        if notification' = notification then some (session, message) else none
    | _ => none

/-- What the callback of a notification is called with. -/
def callbacksOf (notification : Nat) (o : List RelayOutput) :
    List (Option Error × Option Bytes) :=
  o.filterMap fun
    | .callback notification' error responseData =>
        if notification' = notification then some (error, responseData) else none
    | _ => none

@[simp]
theorem requestsOf_append (notification : Nat) (o o' : List RelayOutput) :
  requestsOf notification (o ++ o') = requestsOf notification o ++ requestsOf notification o'
  := List.filterMap_append

@[simp]
theorem callbacksOf_append (notification : Nat) (o o' : List RelayOutput) :
  callbacksOf notification (o ++ o') = callbacksOf notification o ++ callbacksOf notification o'
  := List.filterMap_append

namespace RelayState

variable (parseSubTopicsJson : String → Option (List String)) (codec : AmopCodec) (notFound : Int)

/-- An action is a notification of the gateway. -/
def isNotification : RelayAction → Bool
  | .asyncNotifyAMOPMessage .. => true
  | _ => false

/-- How a notification is relayed, after some actions and before others: a message is sent to one
session that subscribes to the topic, whose answer, once it comes, is what the gateway is called
back with; without such a session the gateway is called back with the error. A broadcast is called
back at once, and a notification of an unknown type not at all. -/
def Relayed (before after : List RelayAction) (topic : String) (data : Bytes)
    (requests : List (WsSession × WsMessage)) (callbacks : List (Option Error × Option Bytes))
    (waiting : Bool) : AMOPNotifyMessageType → Prop
  | .Unicast =>
      (∃ session, sessionOf parseSubTopicsJson topic before session.endPoint = some session
        ∧ requests = [(session, { type := AMOPClientMessageType.AMOP_REQUEST, data := data })]
        ∧ (waiting = true ∧ callbacks = [] ∨ waiting = false ∧ ∃ answer,
          .onAnswer (before.countP isNotification) answer ∈ after
            ∧ callbacks = [(answer.error, some (answer.responseMsg.elim [] codec.encode))]))
      ∨ (∀ endPoint, sessionOf parseSubTopicsJson topic before endPoint = none)
        ∧ requests = [] ∧ waiting = false
        ∧ callbacks = [(some ⟨notFound, "NotFoundClientByTopicDispatchMsg"⟩, some (codec.encode
          { status := notFound, type := AMOPClientMessageType.AMOP_RESPONSE }))]
  | .Broadcast => requests = [] ∧ waiting = false ∧ callbacks = [(none, none)]
  | .unknown _ => requests = [] ∧ waiting = false ∧ callbacks = []

variable {codec} {notFound} {parseSubTopicsJson}

theorem notifications_step {s t : RelayState} {a : RelayAction} {o : List RelayOutput}
    (hstep : (relayMachine codec notFound parseSubTopicsJson).step s a = some (t, o)) :
  t.notifications = s.notifications + [a].countP isNotification
  := by
  cases a with
  | topics action =>
      obtain ⟨⟨u, removed⟩, _, heq⟩ := Option.map_eq_some_iff.mp hstep
      obtain ⟨rfl, _⟩ := Prod.mk.inj heq
      rfl
  | onRecvAMOPBroadcast message =>
      obtain ⟨rfl, _⟩ := Prod.mk.inj (Option.some.inj hstep)
      rfl
  | asyncNotifyAMOPMessage type topic data isConnected rand =>
      rw [← (Prod.mk.inj (Option.some.inj hstep)).1]
      rfl
  | onAnswer notification answer =>
      obtain ⟨_, heq⟩ := Option.ite_none_right_eq_some.mp hstep
      obtain ⟨rfl, _⟩ := Prod.mk.inj (Option.some.inj heq)
      rfl

/-- Nothing is sent or called back for a notification, and it waits if it did. -/
structure Silent (n : Nat) (s t : RelayState) (o : List RelayOutput) : Prop where
  requests : requestsOf n o = []
  callbacks : callbacksOf n o = []
  waiting : n ∈ t.waiting ↔ n ∈ s.waiting

theorem silent_broadcast (n : Nat) (s : RelayState) (topic : String) (message : WsMessage) :
  Silent n s s (s.broadcastAMOPMessage topic message)
  := by
  constructor
  · rw [requestsOf, broadcastAMOPMessage, List.filterMap_map]
    apply List.filterMap_eq_nil_iff.mpr
    intro session _
    rfl
  · rw [callbacksOf, broadcastAMOPMessage, List.filterMap_map]
    apply List.filterMap_eq_nil_iff.mpr
    intro session _
    rfl
  · rfl

/-- Only the notification itself and its answer concern a notification. -/
theorem silent_step {n : Nat} {s t : RelayState} {a : RelayAction} {o : List RelayOutput}
    (hstep : (relayMachine codec notFound parseSubTopicsJson).step s a = some (t, o))
    (hnotify : isNotification a = true → n ≠ s.notifications)
    (hanswer : ∀ answer, a ≠ .onAnswer n answer) :
  Silent n s t o
  := by
  cases a with
  | topics action =>
      obtain ⟨⟨u, removed⟩, _, heq⟩ := Option.map_eq_some_iff.mp hstep
      obtain ⟨rfl, rfl⟩ := Prod.mk.inj heq
      constructor
      · rw [requestsOf, List.filterMap_map]
        apply List.filterMap_eq_nil_iff.mpr
        intro topics _
        rfl
      · rw [callbacksOf, List.filterMap_map]
        apply List.filterMap_eq_nil_iff.mpr
        intro topics _
        rfl
      · rfl
  | onRecvAMOPBroadcast message =>
      obtain ⟨rfl, rfl⟩ := Prod.mk.inj (Option.some.inj hstep)
      have hsilent := silent_broadcast n s (codec.buildRequest message.data) message
      constructor
      · rw [onRecvAMOPBroadcast, requestsOf_append, hsilent.requests]
        rfl
      · rw [onRecvAMOPBroadcast, callbacksOf_append, hsilent.callbacks]
        rfl
      · rfl
  | asyncNotifyAMOPMessage type topic data isConnected rand =>
      have hne := hnotify rfl
      cases type with
      | Unicast =>
          have ht : { (s.asyncNotifyAMOPUnicastMessage codec notFound isConnected rand topic
              data).1 with notifications := s.notifications + 1 } = t :=
            (Prod.mk.inj (Option.some.inj hstep)).1
          have ho : (s.asyncNotifyAMOPUnicastMessage codec notFound isConnected rand topic data).2
              = o := (Prod.mk.inj (Option.some.inj hstep)).2
          rw [asyncNotifyAMOPUnicastMessage] at ht ho
          cases hchosen : s.randomChooseSession isConnected rand topic with
          | none =>
              simp only [hchosen] at ht ho
              subst ht ho
              constructor <;> simp [requestsOf, callbacksOf, hne.symm]
          | some session =>
              simp only [hchosen] at ht ho
              subst ht ho
              constructor <;> simp [requestsOf, callbacksOf, hne, hne.symm]
      | Broadcast =>
          obtain ⟨rfl, rfl⟩ := Prod.mk.inj (Option.some.inj hstep)
          have hsilent := silent_broadcast n s topic
            { type := AMOPClientMessageType.AMOP_BROADCAST, data := data }
          constructor
          · rw [asyncNotifyAMOPBroadcastMessage, requestsOf_append, hsilent.requests]
            rfl
          · rw [asyncNotifyAMOPBroadcastMessage, callbacksOf_append, hsilent.callbacks]
            simp [callbacksOf, hne.symm]
          · rfl
      | unknown type =>
          obtain ⟨rfl, rfl⟩ := Prod.mk.inj (Option.some.inj hstep)
          exact ⟨rfl, rfl, Iff.rfl⟩
  | onAnswer notification answer =>
      have hne : notification ≠ n := by
        rintro rfl
        apply hanswer answer rfl
      obtain ⟨_, heq⟩ := Option.ite_none_right_eq_some.mp hstep
      obtain ⟨rfl, rfl⟩ := Prod.mk.inj (Option.some.inj heq)
      constructor <;> simp [requestsOf, callbacksOf, hne, hne.symm]

/-- Notifications yet to come have no request, no callback and no answer to wait for. -/
def Unmentioned (o : List RelayOutput) (s : RelayState) : Prop :=
  ∀ n, s.notifications ≤ n → requestsOf n o = [] ∧ callbacksOf n o = [] ∧ n ∉ s.waiting

theorem Unmentioned.step {s t : RelayState} {a : RelayAction} {o e : List RelayOutput}
    (h : Unmentioned o s)
    (hstep : (relayMachine codec notFound parseSubTopicsJson).step s a = some (t, e)) :
  Unmentioned (o ++ e) t
  := by
  intro n hn
  have hnotifications := notifications_step hstep
  have hle : s.notifications ≤ n := by
    apply Nat.le_trans _ hn
    rw [hnotifications]
    apply Nat.le_add_right
  obtain ⟨hrequests, hcallbacks, hwaiting⟩ := h n hle
  have hsilent : Silent n s t e := by
    apply silent_step hstep
    · rintro hnotify rfl
      rw [List.countP_singleton, if_pos hnotify] at hnotifications
      omega
    · rintro answer rfl
      obtain ⟨hmem, _⟩ := Option.ite_none_right_eq_some.mp hstep
      apply hwaiting hmem
  rw [requestsOf_append, hrequests, hsilent.requests, callbacksOf_append, hcallbacks,
    hsilent.callbacks, hsilent.waiting]
  exact ⟨rfl, rfl, hwaiting⟩

/-- A session is found for a topic exactly when some endpoint has one in the table. -/
theorem hasSession_iff (s : AMOPClient) (topic : String) :
  s.HasSession topic ↔ ∃ endPoint session, sessionAt s topic endPoint = some session
  := by
  simp only [sessionAt_eq_some_iff, AMOPClient.HasSession, AMOPClient.Lists,
    Table.size_ne_zero_iff, ExtTreeMap.mem_iff_isSome_getElem?, Option.isSome_iff_exists]
  constructor
  · rintro ⟨sessions, hsessions, endPoint, session, hsession⟩
    exact ⟨endPoint, session, sessions, hsessions, hsession⟩
  · rintro ⟨endPoint, session, sessions, hsessions, hsession⟩
    exact ⟨sessions, hsessions, endPoint, session, hsession⟩

/-- A notification is relayed, and its answer is still to come. -/
theorem relayed_notify {s t : RelayState} {before : List RelayAction} {o e : List RelayOutput}
    {type : AMOPNotifyMessageType} {topic : String} {data : Bytes}
    {isConnected : WsSession → Bool} {rand : Nat → Nat} (hfresh : Unmentioned o s)
    (hsessions : ∀ endPoint, sessionAt s.toAMOPClient topic endPoint
      = sessionOf parseSubTopicsJson topic before endPoint)
    (hstep : (relayMachine codec notFound parseSubTopicsJson).step s
      (.asyncNotifyAMOPMessage type topic data isConnected rand) = some (t, e)) :
  Relayed parseSubTopicsJson codec notFound before [] topic data
    (requestsOf s.notifications (o ++ e)) (callbacksOf s.notifications (o ++ e))
    (decide (s.notifications ∈ t.waiting)) type
  := by
  obtain ⟨hrequests, hcallbacks, hwaiting⟩ := hfresh s.notifications (Nat.le_refl _)
  rw [requestsOf_append, hrequests, callbacksOf_append, hcallbacks, List.nil_append,
    List.nil_append]
  cases type with
  | Unicast =>
      have ht : { (s.asyncNotifyAMOPUnicastMessage codec notFound isConnected rand topic
          data).1 with notifications := s.notifications + 1 } = t :=
        (Prod.mk.inj (Option.some.inj hstep)).1
      have he : (s.asyncNotifyAMOPUnicastMessage codec notFound isConnected rand topic data).2
          = e := (Prod.mk.inj (Option.some.inj hstep)).2
      rw [asyncNotifyAMOPUnicastMessage] at ht he
      cases hchosen : s.randomChooseSession isConnected rand topic with
      | none =>
          simp only [hchosen] at ht he
          subst ht he
          right
          refine ⟨?_, ?_, decide_eq_false hwaiting, ?_⟩
          · intro endPoint
            rw [← hsessions, Option.eq_none_iff_forall_ne_some]
            intro session hsession
            apply (AMOPClient.randomChooseSession_eq_none_iff _ _ _ _).mp hchosen
            apply (hasSession_iff _ _).mpr ⟨endPoint, session, hsession⟩
          · rfl
          · simp [callbacksOf]
      | some session =>
          simp only [hchosen] at ht he
          subst ht he
          left
          obtain ⟨endPoint, hlists⟩ := AMOPClient.subscribes_of_choose hchosen
          have hsession := (hsessions endPoint).symm.trans (sessionAt_eq_some_iff.mpr hlists)
          refine ⟨session, ?_, ?_, Or.inl ⟨?_, rfl⟩⟩
          · rwa [endPoint_of_sessionOf hsession]
          · simp [requestsOf]
          · simp
  | Broadcast =>
      obtain ⟨rfl, rfl⟩ := Prod.mk.inj (Option.some.inj hstep)
      have hsilent := silent_broadcast s.notifications s topic
        { type := AMOPClientMessageType.AMOP_BROADCAST, data := data }
      refine ⟨?_, decide_eq_false hwaiting, ?_⟩
      · rw [asyncNotifyAMOPBroadcastMessage, requestsOf_append, hsilent.requests]
        rfl
      · rw [asyncNotifyAMOPBroadcastMessage, callbacksOf_append, hsilent.callbacks]
        simp [callbacksOf]
  | unknown type =>
      obtain ⟨rfl, rfl⟩ := Prod.mk.inj (Option.some.inj hstep)
      exact ⟨rfl, decide_eq_false hwaiting, rfl⟩

/-- Later actions keep a notification relayed. -/
theorem Relayed.step {s t : RelayState} {before after : List RelayAction} {a : RelayAction}
    {o e : List RelayOutput} {type : AMOPNotifyMessageType} {topic : String} {data : Bytes}
    (h : Relayed parseSubTopicsJson codec notFound before after topic data
      (requestsOf (before.countP isNotification) o) (callbacksOf (before.countP isNotification) o)
      (decide (before.countP isNotification ∈ s.waiting)) type)
    (hlater : before.countP isNotification < s.notifications)
    (hstep : (relayMachine codec notFound parseSubTopicsJson).step s a = some (t, e)) :
  Relayed parseSubTopicsJson codec notFound before (after ++ [a]) topic data
    (requestsOf (before.countP isNotification) (o ++ e))
    (callbacksOf (before.countP isNotification) (o ++ e))
    (decide (before.countP isNotification ∈ t.waiting)) type
  := by
  rw [requestsOf_append, callbacksOf_append]
  by_cases hanswer : ∃ answer, a = .onAnswer (before.countP isNotification) answer
  · obtain ⟨answer, rfl⟩ := hanswer
    obtain ⟨hmem, heq⟩ := Option.ite_none_right_eq_some.mp hstep
    obtain ⟨rfl, rfl⟩ := Prod.mk.inj (Option.some.inj heq)
    rw [decide_eq_true hmem] at h
    cases type with
    | Unicast =>
        rcases h with ⟨session, hsession, hrequests, hwaits | hdone⟩ | hnone
        · left
          refine ⟨session, hsession, ?_, Or.inr ⟨?_, answer, List.mem_concat_self, ?_⟩⟩
          · rw [hrequests]
            rfl
          · simp
          · rw [hwaits.2]
            simp [callbacksOf]
        · cases hdone.1
        · cases hnone.2.2.1
    | Broadcast => cases h.2.1
    | unknown type => cases h.2.1
  · have hsilent : Silent (before.countP isNotification) s t e := by
      apply silent_step hstep
      · intro _
        apply Nat.ne_of_lt hlater
      · intro answer heq
        apply hanswer ⟨answer, heq⟩
    rw [hsilent.requests, hsilent.callbacks, List.append_nil, List.append_nil,
      decide_eq_decide.mpr hsilent.waiting]
    cases type with
    | Unicast =>
        rcases h with ⟨session, hsession, hrequests, hwaits | hdone⟩ | hnone
        · apply Or.inl ⟨session, hsession, hrequests, Or.inl hwaits⟩
        · obtain ⟨hanswered, answer, hmem, hcallback⟩ := hdone
          apply Or.inl ⟨session, hsession, hrequests,
            Or.inr ⟨hanswered, answer, List.mem_append_left _ hmem, hcallback⟩⟩
        · apply Or.inr hnone
    | Broadcast => exact h
    | unknown type => exact h

/-- In every order of subscriptions, disconnects and messages, a notification of the gateway is
relayed to one session that subscribes to its topic at the time, if there is one, and called back
once, with the answer of that session or with the error; one of an unknown type never is. -/
theorem notification_relayed {s : RelayState} {before after : List RelayAction}
    {o : List RelayOutput} {type : AMOPNotifyMessageType} {topic : String} {data : Bytes}
    {isConnected : WsSession → Bool} {rand : Nat → Nat}
    (hrun : (relayMachine codec notFound parseSubTopicsJson).run {}
      (before ++ .asyncNotifyAMOPMessage type topic data isConnected rand :: after)
        = some (s, o)) :
  Relayed parseSubTopicsJson codec notFound before after topic data
    (requestsOf (before.countP isNotification) o) (callbacksOf (before.countP isNotification) o)
    (decide (before.countP isNotification ∈ s.waiting)) type
  := by
  obtain ⟨t, o', e, hbefore, hrest, rfl⟩ := (Machine.run_append _).mp hrun
  obtain ⟨u, e', o'', hstep, hafter, rfl⟩ := (Machine.run_cons _).mp hrest
  have hstart := Machine.run_history
    (I := fun history o s => Unmentioned o s
      ∧ s.notifications = history.countP isNotification) (by
      rintro history o s a t e ⟨hfresh, hcount⟩ hstep
      use hfresh.step hstep
      rw [notifications_step hstep, hcount, List.countP_append])
    ⟨fun _ _ => ⟨rfl, rfl, List.not_mem_nil⟩, rfl⟩ hbefore
  obtain ⟨hfresh, hcount⟩ := hstart
  have hrelayed := relayed_notify hfresh (sessionAt_run hbefore topic) hstep
  have hnotifications := notifications_step hstep
  rw [hcount] at hrelayed hnotifications
  have hlast := Machine.run_history
    (I := fun after o s => before.countP isNotification < s.notifications
      ∧ Relayed parseSubTopicsJson codec notFound before after topic data
        (requestsOf (before.countP isNotification) (o' ++ e' ++ o))
        (callbacksOf (before.countP isNotification) (o' ++ e' ++ o))
        (decide (before.countP isNotification ∈ s.waiting)) type) (by
      rintro after o s a t e ⟨hlater, hrelayed⟩ hstep
      constructor
      · rw [notifications_step hstep]
        apply Nat.lt_add_right _ hlater
      · rw [← List.append_assoc]
        apply hrelayed.step hlater hstep)
    ⟨hnotifications ▸ Nat.lt_succ_self _, by rwa [List.append_nil]⟩ hafter
  rw [← List.append_assoc]
  apply hlast.2

/-- A notification reaches the session that is left, and its answer the gateway. -/
def sessionAnswers : List RelayAction :=
  [.onAnswer 0 ⟨none, none⟩, .topics (.disconnect ⟨0, "127.0.0.1:1"⟩)]

theorem notification_relayed_answers :
  ∃ s o, (relayMachine oneTopic 0 fun _ => some ["topic"]).run {}
      ([.topics (.subscribe "" ⟨0, "127.0.0.1:1"⟩)]
        ++ .asyncNotifyAMOPMessage .Unicast "topic" [2] (fun _ => true) (fun _ => 0)
          :: sessionAnswers) = some (s, o)
    ∧ Relayed (fun _ => some ["topic"]) oneTopic 0 [.topics (.subscribe "" ⟨0, "127.0.0.1:1"⟩)]
      sessionAnswers "topic" [2] (requestsOf 0 o) (callbacksOf 0 o) (decide (0 ∈ s.waiting))
      .Unicast
  := by
  have hsome : ((relayMachine oneTopic 0 fun _ => some ["topic"]).run {}
      ([.topics (.subscribe "" ⟨0, "127.0.0.1:1"⟩)]
        ++ .asyncNotifyAMOPMessage .Unicast "topic" [2] (fun _ => true) (fun _ => 0)
          :: sessionAnswers)).isSome := by
    decide
  obtain ⟨⟨s, o⟩, hrun⟩ := Option.isSome_iff_exists.mp hsome
  exact ⟨s, o, hrun, notification_relayed hrun⟩

end RelayState
