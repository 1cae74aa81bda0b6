import BcosRpc.Amop.Choice
import BcosRpc.Common.Replica
import Mathlib.Data.List.Nodup

/-!
# Messages to the subscribers

The module relays messages to the sessions that subscribe to a topic: a broadcast, of a client or
of the gateway, goes to all of them, and a message of the gateway to one of them, whose answer
goes back to the gateway. `relayMachine` interleaves the messages with the subscriptions and the
disconnects. What a session is sent depends only on the subscriptions and disconnects that come
before: `broadcastsTo_eq_deliveries`.
-/

open Std

/-- The type of a notification of the gateway. -/
inductive AMOPNotifyMessageType where
  | Unicast
  | Broadcast
  | unknown (type : Int)
  deriving DecidableEq, Repr

def AMOPClientMessageType.AMOP_BROADCAST : Nat := 0x112

/-- The tables, with the number of notifications so far and those whose message a session has not
answered yet. -/
structure RelayState extends TopicState where
  notifications : Nat := 0
  waiting : List Nat := []

/-- A subscription or a disconnect, a broadcast of a client, a notification of the gateway, with
the sessions that are connected and the values drawn to choose one, or the answer of the session
chosen for a notification. -/
inductive RelayAction where
  | topics (action : TopicAction)
  | onRecvAMOPBroadcast (message : WsMessage)
  | asyncNotifyAMOPMessage (type : AMOPNotifyMessageType) (topic : String) (data : Bytes)
      (isConnected : WsSession → Bool) (rand : Nat → Nat)
  | onAnswer (notification : Nat) (answer : ClientAnswer)

/-- Topics are removed from all nodes; a message is sent to a session, without or with a callback;
a broadcast is passed to the gateway; the callback of a notification is called. -/
inductive RelayOutput where
  | removeTopicFromAllNodes (topics : List String)
  | broadcast (session : WsSession) (message : WsMessage)
  | request (notification : Nat) (session : WsSession) (message : WsMessage)
  | asyncSendBroadbastMessageByTopic (topic : String) (data : Bytes)
  | callback (notification : Nat) (error : Option Error) (responseData : Option Bytes)

/-- The sessions that subscribe to a topic, by endpoint. -/
def AMOPClient.querySessionsByTopic (s : AMOPClient) (topic : String) :
    ExtTreeMap String WsSession :=
  match s.topicToSessions[topic]? with
  | some sessions => sessions
  | none => ∅

namespace RelayState

/-- Send a message to all sessions that subscribe to a topic. -/
def broadcastAMOPMessage (topic : String) (message : WsMessage) (s : RelayState) :
    List RelayOutput :=
  (s.querySessionsByTopic topic).toList.map fun session => .broadcast session.2 message

/-- A broadcast of a client goes to the local sessions, and to the gateway. -/
def onRecvAMOPBroadcast (codec : AmopCodec) (message : WsMessage) (s : RelayState) :
    List RelayOutput :=
  let topic := codec.buildRequest message.data
  s.broadcastAMOPMessage topic message ++ [.asyncSendBroadbastMessageByTopic topic message.data]

/-- A broadcast of the gateway goes to the local sessions. -/
def asyncNotifyAMOPBroadcastMessage (topic : String) (data : Bytes) (s : RelayState) :
    List RelayOutput :=
  s.broadcastAMOPMessage topic { type := AMOPClientMessageType.AMOP_BROADCAST, data := data }
    ++ [.callback s.notifications none none]

/-- A message of the gateway goes to one local session. The error code is a constant of the
framework. -/
def asyncNotifyAMOPUnicastMessage (codec : AmopCodec) (notFoundClientByTopicDispatchMsg : Int)
    (isConnected : WsSession → Bool) (rand : Nat → Nat) (topic : String)
    (amopRequestData : Bytes) (s : RelayState) : RelayState × List RelayOutput :=
  match s.randomChooseSession isConnected rand topic with
  | none =>
      let responseMessage : WsMessage :=
        { status := notFoundClientByTopicDispatchMsg, type := AMOPClientMessageType.AMOP_RESPONSE }
      (s, [.callback s.notifications
        (some ⟨notFoundClientByTopicDispatchMsg, "NotFoundClientByTopicDispatchMsg"⟩)
        (some (codec.encode responseMessage))])
  | some clientSession =>
      ({ s with waiting := s.waiting ++ [s.notifications] },
        [.request s.notifications clientSession
          { type := AMOPClientMessageType.AMOP_REQUEST, data := amopRequestData }])

/-- A notification is dispatched on its type. Nothing is done when the type is unknown. -/
def asyncNotifyAMOPMessage (codec : AmopCodec) (notFoundClientByTopicDispatchMsg : Int)
    (type : AMOPNotifyMessageType) (topic : String) (data : Bytes)
    (isConnected : WsSession → Bool) (rand : Nat → Nat) (s : RelayState) :
    RelayState × List RelayOutput :=
  let (t, o) := match type with
    | .Unicast =>
        s.asyncNotifyAMOPUnicastMessage codec notFoundClientByTopicDispatchMsg isConnected rand
          topic data
    | .Broadcast => (s, s.asyncNotifyAMOPBroadcastMessage topic data)
    | .unknown _ => (s, [])
  ({ t with notifications := s.notifications + 1 }, o)

/-- The callback of `sendMessageToClient`. -/
def onAnswer (codec : AmopCodec) (notification : Nat) (answer : ClientAnswer) (s : RelayState) :
    RelayState × List RelayOutput :=
  ({ s with waiting := s.waiting.filter (· ≠ notification) },
    [.callback notification answer.error (some (answer.responseMsg.elim [] codec.encode))])

end RelayState

/-- The subscriptions, the disconnects and the messages in any order. -/
def relayMachine (codec : AmopCodec) (notFoundClientByTopicDispatchMsg : Int)
    (parseSubTopicsJson : String → Option (List String)) :
    Machine RelayState RelayAction RelayOutput where
  step
    | s, .topics action =>
        ((topicMachine parseSubTopicsJson).step s.toTopicState action).map fun r =>
          ({ s with toTopicState := r.1 }, r.2.map .removeTopicFromAllNodes)
    | s, .onRecvAMOPBroadcast message => some (s, s.onRecvAMOPBroadcast codec message)
    | s, .asyncNotifyAMOPMessage type topic data isConnected rand =>
        some (s.asyncNotifyAMOPMessage codec notFoundClientByTopicDispatchMsg type topic data
          isConnected rand)
    | s, .onAnswer notification answer =>
        if notification ∈ s.waiting then some (s.onAnswer codec notification answer) else none

/-! ### What the sessions get -/

/-- The broadcasts that a session is sent. -/
def broadcastsTo (session : WsSession) (o : List RelayOutput) : List WsMessage :=
  o.filterMap fun
    | .broadcast session' message => if session' = session then some message else none
    | _ => none

@[simp]
theorem broadcastsTo_append (session : WsSession) (o o' : List RelayOutput) :
  broadcastsTo session (o ++ o') = broadcastsTo session o ++ broadcastsTo session o'
  := List.filterMap_append

namespace RelayState

/-! ### The subscriptions so far -/

variable (parseSubTopicsJson : String → Option (List String))

/-- What an action enters for a topic: a session under its endpoint, or none. -/
def subscriptionWrites (topic : String) : RelayAction → List (String × Option WsSession)
  | .topics (.subscribe topicInfo session) =>
      if topic ∈ (parseSubTopicsJson topicInfo).getD [] then [(session.endPoint, some session)]
      else []
  | .topics (.disconnect session) => [(session.endPoint, none)]
  | _ => []

/-- The session of an endpoint that subscribes to a topic after some actions: the one that
subscribed last, unless a session of the endpoint has disconnected since. -/
def sessionOf (topic : String) (history : List RelayAction) (endPoint : String) :
    Option WsSession :=
  (lastWrite (history.flatMap (subscriptionWrites parseSubTopicsJson topic)) endPoint).join

/-- The session that the table has for a topic under an endpoint. -/
def sessionAt (s : AMOPClient) (topic endPoint : String) : Option WsSession :=
  s.topicToSessions[topic]?.bind fun sessions => sessions[endPoint]?

theorem sessionAt_eq_some_iff {s : AMOPClient} {topic endPoint : String} {session : WsSession} :
  sessionAt s topic endPoint = some session ↔ s.Lists topic endPoint session
  := Option.bind_eq_some_iff

theorem getElem?_querySessionsByTopic (s : AMOPClient) (topic endPoint : String) :
  (s.querySessionsByTopic topic)[endPoint]? = sessionAt s topic endPoint
  := by
  rw [AMOPClient.querySessionsByTopic, sessionAt]
  cases s.topicToSessions[topic]? with
  | none => simp
  | some sessions => rfl

/-- The first step of a subscription enters the session under its topics. -/
theorem sessionAt_updateSessions (session : WsSession) (topicItems : List String)
    (s : AMOPClient) (topic endPoint : String) :
  sessionAt (s.updateSessions topicItems session) topic endPoint
    = if topic ∈ topicItems ∧ endPoint = session.endPoint then some session
      else sessionAt s topic endPoint
  := by
  rw [sessionAt, AMOPClient.updateSessions, sessionAt]
  dsimp only
  generalize s.topicToSessions = topicToSessions
  induction topicItems generalizing topicToSessions with
  | nil => simp
  | cons item topicItems ih =>
      rw [List.foldl_cons, ih, AMOPClient.addSession]
      by_cases hitem : item = topic
      · subst hitem
        by_cases hend : session.endPoint = endPoint
        · simp [hend]
        · cases htopic : topicToSessions[item]? with
          | none => simp [ExtTreeMap.getD_eq_getD_getElem?, htopic, hend, Ne.symm hend]
          | some sessions => simp [ExtTreeMap.getElem?_insert, ExtTreeMap.getD_eq_getD_getElem?,
              htopic, hend, Ne.symm hend]
      · simp [ExtTreeMap.getElem?_insert, hitem, Ne.symm hitem]

theorem sessionAt_onClientDisconnect (session : WsSession) (s : AMOPClient)
    (topic endPoint : String) :
  sessionAt (s.onClientDisconnect session).1 topic endPoint
    = if endPoint = session.endPoint then none else sessionAt s topic endPoint
  := by
  apply Option.ext
  intro other
  rw [sessionAt_eq_some_iff, AMOPClient.lists_onClientDisconnect_iff]
  split
  · rename_i heq
    simp [heq]
  · rename_i hne
    rw [sessionAt_eq_some_iff, and_iff_right hne]

theorem sessionAt_recordTopicInfo (topicItems : List String) (topicInfo : String)
    (s : AMOPClient) :
  sessionAt (s.recordTopicInfo topicItems topicInfo) = sessionAt s
  := by
  cases topicItems <;> rfl

theorem topicToSessions_notify (codec : AmopCodec) (notFound : Int)
    (type : AMOPNotifyMessageType) (topic : String) (data : Bytes)
    (isConnected : WsSession → Bool) (rand : Nat → Nat) (s : RelayState) :
  (s.asyncNotifyAMOPMessage codec notFound type topic data isConnected rand).1.toTopicState
    = s.toTopicState
  := by
  cases type with
  | Unicast =>
      rw [asyncNotifyAMOPMessage, asyncNotifyAMOPUnicastMessage]
      cases s.randomChooseSession isConnected rand topic <;> rfl
  | _ => rfl

variable {parseSubTopicsJson} {codec : AmopCodec} {notFound : Int}

/-- A step changes the table of a topic by what its action enters. -/
theorem follows_step {s t : RelayState} {a : RelayAction} {o : List RelayOutput} (topic : String)
    (hstep : (relayMachine codec notFound parseSubTopicsJson).step s a = some (t, o)) :
  Follows (subscriptionWrites parseSubTopicsJson topic a)
    (fun endPoint => some (sessionAt s.toAMOPClient topic endPoint))
    (fun endPoint => some (sessionAt t.toAMOPClient topic endPoint))
  := by
  have hidle : ∀ {t : RelayState}, t.toAMOPClient = s.toAMOPClient →
      Follows [] (fun endPoint => some (sessionAt s.toAMOPClient topic endPoint))
        (fun endPoint => some (sessionAt t.toAMOPClient topic endPoint)) := by
    intro t heq
    rw [heq]
    apply Follows.refl
  cases a with
  | onRecvAMOPBroadcast message =>
      obtain ⟨rfl, _⟩ := Prod.mk.inj (Option.some.inj hstep)
      apply hidle rfl
  | asyncNotifyAMOPMessage type topic' data isConnected rand =>
      have ht := (Prod.mk.inj (Option.some.inj hstep)).1
      apply hidle
      rw [← ht]
      apply congrArg TopicState.toAMOPClient (topicToSessions_notify ..)
  | onAnswer notification answer =>
      obtain ⟨_, heq⟩ := Option.ite_none_right_eq_some.mp hstep
      obtain ⟨rfl, _⟩ := Prod.mk.inj (Option.some.inj heq)
      apply hidle rfl
  | topics action =>
      obtain ⟨⟨u, removed⟩, hu, heq⟩ := Option.map_eq_some_iff.mp hstep
      obtain ⟨rfl, _⟩ := Prod.mk.inj heq
      cases action with
      | subscribe topicInfo session =>
          simp only [topicMachine] at hu
          cases hparse : parseSubTopicsJson topicInfo with
          | none =>
              rw [hparse] at hu
              obtain ⟨rfl, _⟩ := Prod.mk.inj (Option.some.inj hu)
              simp only [subscriptionWrites, hparse, Option.getD_none, List.not_mem_nil, if_false]
              apply hidle rfl
          | some topicItems =>
              rw [hparse] at hu
              obtain ⟨rfl, _⟩ := Prod.mk.inj (Option.some.inj hu)
              simp only [subscriptionWrites, hparse, Option.getD_some]
              intro endPoint
              dsimp only
              rw [sessionAt_updateSessions]
              by_cases htopic : topic ∈ topicItems
              · rw [if_pos htopic, lastWrite_singleton]
                by_cases hend : endPoint = session.endPoint
                · rw [if_pos hend, if_pos ⟨htopic, hend⟩, Option.some_or]
                · rw [if_neg hend, if_neg (fun h => hend h.2), Option.none_or]
              · rw [if_neg htopic, if_neg (fun h => htopic h.1), lastWrite_nil, Option.none_or]
      | record index =>
          simp only [topicMachine] at hu
          cases hupdate : s.pending[index]? with
          | none =>
              rw [hupdate] at hu
              cases hu
          | some update =>
              rw [hupdate] at hu
              obtain ⟨rfl, _⟩ := Prod.mk.inj (Option.some.inj hu)
              intro endPoint
              dsimp only
              rw [sessionAt_recordTopicInfo]
              rfl
      | disconnect session =>
          have hclient : (s.onClientDisconnect session).1 = u.toAMOPClient :=
            congrArg TopicState.toAMOPClient (Prod.mk.inj (Option.some.inj hu)).1
          intro endPoint
          dsimp only
          rw [← hclient, sessionAt_onClientDisconnect, subscriptionWrites, lastWrite_singleton]
          split
          · rw [Option.some_or]
          · rw [Option.none_or]

/-- After a run the table has the sessions of the subscriptions and disconnects. -/
theorem sessionAt_run {s : RelayState} {actions : List RelayAction} {o : List RelayOutput}
    (hrun : (relayMachine codec notFound parseSubTopicsJson).run {} actions = some (s, o))
    (topic endPoint : String) :
  sessionAt s.toAMOPClient topic endPoint = sessionOf parseSubTopicsJson topic actions endPoint
  := by
  have hfollows := Machine.follows_run
    (fun (s : RelayState) endPoint => some (sessionAt s.toAMOPClient topic endPoint))
    (fun hstep => follows_step topic hstep) hrun endPoint
  rw [sessionOf]
  dsimp only at hfollows
  cases hwrite : lastWrite (actions.flatMap (subscriptionWrites parseSubTopicsJson topic))
      endPoint with
  | none =>
      rw [hwrite, Option.none_or] at hfollows
      rw [Option.some.inj hfollows]
      simp [sessionAt]
  | some entry =>
      rw [hwrite, Option.some_or] at hfollows
      apply Option.some.inj hfollows

/-- A session is entered under its own endpoint. -/
theorem endPoint_of_sessionOf {topic endPoint : String} {history : List RelayAction}
    {session : WsSession}
    (h : sessionOf parseSubTopicsJson topic history endPoint = some session) :
  session.endPoint = endPoint
  := by
  have hmem := mem_of_lastWrite (Option.join_eq_some_iff.mp h)
  obtain ⟨a, _, ha⟩ := List.mem_flatMap.mp hmem
  cases a with
  | topics action =>
      cases action with
      | subscribe topicInfo session' =>
          rw [subscriptionWrites] at ha
          split at ha
          · obtain ⟨rfl, hsome⟩ := Prod.mk.inj (List.mem_singleton.mp ha)
            rw [Option.some.inj hsome]
          · cases ha
      | record index => cases ha
      | disconnect session' =>
          obtain ⟨_, hnone⟩ := Prod.mk.inj (List.mem_singleton.mp ha)
          cases hnone
  | _ => cases ha

/-! ### Broadcasts -/

variable (codec) (parseSubTopicsJson)

/-- The broadcast that an action is: its topic, and the message that is sent. -/
def broadcastOf : RelayAction → Option (String × WsMessage)
  | .onRecvAMOPBroadcast message => some (codec.buildRequest message.data, message)
  | .asyncNotifyAMOPMessage .Broadcast topic data _ _ =>
      some (topic, { type := AMOPClientMessageType.AMOP_BROADCAST, data := data })
  | _ => none

/-- What a session is to be sent of an action, after the actions before. -/
def delivery (session : WsSession) (history : List RelayAction) (action : RelayAction) :
    List WsMessage :=
  match broadcastOf codec action with
  | none => []
  | some (topic, message) =>
      if sessionOf parseSubTopicsJson topic history session.endPoint = some session then [message]
      else []

/-- What a session is to be sent: every broadcast of a topic that it subscribes to at the time,
once and in order. -/
def deliveries (session : WsSession) : List RelayAction → List RelayAction → List WsMessage
  | _, [] => []
  | history, action :: actions =>
      delivery parseSubTopicsJson codec session history action
        ++ deliveries session (history ++ [action]) actions

variable {codec} {parseSubTopicsJson}

theorem deliveries_append (session : WsSession) (history actions actions' : List RelayAction) :
  deliveries parseSubTopicsJson codec session history (actions ++ actions')
    = deliveries parseSubTopicsJson codec session history actions
      ++ deliveries parseSubTopicsJson codec session (history ++ actions) actions'
  := by
  induction actions generalizing history with
  | nil => simp [deliveries]
  | cons action actions ih =>
      rw [List.cons_append, deliveries, ih, deliveries, List.append_assoc, List.append_assoc,
        List.singleton_append]

/-- A broadcast is sent to a session once if the session is in the table of the topic, and
otherwise not at all. -/
theorem broadcastsTo_broadcastAMOPMessage {s : RelayState} {topic : String}
    (hkeys : ∀ endPoint session, sessionAt s.toAMOPClient topic endPoint = some session →
      session.endPoint = endPoint)
    (message : WsMessage) (session : WsSession) :
  broadcastsTo session (s.broadcastAMOPMessage topic message)
    = if sessionAt s.toAMOPClient topic session.endPoint = some session then [message] else []
  := by
  have hmem : (session.endPoint, session) ∈ (s.querySessionsByTopic topic).toList
      ↔ sessionAt s.toAMOPClient topic session.endPoint = some session := by
    rw [ExtTreeMap.mem_toList_iff_getElem?_eq_some, getElem?_querySessionsByTopic]
  have hnodup : (s.querySessionsByTopic topic).toList.Nodup :=
    List.Nodup.of_map Prod.fst (Table.nodup_keys_toList _)
  rw [broadcastsTo, broadcastAMOPMessage, List.filterMap_map, Table.filterMap_eq_toList hnodup
    (a := (session.endPoint, session))]
  · simp [hmem]
  · intro it hit hne
    rw [ExtTreeMap.mem_toList_iff_getElem?_eq_some, getElem?_querySessionsByTopic] at hit
    apply if_neg
    rintro rfl
    apply hne
    rw [hkeys _ _ hit]

/-- A step sends a session what it is to be sent, if the tables are those of the history. -/
theorem broadcastsTo_step {s t : RelayState} {history : List RelayAction} {a : RelayAction}
    {o : List RelayOutput}
    (hsessions : ∀ topic endPoint, sessionAt s.toAMOPClient topic endPoint
      = sessionOf parseSubTopicsJson topic history endPoint)
    (hstep : (relayMachine codec notFound parseSubTopicsJson).step s a = some (t, o))
    (session : WsSession) :
  broadcastsTo session o = delivery parseSubTopicsJson codec session history a
  := by
  have hsent : ∀ topic message, broadcastsTo session (s.broadcastAMOPMessage topic message)
      = if sessionAt s.toAMOPClient topic session.endPoint = some session then [message]
        else [] := by
    intro topic message
    apply broadcastsTo_broadcastAMOPMessage
    intro endPoint session' h
    apply endPoint_of_sessionOf ((hsessions topic endPoint).symm.trans h)
  rw [delivery]
  cases a with
  | topics action =>
      obtain ⟨⟨u, removed⟩, _, heq⟩ := Option.map_eq_some_iff.mp hstep
      obtain ⟨_, rfl⟩ := Prod.mk.inj heq
      rw [broadcastsTo, List.filterMap_map]
      apply List.filterMap_eq_nil_iff.mpr
      intro topics _
      rfl
  | onRecvAMOPBroadcast message =>
      obtain ⟨_, rfl⟩ := Prod.mk.inj (Option.some.inj hstep)
      rw [onRecvAMOPBroadcast, broadcastsTo_append, hsent, hsessions]
      apply List.append_nil
  | asyncNotifyAMOPMessage type topic data isConnected rand =>
      cases type with
      | Unicast =>
          have ho : (s.asyncNotifyAMOPUnicastMessage codec notFound isConnected rand topic data).2
              = o := (Prod.mk.inj (Option.some.inj hstep)).2
          rw [← ho, asyncNotifyAMOPUnicastMessage]
          cases s.randomChooseSession isConnected rand topic <;> rfl
      | Broadcast =>
          obtain ⟨_, rfl⟩ := Prod.mk.inj (Option.some.inj hstep)
          rw [asyncNotifyAMOPBroadcastMessage, broadcastsTo_append, hsent, hsessions]
          apply List.append_nil
      | unknown type =>
          obtain ⟨_, rfl⟩ := Prod.mk.inj (Option.some.inj hstep)
          rfl
  | onAnswer notification answer =>
      obtain ⟨_, heq⟩ := Option.ite_none_right_eq_some.mp hstep
      obtain ⟨_, rfl⟩ := Prod.mk.inj (Option.some.inj heq)
      rfl

/-- In every order of subscriptions, disconnects and messages, a session is sent each broadcast of
a topic once if it is the one that subscribed last to the topic from its endpoint and no session
of the endpoint has disconnected since, and no other broadcast. -/
theorem broadcastsTo_eq_deliveries {s : RelayState} {actions : List RelayAction}
    {o : List RelayOutput}
    (hrun : (relayMachine codec notFound parseSubTopicsJson).run {} actions = some (s, o))
    (session : WsSession) :
  broadcastsTo session o = deliveries parseSubTopicsJson codec session [] actions
  := by
  have hboth := Machine.run_history
    (I := fun history o s => (relayMachine codec notFound parseSubTopicsJson).run {} history
        = some (s, o)
      ∧ broadcastsTo session o = deliveries parseSubTopicsJson codec session [] history) (by
      rintro history o s a t e ⟨hrun, hsent⟩ hstep
      constructor
      · apply (Machine.run_append _).mpr
        exact ⟨s, o, e, hrun, (Machine.run_singleton _ _ _).trans hstep, rfl⟩
      · rw [broadcastsTo_append, hsent, broadcastsTo_step (sessionAt_run hrun) hstep,
          deliveries_append, List.nil_append, deliveries, deliveries, List.append_nil])
    ⟨rfl, rfl⟩ hrun
  apply hboth.2

/-! ### A session that comes back -/

/-- A codec under which every message is one of the topic. -/
def oneTopic : AmopCodec where
  encode := fun _ => []
  decode := fun _ => none
  buildRequest := fun _ => "topic"

/-- Two sessions subscribe; after a broadcast one of them disconnects, and comes back as another
session of its endpoint. -/
def sessionReturns : List RelayAction :=
  [.topics (.subscribe "" ⟨0, "127.0.0.1:1"⟩), .topics (.subscribe "" ⟨1, "127.0.0.1:2"⟩),
    .onRecvAMOPBroadcast { type := 0x112, data := [1] },
    .topics (.disconnect ⟨1, "127.0.0.1:2"⟩), .topics (.subscribe "" ⟨2, "127.0.0.1:2"⟩),
    .asyncNotifyAMOPMessage .Broadcast "topic" [2] (fun _ => true) (fun _ => 0)]

theorem broadcastsTo_eq_deliveries_returns :
  ∃ s o, (relayMachine oneTopic 0 fun _ => some ["topic"]).run {} sessionReturns = some (s, o)
    ∧ broadcastsTo ⟨1, "127.0.0.1:2"⟩ o = [{ type := 0x112, data := [1] }]
    ∧ broadcastsTo ⟨2, "127.0.0.1:2"⟩ o = [{ type := 0x112, data := [2] }]
  := by
  have hsome :
      ((relayMachine oneTopic 0 fun _ => some ["topic"]).run {} sessionReturns).isSome := by
    decide
  obtain ⟨⟨s, o⟩, hrun⟩ := Option.isSome_iff_exists.mp hsome
  use s, o, hrun
  constructor
  · rw [broadcastsTo_eq_deliveries hrun]
    decide
  · rw [broadcastsTo_eq_deliveries hrun]
    decide

end RelayState
