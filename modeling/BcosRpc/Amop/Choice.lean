import BcosRpc.Amop.Disconnect
import BcosRpc.Amop.Request

/-!
# The choice of a connected session

`randomChooseSession` draws at random, with a new seed from the clock in each round, until it
draws a connected session or the rounds are used up, and returns the session drawn last.
`findsLive_iff` says for which draws it returns a connected session whenever there is one and
nothing when there is none, so that its two callers, `trySendAMOPRequestToLocalNode` and
`asyncNotifyAMOPMessage`, conclude the right thing from it.
-/

open Std

/-- The seed `utcTime()` in each round of the loop, and the value `rand()` has after a seed. -/
structure Draws where
  utcTime : Nat → Nat
  rand : Nat → Nat

/-- The value drawn in a round. Rounds with the same seed draw the same value. -/
def Draws.value (draws : Draws) (retryTime : Nat) : Nat := draws.rand (draws.utcTime retryTime)

/-! ### Messages of the gateway -/

def AMOPClientMessageType.AMOP_RESPONSE : Nat := 0x113

/-- The answer of a session that a message is sent to. -/
structure ClientAnswer where
  error : Option Error
  responseMsg : Option WsMessage

/-- What a call of `asyncNotifyAMOPMessage` does: it sends a message to a session, it calls
back. -/
inductive NotifyOutput where
  | send (session : WsSession) (message : WsMessage)
  | callback (error : Option Error) (buffer : Bytes)

namespace AmopCodec

/-- Send a message to a session and call back with its answer. -/
def sendMessageToClient (codec : AmopCodec) (selectSession : WsSession) (msg : WsMessage)
    (answer : ClientAnswer) : List NotifyOutput :=
  [.send selectSession msg, .callback answer.error (answer.responseMsg.elim [] codec.encode)]

/-- The callback when no client is found. The error code is a constant of the framework. -/
def noClient (codec : AmopCodec) (notFoundClientByTopicDispatchMsg : Int) : List NotifyOutput :=
  let responseMessage : WsMessage :=
    { status := notFoundClientByTopicDispatchMsg, type := AMOPClientMessageType.AMOP_RESPONSE }
  [.callback (some ⟨notFoundClientByTopicDispatchMsg, "NotFoundClientByTopicDispatchMsg"⟩)
    (codec.encode responseMessage)]

/-- Send a message of the gateway to a local session that subscribes to its topic. -/
def asyncNotifyAMOPMessage (codec : AmopCodec) (notFoundClientByTopicDispatchMsg : Int)
    (isConnected : WsSession → Bool) (rand : Nat → Nat) (client : AMOPClient) (topic : String)
    (amopRequestData : Bytes) (answer : ClientAnswer) : List NotifyOutput :=
  match client.randomChooseSession isConnected rand topic with
  | none => codec.noClient notFoundClientByTopicDispatchMsg
  | some clientSession =>
      codec.sendMessageToClient clientSession
        { type := AMOPClientMessageType.AMOP_REQUEST, data := amopRequestData } answer

end AmopCodec

/-! ### The property -/

namespace AMOPClient

/-- A session subscribes to a topic. -/
def Subscribes (s : AMOPClient) (topic : String) (session : WsSession) : Prop :=
  ∃ endPoint, s.Lists topic endPoint session

/-- A connected session subscribes to a topic. -/
def Reachable (isConnected : WsSession → Bool) (topic : String) (s : AMOPClient) : Prop :=
  ∃ session, s.Subscribes topic session ∧ isConnected session = true

/-- The choice is a connected session that subscribes to the topic, if there is one, and none
otherwise; the callers find no client exactly when there is none. -/
structure FindsLive (isConnected : WsSession → Bool) (draws : Draws) (topic : String)
    (s : AMOPClient) : Prop where
  live : s.Reachable isConnected topic →
    ∃ session, s.randomChooseSession isConnected draws.value topic = some session
      ∧ s.Subscribes topic session ∧ isConnected session = true
  none : ¬ s.Reachable isConnected topic →
    s.randomChooseSession isConnected draws.value topic = none
  trySend : ∀ (codec : AmopCodec) (request : AmopRequest) (x : Surroundings request),
    x.client = s → x.isConnected = isConnected → x.rand = draws.value →
      ((codec.trySendAMOPRequestToLocalNode x topic).1 = false ↔ ¬ s.Reachable isConnected topic)
  notify : ∀ (codec : AmopCodec) notFound data answer,
    codec.asyncNotifyAMOPMessage notFound isConnected draws.value s topic data answer
        = codec.noClient notFound
      ↔ ¬ s.Reachable isConnected topic

/-- A round that the loop can reach draws a connected session. -/
def Hits (isConnected : WsSession → Bool) (draws : Draws) (topic : String) (s : AMOPClient) :
    Prop :=
  ∃ sessions, s.topicToSessions[topic]? = some sessions ∧ ∃ retryTime ≤ sessions.size,
    ∃ x, sessions.toList[draws.value retryTime % sessions.size]? = some x
      ∧ isConnected x.2 = true

/-! ### The loop -/

section

variable (isConnected : WsSession → Bool) (rand : Nat → Nat) (sessions : List WsSession)

theorem chooseLoop_mem {rounds retryTime : Nat} {session : WsSession}
    (h : chooseLoop isConnected rand sessions rounds retryTime = some session) :
  session ∈ sessions
  := by
  induction rounds generalizing retryTime with
  | zero => apply List.mem_of_getElem? h
  | succ rounds ih =>
      rw [chooseLoop] at h
      split at h
      · apply List.mem_of_getElem? h
      · apply ih h

/-- The loop returns a connected session exactly when one of its rounds draws one. -/
theorem chooseLoop_connected_iff (rounds retryTime : Nat) :
  (chooseLoop isConnected rand sessions rounds retryTime).any isConnected = true
    ↔ ∃ k, retryTime ≤ k ∧ k ≤ retryTime + rounds
      ∧ (sessions[rand k % sessions.length]?).any isConnected = true
  := by
  induction rounds generalizing retryTime with
  | zero =>
      rw [chooseLoop]
      constructor
      · intro h
        exact ⟨retryTime, le_rfl, le_rfl, h⟩
      · rintro ⟨k, hle, hge, h⟩
        obtain rfl : k = retryTime := Nat.le_antisymm hge hle
        apply h
  | succ rounds ih =>
      rw [chooseLoop]
      split
      · rename_i hfirst
        simp only [hfirst, true_iff]
        exact ⟨retryTime, le_rfl, by omega, hfirst⟩
      · rename_i hfirst
        rw [ih]
        constructor
        · rintro ⟨k, hle, hge, h⟩
          exact ⟨k, by omega, by omega, h⟩
        · rintro ⟨k, hle, hge, h⟩
          have hne : k ≠ retryTime := by
            rintro rfl
            apply hfirst h
          exact ⟨k, by omega, by omega, h⟩

end

/-! ### The choice -/

variable {isConnected : WsSession → Bool} {draws : Draws} {topic : String} {s : AMOPClient}

/-- What is chosen subscribes to the topic. -/
theorem subscribes_of_choose {rand : Nat → Nat} {session : WsSession}
    (h : s.randomChooseSession isConnected rand topic = some session) :
  s.Subscribes topic session
  := by
  rw [randomChooseSession] at h
  cases hsessions : s.topicToSessions[topic]? with
  | none =>
      rw [hsessions] at h
      cases h
  | some sessions =>
      rw [hsessions] at h
      simp only at h
      split at h
      · cases h
      · obtain ⟨⟨endPoint, _⟩, hmem, rfl⟩ := List.mem_map.mp (chooseLoop_mem _ _ _ h)
        use endPoint, sessions, hsessions
        apply ExtTreeMap.mem_toList_iff_getElem?_eq_some.mp hmem

/-- A connected session is chosen exactly when a round draws one. -/
theorem choose_connected_iff :
  (s.randomChooseSession isConnected draws.value topic).any isConnected = true
    ↔ s.Hits isConnected draws topic
  := by
  rw [randomChooseSession, Hits]
  cases hsessions : s.topicToSessions[topic]? with
  | none => simp
  | some sessions =>
      by_cases hsize : sessions.size = 0
      · have hnil : sessions.toList = [] := by
          rw [← List.length_eq_zero_iff, ExtTreeMap.length_toList, hsize]
        simp [hsize, hnil]
      · have hdraw (k : Nat) : ((sessions.toList.map Prod.snd)[k]?).any isConnected = true
            ↔ ∃ x, sessions.toList[k]? = some x ∧ isConnected x.2 = true := by
          rw [List.getElem?_map]
          cases sessions.toList[k]? <;> simp
        simp only [if_neg hsize, chooseLoop_connected_iff, hdraw, List.length_map,
          ExtTreeMap.length_toList, Nat.zero_le, Nat.zero_add, true_and, Option.some.injEq,
          exists_eq_left']

theorem reachable_of_choose {session : WsSession}
    (h : s.randomChooseSession isConnected draws.value topic = some session)
    (hconnected : isConnected session = true) :
  s.Reachable isConnected topic
  := ⟨session, subscribes_of_choose h, hconnected⟩

theorem Reachable.hasSession (h : s.Reachable isConnected topic) :
  s.HasSession topic
  := by
  obtain ⟨session, ⟨endPoint, sessions, hsessions, hsession⟩, -⟩ := h
  use sessions, hsessions
  apply (Table.size_ne_zero_iff sessions).mpr ⟨endPoint, ?_⟩
  rw [ExtTreeMap.mem_iff_isSome_getElem?, hsession]
  rfl

theorem Hits.reachable (h : s.Hits isConnected draws topic) :
  s.Reachable isConnected topic
  := by
  obtain ⟨session, hchosen, hconnected⟩ := (Option.any_eq_true _ _).mp (choose_connected_iff.mpr h)
  apply reachable_of_choose hchosen hconnected

/-- The choice is right exactly when a round draws a connected session or there is none at all
to draw. -/
theorem choose_right_iff :
  ((s.Reachable isConnected topic →
      ∃ session, s.randomChooseSession isConnected draws.value topic = some session
        ∧ s.Subscribes topic session ∧ isConnected session = true)
    ∧ (¬ s.Reachable isConnected topic →
      s.randomChooseSession isConnected draws.value topic = none))
    ↔ (s.HasSession topic → s.Hits isConnected draws topic)
  := by
  constructor
  · rintro ⟨hlive, hnone⟩ hsession
    by_cases hreachable : s.Reachable isConnected topic
    · obtain ⟨session, hchosen, -, hconnected⟩ := hlive hreachable
      apply choose_connected_iff.mp
      rw [hchosen]
      apply hconnected
    · apply absurd hsession
        ((randomChooseSession_eq_none_iff _ _ _ _).mp (hnone hreachable))
  · intro hhits
    constructor
    · intro hreachable
      obtain ⟨session, hchosen, hconnected⟩ :=
        (Option.any_eq_true _ _).mp (choose_connected_iff.mpr (hhits hreachable.hasSession))
      use session, hchosen, subscribes_of_choose hchosen
    · intro hreachable
      apply (randomChooseSession_eq_none_iff _ _ _ _).mpr
      intro hsession
      apply hreachable (hhits hsession).reachable

/-! ### The callers -/

theorem trySend_eq_false_iff (codec : AmopCodec) {request : AmopRequest}
    (x : Surroundings request) (topic : String) :
  (codec.trySendAMOPRequestToLocalNode x topic).1 = false
    ↔ x.client.randomChooseSession x.isConnected x.rand topic = none
  := by
  rw [AmopCodec.trySendAMOPRequestToLocalNode]
  cases x.client.randomChooseSession x.isConnected x.rand topic <;> simp

theorem notify_eq_noClient_iff (codec : AmopCodec) (notFound : Int) (rand : Nat → Nat)
    (data : Bytes) (answer : ClientAnswer) :
  codec.asyncNotifyAMOPMessage notFound isConnected rand s topic data answer
      = codec.noClient notFound
    ↔ s.randomChooseSession isConnected rand topic = none
  := by
  rw [AmopCodec.asyncNotifyAMOPMessage]
  cases s.randomChooseSession isConnected rand topic with
  | none => simp
  | some session => simp [AmopCodec.sendMessageToClient, AmopCodec.noClient]

/-- The choice and its callers are right exactly when no session subscribes to the topic, or one
of the rounds, of which there is one more than sessions, draws a connected one. -/
theorem findsLive_iff (isConnected : WsSession → Bool) (draws : Draws) (topic : String)
    (s : AMOPClient) :
  s.FindsLive isConnected draws topic ↔ (s.HasSession topic → s.Hits isConnected draws topic)
  := by
  rw [← choose_right_iff]
  constructor
  · intro h
    exact ⟨h.live, h.none⟩
  · rintro ⟨hlive, hnone⟩
    have hiff : s.randomChooseSession isConnected draws.value topic = none
        ↔ ¬ s.Reachable isConnected topic := by
      constructor
      · intro hchosen hreachable
        obtain ⟨session, hsome, -⟩ := hlive hreachable
        rw [hchosen] at hsome
        cases hsome
      · apply hnone
    constructor
    · apply hlive
    · apply hnone
    · rintro codec request x rfl rfl hrand
      rw [trySend_eq_false_iff, hrand, hiff]
    · intro codec notFound data answer
      rw [notify_eq_noClient_iff, hiff]

/-- Two sessions that subscribe to a topic. -/
def twoSessions : AMOPClient :=
  ((({} : AMOPClient).updateSessions ["topic"] ⟨0, "127.0.0.1:1"⟩).updateSessions ["topic"]
    ⟨1, "127.0.0.1:2"⟩)

/-- When all rounds fall in one tick of the clock, the session drawn first is returned, which is
not connected though the other one is. -/
theorem findsLive_counterexample :
  ¬ twoSessions.FindsLive (fun session => session.object = 1) ⟨fun _ => 7, fun _ => 0⟩ "topic"
  := by
  intro h
  have hchosen : twoSessions.randomChooseSession (fun session => session.object = 1)
      (fun _ => 0) "topic" = some ⟨0, "127.0.0.1:1"⟩ := by decide
  have hother : (twoSessions.topicToSessions["topic"]?).bind (·["127.0.0.1:2"]?)
      = some ⟨1, "127.0.0.1:2"⟩ := by decide
  have hsubscribes : twoSessions.Subscribes "topic" ⟨1, "127.0.0.1:2"⟩ :=
    ⟨"127.0.0.1:2", Option.bind_eq_some_iff.mp hother⟩
  obtain ⟨session, hsome, -, hconnected⟩ := h.live ⟨_, hsubscribes, rfl⟩
  obtain rfl := Option.some.inj (hchosen.symm.trans hsome)
  cases hconnected

end AMOPClient
