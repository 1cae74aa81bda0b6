import BcosRpc.Common.Json
import BcosRpc.Common.Protocol
import BcosRpc.Common.Table

/-!
# The AMOP client

`AMOPClient` is the state of the module that relays messages by topic: the sessions that
subscribe to each topic, and the topics announced to the gateways. A subscription message
updates the two tables in two steps; a disconnect removes a session from the first one and
the topics it leaves without session from both.
-/

open Std

/-- The tables of the module: the sessions of a topic by endpoint, and the message that a
topic was recorded with. -/
structure AMOPClient where
  topicToSessions : ExtTreeMap String (ExtTreeMap String WsSession) := ∅
  topicInfos : ExtTreeMap String String := ∅

namespace AMOPClient

/-! ### Subscriptions -/

/-- Enter a session under a topic. -/
def addSession (session : WsSession)
    (topicToSessions : ExtTreeMap String (ExtTreeMap String WsSession)) (topicName : String) :
    ExtTreeMap String (ExtTreeMap String WsSession) :=
  topicToSessions.insert topicName
    ((topicToSessions.getD topicName ∅).insert session.endPoint session)

/-- The first step of `updateTopicInfos`: enter the session under every topic of the
message. -/
def updateSessions (topicItems : List String) (session : WsSession) (s : AMOPClient) :
    AMOPClient :=
  { s with topicToSessions := topicItems.foldl (addSession session) s.topicToSessions }

/-- The second step of `updateTopicInfos`: record the message under its first topic. -/
def recordTopicInfo (topicItems : List String) (topicInfo : String) (s : AMOPClient) :
    AMOPClient :=
  match topicItems with
  | [] => s
  | item :: _ => { s with topicInfos := s.topicInfos.insert item topicInfo }

/-- The two steps together. The topics of a message come from its reader, in the order of the
collection it returns. -/
def updateTopicInfos (parseSubTopicsJson : String → Option (List String)) (topicInfo : String)
    (session : WsSession) (s : AMOPClient) : AMOPClient × Bool :=
  match parseSubTopicsJson topicInfo with
  | none => (s, false)
  | some topicItems =>
      ((s.updateSessions topicItems session).recordTopicInfo topicItems topicInfo, true)

theorem mem_foldl_addSession (session : WsSession) (topicItems : List String)
    (topicToSessions : ExtTreeMap String (ExtTreeMap String WsSession)) (topic : String) :
  topic ∈ topicItems.foldl (addSession session) topicToSessions
    ↔ topic ∈ topicToSessions ∨ topic ∈ topicItems
  := by
  induction topicItems generalizing topicToSessions with
  | nil => simp
  | cons item topicItems ih =>
      rw [List.foldl_cons, ih, addSession, ExtTreeMap.mem_insert, List.mem_cons,
        LawfulEqCmp.compare_eq_iff_eq, or_assoc, eq_comm]
      tauto

/-! ### Disconnects -/

/-- The sessions left of a topic when an endpoint disconnects, if any. -/
def remainingSessions (endPoint : String) (sessions : ExtTreeMap String WsSession) :
    Option (ExtTreeMap String WsSession) :=
  if (sessions.erase endPoint).isEmpty then none else some (sessions.erase endPoint)

/-- The topics that are without session when an endpoint disconnects. -/
def topicsToRemove (endPoint : String) (s : AMOPClient) : List String :=
  (s.topicToSessions.filter fun _ sessions =>
    (remainingSessions endPoint sessions).isNone).keys

/-- The state after the disconnect of a session, and the topics that are removed from all
gateways. -/
def onClientDisconnect (session : WsSession) (s : AMOPClient) : AMOPClient × List String :=
  let topics := s.topicsToRemove session.endPoint
  ({ topicToSessions :=
      s.topicToSessions.filterMap fun _ => remainingSessions session.endPoint
     topicInfos := topics.foldl ExtTreeMap.erase s.topicInfos },
    topics)

theorem mem_topicsToRemove_iff (endPoint : String) (s : AMOPClient) (topic : String) :
  topic ∈ s.topicsToRemove endPoint
    ↔ ∃ sessions, s.topicToSessions[topic]? = some sessions
      ∧ remainingSessions endPoint sessions = none
  := by
  rw [topicsToRemove, ExtTreeMap.mem_keys, Table.mem_filter_iff]
  simp only [Option.isNone_iff_eq_none]

/-- A disconnect leaves the topics that it does not remove. -/
theorem mem_onClientDisconnect_iff (session : WsSession) (s : AMOPClient) (topic : String) :
  topic ∈ (s.onClientDisconnect session).1.topicToSessions
    ↔ topic ∈ s.topicToSessions ∧ topic ∉ s.topicsToRemove session.endPoint
  := by
  rw [onClientDisconnect, Table.mem_filterMap_iff, mem_topicsToRemove_iff,
    ExtTreeMap.mem_iff_isSome_getElem?]
  cases s.topicToSessions[topic]? with
  | none => simp
  | some sessions => simp [Option.isSome_iff_ne_none]

/-! ### Announcements -/

/-- The text that announces the topics to the gateways. -/
def generateTopicInfo (s : AMOPClient) : Json :=
  Json.null.set "topics" (.array (s.topicInfos.keys.map .string))

/-- A topic is announced when the text lists it. -/
def Announced (topic : String) (s : AMOPClient) : Prop :=
  ∃ topicItems, s.generateTopicInfo.find "topics" = some (.array topicItems)
    ∧ .string topic ∈ topicItems

/-- The topics announced are those recorded. -/
theorem announced_iff_mem (topic : String) (s : AMOPClient) :
  s.Announced topic ↔ topic ∈ s.topicInfos
  := by
  have hfind : s.generateTopicInfo.find "topics"
      = some (.array (s.topicInfos.keys.map .string)) := by
    rw [generateTopicInfo, Json.find_set, if_pos rfl]
  rw [Announced, hfind]
  simp

/-! ### The choice of a session -/

/-- The loop of `randomChooseSession`. A session is drawn until it is connected, or the
rounds are used up; the session drawn last is returned. -/
def chooseLoop (isConnected : WsSession → Bool) (rand : Nat → Nat) (sessions : List WsSession) :
    Nat → Nat → Option WsSession
  | 0, retryTime => sessions[rand retryTime % sessions.length]?
  | rounds + 1, retryTime =>
      let selectedSession := sessions[rand retryTime % sessions.length]?
      if selectedSession.any isConnected then selectedSession
      else chooseLoop isConnected rand sessions rounds (retryTime + 1)

/-- Choose a session that subscribes to a topic, with the values `rand` draws. -/
def randomChooseSession (isConnected : WsSession → Bool) (rand : Nat → Nat) (topic : String)
    (s : AMOPClient) : Option WsSession :=
  match s.topicToSessions[topic]? with
  | none => none
  | some sessions =>
      if sessions.size = 0 then none
      else chooseLoop isConnected rand (sessions.toList.map Prod.snd) sessions.size 0

/-- Some session subscribes to a topic. -/
def HasSession (topic : String) (s : AMOPClient) : Prop :=
  ∃ sessions, s.topicToSessions[topic]? = some sessions ∧ sessions.size ≠ 0

/-- The loop returns one of the sessions. -/
theorem chooseLoop_ne_none (isConnected : WsSession → Bool) (rand : Nat → Nat)
    {sessions : List WsSession} (h : sessions ≠ []) (rounds retryTime : Nat) :
  chooseLoop isConnected rand sessions rounds retryTime ≠ none
  := by
  have hlen := List.length_pos_of_ne_nil h
  induction rounds generalizing retryTime with
  | zero =>
      rw [chooseLoop, ne_eq, List.getElem?_eq_none_iff, Nat.not_le]
      apply Nat.mod_lt _ hlen
  | succ rounds ih =>
      rw [chooseLoop]
      split
      · rw [ne_eq, List.getElem?_eq_none_iff, Nat.not_le]
        apply Nat.mod_lt _ hlen
      · apply ih

/-- A session is chosen exactly when there is one. -/
theorem randomChooseSession_eq_none_iff (isConnected : WsSession → Bool) (rand : Nat → Nat)
    (topic : String) (s : AMOPClient) :
  s.randomChooseSession isConnected rand topic = none ↔ ¬ s.HasSession topic
  := by
  rw [randomChooseSession, HasSession]
  cases s.topicToSessions[topic]? with
  | none => simp
  | some sessions =>
      by_cases hsize : sessions.size = 0
      · simp [hsize]
      · have hne : sessions.toList.map Prod.snd ≠ [] := by
          intro hnil
          apply hsize
          rw [← ExtTreeMap.length_toList, List.map_eq_nil_iff.mp hnil]
          rfl
        simp [hsize, chooseLoop_ne_none isConnected rand hne]

end AMOPClient
