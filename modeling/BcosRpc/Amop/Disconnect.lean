import BcosRpc.Amop.Topics

/-!
# Disconnects

`onClientDisconnect` walks the topics with an iterator, takes the endpoint out of the sessions
of each, and erases the topics that are left without session. `disconnectLoop` is the walk as
the source has it; it computes the state and the topics of `AMOPClient.onClientDisconnect`.
No topic is ever without session between two calls, so a disconnect removes exactly the topics
whose only endpoint it takes away.
-/

open Std

namespace AMOPClient

/-! ### The loop -/

/-- Erase what a topic was recorded with. -/
def removeTopicInfo (topicName : String) (topicInfos : ExtTreeMap String String) :
    ExtTreeMap String String :=
  if topicName ∈ topicInfos then topicInfos.erase topicName else topicInfos

/-- One round of the loop, with the iterator at a topic. -/
def disconnectRound (session : WsSession) (state : AMOPClient × List String)
    (it : String × ExtTreeMap String WsSession) : AMOPClient × List String :=
  let sessions := if session.endPoint ∈ it.2 then it.2.erase session.endPoint else it.2
  if sessions.size = 0 then
    ({ topicToSessions := state.1.topicToSessions.erase it.1
       topicInfos := removeTopicInfo it.1 state.1.topicInfos },
      state.2 ++ [it.1])
  else
    ({ state.1 with topicToSessions := state.1.topicToSessions.insert it.1 sessions }, state.2)

/-- The loop. A round changes only the entry the iterator is at, so that the entries it comes to
are those of the start. -/
def disconnectLoop (session : WsSession) (s : AMOPClient) : AMOPClient × List String :=
  s.topicToSessions.toList.foldl (disconnectRound session) (s, [])

/-- The topics of some entries that are left without session. -/
def emptiedTopics (endPoint : String) (entries : List (String × ExtTreeMap String WsSession)) :
    List String :=
  (entries.filter fun entry => (remainingSessions endPoint entry.2).isNone).map Prod.fst

theorem removeTopicInfo_eq_erase (topicName : String) (topicInfos : ExtTreeMap String String) :
  removeTopicInfo topicName topicInfos = topicInfos.erase topicName
  := by
  rw [removeTopicInfo]
  split
  · rfl
  · rename_i hnot
    rw [Table.erase_of_not_mem hnot]

/-- A round leaves of its entry the remaining sessions. -/
theorem disconnectRound_eq (session : WsSession) (s : AMOPClient) (topics : List String)
    (it : String × ExtTreeMap String WsSession) :
  disconnectRound session (s, topics) it
    = ({ topicToSessions :=
          s.topicToSessions.alter it.1 fun _ => remainingSessions session.endPoint it.2
         topicInfos := (emptiedTopics session.endPoint [it]).foldl ExtTreeMap.erase s.topicInfos },
        topics ++ emptiedTopics session.endPoint [it])
  := by
  have hsessions : (if session.endPoint ∈ it.2 then it.2.erase session.endPoint else it.2)
      = it.2.erase session.endPoint := by
    split
    · rfl
    · rename_i hnot
      rw [Table.erase_of_not_mem hnot]
  rw [disconnectRound, hsessions, removeTopicInfo_eq_erase]
  by_cases hempty : (it.2.erase session.endPoint).size = 0
  · have hremaining : remainingSessions session.endPoint it.2 = none := by
      simp [remainingSessions, ExtTreeMap.isEmpty_eq_size_beq_zero, hempty]
    simp [hempty, hremaining, emptiedTopics, Table.alter_none]
  · have hremaining : remainingSessions session.endPoint it.2
        = some (it.2.erase session.endPoint) := by
      simp [remainingSessions, ExtTreeMap.isEmpty_eq_size_beq_zero, hempty]
    simp [hempty, hremaining, emptiedTopics, Table.alter_some]

/-- The rounds one after the other. -/
theorem foldl_disconnectRound (session : WsSession)
    (entries : List (String × ExtTreeMap String WsSession)) (s : AMOPClient)
    (topics : List String) :
  entries.foldl (disconnectRound session) (s, topics)
    = ({ topicToSessions := entries.foldl (fun t it =>
          t.alter it.1 fun _ => remainingSessions session.endPoint it.2) s.topicToSessions
         topicInfos := (emptiedTopics session.endPoint entries).foldl ExtTreeMap.erase s.topicInfos },
        topics ++ emptiedTopics session.endPoint entries)
  := by
  induction entries generalizing s topics with
  | nil => simp [emptiedTopics]
  | cons it entries ih =>
      have hemptied : emptiedTopics session.endPoint (it :: entries)
          = emptiedTopics session.endPoint [it] ++ emptiedTopics session.endPoint entries := by
        rw [← List.singleton_append, emptiedTopics, List.filter_append, List.map_append]
        rfl
      rw [List.foldl_cons, disconnectRound_eq, ih, hemptied, List.foldl_append, List.append_assoc,
        List.foldl_cons]

/-- The loop computes the state and the topics of a disconnect. -/
theorem disconnectLoop_eq (session : WsSession) (s : AMOPClient) :
  disconnectLoop session s = s.onClientDisconnect session
  := by
  have hemptied : emptiedTopics session.endPoint s.topicToSessions.toList
      = s.topicsToRemove session.endPoint := by
    rw [topicsToRemove, ← ExtTreeMap.map_fst_toList_eq_keys, ExtTreeMap.toList_filter]
    rfl
  rw [disconnectLoop, foldl_disconnectRound, Table.foldl_toList_alter, hemptied,
    List.nil_append]
  rfl

/-! ### No topic without session -/

/-- Every topic has a session. -/
def NoEmptyTopic (s : AMOPClient) : Prop :=
  ∀ (topic : String) (sessions : ExtTreeMap String WsSession),
    s.topicToSessions[topic]? = some sessions → sessions ≠ ∅

theorem noEmptyTopic_start :
  NoEmptyTopic {}
  := by
  intro topic sessions h
  simp at h

theorem NoEmptyTopic.foldl_addSession (session : WsSession) (topicItems : List String)
    {topicToSessions : ExtTreeMap String (ExtTreeMap String WsSession)}
    (h : ∀ (topic : String) (sessions : ExtTreeMap String WsSession),
      topicToSessions[topic]? = some sessions → sessions ≠ ∅) :
  ∀ (topic : String) (sessions : ExtTreeMap String WsSession),
    (topicItems.foldl (addSession session) topicToSessions)[topic]? = some sessions → sessions ≠ ∅
  := by
  induction topicItems generalizing topicToSessions with
  | nil => exact h
  | cons item topicItems ih =>
      apply ih
      intro topic sessions hsessions
      rw [addSession, ExtTreeMap.getElem?_insert] at hsessions
      split at hsessions
      · cases hsessions
        apply ExtTreeMap.insert_ne_empty
      · apply h topic sessions hsessions

/-- What is left of the sessions of a topic is not empty. -/
theorem remainingSessions_eq_some_iff (endPoint : String)
    (sessions remaining : ExtTreeMap String WsSession) :
  remainingSessions endPoint sessions = some remaining
    ↔ sessions.erase endPoint = remaining ∧ remaining ≠ ∅
  := by
  rw [remainingSessions]
  split
  · rename_i hempty
    rw [ExtTreeMap.isEmpty_iff] at hempty
    rw [hempty]
    simp [eq_comm]
  · rename_i hempty
    rw [ExtTreeMap.isEmpty_iff] at hempty
    constructor
    · intro h
      cases h
      exact ⟨rfl, hempty⟩
    · rintro ⟨rfl, _⟩
      rfl

theorem getElem?_onClientDisconnect (session : WsSession) (s : AMOPClient) (topic : String) :
  (s.onClientDisconnect session).1.topicToSessions[topic]?
    = s.topicToSessions[topic]?.bind (remainingSessions session.endPoint)
  := by
  apply ExtTreeMap.getElem?_filterMap'

/-- One call keeps every topic with a session. -/
theorem NoEmptyTopic.step {parseSubTopicsJson : String → Option (List String)} {s t : AMOPClient}
    {a : UpdateAction} {o : List (List String)} (h : s.NoEmptyTopic)
    (hstep : (updateMachine parseSubTopicsJson).step s a = some (t, o)) :
  t.NoEmptyTopic
  := by
  cases a with
  | update topicInfo session =>
      obtain ⟨rfl, _⟩ := Prod.mk.inj (Option.some.inj hstep)
      rw [updateTopicInfos]
      cases parseSubTopicsJson topicInfo with
      | none => exact h
      | some topicItems =>
          have hsessions : ((s.updateSessions topicItems session).recordTopicInfo topicItems
              topicInfo).topicToSessions = topicItems.foldl (addSession session) s.topicToSessions := by
            cases topicItems <;> rfl
          rw [NoEmptyTopic, hsessions]
          apply NoEmptyTopic.foldl_addSession session topicItems h
  | disconnect session =>
      have ht : (s.onClientDisconnect session).1 = t := (Prod.mk.inj (Option.some.inj hstep)).1
      intro topic sessions hsessions
      rw [← ht, getElem?_onClientDisconnect, Option.bind_eq_some_iff] at hsessions
      obtain ⟨before, _, hremaining⟩ := hsessions
      apply ((remainingSessions_eq_some_iff _ _ _).mp hremaining).2

/-! ### What a disconnect does -/

/-- A topic lists a session under an endpoint. -/
def Lists (s : AMOPClient) (topic endPoint : String) (session : WsSession) : Prop :=
  ∃ sessions, s.topicToSessions[topic]? = some sessions ∧ sessions[endPoint]? = some session

/-- A topic has sessions under one endpoint and no other. -/
def OnlyEndPoint (s : AMOPClient) (topic endPoint : String) : Prop :=
  ∀ other, (∃ session, s.Lists topic other session) ↔ other = endPoint

/-- A call removes one endpoint: its entries go and no others, the topics it leaves without
session are removed from all nodes in one call, if there are any, and these topics and no
others lose their topic info. -/
structure RemovesEndPoint (endPoint : String) (s t : AMOPClient) (removals : List (List String)) :
    Prop where
  gone : ∀ topic session, ¬ t.Lists topic endPoint session
  frame : ∀ topic other session, other ≠ endPoint →
    (t.Lists topic other session ↔ s.Lists topic other session)
  removed : ∃ topics : List String, topics.Nodup
    ∧ (∀ topic, topic ∈ topics ↔ s.OnlyEndPoint topic endPoint)
    ∧ removals = (if topics = [] then [] else [topics])
    ∧ ∀ topic, t.topicInfos[topic]? = if topic ∈ topics then none else s.topicInfos[topic]?

/-- After a disconnect the entries are those of the other endpoints. -/
theorem lists_onClientDisconnect_iff (session : WsSession) (s : AMOPClient)
    (topic other : String) (x : WsSession) :
  (s.onClientDisconnect session).1.Lists topic other x
    ↔ other ≠ session.endPoint ∧ s.Lists topic other x
  := by
  rw [Lists, getElem?_onClientDisconnect]
  simp only [Option.bind_eq_some_iff, remainingSessions_eq_some_iff]
  constructor
  · rintro ⟨_, ⟨sessions, hsessions, rfl, _⟩, hlookup⟩
    rw [ExtTreeMap.getElem?_erase] at hlookup
    split at hlookup
    · cases hlookup
    · rename_i hne
      refine ⟨?_, sessions, hsessions, hlookup⟩
      rintro rfl
      apply hne compare_self
  · rintro ⟨hne, sessions, hsessions, hlookup⟩
    have herase : (sessions.erase session.endPoint)[other]? = some x := by
      rw [ExtTreeMap.getElem?_erase, if_neg, hlookup]
      intro heq
      apply hne (LawfulEqCmp.eq_of_compare heq).symm
    refine ⟨_, ⟨sessions, hsessions, rfl, ?_⟩, herase⟩
    intro hempty
    rw [hempty] at herase
    simp at herase

/-- Where every topic has a session, the topics left without one are those with one endpoint. -/
theorem NoEmptyTopic.mem_topicsToRemove_iff {s : AMOPClient} (h : s.NoEmptyTopic)
    (endPoint topic : String) :
  topic ∈ s.topicsToRemove endPoint ↔ s.OnlyEndPoint topic endPoint
  := by
  rw [AMOPClient.mem_topicsToRemove_iff]
  constructor
  · rintro ⟨sessions, hsessions, hremaining⟩ other
    have herase : sessions.erase endPoint = ∅ := by
      by_contra hne
      rw [(remainingSessions_eq_some_iff _ _ _).mpr ⟨rfl, hne⟩] at hremaining
      cases hremaining
    constructor
    · rintro ⟨session, sessions', hsessions', hlookup⟩
      obtain rfl := Option.some.inj (hsessions.symm.trans hsessions')
      by_contra hne
      have hlookup' : (sessions.erase endPoint)[other]? = some session := by
        simp [ExtTreeMap.getElem?_erase, Ne.symm hne, hlookup]
      rw [herase] at hlookup'
      simp at hlookup'
    · rintro rfl
      have hmem : other ∈ sessions := by
        by_contra hnot
        apply h topic sessions hsessions
        rw [← herase, Table.erase_of_not_mem hnot]
      obtain ⟨session, hlookup⟩ :=
        Option.isSome_iff_exists.mp (ExtTreeMap.mem_iff_isSome_getElem?.mp hmem)
      exact ⟨session, sessions, hsessions, hlookup⟩
  · intro honly
    obtain ⟨_, sessions, hsessions, _⟩ := (honly endPoint).mpr rfl
    use sessions, hsessions
    have herase : sessions.erase endPoint = ∅ := by
      apply ExtTreeMap.ext_getElem?
      intro other
      rw [ExtTreeMap.getElem?_erase, ExtTreeMap.getElem?_empty]
      split
      · rfl
      · rename_i hne
        cases hlookup : sessions[other]? with
        | none => rfl
        | some session =>
            obtain rfl := (honly other).mp ⟨session, sessions, hsessions, hlookup⟩
            apply absurd compare_self hne
    rw [remainingSessions, herase]
    rfl

/-- Where every topic has a session, a disconnect removes one endpoint. -/
theorem NoEmptyTopic.removesEndPoint {s : AMOPClient} (h : s.NoEmptyTopic)
    (parseSubTopicsJson : String → Option (List String)) (session : WsSession) :
  ∃ t removals, (updateMachine parseSubTopicsJson).step s (.disconnect session)
      = some (t, removals)
    ∧ RemovesEndPoint session.endPoint s t removals
  := by
  refine ⟨(s.onClientDisconnect session).1, _, rfl, ?_⟩
  constructor
  · intro topic x hlists
    apply ((lists_onClientDisconnect_iff _ _ _ _ _).mp hlists).1 rfl
  · intro topic other x hother
    rw [lists_onClientDisconnect_iff, and_iff_right hother]
  · refine ⟨s.topicsToRemove session.endPoint, ExtTreeMap.nodup_keys, ?_, ?_, ?_⟩
    · apply h.mem_topicsToRemove_iff session.endPoint
    · simp only [List.isEmpty_iff]
    · apply Table.getElem?_foldl_erase

/-- In every state that calls run one at a time reach, every topic has a session and a
disconnect removes exactly one endpoint. -/
theorem disconnects_throughout (parseSubTopicsJson : String → Option (List String))
    (as : List UpdateAction) :
  (updateMachine parseSubTopicsJson).Throughout (fun _ s => s.NoEmptyTopic
      ∧ ∀ session, ∃ t removals,
        (updateMachine parseSubTopicsJson).step s (.disconnect session) = some (t, removals)
          ∧ RemovesEndPoint session.endPoint s t removals) [] {} as
  := by
  have hinvariant : (updateMachine parseSubTopicsJson).Throughout (fun _ s => s.NoEmptyTopic)
      [] {} as := by
    apply Machine.Along.invariant (C := fun _ _ _ => True) _ noEmptyTopic_start
    · apply Machine.along_of_forall
      intro o s a
      trivial
    · intro o s a t e hI _ hstep
      apply hI.step hstep
  apply hinvariant.imp
  intro o s h
  exact ⟨h, h.removesEndPoint parseSubTopicsJson⟩

end AMOPClient
