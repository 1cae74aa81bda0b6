import BcosRpc.Amop.Client
import BcosRpc.Machine.Basic

/-!
# The announced topics

The topics announced to the gateways should be those with a subscribed session. `topicMachine`
interleaves the two steps of the subscription messages with disconnects; `updateMachine` runs
every message to completion. A message records only its first topic: the two tables keep the
same topics when the further topics of every message are announced already, and when no
disconnect comes between the two steps of a message and takes away the topic it records.
-/

open Std

/-- The tables with the subscription messages whose second step is still to come. -/
structure TopicState extends AMOPClient where
  pending : List (List String × String) := []

inductive TopicAction where
  | subscribe (topicInfo : String) (session : WsSession)
  | record (index : Nat)
  | disconnect (session : WsSession)

/-- The steps of the subscription messages and the disconnects. The outputs are the topics
that are removed from all gateways. -/
def topicMachine (parseSubTopicsJson : String → Option (List String)) :
    Machine TopicState TopicAction (List String) where
  step
    | s, .subscribe topicInfo session =>
        match parseSubTopicsJson topicInfo with
        | none => some (s, [])
        | some topicItems =>
            some (⟨s.updateSessions topicItems session, s.pending ++ [(topicItems, topicInfo)]⟩,
              [])
    | s, .record index =>
        match s.pending[index]? with
        | none => none
        | some (topicItems, topicInfo) =>
            some (⟨s.recordTopicInfo topicItems topicInfo, s.pending.eraseIdx index⟩, [])
    | s, .disconnect session =>
        let (client, topics) := s.onClientDisconnect session
        some (⟨client, s.pending⟩, if topics.isEmpty then [] else [topics])

namespace TopicState

/-- When no message is half done, the topics announced are those with a session. -/
def InStep (s : TopicState) : Prop :=
  s.pending = [] → ∀ topic, s.Announced topic ↔ topic ∈ s.topicToSessions

/-- A message that is half done will record the topic. -/
def Awaited (s : TopicState) (topic : String) : Prop :=
  ∃ update ∈ s.pending, update.1.head? = some topic

/-- The further topics of a message are announced, or about to be; the topic that a message
records still has a session. -/
def Announces (parseSubTopicsJson : String → Option (List String)) (s : TopicState) :
    TopicAction → Prop
  | .subscribe topicInfo _ => ∀ first rest, parseSubTopicsJson topicInfo = some (first :: rest) →
      ∀ topic ∈ rest, topic = first ∨ topic ∈ s.topicInfos ∨ s.Awaited topic
  | .record index => ∀ update, s.pending[index]? = some update →
      ∀ topic, update.1.head? = some topic → topic ∈ s.topicToSessions
  | .disconnect _ => True

/-- Every announced topic has a session, and every topic with a session is announced or about
to be. -/
structure Agreement (s : TopicState) : Prop where
  subscribed : ∀ topic, topic ∈ s.topicInfos → topic ∈ s.topicToSessions
  announced : ∀ topic, topic ∈ s.topicToSessions → topic ∈ s.topicInfos ∨ s.Awaited topic

theorem agreement_start :
  Agreement {}
  := by
  constructor <;> simp

theorem Agreement.inStep {s : TopicState} (h : s.Agreement) :
  s.InStep
  := by
  intro hnil topic
  rw [AMOPClient.announced_iff_mem]
  constructor
  · apply h.subscribed
  · intro htopic
    rcases h.announced topic htopic with hinfo | ⟨update, hmem, _⟩
    · apply hinfo
    · rw [hnil] at hmem
      cases hmem

/-- A message that is not the one recorded is still half done afterwards. -/
theorem awaited_eraseIdx {s : TopicState} {index : Nat} {update : List String × String}
    (hupdate : s.pending[index]? = some update) {topic : String} (h : s.Awaited topic) :
  update.1.head? = some topic ∨ ∃ u ∈ s.pending.eraseIdx index, u.1.head? = some topic
  := by
  obtain ⟨u, hu, hhead⟩ := h
  obtain ⟨i, hi⟩ := List.mem_iff_getElem?.mp hu
  by_cases heq : i = index
  · subst heq
    obtain rfl := Option.some.inj (hupdate.symm.trans hi)
    apply Or.inl hhead
  · apply Or.inr ⟨u, List.mem_eraseIdx_iff_getElem?.mpr ⟨i, heq, hi⟩, hhead⟩

/-- The first step of a message whose further topics are announced, or about to be. -/
theorem Agreement.subscribe {s : TopicState} (h : s.Agreement) {topicItems : List String}
    (topicInfo : String) (session : WsSession)
    (hrest : ∀ first rest, topicItems = first :: rest →
      ∀ topic ∈ rest, topic = first ∨ topic ∈ s.topicInfos ∨ s.Awaited topic) :
  Agreement ⟨s.updateSessions topicItems session, s.pending ++ [(topicItems, topicInfo)]⟩
  := by
  have hkeep : ∀ topic, s.Awaited topic →
      ∃ update ∈ s.pending ++ [(topicItems, topicInfo)], update.1.head? = some topic := by
    rintro topic ⟨update, hmem, hhead⟩
    exact ⟨update, List.mem_append_left _ hmem, hhead⟩
  constructor
  · intro topic hinfo
    apply (AMOPClient.mem_foldl_addSession _ _ _ _).mpr
    apply Or.inl (h.subscribed topic hinfo)
  · intro topic htopic
    rcases (AMOPClient.mem_foldl_addSession _ _ _ _).mp htopic with htopic | hitem
    · rcases h.announced topic htopic with hinfo | hawait
      · apply Or.inl hinfo
      · apply Or.inr (hkeep topic hawait)
    · cases topicItems with
      | nil => cases hitem
      | cons first rest =>
          have hfirst : ∃ update ∈ s.pending ++ [(first :: rest, topicInfo)],
              update.1.head? = some first :=
            ⟨_, List.mem_concat_self, rfl⟩
          rcases List.mem_cons.mp hitem with rfl | hmem
          · apply Or.inr hfirst
          · rcases hrest first rest rfl topic hmem with rfl | hinfo | hawait
            · apply Or.inr hfirst
            · apply Or.inl hinfo
            · apply Or.inr (hkeep topic hawait)

/-- The second step of a message, while the topic it records has a session. -/
theorem Agreement.record {s : TopicState} (h : s.Agreement) {index : Nat}
    {topicItems : List String} {topicInfo : String}
    (hupdate : s.pending[index]? = some (topicItems, topicInfo))
    (hsession : ∀ topic, topicItems.head? = some topic → topic ∈ s.topicToSessions) :
  Agreement ⟨s.recordTopicInfo topicItems topicInfo, s.pending.eraseIdx index⟩
  := by
  have hawaited := fun topic (h : s.Awaited topic) => awaited_eraseIdx hupdate h
  cases topicItems with
  | nil =>
      constructor
      · apply h.subscribed
      · intro topic htopic
        rcases h.announced topic htopic with hinfo | hawait
        · apply Or.inl hinfo
        · rcases hawaited topic hawait with hhead | hrest
          · cases hhead
          · apply Or.inr hrest
  | cons first rest =>
      constructor
      · intro topic hinfo
        rcases ExtTreeMap.mem_insert.mp hinfo with heq | hinfo
        · obtain rfl := LawfulEqCmp.compare_eq_iff_eq.mp heq
          apply hsession _ rfl
        · apply h.subscribed topic hinfo
      · intro topic htopic
        rcases h.announced topic htopic with hinfo | hawait
        · apply Or.inl (ExtTreeMap.mem_insert.mpr (Or.inr hinfo))
        · rcases hawaited topic hawait with hhead | hrest
          · obtain rfl := Option.some.inj hhead
            apply Or.inl ExtTreeMap.mem_insert_self
          · apply Or.inr hrest

/-- A disconnect takes a topic out of both tables, or out of none. -/
theorem Agreement.disconnect {s : TopicState} (h : s.Agreement) (session : WsSession) :
  Agreement ⟨(s.onClientDisconnect session).1, s.pending⟩
  := by
  constructor
  · intro topic hinfo
    obtain ⟨hinfo, hnot⟩ := (Table.mem_foldl_erase _ _ _).mp hinfo
    apply (AMOPClient.mem_onClientDisconnect_iff _ _ _).mpr
    exact ⟨h.subscribed topic hinfo, hnot⟩
  · intro topic htopic
    obtain ⟨htopic, hnot⟩ := (AMOPClient.mem_onClientDisconnect_iff _ _ _).mp htopic
    rcases h.announced topic htopic with hinfo | hawait
    · apply Or.inl ((Table.mem_foldl_erase _ _ _).mpr ⟨hinfo, hnot⟩)
    · apply Or.inr hawait

/-- A step under the condition keeps the tables in agreement. -/
theorem Agreement.step {parseSubTopicsJson : String → Option (List String)} {s t : TopicState}
    {a : TopicAction} {o : List (List String)} (h : s.Agreement)
    (hC : s.Announces parseSubTopicsJson a)
    (hstep : (topicMachine parseSubTopicsJson).step s a = some (t, o)) :
  t.Agreement
  := by
  cases a with
  | subscribe topicInfo session =>
      simp only [topicMachine] at hstep
      cases hparse : parseSubTopicsJson topicInfo with
      | none =>
          rw [hparse] at hstep
          obtain ⟨rfl, _⟩ := Prod.mk.inj (Option.some.inj hstep)
          apply h
      | some topicItems =>
          rw [hparse] at hstep
          obtain ⟨rfl, _⟩ := Prod.mk.inj (Option.some.inj hstep)
          apply h.subscribe
          rintro first rest rfl
          apply hC first rest hparse
  | record index =>
      simp only [topicMachine] at hstep
      cases hupdate : s.pending[index]? with
      | none =>
          rw [hupdate] at hstep
          cases hstep
      | some update =>
          rw [hupdate] at hstep
          obtain ⟨rfl, _⟩ := Prod.mk.inj (Option.some.inj hstep)
          apply h.record hupdate
          apply hC _ hupdate
  | disconnect session =>
      obtain ⟨rfl, _⟩ := Prod.mk.inj (Option.some.inj hstep)
      apply h.disconnect session

/-- In every run along which the further topics of each message are announced or about to be,
and the topic that a message records still has a session, the topics announced are those with
a session whenever no message is half done. -/
theorem inStep_of_announces (parseSubTopicsJson : String → Option (List String))
    {as : List TopicAction}
    (h : (topicMachine parseSubTopicsJson).Along
      (fun _ s a => s.Announces parseSubTopicsJson a) [] {} as) :
  (topicMachine parseSubTopicsJson).Throughout (fun _ s => s.InStep) [] {} as
  := by
  have hagree := h.invariant (I := fun _ s => s.Agreement) (fun hI hC => hI.step hC)
    agreement_start
  apply hagree.imp
  intro o s
  apply Agreement.inStep

/-- The reading of two texts that list topics. -/
def parseSubTopicsExample : String → Option (List String)
  | "\x7b\"topics\":[\"b\"]\x7d" => some ["b"]
  | "\x7b\"topics\":[\"a\",\"b\"]\x7d" => some ["a", "b"]
  | _ => none

/-- The second topic of the second message is recorded already. -/
theorem inStep_of_announces_recorded :
  (topicMachine parseSubTopicsExample).Throughout (fun _ s => s.InStep) [] {}
    [.subscribe "\x7b\"topics\":[\"b\"]\x7d" ⟨0, "127.0.0.1:1"⟩, .record 0,
      .subscribe "\x7b\"topics\":[\"a\",\"b\"]\x7d" ⟨1, "127.0.0.1:2"⟩, .record 0,
      .disconnect ⟨0, "127.0.0.1:1"⟩]
  := by
  apply inStep_of_announces
  intro t e hstep
  obtain ⟨rfl, rfl⟩ := Prod.mk.inj (Option.some.inj hstep)
  constructor
  · intro first rest hparse topic htopic
    obtain ⟨rfl, rfl⟩ := List.cons.inj (Option.some.inj hparse)
    cases htopic
  intro t e hstep
  obtain ⟨rfl, rfl⟩ := Prod.mk.inj (Option.some.inj hstep)
  constructor
  · intro update hupdate topic htopic
    obtain rfl := Option.some.inj hupdate
    obtain rfl := Option.some.inj htopic
    decide
  intro t e hstep
  obtain ⟨rfl, rfl⟩ := Prod.mk.inj (Option.some.inj hstep)
  constructor
  · intro first rest hparse topic htopic
    obtain ⟨rfl, rfl⟩ := List.cons.inj (Option.some.inj hparse)
    obtain rfl := List.mem_singleton.mp htopic
    right
    left
    decide
  intro t e hstep
  obtain ⟨rfl, rfl⟩ := Prod.mk.inj (Option.some.inj hstep)
  constructor
  · intro update hupdate topic htopic
    obtain rfl := Option.some.inj hupdate
    obtain rfl := Option.some.inj htopic
    decide
  intro t e hstep
  obtain ⟨rfl, rfl⟩ := Prod.mk.inj (Option.some.inj hstep)
  exact ⟨trivial, trivial⟩

/-- A message with two topics leaves the second one unannounced. -/
theorem inStep_counterexample :
  ¬ ∀ (parseSubTopicsJson : String → Option (List String)) (as : List TopicAction),
    (topicMachine parseSubTopicsJson).Throughout (fun _ s => s.InStep) [] {} as
  := by
  intro h
  have hthrough := h parseSubTopicsExample
    [.subscribe "\x7b\"topics\":[\"a\",\"b\"]\x7d" ⟨0, "127.0.0.1:1"⟩, .record 0]
  have hrun : ((topicMachine parseSubTopicsExample).run {}
      [.subscribe "\x7b\"topics\":[\"a\",\"b\"]\x7d" ⟨0, "127.0.0.1:1"⟩, .record 0]).map
        (fun r => (r.1.pending, decide ("b" ∈ r.1.topicInfos), decide ("b" ∈ r.1.topicToSessions)))
      = some ([], false, true) := by decide
  obtain ⟨⟨t, o⟩, hrun, heq⟩ := Option.map_eq_some_iff.mp hrun
  obtain ⟨hpending, heq⟩ := Prod.mk.inj heq
  obtain ⟨hinfo, htopic⟩ := Prod.mk.inj heq
  have hstep := Machine.throughout_iff_run.mp hthrough _ (List.prefix_refl _) t o hrun
  have hannounced := (hstep hpending "b").mpr (of_decide_eq_true htopic)
  rw [AMOPClient.announced_iff_mem] at hannounced
  apply of_decide_eq_false hinfo hannounced

end TopicState

/-! ### Messages that run to completion -/

inductive UpdateAction where
  | update (topicInfo : String) (session : WsSession)
  | disconnect (session : WsSession)

/-- The subscription messages and the disconnects one at a time. -/
def updateMachine (parseSubTopicsJson : String → Option (List String)) :
    Machine AMOPClient UpdateAction (List String) where
  step
    | s, .update topicInfo session =>
        some ((s.updateTopicInfos parseSubTopicsJson topicInfo session).1, [])
    | s, .disconnect session =>
        let (client, topics) := s.onClientDisconnect session
        some (client, if topics.isEmpty then [] else [topics])

/-- The steps of an action that runs to completion. -/
def UpdateAction.steps (parseSubTopicsJson : String → Option (List String)) :
    UpdateAction → List TopicAction
  | .update topicInfo session =>
      match parseSubTopicsJson topicInfo with
      | none => [.subscribe topicInfo session]
      | some _ => [.subscribe topicInfo session, .record 0]
  | .disconnect session => [.disconnect session]

namespace AMOPClient

variable (parseSubTopicsJson : String → Option (List String))

/-- An action that runs to completion is a run of its steps. -/
theorem run_steps {s t : AMOPClient} {a : UpdateAction} {o : List (List String)}
    (h : (updateMachine parseSubTopicsJson).step s a = some (t, o)) :
  (topicMachine parseSubTopicsJson).run ⟨s, []⟩ (a.steps parseSubTopicsJson)
    = some (⟨t, []⟩, o)
  := by
  cases a with
  | update topicInfo session =>
      obtain ⟨rfl, rfl⟩ := Prod.mk.inj (Option.some.inj h)
      rw [UpdateAction.steps, updateTopicInfos]
      cases hparse : parseSubTopicsJson topicInfo with
      | none => simp [topicMachine, hparse]
      | some topicItems => simp [topicMachine, hparse, Machine.run]
  | disconnect session =>
      obtain ⟨rfl, rfl⟩ := Prod.mk.inj (Option.some.inj h)
      rw [UpdateAction.steps, Machine.run_singleton]
      rfl

/-- The topics announced are those with a session. -/
def InStep (s : AMOPClient) : Prop := ∀ topic, s.Announced topic ↔ topic ∈ s.topicToSessions

theorem inStep_iff {s : AMOPClient} :
  s.InStep ↔ ∀ topic, topic ∈ s.topicInfos ↔ topic ∈ s.topicToSessions
  := by
  simp only [InStep, announced_iff_mem]

/-- The further topics of a message are announced already. -/
def ListsAnnounced (s : AMOPClient) : UpdateAction → Prop
  | .update topicInfo _ => ∀ first rest, parseSubTopicsJson topicInfo = some (first :: rest) →
      ∀ topic ∈ rest, topic = first ∨ topic ∈ s.topicInfos
  | .disconnect _ => True

/-- A message that runs to completion adds its topics to the ones with a session, and its
first topic to the ones announced. -/
theorem mem_updateTopicInfos {topicInfo first : String} {rest : List String}
    (hparse : parseSubTopicsJson topicInfo = some (first :: rest)) (session : WsSession)
    (s : AMOPClient) (topic : String) :
  (topic ∈ (s.updateTopicInfos parseSubTopicsJson topicInfo session).1.topicInfos
      ↔ topic = first ∨ topic ∈ s.topicInfos)
    ∧ (topic ∈ (s.updateTopicInfos parseSubTopicsJson topicInfo session).1.topicToSessions
      ↔ topic ∈ s.topicToSessions ∨ topic ∈ first :: rest)
  := by
  rw [updateTopicInfos, hparse]
  constructor
  · show topic ∈ s.topicInfos.insert first topicInfo ↔ _
    rw [ExtTreeMap.mem_insert, LawfulEqCmp.compare_eq_iff_eq, eq_comm]
  · apply mem_foldl_addSession _ _ _ _

/-- When every message runs to completion, the topics announced are those with a session
throughout a run exactly when the further topics of every message are announced already. -/
theorem exact_inStep :
  Machine.Exact (updateMachine parseSubTopicsJson) (fun _ s => s.InStep)
    (fun _ s => s.InStep) (fun _ _ _ => True)
    (fun _ s a => s.ListsAnnounced parseSubTopicsJson a)
  := by
  constructor
  · exact fun h => h
  · intro o s a t e hI _ hC hstep
    rw [inStep_iff] at hI ⊢
    intro topic
    cases a with
    | update topicInfo session =>
        obtain ⟨rfl, _⟩ := Prod.mk.inj (Option.some.inj hstep)
        cases hparse : parseSubTopicsJson topicInfo with
        | none =>
            rw [updateTopicInfos, hparse]
            apply hI
        | some topicItems =>
            cases topicItems with
            | nil =>
                rw [updateTopicInfos, hparse]
                apply hI
            | cons first rest =>
                have hlisted := hC first rest hparse topic
                rw [(mem_updateTopicInfos _ hparse session s topic).1,
                  (mem_updateTopicInfos _ hparse session s topic).2, ← hI topic, List.mem_cons]
                tauto
    | disconnect session =>
        obtain ⟨rfl, _⟩ := Prod.mk.inj (Option.some.inj hstep)
        have hinfos :=
          Table.mem_foldl_erase (s.topicsToRemove session.endPoint) s.topicInfos topic
        have hsessions := mem_onClientDisconnect_iff session s topic
        apply hinfos.trans ((and_congr_left' (hI topic)).trans hsessions.symm)
  · intro o s a t e hI _ hstep hP
    cases a with
    | update topicInfo session =>
        obtain ⟨rfl, _⟩ := Prod.mk.inj (Option.some.inj hstep)
        intro first rest hparse topic htopic
        rw [← (mem_updateTopicInfos _ hparse session s topic).1, inStep_iff.mp hP topic,
          (mem_updateTopicInfos _ hparse session s topic).2]
        apply Or.inr (List.mem_cons_of_mem _ htopic)
    | disconnect session => trivial

/-- When every message runs to completion, the topics announced are those with a session
exactly in the runs in which the further topics of every message are announced already. -/
theorem inStep_throughout_iff (as : List UpdateAction) :
  (updateMachine parseSubTopicsJson).Throughout (fun _ s => s.InStep) [] {} as
    ↔ (updateMachine parseSubTopicsJson).Along
      (fun _ s a => s.ListsAnnounced parseSubTopicsJson a) [] {} as
  := by
  apply (exact_inStep parseSubTopicsJson).throughout_iff
  · rw [inStep_iff]
    intro topic
    simp
  · apply Machine.along_of_forall
    intro o s a
    trivial

end AMOPClient
