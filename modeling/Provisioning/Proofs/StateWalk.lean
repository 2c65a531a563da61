/-
This file proves what a receiver is sent while the content of a state is handed to it, and where the
walk ends if the receiver fails.
-/

import Mathlib.Data.List.Basic
import Mathlib.Data.List.Forall2
import Provisioning.StateWalk

namespace Provisioning.WalkEvent

def pack? : WalkEvent → Option Gav
  | nextPack gav => some gav
  | _ => none

def spec? : WalkEvent → Option SpecId
  | nextSpec spec => some spec
  | _ => none

def feature? : WalkEvent → Option ProvisionedFeature
  | nextFeature feature => some feature
  | _ => none

/-- The last feature-pack that a receiver has been told of. -/
def toldPack? (events : List WalkEvent) : Option Gav := (events.filterMap pack?).getLast?

/-- The last spec that a receiver has been told of. -/
def toldSpec? (events : List WalkEvent) : Option SpecId := (events.filterMap spec?).getLast?

def lastFeature? (events : List WalkEvent) : Option ProvisionedFeature :=
  (events.filterMap feature?).getLast?

/-- Between the start and the end of a config the receiver is sent the features in their order. It
knows the feature-pack and the spec of every feature from the last ones that it has been told, and
it is told of them directly before the first feature and where they change only. -/
structure InStep (features : List ProvisionedFeature) (events : List WalkEvent) : Prop where
  inside : ∀ event ∈ events, event ≠ .done ∧ ∀ config, event ≠ .prepare config
  received : events.filterMap feature? = features
  packKnown : ∀ before feature after, events = before ++ .nextFeature feature :: after →
    toldPack? before = some feature.id.specId.gav
  specKnown : ∀ before feature after, events = before ++ .nextFeature feature :: after →
    toldSpec? before = some feature.id.specId
  packChanges : ∀ before gav after, events = before ++ .nextPack gav :: after →
    ∃ feature rest, after = .nextSpec feature.id.specId :: .nextFeature feature :: rest ∧
      gav = feature.id.specId.gav ∧
        ∀ previous, lastFeature? before = some previous →
          previous.id.specId.gav ≠ gav
  specChanges : ∀ before spec after, events = before ++ .nextSpec spec :: after →
    ∃ feature rest, after = .nextFeature feature :: rest ∧ spec = feature.id.specId ∧
      ∀ previous, lastFeature? before = some previous → previous.id.specId ≠ spec

/-- A feature behind another one is announced by what changes. -/
inductive Announces (previous : Option SpecId) (feature : ProvisionedFeature) :
    List WalkEvent → Prop where
  | newPack (changes : previous.map SpecId.gav ≠ some feature.id.specId.gav) :
      Announces previous feature
        [.nextPack feature.id.specId.gav, .nextSpec feature.id.specId, .nextFeature feature]
  | newSpec (known : previous.map SpecId.gav = some feature.id.specId.gav)
      (changes : previous ≠ some feature.id.specId) :
      Announces previous feature [.nextSpec feature.id.specId, .nextFeature feature]
  | sameSpec (known : previous = some feature.id.specId) :
      Announces previous feature [.nextFeature feature]

/-- The events of a walk through features, with the spec of the feature before them. -/
def ofFeatures (current : Option SpecId) : List ProvisionedFeature → List WalkEvent
  | [] => []
  | feature :: rest =>
      (if current.map SpecId.gav ≠ some feature.id.specId.gav then
        [.nextPack feature.id.specId.gav] else []) ++
      (if current ≠ some feature.id.specId then [.nextSpec feature.id.specId] else []) ++
      .nextFeature feature :: ofFeatures (some feature.id.specId) rest

def bracketed (config : ProvisionedConfig) (events : List WalkEvent) : List WalkEvent :=
  .prepare config :: events ++ [.done]

def ofConfigs (configs : List ProvisionedConfig) : List WalkEvent :=
  configs.flatMap fun config => bracketed config (ofFeatures none config.features)

section

variable {Effect : Type → Type} [Monad Effect] [LawfulMonad Effect]

/-- A walk through features sends their events one after the other. -/
theorem walkFeatures_eq (receive : WalkEvent → Effect Unit) (current : Option SpecId)
    (features : List ProvisionedFeature) :
    walkFeatures receive current features = forM (ofFeatures current features) receive := by
  induction features generalizing current with
  | nil => rfl
  | cons feature rest inductionHypothesis =>
      rw [walkFeatures, ofFeatures]
      simp only [List.forM_append, List.forM_cons, inductionHypothesis]
      by_cases samePack : current.map SpecId.gav = some feature.id.specId.gav <;>
        by_cases sameSpec : current = some feature.id.specId <;>
          simp [samePack, sameSpec]

/-- A walk through a state sends the events of its configs one after the other. -/
theorem walkState_eq (receive : WalkEvent → Effect Unit) (state : ProvisionedState) :
    walkState receive state = forM (ofConfigs state.configs) receive := by
  rw [walkState]
  induction state.configs with
  | nil => rfl
  | cons config rest inductionHypothesis =>
      rw [walkConfigs, walkConfig, inductionHypothesis, walkFeatures_eq]
      simp [ofConfigs, bracketed]

end

/-! ### Between the start and the end of a config -/

/-- The last event of a kind is looked for in the later events first. -/
theorem getLast?_filterMap_append {Picked : Type} (pick : WalkEvent → Option Picked)
    (before after : List WalkEvent) :
    ((before ++ after).filterMap pick).getLast? =
      (after.filterMap pick).getLast?.or (before.filterMap pick).getLast? := by
  rw [List.filterMap_append, List.getLast?_append]

@[simp] theorem toldPack?_append (before after : List WalkEvent) :
    toldPack? (before ++ after) = (toldPack? after).or (toldPack? before) :=
  getLast?_filterMap_append pack? before after

@[simp] theorem toldSpec?_append (before after : List WalkEvent) :
    toldSpec? (before ++ after) = (toldSpec? after).or (toldSpec? before) :=
  getLast?_filterMap_append spec? before after

@[simp] theorem lastFeature?_append (before after : List WalkEvent) :
    lastFeature? (before ++ after) = (lastFeature? after).or (lastFeature? before) :=
  getLast?_filterMap_append feature? before after

/-- An event of two sequences stands in one of them. -/
theorem split_append {first second before after : List WalkEvent} {event : WalkEvent}
    (split : first ++ second = before ++ event :: after) :
    (∃ later, first = before ++ event :: later ∧ after = later ++ second) ∨
      ∃ earlier, before = first ++ earlier ∧ second = earlier ++ event :: after := by
  rcases List.append_eq_append_iff.1 split with
    ⟨earlier, isBefore, isSecond⟩ | ⟨later, isFirst, isAfter⟩
  · exact .inr ⟨earlier, isBefore, isSecond⟩
  · cases later with
    | nil => exact .inr ⟨[], by simpa using isFirst.symm, by simpa using isAfter.symm⟩
    | cons next later =>
        obtain ⟨rfl, rfl⟩ := List.cons.inj isAfter
        exact .inl ⟨later, isFirst, rfl⟩

/-- The spec of the last feature. -/
def lastSpec? (features : List ProvisionedFeature) : Option SpecId :=
  features.getLast?.map fun feature => feature.id.specId

/-- A feature is announced before the walk goes on with the rest. -/
theorem exists_announces (previous : Option SpecId) (feature : ProvisionedFeature)
    (rest : List ProvisionedFeature) :
    ∃ events, Announces previous feature events ∧
      ofFeatures previous (feature :: rest) =
        events ++ ofFeatures (some feature.id.specId) rest := by
  by_cases sameSpec : previous = some feature.id.specId
  · exact ⟨_, .sameSpec sameSpec, by simp [ofFeatures, sameSpec]⟩
  · by_cases samePack : previous.map SpecId.gav = some feature.id.specId.gav
    · exact ⟨_, .newSpec samePack sameSpec, by simp [ofFeatures, samePack, sameSpec]⟩
    · exact ⟨_, .newPack samePack, by simp [ofFeatures, samePack, sameSpec]⟩

section

variable {features : List ProvisionedFeature} {events announcement : List WalkEvent}
  {feature : ProvisionedFeature} {previous : Option SpecId}

/-- Once a feature is announced, the receiver knows what it belongs to. -/
theorem Announces.known (announces : Announces previous feature announcement)
    (packIs : toldPack? events = previous.map SpecId.gav) (specIs : toldSpec? events = previous) :
    toldPack? (events ++ announcement) = some feature.id.specId.gav ∧
      toldSpec? (events ++ announcement) = some feature.id.specId := by
  rw [toldPack?_append, toldSpec?_append, packIs, specIs]
  cases announces with
  | newPack changes => exact ⟨rfl, rfl⟩
  | newSpec known changes => exact ⟨known, rfl⟩
  | sameSpec known => simp [known, toldPack?, toldSpec?, pack?, spec?]

/-- An announcement neither starts nor ends a config. -/
theorem Announces.inside (announces : Announces previous feature announcement) :
    ∀ event ∈ announcement, event ≠ .done ∧ ∀ config, event ≠ .prepare config := by
  cases announces <;> simp

/-- An announcement hands over its feature and no other. -/
theorem Announces.received (announces : Announces previous feature announcement) :
    announcement.filterMap feature? = [feature] := by
  cases announces <;> rfl

variable {earlier later : List WalkEvent}

/-- An announcement ends with its feature. -/
theorem Announces.at_feature (announces : Announces previous feature announcement)
    {other : ProvisionedFeature} (split : announcement = earlier ++ .nextFeature other :: later) :
    other = feature ∧ later = [] := by
  cases announces <;> simp_all [List.cons_eq_append_iff]

/-- A feature-pack is named at the start of an announcement, when it is another one. -/
theorem Announces.at_pack (announces : Announces previous feature announcement) {gav : Gav}
    (split : announcement = earlier ++ .nextPack gav :: later) :
    earlier = [] ∧ later = [.nextSpec feature.id.specId, .nextFeature feature] ∧
      gav = feature.id.specId.gav ∧ previous.map SpecId.gav ≠ some gav := by
  cases announces <;> simp_all [List.cons_eq_append_iff]

/-- A spec is named directly before the feature, when it is another one. -/
theorem Announces.at_spec (announces : Announces previous feature announcement) {spec : SpecId}
    (split : announcement = earlier ++ .nextSpec spec :: later) :
    lastFeature? earlier = none ∧ later = [.nextFeature feature] ∧ spec = feature.id.specId ∧
      previous ≠ some spec := by
  cases announces with
  | newPack changes =>
      have newSpec : previous ≠ some feature.id.specId := by
        intro sameSpec
        exact changes (by rw [sameSpec, Option.map_some])
      simp_all [List.cons_eq_append_iff, lastFeature?, feature?]
  | newSpec known changes => simp_all [List.cons_eq_append_iff, lastFeature?]
  | sameSpec known => simp [List.cons_eq_append_iff] at split

/-- A walk that is under way has kept in step, and the receiver has been told what the last feature
belongs to. -/
structure Underway (features : List ProvisionedFeature) (events : List WalkEvent) : Prop
    extends InStep features events where
  packIs : toldPack? events = (lastSpec? features).map SpecId.gav
  specIs : toldSpec? events = lastSpec? features

/-- A walk starts in step. -/
theorem underway_nil : Underway [] [] where
  inside := by simp
  received := rfl
  packKnown := by simp
  specKnown := by simp
  packChanges := by simp
  specChanges := by simp
  packIs := rfl
  specIs := rfl

/-- The feature received last is the last one so far. -/
theorem InStep.lastFeature?_eq (inStep : InStep features events) :
    lastFeature? events = features.getLast? := by
  rw [lastFeature?, inStep.received]

@[simp] theorem lastSpec?_snoc (features : List ProvisionedFeature) (feature : ProvisionedFeature) :
    lastSpec? (features ++ [feature]) = some feature.id.specId := by
  simp [lastSpec?]

/-- Announcing one more feature keeps the receiver in step. -/
theorem Underway.announce (underway : Underway features events)
    (announces : Announces (lastSpec? features) feature announcement) :
    Underway (features ++ [feature]) (events ++ announcement) := by
  obtain ⟨packTold, specTold⟩ := announces.known underway.packIs underway.specIs
  constructor
  · constructor
    · intro event isEvent
      rcases List.mem_append.1 isEvent with isEarlier | isNew
      · exact underway.inside event isEarlier
      · exact announces.inside event isNew
    · rw [List.filterMap_append, underway.received, announces.received]
    · intro before other after split
      rcases split_append split with ⟨later, isEarlier, _⟩ | ⟨earlier, rfl, isNew⟩
      · exact underway.packKnown before other later isEarlier
      · obtain ⟨rfl, rfl⟩ := announces.at_feature isNew
        simpa [isNew, toldPack?, pack?] using packTold
    · intro before other after split
      rcases split_append split with ⟨later, isEarlier, _⟩ | ⟨earlier, rfl, isNew⟩
      · exact underway.specKnown before other later isEarlier
      · obtain ⟨rfl, rfl⟩ := announces.at_feature isNew
        simpa [isNew, toldSpec?, spec?] using specTold
    · intro before gav after split
      rcases split_append split with ⟨later, isEarlier, rfl⟩ | ⟨earlier, rfl, isNew⟩
      · obtain ⟨other, rest, rfl, isGav, changes⟩ :=
          underway.packChanges before gav later isEarlier
        exact ⟨other, rest ++ announcement, rfl, isGav, changes⟩
      · obtain ⟨rfl, rfl, isGav, changes⟩ := announces.at_pack isNew
        refine ⟨feature, [], rfl, isGav, fun previous isPrevious same => changes ?_⟩
        rw [List.append_nil, underway.lastFeature?_eq] at isPrevious
        rw [lastSpec?, isPrevious, Option.map_some, Option.map_some, same]
    · intro before spec after split
      rcases split_append split with ⟨later, isEarlier, rfl⟩ | ⟨earlier, rfl, isNew⟩
      · obtain ⟨other, rest, rfl, isSpec, changes⟩ :=
          underway.specChanges before spec later isEarlier
        exact ⟨other, rest ++ announcement, rfl, isSpec, changes⟩
      · obtain ⟨noFeature, rfl, isSpec, changes⟩ := announces.at_spec isNew
        refine ⟨feature, [], rfl, isSpec, fun previous isPrevious same => changes ?_⟩
        rw [lastFeature?_append, noFeature, Option.none_or, underway.lastFeature?_eq] at isPrevious
        rw [lastSpec?, isPrevious, Option.map_some, same]
  · rw [packTold, lastSpec?_snoc, Option.map_some]
  · rw [specTold, lastSpec?_snoc]

/-- A walk goes on through any further features. -/
theorem Underway.walk (underway : Underway features events) (rest : List ProvisionedFeature) :
    Underway (features ++ rest) (events ++ ofFeatures (lastSpec? features) rest) := by
  induction rest generalizing features events with
  | nil => simpa [ofFeatures] using underway
  | cons feature rest inductionHypothesis =>
      obtain ⟨announcement, announces, same⟩ := exists_announces (lastSpec? features) feature rest
      have walked := inductionHypothesis (underway.announce announces)
      rw [lastSpec?_snoc, List.append_assoc, List.append_assoc] at walked
      rw [same]
      exact walked

/-- The walk through the features of a config keeps the receiver in step. -/
theorem inStep_ofFeatures (features : List ProvisionedFeature) :
    InStep features (ofFeatures none features) :=
  (underway_nil.walk features).toInStep

end

/-! ### A receiver that fails -/

section

variable {State Problem : Type}

/-- A receiver answers every event with success or a problem and may change in doing so. -/
abbrev Receiver (State Problem : Type) := WalkEvent → ExceptT Problem (StateM State) Unit

/-- An observed receiver answers as before, and its answers are noted. -/
def observed (receive : Receiver State Problem) :
    Receiver (State × List (WalkEvent × Except Problem Unit)) Problem :=
  fun event => ExceptT.mk fun (own, answers) =>
    let (answer, next) := (receive event).run.run own
    (answer, next, answers ++ [(event, answer)])

/-- Events are answered one after the other, and a problem is the last answer. -/
inductive Answered : List WalkEvent → List (WalkEvent × Except Problem Unit) →
    Except Problem Unit → Prop where
  | nil : Answered [] [] (.ok ())
  | stop (event : WalkEvent) (rest : List WalkEvent) (problem : Problem) :
      Answered (event :: rest) [(event, .error problem)] (.error problem)
  | next (event : WalkEvent) {rest : List WalkEvent}
      {answers : List (WalkEvent × Except Problem Unit)} {outcome : Except Problem Unit}
      (answered : Answered rest answers outcome) :
      Answered (event :: rest) ((event, .ok ()) :: answers) outcome

/-- A receiver that fails at some event has received the events up to it, and its problem is the
outcome; one that does not fail has received all of them. -/
structure StopsAtFailure (events : List WalkEvent)
    (answers : List (WalkEvent × Except Problem Unit)) (outcome : Except Problem Unit) : Prop where
  failed : ∀ index event problem, answers[index]? = some (event, .error problem) →
    answers.map Prod.fst = events.take (index + 1) ∧ outcome = .error problem
  finished : (∀ answer ∈ answers, answer.2 = .ok ()) →
    answers.map Prod.fst = events ∧ outcome = .ok ()

/-- Events that are answered one after the other stop at the first failure. -/
theorem Answered.stopsAtFailure {events : List WalkEvent}
    {answers : List (WalkEvent × Except Problem Unit)} {outcome : Except Problem Unit}
    (answered : Answered events answers outcome) : StopsAtFailure events answers outcome := by
  induction answered with
  | nil => exact ⟨by simp, by simp⟩
  | stop event rest problem =>
      constructor
      · intro index other reason isAnswer
        obtain ⟨inside, same⟩ := List.getElem?_eq_some_iff.1 isAnswer
        have isFirst : index = 0 := by
          rw [List.length_singleton] at inside
          omega
        subst isFirst
        cases same
        simp
      · intro allOk
        simp at allOk
  | @next event rest answers outcome _ inductionHypothesis =>
      constructor
      · intro index other reason isAnswer
        cases index with
        | zero => simp at isAnswer
        | succ index =>
            rw [List.getElem?_cons_succ] at isAnswer
            obtain ⟨received, isOutcome⟩ := inductionHypothesis.failed index other reason isAnswer
            rw [List.map_cons, received, List.take_succ_cons]
            exact ⟨rfl, isOutcome⟩
      · intro allOk
        rw [List.forall_mem_cons] at allOk
        obtain ⟨received, isOutcome⟩ := inductionHypothesis.finished allOk.2
        rw [List.map_cons, received]
        exact ⟨rfl, isOutcome⟩

/-- Sending events to an observed receiver notes an answer for each of them up to the first problem,
and changes nothing else. -/
theorem forM_observed (receive : Receiver State Problem) (events : List WalkEvent) (own : State)
    (earlier : List (WalkEvent × Except Problem Unit)) :
    ∃ outcome final answers,
      (forM events (observed receive)).run.run (own, earlier) =
          (outcome, final, earlier ++ answers) ∧
        (forM events receive).run.run own = (outcome, final) ∧
        Answered events answers outcome := by
  induction events generalizing own earlier with
  | nil => exact ⟨.ok (), own, [], by rw [List.append_nil]; rfl, rfl, .nil⟩
  | cons event rest inductionHypothesis =>
      rw [List.forM_cons, List.forM_cons]
      cases answered : (receive event).run.run own with
      | mk answer next =>
          have noted : (observed receive event).run.run (own, earlier) =
              (answer, next, earlier ++ [(event, answer)]) := by
            show (match (receive event).run.run own with
              | (answer, next) => (answer, next, earlier ++ [(event, answer)])) = _
            rw [answered]
          simp only [ExceptT.run_bind, StateT.run_bind, noted, answered]
          cases answer with
          | error problem =>
              exact ⟨.error problem, next, [(event, .error problem)], rfl, rfl,
                .stop event rest problem⟩
          | ok _ =>
              obtain ⟨outcome, final, answers, isObserved, isRun, isAnswered⟩ :=
                inductionHypothesis next (earlier ++ [(event, .ok ())])
              refine ⟨outcome, final, (event, .ok ()) :: answers, ?_, isRun, .next event isAnswered⟩
              rw [List.append_assoc, List.singleton_append] at isObserved
              exact isObserved

end

/-- What a receiver that takes everything is sent. -/
def sent (state : ProvisionedState) : List WalkEvent :=
  ((walkState (fun event => modify (· ++ [event])) state : StateM (List WalkEvent) Unit).run []).2

/-- A receiver that notes every event has noted them in their order. -/
theorem run_forM_modify (events earlier : List WalkEvent) :
    ((forM events fun event => modify (· ++ [event]) : StateM (List WalkEvent) Unit).run
      earlier).2 = earlier ++ events := by
  induction events generalizing earlier with
  | nil => exact (List.append_nil earlier).symm
  | cons event rest inductionHypothesis =>
      rw [List.forM_cons, StateT.run_bind]
      exact (inductionHypothesis (earlier ++ [event])).trans (by simp)

/-- The events sent for a state are those of its configs. -/
theorem sent_eq (state : ProvisionedState) : sent state = ofConfigs state.configs := by
  rw [sent, walkState_eq, run_forM_modify, List.nil_append]

/-- Whatever a state holds, its configs are handed over one after the other, each between its start
and its end, with a receiver that is kept in step. A receiver that fails has received what comes up
to its failure and stops the walk with it. -/
theorem receiver_is_kept_in_step (state : ProvisionedState) :
    (∃ insides, List.Forall₂ (fun config inside => InStep config.features inside)
        state.configs insides ∧
      sent state = (List.zipWith bracketed state.configs insides).flatten) ∧
    ∀ (State Problem : Type) (receive : Receiver State Problem) (own : State),
      ∃ outcome final answers,
        (walkState (observed receive) state).run.run (own, []) = (outcome, final, answers) ∧
        (walkState receive state).run.run own = (outcome, final) ∧
        StopsAtFailure (sent state) answers outcome := by
  constructor
  · refine ⟨state.configs.map fun config => ofFeatures none config.features, ?_, ?_⟩
    · rw [List.forall₂_map_right_iff, List.forall₂_same]
      intro config _
      exact inStep_ofFeatures config.features
    · rw [sent_eq, ofConfigs, List.zipWith_map_right, List.zipWith_self, List.flatMap_def]
  · intro State Problem receive own
    rw [sent_eq, walkState_eq, walkState_eq]
    obtain ⟨outcome, final, answers, isObserved, isRun, isAnswered⟩ :=
      forM_observed receive (ofConfigs state.configs) own []
    exact ⟨outcome, final, answers, isObserved, isRun, isAnswered.stopsAtFailure⟩

end Provisioning.WalkEvent
