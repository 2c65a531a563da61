/-
This file says when the references of a feature can be resolved and where they lead.
-/

import Provisioning.Proofs.Success
import Provisioning.Resolution

namespace Provisioning.Resolution

/-- The spec that a reference of a feature targets, looked up from the feature's own feature-pack. -/
def targetOf (layout : Layout) (feature : CollectedFeature) (reference : FeatureReference) :
    Provisioned (Found FeatureSpec) :=
  layout.findSpec (.pack feature.index) ⟨reference.origin, reference.target⟩

/-- The target parameters that a mapping feeds from the values that are set. -/
def fedParams (params : OrderedMap String String) (mapping : List (String × String)) :
    List (String × String) :=
  mapping.filterMap fun pair => (params.get? pair.1).map fun value => (pair.2, value)

/-- The id that a reference builds from the values of its feature. -/
def builtId (feature : CollectedFeature) (reference : FeatureReference)
    (target : Found FeatureSpec) : ResolvedId :=
  ⟨⟨target.gav, target.definition.name⟩,
    .ofList (fedParams feature.params (targetMapping reference target.definition))⟩

/-- Every local parameter of a mapping has a value. -/
def IsFed (feature : CollectedFeature) (mapping : List (String × String)) : Prop :=
  ∀ pair ∈ mapping, ∃ value, feature.params.get? pair.1 = some value

/-- A reference leads to a feature when all its mapped parameters are set and the id that is built
from them is that of the feature, in whatever order the parameters stand. -/
def LeadsTo (layout : Layout) (feature : CollectedFeature) (reference : FeatureReference)
    (other : CollectedFeature) : Prop :=
  ∃ target, targetOf layout feature reference = .ok target ∧
    IsFed feature (targetMapping reference target.definition) ∧
    other.id.specId = (builtId feature reference target).specId ∧
    ∀ name, other.id.param? name = (builtId feature reference target).param? name

/-- A reference feeds at least one parameter. -/
theorem targetMapping_ne_nil (reference : FeatureReference) (target : FeatureSpec) :
    targetMapping reference target ≠ [] := by
  unfold targetMapping
  split
  · simpa using target.idParams_ne_nil
  · next mapped => simpa [OrderedMap.isEmpty] using mapped

theorem fedParams_ne_nil {feature : CollectedFeature} {mapping : List (String × String)}
    (isFed : IsFed feature mapping) (mapped : mapping ≠ []) :
    fedParams feature.params mapping ≠ [] := by
  obtain ⟨pair, rest, rfl⟩ := List.exists_cons_of_ne_nil mapped
  obtain ⟨value, isValue⟩ := isFed pair List.mem_cons_self
  simp [fedParams, isValue]

/-- The id that a reference builds is never without parameters. -/
theorem new_builtId {feature : CollectedFeature} {reference : FeatureReference}
    {target : Found FeatureSpec} (isFed : IsFed feature (targetMapping reference target.definition)) :
    ResolvedId.new ⟨target.gav, target.definition.name⟩
        (.ofList (fedParams feature.params (targetMapping reference target.definition))) =
      .ok (builtId feature reference target) := by
  have fed := fedParams_ne_nil isFed (targetMapping_ne_nil reference target.definition)
  have filled : (OrderedMap.ofList
      (fedParams feature.params (targetMapping reference target.definition))).isEmpty = false := by
    have size := OrderedMap.isEmpty_extend .empty
      (fedParams feature.params (targetMapping reference target.definition))
    rw [List.isEmpty_eq_false_iff.2 fed, Bool.and_false] at size
    exact size
  rw [ResolvedId.new, filled]
  rfl

/-- A mapping whose parameters are set feeds their values. -/
theorem feed_of_isFed {feature : CollectedFeature} (reference : FeatureReference)
    {mapping : List (String × String)} (isFed : IsFed feature mapping) (fed : IdParams) :
    feed feature reference fed mapping = .ok (some (fed.extend (fedParams feature.params mapping))) := by
  induction mapping generalizing fed with
  | nil => rfl
  | cons pair rest inductionHypothesis =>
      obtain ⟨value, isValue⟩ := isFed pair List.mem_cons_self
      have tail := inductionHypothesis (fun other inRest => isFed other (List.mem_cons_of_mem _ inRest))
        (fed.insert pair.2 value)
      simpa [feed, fedParams, isValue, OrderedMap.extend] using tail

/-- Only a mapping whose parameters are set feeds values. -/
theorem isFed_of_feed {feature : CollectedFeature} {reference : FeatureReference}
    {mapping : List (String × String)} {fed params : IdParams}
    (isSome : feed feature reference fed mapping = .ok (some params)) : IsFed feature mapping := by
  induction mapping generalizing fed with
  | nil => exact fun pair listed => absurd listed List.not_mem_nil
  | cons pair rest inductionHypothesis =>
      rw [feed] at isSome
      split at isSome
      · next value isValue =>
        intro other listed
        rcases List.mem_cons.1 listed with rfl | inRest
        · exact ⟨value, isValue⟩
        · exact inductionHypothesis isSome other inRest
      · split at isSome <;> cases isSome

/-- A nillable reference may have unset parameters. -/
theorem succeeds_feed_of_nillable {feature : CollectedFeature} {reference : FeatureReference}
    (nillable : reference.nillable = true) (fed : IdParams) (mapping : List (String × String)) :
    Succeeds (feed feature reference fed mapping) := by
  fun_induction feed feature reference fed mapping with
  | case1 fed => exact succeeds_ok _
  | case2 fed param target rest value _ inductionHypothesis => exact inductionHypothesis
  | case3 fed param target rest _ _ => exact succeeds_ok _
  | case4 fed param target rest _ strict => exact absurd nillable strict

/-- A strict reference is fed or fails. -/
theorem feed_ne_none {feature : CollectedFeature} {reference : FeatureReference}
    (strict : reference.nillable = false) (fed : IdParams) (mapping : List (String × String)) :
    feed feature reference fed mapping ≠ .ok none := by
  fun_induction feed feature reference fed mapping with
  | case1 fed => simp
  | case2 fed param target rest value _ inductionHypothesis => exact inductionHypothesis
  | case3 fed param target rest _ nillable => simp [strict] at nillable
  | case4 fed param target rest _ _ => simp

/-- A feature is found under an id exactly when a listed feature has it. -/
theorem exists_position?_iff {features : Collected} {id : ResolvedId} :
    (∃ position, features.position? id = some position) ↔
      ∃ other ∈ features, other.id.specId = id.specId ∧
        ∀ name, other.id.param? name = id.param? name := by
  rw [← Option.isSome_iff_exists, Collected.position?, List.findIdx?_isSome, List.any_eq_true]
  simp only [ResolvedId.same_iff]

/-- A reference that is fed leads to the feature with the id that is built for it. -/
theorem resolveReference_of_isFed {layout : Layout} {feature : CollectedFeature}
    {reference : FeatureReference} {target : Found FeatureSpec} (features : Collected)
    (found : targetOf layout feature reference = .ok target)
    (isFed : IsFed feature (targetMapping reference target.definition)) :
    resolveReference layout features feature reference =
      match features.position? (builtId feature reference target) with
      | some position => .ok (some position)
      | none =>
          if reference.nillable then .ok none
          else .error (.unsatisfiedReference feature.id reference.name
            (builtId feature reference target)) := by
  have fed := feed_of_isFed reference isFed .empty
  unfold targetOf at found
  simp only [resolveReference, found, fed, bind, Except.bind]
  rw [show (OrderedMap.empty.extend _ : IdParams) = .ofList _ from rfl, new_builtId isFed]
  rfl

/-- A reference that leads to a position has a target, all its values, and a feature there. -/
theorem resolveReference_eq_some_iff {layout : Layout} {features : Collected}
    {feature : CollectedFeature} {reference : FeatureReference} {position : Nat} :
    resolveReference layout features feature reference = .ok (some position) ↔
      ∃ target, targetOf layout feature reference = .ok target ∧
        IsFed feature (targetMapping reference target.definition) ∧
        features.position? (builtId feature reference target) = some position := by
  constructor
  · intro resolved
    have steps := resolved
    simp only [resolveReference, bind_eq_ok_iff] at steps
    obtain ⟨target, found, params, fed, rest⟩ := steps
    cases params with
    | none => cases rest
    | some params =>
        have isFed := isFed_of_feed fed
        rw [resolveReference_of_isFed features found isFed] at resolved
        refine ⟨target, found, isFed, ?_⟩
        cases isPosition : features.position? (builtId feature reference target) with
        | some other => simpa [isPosition] using resolved
        | none =>
            rw [isPosition] at resolved
            cases isNillable : reference.nillable <;> simp [isNillable] at resolved
  · rintro ⟨target, found, isFed, isPosition⟩
    rw [resolveReference_of_isFed features found isFed, isPosition]

/-- An id stands at the position of the first feature that has it. -/
theorem position?_eq_some_iff {features : Collected} {id : ResolvedId} {position : Nat} :
    features.position? id = some position ↔
      ∃ other, features[position]? = some other ∧ other.id.same id = true ∧
        ∀ earlier ∈ features.take position, ¬earlier.id.same id = true := by
  rw [Collected.position?, List.findIdx?_eq_some_iff_getElem]
  constructor
  · rintro ⟨inside, same, isFirst⟩
    refine ⟨features[position], List.getElem?_eq_getElem inside, same, fun earlier listed => ?_⟩
    obtain ⟨place, isBefore, rfl⟩ := List.mem_take_iff_getElem.1 listed
    exact isFirst place (by omega)
  · rintro ⟨other, isOther, same, isFirst⟩
    obtain ⟨inside, rfl⟩ := List.getElem?_eq_some_iff.1 isOther
    refine ⟨inside, same, fun place isBefore => ?_⟩
    exact isFirst _ (List.mem_take_iff_getElem.2 ⟨place, by omega, rfl⟩)

/-- A reference with a target and all its values leads to the features with the id that it builds. -/
theorem leadsTo_iff_same {layout : Layout} {feature other : CollectedFeature}
    {reference : FeatureReference} {target : Found FeatureSpec}
    (found : targetOf layout feature reference = .ok target)
    (isFed : IsFed feature (targetMapping reference target.definition)) :
    LeadsTo layout feature reference other ↔
      other.id.same (builtId feature reference target) = true := by
  rw [ResolvedId.same_iff]
  constructor
  · rintro ⟨_, isTarget, _, same⟩
    cases isTarget.symm.trans found
    exact same
  · intro same
    exact ⟨target, found, isFed, same⟩

/-- A reference is resolved at the first feature that it leads to. -/
theorem resolveReference_eq_some_iff_leadsTo {layout : Layout} {features : Collected}
    {feature : CollectedFeature} {reference : FeatureReference} {position : Nat} :
    resolveReference layout features feature reference = .ok (some position) ↔
      ∃ other, features[position]? = some other ∧ LeadsTo layout feature reference other ∧
        ∀ earlier ∈ features.take position, ¬LeadsTo layout feature reference earlier := by
  rw [resolveReference_eq_some_iff]
  constructor
  · rintro ⟨target, found, isFed, isPosition⟩
    simpa only [leadsTo_iff_same found isFed] using position?_eq_some_iff.1 isPosition
  · rintro ⟨other, isOther, leads, isFirst⟩
    obtain ⟨target, found, isFed, _⟩ := id leads
    simp only [leadsTo_iff_same found isFed] at leads isFirst
    exact ⟨target, found, isFed, position?_eq_some_iff.2 ⟨other, isOther, leads, isFirst⟩⟩

/-- A nillable reference fails only when its target is unknown. -/
theorem succeeds_resolveReference_of_nillable {layout : Layout} {features : Collected}
    {feature : CollectedFeature} {reference : FeatureReference}
    (nillable : reference.nillable = true) :
    Succeeds (resolveReference layout features feature reference) ↔
      Succeeds (targetOf layout feature reference) := by
  constructor
  · intro resolved
    simp only [resolveReference, succeeds_bind_iff] at resolved
    obtain ⟨target, found, _⟩ := resolved
    exact ⟨target, found⟩
  · rintro ⟨target, found⟩
    have feeds : Succeeds
        (feed feature reference .empty (targetMapping reference target.definition)) :=
      succeeds_feed_of_nillable nillable _ _
    obtain ⟨fed, isFed⟩ := feeds
    cases fed with
    | none =>
        refine ⟨none, ?_⟩
        unfold targetOf at found
        simp only [resolveReference, found, isFed, bind, Except.bind]
        rfl
    | some params =>
        rw [resolveReference_of_isFed features found (isFed_of_feed isFed), nillable]
        split <;> exact succeeds_ok _

/-- A reference that has to be met is resolved exactly when it leads to a listed feature. -/
theorem succeeds_resolveReference_of_strict {layout : Layout} {features : Collected}
    {feature : CollectedFeature} {reference : FeatureReference}
    (strict : reference.nillable = false) :
    Succeeds (resolveReference layout features feature reference) ↔
      ∃ other ∈ features, LeadsTo layout feature reference other := by
  constructor
  · rintro ⟨found, resolved⟩
    cases found with
    | none =>
        simp only [resolveReference, bind_eq_ok_iff] at resolved
        obtain ⟨target, found, params, fed, rest⟩ := resolved
        cases params with
        | none => exact absurd fed (feed_ne_none strict _ _)
        | some params =>
            obtain ⟨id, _, rest⟩ := bind_eq_ok_iff.1 rest
            split at rest
            · cases rest
            · simp [strict] at rest
    | some position =>
        obtain ⟨target, found, isFed, isPosition⟩ := resolveReference_eq_some_iff.1 resolved
        obtain ⟨other, listed, same⟩ := exists_position?_iff.1 ⟨position, isPosition⟩
        exact ⟨other, listed, target, found, isFed, same⟩
  · rintro ⟨other, listed, target, found, isFed, same⟩
    obtain ⟨position, isPosition⟩ := exists_position?_iff.2 ⟨other, listed, same⟩
    exact ⟨some position, resolveReference_eq_some_iff.2 ⟨target, found, isFed, isPosition⟩⟩

end Provisioning.Resolution
