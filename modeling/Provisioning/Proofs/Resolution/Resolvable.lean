/-
This file proves that the features of a config are resolved exactly when nothing that they refer to
or require is missing.
-/

import Mathlib.Data.List.Forall2
import Provisioning.Proofs.Resolution.Capabilities
import Provisioning.Proofs.Resolution.References

namespace Provisioning.Resolution

/-- What collected features need from the layout and from each other. -/
structure Resolvable (layout : Layout) (features : Collected) : Prop where
  /-- The target spec of every reference is in reach. -/
  targetsFound : ∀ feature ∈ features, ∀ reference ∈ feature.spec.references,
    Succeeds (targetOf layout feature reference)
  /-- A reference that is not nillable leads to a collected feature. -/
  referencesMet : ∀ feature ∈ features, ∀ reference ∈ feature.spec.references,
    reference.nillable = false → ∃ other ∈ features, LeadsTo layout feature reference other
  /-- A parameter that is not nillable has a value. -/
  valuesSet : ∀ feature ∈ features, ∀ param ∈ feature.spec.params, param.isNillable = false →
    ∃ value, feature.params.get? param.name = some value
  /-- Everything that a feature provides can be written out. -/
  providedExpand : ∀ feature ∈ features, CanExpand feature feature.spec.provides
  /-- Everything that a feature cannot do without can be written out. -/
  requiredExpand : ∀ feature ∈ features, CanExpand feature (strictRequirements feature.spec)
  /-- Whatever a feature cannot do without is provided by a collected feature. -/
  requirementsProvided : ∀ feature ∈ features, ∀ text,
    Yields feature (strictRequirements feature.spec) text →
      ∃ other ∈ features, Yields other other.spec.provides text

/-- The references of a feature are resolved when each of them is. -/
theorem succeeds_referenceTargets_iff {layout : Layout} {features : Collected}
    {feature : CollectedFeature} {references : List FeatureReference} :
    Succeeds (referenceTargets layout features feature references) ↔
      ∀ reference ∈ references, Succeeds (resolveReference layout features feature reference) := by
  induction references with
  | nil => simp [referenceTargets]
  | cons reference rest inductionHypothesis =>
      simp only [referenceTargets, succeeds_bind_iff, succeeds_pure, and_true,
        List.forall_mem_cons, ← inductionHypothesis]
      exact exists_and_right

/-- The targets are the features that the strict references lead to. -/
theorem mem_referenceTargets {layout : Layout} {features : Collected} {feature : CollectedFeature}
    {references : List FeatureReference} {targets : List Nat}
    (resolved : referenceTargets layout features feature references = .ok targets)
    (position : Nat) :
    position ∈ targets ↔ ∃ reference ∈ references, reference.nillable = false ∧
      resolveReference layout features feature reference = .ok (some position) := by
  induction references generalizing targets with
  | nil =>
      cases resolved
      simp
  | cons reference rest inductionHypothesis =>
      simp only [referenceTargets, bind_eq_ok_iff, pure_eq_ok_iff] at resolved
      obtain ⟨found, isFound, others, tail, rfl⟩ := resolved
      rw [List.mem_append, inductionHypothesis tail]
      simp only [List.mem_cons, exists_eq_or_imp, isFound, Except.ok.injEq]
      refine or_congr_left ?_
      cases reference.nillable <;> simp

/-- No parameter is unset when each one that must have a value has one. -/
theorem unsetParam?_eq_none_iff {feature : CollectedFeature} :
    unsetParam? feature = none ↔ ∀ param ∈ feature.spec.params, param.isNillable = false →
      ∃ value, feature.params.get? param.name = some value := by
  simp only [unsetParam?, List.find?_eq_none, OrderedMap.contains]
  refine forall₂_congr fun param _ => ?_
  cases param.isNillable <;> simp [Option.ne_none_iff_exists']

/-- The targets of all features belong to the features one by one. -/
theorem allReferenceTargets_eq_ok_iff {layout : Layout} {features rest : Collected}
    {targets : List (List Nat)} :
    allReferenceTargets layout features rest = .ok targets ↔
      List.Forall₂ (fun feature positions =>
        referenceTargets layout features feature feature.spec.references = .ok positions ∧
          unsetParam? feature = none) rest targets := by
  induction rest generalizing targets with
  | nil => simp [allReferenceTargets, eq_comm]
  | cons feature rest inductionHypothesis =>
      rw [allReferenceTargets, List.forall₂_cons_left_iff]
      simp only [bind_eq_ok_iff, ← inductionHypothesis]
      constructor
      · rintro ⟨positions, own, tail⟩
        split at tail
        · cases tail
        · next complete =>
          simp only [bind_eq_ok_iff, pure_eq_ok_iff] at tail
          obtain ⟨others, isTail, rfl⟩ := tail
          exact ⟨positions, others, ⟨own, complete⟩, isTail, rfl⟩
      · rintro ⟨positions, others, ⟨own, complete⟩, isTail, rfl⟩
        refine ⟨positions, own, ?_⟩
        rw [complete]
        exact bind_eq_ok_iff.2 ⟨others, isTail, rfl⟩

/-- The providers of all features are collected feature by feature. -/
theorem allRequiredProviders_eq_ok_iff {index : CapabilityIndex Nat} {rest : Collected}
    {providers : List (List Nat)} :
    allRequiredProviders index rest = .ok providers ↔
      List.Forall₂ (fun feature positions =>
        requiredProviders index feature (strictRequirements feature.spec) = .ok positions)
        rest providers := by
  induction rest generalizing providers with
  | nil => simp [allRequiredProviders, eq_comm]
  | cons feature rest inductionHypothesis =>
      rw [allRequiredProviders, List.forall₂_cons_left_iff]
      simp only [bind_eq_ok_iff, pure_eq_ok_iff, ← inductionHypothesis]
      constructor
      · rintro ⟨positions, own, others, isTail, rfl⟩
        exact ⟨positions, others, own, isTail, rfl⟩
      · rintro ⟨positions, others, own, isTail, rfl⟩
        exact ⟨positions, own, others, isTail, rfl⟩

/-- One result for each element can be picked exactly when each element has one. -/
theorem exists_forall₂_iff {Element Result : Type} {Relates : Element → Result → Prop}
    {elements : List Element} :
    (∃ results, List.Forall₂ Relates elements results) ↔
      ∀ element ∈ elements, ∃ result, Relates element result := by
  induction elements with
  | nil => simp
  | cons element rest inductionHypothesis =>
      rw [List.forall_mem_cons, ← inductionHypothesis]
      constructor
      · rintro ⟨results, related⟩
        obtain ⟨result, others, first, tail, rfl⟩ := List.forall₂_cons_left_iff.1 related
        exact ⟨⟨result, first⟩, others, tail⟩
      · rintro ⟨⟨result, first⟩, others, tail⟩
        exact ⟨result :: others, .cons first tail⟩

/-- The providers of a text in the index of all features are the positions that provide it. -/
theorem mem_providers_iff {features : Collected} {index : CapabilityIndex Nat}
    (registered : provideAll .empty 0 features = .ok index) (text : String) (position : Nat) :
    position ∈ index.providers text ↔
      ∃ other, features[position]? = some other ∧ Yields other other.spec.provides text := by
  rw [mem_providers_provideAll registered]
  simp only [Nat.zero_add]
  constructor
  · rintro (listed | ⟨offset, other, found, rfl, yields⟩)
    · exact absurd listed List.not_mem_nil
    · exact ⟨other, found, yields⟩
  · rintro ⟨other, found, yields⟩
    exact Or.inr ⟨position, other, found, rfl, yields⟩

/-- A capability has a provider when a feature yields it. -/
theorem providers_ne_nil_iff {features : Collected} {index : CapabilityIndex Nat}
    (registered : provideAll .empty 0 features = .ok index) (text : String) :
    index.providers text ≠ [] ↔ ∃ other ∈ features, Yields other other.spec.provides text := by
  constructor
  · intro filled
    obtain ⟨position, provides⟩ := List.exists_mem_of_ne_nil _ filled
    obtain ⟨other, found, yields⟩ := (mem_providers_iff registered text position).1 provides
    exact ⟨other, List.mem_of_getElem? found, yields⟩
  · rintro ⟨other, listed, yields⟩
    obtain ⟨position, found⟩ := List.getElem?_of_mem listed
    exact List.ne_nil_of_mem
      ((mem_providers_iff registered text position).2 ⟨other, found, yields⟩)

/-- All references are resolved when those of each feature are and its values are set. -/
theorem succeeds_allReferenceTargets_iff {layout : Layout} {features : Collected} :
    Succeeds (allReferenceTargets layout features features) ↔
      ∀ feature ∈ features,
        (∀ reference ∈ feature.spec.references,
          Succeeds (resolveReference layout features feature reference)) ∧
        unsetParam? feature = none := by
  simp only [← succeeds_referenceTargets_iff]
  simp only [Succeeds, allReferenceTargets_eq_ok_iff, exists_forall₂_iff, exists_and_right]

/-- All requirements are met when those of each feature are. -/
theorem succeeds_allRequiredProviders_iff {features : Collected} {index : CapabilityIndex Nat} :
    Succeeds (allRequiredProviders index features) ↔
      ∀ feature ∈ features,
        Succeeds (requiredProviders index feature (strictRequirements feature.spec)) := by
  simp only [Succeeds, allRequiredProviders_eq_ok_iff, exists_forall₂_iff]

/-- The three passes succeed one after the other exactly when nothing is missing. -/
theorem succeeds_resolveFeatures_iff {layout : Layout} {collected : Collected} :
    Succeeds (resolveFeatures layout collected) ↔
      Resolvable layout (collected.map withDefaults) := by
  simp only [resolveFeatures, succeeds_bind_iff, succeeds_pure, and_true]
  generalize collected.map withDefaults = features
  constructor
  · rintro ⟨targets, isTargets, index, registered, required⟩
    have references := succeeds_allReferenceTargets_iff.1 ⟨targets, isTargets⟩
    have provided := succeeds_provideAll_iff.1 ⟨index, registered⟩
    have requirements := succeeds_allRequiredProviders_iff.1 required
    constructor
    · intro feature listed reference declared
      obtain ⟨position, resolved⟩ := (references feature listed).1 reference declared
      obtain ⟨target, found, _⟩ := bind_eq_ok_iff.1 resolved
      exact ⟨target, found⟩
    · intro feature listed reference declared strict
      exact (succeeds_resolveReference_of_strict strict).1
        ((references feature listed).1 reference declared)
    · intro feature listed
      exact unsetParam?_eq_none_iff.1 (references feature listed).2
    · exact provided
    · intro feature listed
      exact (succeeds_requiredProviders_iff.1 (requirements feature listed)).1
    · intro feature listed text yields
      exact (providers_ne_nil_iff registered text).1
        ((succeeds_requiredProviders_iff.1 (requirements feature listed)).2 text yields)
  · intro resolvable
    obtain ⟨targets, isTargets⟩ : Succeeds (allReferenceTargets layout features features) := by
      rw [succeeds_allReferenceTargets_iff]
      intro feature listed
      refine ⟨fun reference declared => ?_,
        unsetParam?_eq_none_iff.2 (resolvable.valuesSet feature listed)⟩
      cases nillable : reference.nillable with
      | true =>
          exact (succeeds_resolveReference_of_nillable nillable).2
            (resolvable.targetsFound feature listed reference declared)
      | false =>
          exact (succeeds_resolveReference_of_strict nillable).2
            (resolvable.referencesMet feature listed reference declared nillable)
    obtain ⟨index, registered⟩ : Succeeds (provideAll .empty 0 features) :=
      succeeds_provideAll_iff.2 resolvable.providedExpand
    refine ⟨targets, isTargets, index, registered, succeeds_allRequiredProviders_iff.2 ?_⟩
    intro feature listed
    refine succeeds_requiredProviders_iff.2 ⟨resolvable.requiredExpand feature listed, ?_⟩
    intro text yields
    exact (providers_ne_nil_iff registered text).2
      (resolvable.requirementsProvided feature listed text yields)

end Provisioning.Resolution
