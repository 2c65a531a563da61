/-
This file proves that the features of a config come after those that they depend on.
-/

import Provisioning.Proofs.Graph.DependencyOrder
import Provisioning.Proofs.Related
import Provisioning.Proofs.Resolution.Resolvable

namespace Provisioning.Resolution

/-- A feature depends on the first feature to which each reference that is not nillable leads, and on
the providers of what it cannot do without. Features are named by their positions. -/
def DependsDirectly (layout : Layout) (features : Collected) (dependent target : Nat) : Prop :=
  ∃ feature other, features[dependent]? = some feature ∧ features[target]? = some other ∧
    ((∃ reference ∈ feature.spec.references, reference.nillable = false ∧
        LeadsTo layout feature reference other ∧
        ∀ earlier ∈ features.take target, ¬LeadsTo layout feature reference earlier) ∨
      ∃ text, Yields feature (strictRequirements feature.spec) text ∧
        Yields other other.spec.provides text)

/-- A feature depends on another directly or through other features. -/
abbrev Depends (layout : Layout) (features : Collected) : Nat → Nat → Prop :=
  Relation.TransGen (DependsDirectly layout features)

/-- A node of the graph points at its targets and providers apart from itself. -/
theorem edge_dependencyGraph {targets providers : List (List Nat)} {node target : Nat} :
    (dependencyGraph targets providers).Edge node target ↔
      (∃ own required, targets[node]? = some own ∧ providers[node]? = some required ∧
        (target ∈ own ∨ target ∈ required)) ∧ target ≠ node := by
  unfold Graph.Edge Graph.successors dependencyGraph
  rw [List.getElem?_map, List.getElem?_zipIdx, List.getElem?_zipWith]
  cases targets[node]? with
  | none => simp
  | some own =>
      cases providers[node]? with
      | none => simp
      | some required => simp [or_and_right]

/-- The edges of the graph are the direct dependencies between different features. -/
theorem edge_iff_dependsDirectly {layout : Layout} {features : Collected}
    {targets providers : List (List Nat)} {index : CapabilityIndex Nat}
    (isTargets : allReferenceTargets layout features features = .ok targets)
    (registered : provideAll .empty 0 features = .ok index)
    (isProviders : allRequiredProviders index features = .ok providers) {dependent target : Nat} :
    (dependencyGraph targets providers).Edge dependent target ↔
      DependsDirectly layout features dependent target ∧ target ≠ dependent := by
  have references := rel_getElem? (allReferenceTargets_eq_ok_iff.1 isTargets) dependent
  have requirements := rel_getElem? (allRequiredProviders_eq_ok_iff.1 isProviders) dependent
  rw [edge_dependencyGraph]
  refine and_congr_left fun _ => ?_
  constructor
  · rintro ⟨own, required, isOwn, isRequired, points⟩
    rw [isOwn] at references
    rw [isRequired] at requirements
    cases isFeature : features[dependent]? with
    | none => simp [isFeature] at references
    | some feature =>
        rw [isFeature] at references requirements
        cases references with | some resolved =>
        cases requirements with | some provided =>
        rcases points with isTarget | isProvider
        · obtain ⟨reference, declared, strict, leads⟩ :=
            (mem_referenceTargets resolved.1 target).1 isTarget
          obtain ⟨other, isOther, leads⟩ := resolveReference_eq_some_iff_leadsTo.1 leads
          exact ⟨feature, other, isFeature, isOther, Or.inl ⟨reference, declared, strict, leads⟩⟩
        · obtain ⟨text, yields, provides⟩ := (mem_requiredProviders provided target).1 isProvider
          obtain ⟨other, isOther, offers⟩ := (mem_providers_iff registered text target).1 provides
          exact ⟨feature, other, isFeature, isOther, Or.inr ⟨text, yields, offers⟩⟩
  · rintro ⟨feature, other, isFeature, isOther, depends⟩
    rw [isFeature] at references requirements
    cases isOwn : targets[dependent]? with
    | none => simp [isOwn] at references
    | some own =>
        cases isRequired : providers[dependent]? with
        | none => simp [isRequired] at requirements
        | some required =>
            rw [isOwn] at references
            rw [isRequired] at requirements
            cases references with | some resolved =>
            cases requirements with | some provided =>
            refine ⟨own, required, rfl, rfl, ?_⟩
            rcases depends with ⟨reference, declared, strict, leads⟩ | ⟨text, yields, offers⟩
            · exact Or.inl ((mem_referenceTargets resolved.1 target).2 ⟨reference, declared, strict,
                resolveReference_eq_some_iff_leadsTo.2 ⟨other, isOther, leads⟩⟩)
            · exact Or.inr ((mem_requiredProviders provided target).2 ⟨text, yields,
                (mem_providers_iff registered text target).2 ⟨other, isOther, offers⟩⟩)

theorem length_dependencyGraph {layout : Layout} {features : Collected}
    {targets providers : List (List Nat)} {index : CapabilityIndex Nat}
    (isTargets : allReferenceTargets layout features features = .ok targets)
    (isProviders : allRequiredProviders index features = .ok providers) :
    (dependencyGraph targets providers).length = features.length := by
  have sameTargets := (allReferenceTargets_eq_ok_iff.1 isTargets).length_eq
  have sameProviders := (allRequiredProviders_eq_ok_iff.1 isProviders).length_eq
  simp [dependencyGraph, ← sameTargets, ← sameProviders]

/-- The features of a config depend on each other only. -/
theorem closed_dependencyGraph {layout : Layout} {features : Collected}
    {targets providers : List (List Nat)} {index : CapabilityIndex Nat}
    (isTargets : allReferenceTargets layout features features = .ok targets)
    (registered : provideAll .empty 0 features = .ok index)
    (isProviders : allRequiredProviders index features = .ok providers) :
    (dependencyGraph targets providers).Closed := by
  intro listed isNode target isTarget
  obtain ⟨node, found⟩ := List.getElem?_of_mem isNode
  have edge : (dependencyGraph targets providers).Edge node target := by
    rwa [Graph.Edge, Graph.successors, found]
  obtain ⟨⟨_, other, _, isOther, _⟩, _⟩ :=
    (edge_iff_dependsDirectly isTargets registered isProviders).1 edge
  rw [length_dependencyGraph isTargets isProviders]
  exact (List.getElem?_eq_some_iff.1 isOther).1

/-- The elements at all positions of a list are the list. -/
theorem filterMap_getElem?_range {Element : Type} (elements : List Element) :
    (List.range elements.length).filterMap (elements[·]?) = elements := by
  induction elements with
  | nil => rfl
  | cons element rest inductionHypothesis =>
      rw [List.length_cons, List.range_succ_eq_map, List.filterMap_cons, List.filterMap_map]
      simpa using inductionHypothesis

/-- An order of all positions lists every element once. -/
theorem perm_filterMap_getElem? {Element : Type} {elements : List Element} {order : List Nat}
    (perm : order.Perm (List.range elements.length)) :
    (order.filterMap (elements[·]?)).Perm elements := by
  have listed := perm.filterMap (elements[·]?)
  rwa [filterMap_getElem?_range] at listed

/-- What a resolved config owes to the features that were collected for it. -/
structure FeatureOrder (layout : Layout) (features : Collected) (order : List Nat)
    (resolved : List ProvisionedFeature) : Prop where
  /-- The order lists every position once. -/
  perm : order.Perm (List.range features.length)
  /-- The features are provisioned in this order. -/
  provisioned : resolved = (order.filterMap (features[·]?)).map provisionedFeature
  /-- No feature is lost and none comes twice. -/
  kept : resolved.Perm (features.map provisionedFeature)
  /-- A feature comes after what it depends on unless the two depend on each other. -/
  dependenciesFirst : ∀ dependent target, DependsDirectly layout features dependent target →
    Depends layout features target dependent ∨ Graph.Precedes order target dependent
  /-- A feature is overtaken only by what it or one collected before it depends on. -/
  overtaken : ∀ position other, position < other → Graph.Precedes order other position →
    ∃ first ≤ position, Depends layout features first other

theorem featureOrder_of_resolveFeatures {layout : Layout} {collected : Collected}
    {resolved : List ProvisionedFeature}
    (isResolved : resolveFeatures layout collected = .ok resolved) :
    ∃ order, FeatureOrder layout (collected.map withDefaults) order resolved := by
  simp only [resolveFeatures, bind_eq_ok_iff, pure_eq_ok_iff] at isResolved
  revert isResolved
  generalize collected.map withDefaults = features
  rintro ⟨targets, isTargets, index, registered, providers, isProviders, rfl⟩
  have edges : ∀ dependent target, (dependencyGraph targets providers).Edge dependent target ↔
      DependsDirectly layout features dependent target ∧ target ≠ dependent :=
    fun _ _ => edge_iff_dependsDirectly isTargets registered isProviders
  have depends : ∀ first second, (dependencyGraph targets providers).DependsOn first second →
      Depends layout features first second :=
    Relation.TransGen.mono fun first second edge => ((edges first second).1 edge).1
  have stable := Graph.stableOrder_dependencyOrder
    (closed_dependencyGraph isTargets registered isProviders)
  have perm := stable.perm
  rw [length_dependencyGraph isTargets isProviders] at perm
  have provisioned := (List.map_filterMap (g := provisionedFeature)
    (f := (features[·]?)) (l := (dependencyGraph targets providers).dependencyOrder)).symm
  refine ⟨_, perm, provisioned, ?_, ?_, ?_⟩
  · rw [provisioned]
    exact (perm_filterMap_getElem? perm).map _
  · intro dependent target directly
    by_cases same : target = dependent
    · subst same
      exact Or.inl (.single directly)
    · have edge := (edges dependent target).2 ⟨directly, same⟩
      by_cases leads : (dependencyGraph targets providers).Reaches target dependent
      · -- The target leads back along edges of the graph, each of which is a dependency.
        rcases Relation.reflTransGen_iff_eq_or_transGen.1 leads with equal | back
        · exact absurd equal.symm same
        · exact Or.inl (depends target dependent back)
      · exact Or.inr (stable.targetsFirst dependent target edge leads)
  · intro position other later precedes
    obtain ⟨first, least, leads⟩ := stable.overtaken position other later precedes
    exact ⟨first, least, depends first other leads⟩

/-- Dependency order lists every feature once, after what it depends on where it can, and moves a
feature ahead only as a dependency of one collected no later. -/
theorem dependencies_first :
    (∀ graph : Graph, graph.Closed → graph.StableOrder graph.dependencyOrder) ∧
      ∀ layout collected resolved, resolveFeatures layout collected = .ok resolved →
        ∃ order, FeatureOrder layout (collected.map withDefaults) order resolved := by
  constructor
  · intro graph closed
    exact Graph.stableOrder_dependencyOrder closed
  · intro layout collected resolved isResolved
    exact featureOrder_of_resolveFeatures isResolved

end Provisioning.Resolution
