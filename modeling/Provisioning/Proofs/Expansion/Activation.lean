/-
This file proves that a filter with known aliases can be asked about any feature and any group.
-/

import Provisioning.Expansion.Admission
import Provisioning.Proofs.Success

namespace Provisioning

namespace FeatureFilter

/-- The alias that a rule looks its name up under. -/
def Rule.origin? : Rule → Option String
  | .includeSpec spec | .excludeSpec spec | .excludeGroup spec => spec.origin
  | .includeFeature included => included.feature.origin
  | .excludeFeature feature => feature.origin

variable {filter : FeatureFilter}

/-- The elements of one kind are listed in the rules of that kind. -/
theorem mem_select_iff {Element : Type} {select : Rule → Option Element} {kind : Element → Rule}
    (selects : ∀ rule element, select rule = some element ↔ rule = kind element)
    {element : Element} : element ∈ filter.rules.filterMap select ↔ kind element ∈ filter.rules := by
  simp only [List.mem_filterMap, selects]
  exact exists_eq_right

/-- The included specs are those that an inclusion names. -/
theorem mem_includedSpecs_iff {spec : SpecRef} :
    spec ∈ filter.includedSpecs ↔ .includeSpec spec ∈ filter.rules :=
  mem_select_iff fun rule _ => by cases rule <;> simp

/-- The excluded specs are those that an exclusion names. -/
theorem mem_excludedSpecs_iff {spec : SpecRef} :
    spec ∈ filter.excludedSpecs ↔ .excludeSpec spec ∈ filter.rules :=
  mem_select_iff fun rule _ => by cases rule <;> simp

/-- The included features are those that an inclusion names. -/
theorem mem_includedFeatures_iff {included : IncludedFeature} :
    included ∈ filter.includedFeatures ↔ .includeFeature included ∈ filter.rules :=
  mem_select_iff fun rule _ => by cases rule <;> simp

/-- The excluded features are those that an exclusion names. -/
theorem mem_excludedFeatures_iff {feature : FeatureRef} :
    feature ∈ filter.excludedFeatures ↔ .excludeFeature feature ∈ filter.rules :=
  mem_select_iff fun rule _ => by cases rule <;> simp

/-- The excluded groups are those that an exclusion names. -/
theorem mem_excludedGroups_iff {group : SpecRef} :
    group ∈ filter.excludedGroups ↔ .excludeGroup group ∈ filter.rules :=
  mem_select_iff fun rule _ => by cases rule <;> simp

end FeatureFilter

/-- Every alias in the rules of a filter leads somewhere from the scope of the filter. -/
def ScopedFilter.IsResolvable (layout : Layout) (level : ScopedFilter) : Prop :=
  ∀ rule ∈ level.filter.rules, ∀ origin, rule.origin? = some origin →
    Succeeds (layout.resolveOrigin level.scope origin)

namespace Layout

variable {layout : Layout} {level : ScopedFilter} {scope : Scope}

/-- The aliases that are tried before a filter becomes active are those of all its rules. -/
theorem mem_filterOrigins_iff {filter : FeatureFilter} {origin : String} :
    origin ∈ filterOrigins filter ↔ ∃ rule ∈ filter.rules, rule.origin? = some origin := by
  simp only [filterOrigins, List.mem_filterMap, List.mem_append, List.mem_map, id_eq,
    exists_eq_right]
  constructor
  · rintro ((⟨spec, (inSpecs | inSpecs) | inGroups, isOrigin⟩ | ⟨included, listed, isOrigin⟩) |
      ⟨feature, listed, isOrigin⟩)
    · exact ⟨_, FeatureFilter.mem_includedSpecs_iff.1 inSpecs, isOrigin⟩
    · exact ⟨_, FeatureFilter.mem_excludedSpecs_iff.1 inSpecs, isOrigin⟩
    · exact ⟨_, FeatureFilter.mem_excludedGroups_iff.1 inGroups, isOrigin⟩
    · exact ⟨_, FeatureFilter.mem_includedFeatures_iff.1 listed, isOrigin⟩
    · exact ⟨_, FeatureFilter.mem_excludedFeatures_iff.1 listed, isOrigin⟩
  · rintro ⟨rule, inRules, isOrigin⟩
    cases rule with
    | includeSpec spec =>
        have listed := FeatureFilter.mem_includedSpecs_iff.2 inRules
        exact .inl (.inl ⟨spec, .inl (.inl listed), isOrigin⟩)
    | excludeSpec spec =>
        have listed := FeatureFilter.mem_excludedSpecs_iff.2 inRules
        exact .inl (.inl ⟨spec, .inl (.inr listed), isOrigin⟩)
    | includeFeature included =>
        have listed := FeatureFilter.mem_includedFeatures_iff.2 inRules
        exact .inl (.inr ⟨included, listed, isOrigin⟩)
    | excludeFeature feature =>
        have listed := FeatureFilter.mem_excludedFeatures_iff.2 inRules
        exact .inr ⟨feature, listed, isOrigin⟩
    | excludeGroup group =>
        have listed := FeatureFilter.mem_excludedGroups_iff.2 inRules
        exact .inl (.inl ⟨group, .inr listed, isOrigin⟩)

/-- An origin fails only because it is unknown in its scope. -/
theorem resolveOrigin_error {origin : String} {problem : ProvisioningError}
    (failed : layout.resolveOrigin scope origin = .error problem) :
    problem = .unknownOrigin origin (layout.describe scope) := by
  unfold resolveOrigin at failed
  split at failed
  · cases failed
  · cases failed
    rfl

/-- Origins are resolved when each of them is. -/
theorem succeeds_resolveOrigins_iff {origins : List String} :
    Succeeds (layout.resolveOrigins scope origins) ↔
      ∀ origin ∈ origins, Succeeds (layout.resolveOrigin scope origin) := by
  induction origins with
  | nil => simp [resolveOrigins]
  | cons origin rest inductionHypothesis =>
      rw [resolveOrigins, succeeds_bind_iff, List.forall_mem_cons, ← inductionHypothesis]
      exact exists_and_right

/-- If the origins are not resolved, one of them fails with the problem. -/
theorem exists_of_resolveOrigins_error {origins : List String} {problem : ProvisioningError}
    (failed : layout.resolveOrigins scope origins = .error problem) :
    ∃ origin ∈ origins, layout.resolveOrigin scope origin = .error problem := by
  induction origins with
  | nil => cases failed
  | cons origin rest inductionHypothesis =>
      rcases bind_eq_error_iff.1 failed with failed | ⟨_, _, failed⟩
      · exact ⟨origin, List.mem_cons_self, failed⟩
      · obtain ⟨other, inRest, failed⟩ := inductionHypothesis failed
        exact ⟨other, List.mem_cons_of_mem _ inRest, failed⟩

/-- The aliases of a filter are tried before the filter becomes active. -/
theorem succeeds_filterOrigins_iff {filter : FeatureFilter} :
    Succeeds (layout.resolveOrigins scope (filterOrigins filter)) ↔
      ScopedFilter.IsResolvable layout ⟨filter, scope⟩ := by
  simp only [succeeds_resolveOrigins_iff, mem_filterOrigins_iff, ScopedFilter.IsResolvable]
  constructor
  · intro resolves rule inRules origin isOrigin
    exact resolves origin ⟨rule, inRules, isOrigin⟩
  · rintro resolves origin ⟨rule, inRules, isOrigin⟩
    exact resolves rule inRules origin isOrigin

/-- A filter without rules has no alias to look up. -/
theorem isResolvable_of_isPassThrough {filter : FeatureFilter} (passes : filter.isPassThrough) :
    ScopedFilter.IsResolvable layout ⟨filter, scope⟩ := by
  rw [FeatureFilter.isPassThrough, Bool.and_eq_true, List.isEmpty_iff] at passes
  intro rule inRules
  rw [passes.2] at inRules
  cases inRules

/-- A filter that changes something is active in its scope once its aliases are known. -/
theorem activate_eq_some_iff {filter : FeatureFilter} :
    layout.activate filter scope = .ok (some level) ↔
      filter.isPassThrough = false ∧ level.IsResolvable layout ∧ level = ⟨filter, scope⟩ := by
  unfold activate
  split
  · next passes => simp [passes]
  · next changes =>
    rw [Bool.not_eq_true] at changes
    simp only [bind_eq_ok_iff, pure_eq_ok_iff, Option.some.injEq, changes, true_and]
    constructor
    · rintro ⟨resolved, isResolved, rfl⟩
      exact ⟨succeeds_filterOrigins_iff.1 ⟨resolved, isResolved⟩, rfl⟩
    · rintro ⟨resolves, rfl⟩
      obtain ⟨resolved, isResolved⟩ := succeeds_filterOrigins_iff.2 resolves
      exact ⟨resolved, isResolved, rfl⟩

/-- A filter is activated exactly when it is resolvable in its scope. -/
theorem succeeds_activate_iff {filter : FeatureFilter} :
    Succeeds (layout.activate filter scope) ↔ ScopedFilter.IsResolvable layout ⟨filter, scope⟩ := by
  unfold activate
  split
  · next passes => simp [isResolvable_of_isPassThrough passes]
  · simp only [succeeds_bind_iff, succeeds_pure, and_true]
    exact succeeds_filterOrigins_iff

/-- A filter that is refused has a rule whose alias nothing is declared under. -/
theorem exists_of_activate_error {filter : FeatureFilter} {problem : ProvisioningError}
    (failed : layout.activate filter scope = .error problem) :
    ∃ rule ∈ filter.rules, ∃ origin, rule.origin? = some origin ∧
      layout.resolveOrigin scope origin = .error problem := by
  unfold activate at failed
  split at failed
  · cases failed
  · rcases bind_eq_error_iff.1 failed with failed | ⟨_, _, failed⟩
    · obtain ⟨origin, listed, failed⟩ := exists_of_resolveOrigins_error failed
      obtain ⟨rule, inRules, isOrigin⟩ := mem_filterOrigins_iff.1 listed
      exact ⟨rule, inRules, origin, isOrigin, failed⟩
    · cases failed

/-- A name is qualified when its origin, if it has one, is resolved. -/
theorem succeeds_qualify {origin : Option String}
    (resolves : ∀ name, origin = some name → Succeeds (layout.resolveOrigin scope name)) :
    Succeeds (layout.qualify scope origin) := by
  cases origin with
  | none => exact ⟨scope, rfl⟩
  | some name =>
      obtain ⟨index, isIndex⟩ := resolves name rfl
      exact succeeds_bind_iff.2 ⟨index, isIndex, succeeds_pure _⟩

/-- With a known alias a reference to a spec leads to a spec or nowhere. -/
theorem succeeds_leadsTo {spec : SpecRef} (gav : Gav)
    (resolves : ∀ origin, spec.origin = some origin → Succeeds (layout.resolveOrigin scope origin)) :
    Succeeds (leadsTo gav (layout.findSpec scope spec)) := by
  obtain ⟨start, isStart⟩ := succeeds_qualify resolves
  rw [findSpec, findDefinition_of_qualify isStart]
  cases layout.findFrom? start fun pack => pack.spec? spec.name with
  | some found => exact ⟨_, rfl⟩
  | none => exact ⟨false, rfl⟩

/-- A rule for a spec is matched when its origin is resolved. -/
theorem succeeds_matchesSpec {spec : SpecRef} (id : SpecId)
    (resolves : ∀ origin, spec.origin = some origin → Succeeds (layout.resolveOrigin scope origin)) :
    Succeeds (layout.matchesSpec scope spec id) := by
  unfold matchesSpec
  split
  · exact succeeds_leadsTo id.gav resolves
  · exact ⟨false, rfl⟩

/-- A rule for a feature is matched when its origin is resolved. -/
theorem succeeds_matchesFeature {feature : FeatureRef} (id : ResolvedId)
    (resolves : ∀ origin, feature.origin = some origin →
      Succeeds (layout.resolveOrigin scope origin)) :
    Succeeds (layout.matchesFeature scope feature id) := by
  unfold matchesFeature
  split
  · exact succeeds_leadsTo id.gav resolves
  · exact ⟨false, rfl⟩

/-- An exclusion of a group is matched when its origin is resolved. -/
theorem succeeds_excludesGroup {excluded : SpecRef} (index : Nat) (name : String)
    (resolves : ∀ origin, excluded.origin = some origin →
      Succeeds (layout.resolveOrigin scope origin)) :
    Succeeds (layout.excludesGroup index name scope excluded) := by
  obtain ⟨start, isStart⟩ := succeeds_qualify resolves
  unfold excludesGroup
  split
  · rw [findGroup, findDefinition_of_qualify isStart]
    cases layout.findFrom? start fun pack => pack.group? excluded.name with
    | some found => exact ⟨_, rfl⟩
    | none => exact ⟨false, rfl⟩
  · exact ⟨false, rfl⟩

/-- A search succeeds when each of its tests does, whatever they answer. -/
theorem succeeds_firstMatch {Element : Type} {accepts : Element → Provisioned Bool}
    {elements : List Element} (tested : ∀ element ∈ elements, Succeeds (accepts element)) :
    Succeeds (firstMatch accepts elements) := by
  induction elements with
  | nil => exact ⟨none, rfl⟩
  | cons element rest inductionHypothesis =>
      obtain ⟨accepted, isAccepted⟩ := tested element List.mem_cons_self
      refine succeeds_bind_iff.2 ⟨accepted, isAccepted, ?_⟩
      cases accepted with
      | true => exact succeeds_pure _
      | false =>
          exact inductionHypothesis fun other inRest =>
            tested other (List.mem_cons_of_mem _ inRest)

/-- A filter with known aliases has an opinion or none, but it does not fail. -/
theorem succeeds_opinion (isResolvable : level.IsResolvable layout) (id : ResolvedId) :
    Succeeds (layout.opinion level id) := by
  have featureTested (feature : FeatureRef) (resolves : ∀ origin, feature.origin = some origin →
      Succeeds (layout.resolveOrigin level.scope origin)) :
      Succeeds (layout.matchesFeature level.scope feature id) := succeeds_matchesFeature id resolves
  have specTested (spec : SpecRef) (resolves : ∀ origin, spec.origin = some origin →
      Succeeds (layout.resolveOrigin level.scope origin)) :
      Succeeds (layout.matchesSpec level.scope spec id.specId) :=
    succeeds_matchesSpec id.specId resolves
  obtain ⟨excludedFeature, isExcludedFeature⟩ := succeeds_firstMatch fun feature listed =>
    featureTested feature (isResolvable _ (FeatureFilter.mem_excludedFeatures_iff.1 listed))
  obtain ⟨includedFeature, isIncludedFeature⟩ := succeeds_firstMatch fun included listed =>
    featureTested included.feature
      (isResolvable _ (FeatureFilter.mem_includedFeatures_iff.1 listed))
  obtain ⟨excludedSpec, isExcludedSpec⟩ := succeeds_firstMatch fun spec listed =>
    specTested spec (isResolvable _ (FeatureFilter.mem_excludedSpecs_iff.1 listed))
  obtain ⟨includedSpec, isIncludedSpec⟩ := succeeds_firstMatch fun spec listed =>
    specTested spec (isResolvable _ (FeatureFilter.mem_includedSpecs_iff.1 listed))
  simp only [opinion, isExcludedFeature, isIncludedFeature, isExcludedSpec, isIncludedSpec, bind,
    Except.bind]
  cases excludedFeature <;> cases includedFeature <;> cases excludedSpec <;> cases includedSpec <;>
    exact succeeds_pure _

/-- Resolvable filters decide about every feature. -/
theorem succeeds_admission {filters : List ScopedFilter}
    (resolvable : ∀ level ∈ filters, level.IsResolvable layout) (id : ResolvedId) :
    Succeeds (layout.admission id filters) := by
  induction filters with
  | nil => exact ⟨_, rfl⟩
  | cons level outer inductionHypothesis =>
      obtain ⟨opinion, isOpinion⟩ := succeeds_opinion (resolvable level List.mem_cons_self) id
      refine succeeds_bind_iff.2 ⟨opinion, isOpinion, ?_⟩
      cases opinion with
      | some decided => exact succeeds_pure _
      | none =>
          exact inductionHypothesis fun other isOuter =>
            resolvable other (List.mem_cons_of_mem _ isOuter)

/-- Resolvable filters decide about every group. -/
theorem succeeds_isGroupExcluded {filters : List ScopedFilter}
    (resolvable : ∀ level ∈ filters, level.IsResolvable layout) (index : Nat) (name : String) :
    Succeeds (layout.isGroupExcluded index name filters) := by
  have tested : ∀ rule ∈ filters.reverse.flatMap fun level =>
      level.filter.excludedGroups.map fun excluded => (level.scope, excluded),
      Succeeds (layout.excludesGroup index name rule.1 rule.2) := by
    intro rule listed
    obtain ⟨level, isActive, inLevel⟩ := List.mem_flatMap.1 listed
    obtain ⟨excluded, isExcluded, rfl⟩ := List.mem_map.1 inLevel
    exact succeeds_excludesGroup index name (resolvable level (List.mem_reverse.1 isActive) _
      (FeatureFilter.mem_excludedGroups_iff.1 isExcluded))
  obtain ⟨found, isFound⟩ := succeeds_firstMatch tested
  exact succeeds_bind_iff.2 ⟨found, isFound, succeeds_pure _⟩

end Layout

end Provisioning
