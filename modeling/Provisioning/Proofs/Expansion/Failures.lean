/-
This file proves that an expansion fails with what is wrong in a config, and with nothing else.
-/

import Provisioning.Proofs.Expansion.Steps
import Provisioning.Proofs.Expansion.Values
import Provisioning.Proofs.Failure

namespace Provisioning

open ProvisioningError

namespace Layout

variable (layout : Layout)

/-- A lookup of an alias fails when the alias is unknown, and for nothing else. -/
theorem failsWithin_resolveOrigin (scope : Scope) (origin : String) :
    FailsWithin IsUnknownOrigin (layout.resolveOrigin scope origin) := by
  unfold resolveOrigin
  split
  · exact .ok _
  · exact .error trivial

/-- A scope is not found when the alias that leads to it is unknown. -/
theorem failsWithin_qualify (scope : Scope) (origin : Option String) :
    FailsWithin IsUnknownOrigin (layout.qualify scope origin) := by
  cases origin with
  | none => exact .ok _
  | some origin => exact (failsWithin_resolveOrigin layout scope origin).bind fun _ _ => .pure _

/-- A lookup fails because of its alias, or because the definition is missing. -/
theorem failsWithin_findDefinition {Definition : Type} {Allowed : ProvisioningError → Prop}
    {layout : Layout} {scope : Scope} {origin : Option String}
    {definition? : FeaturePack → Option Definition} {missing : String → ProvisioningError}
    (qualifies : FailsWithin Allowed (layout.qualify scope origin))
    (misses : ∀ described, Allowed (missing described)) :
    FailsWithin Allowed (layout.findDefinition scope origin definition? missing) := by
  refine qualifies.bind fun start _ => ?_
  split
  · exact .ok _
  · exact .error (misses _)

theorem failsWithin_findSpec (scope : Scope) (spec : SpecRef) :
    FailsWithin IsFinding (layout.findSpec scope spec) :=
  failsWithin_findDefinition
    ((failsWithin_qualify layout scope spec.origin).mono fun _ => IsUnknownOrigin.isFinding)
    fun _ => trivial

theorem failsWithin_findGroup (scope : Scope) (group : SpecRef) :
    FailsWithin IsFinding (layout.findGroup scope group) :=
  failsWithin_findDefinition
    ((failsWithin_qualify layout scope group.origin).mono fun _ => IsUnknownOrigin.isFinding)
    fun _ => trivial

theorem failsWithin_leadsTo (gav : Gav) {attempt : Provisioned (Found FeatureSpec)}
    (fails : FailsWithin IsFinding attempt) : FailsWithin IsFinding (leadsTo gav attempt) := by
  unfold leadsTo
  split
  · exact .ok _
  · exact .ok _
  · exact .error (fails _ rfl)

/-- Comparing a spec with a rule fails when the rule names something that cannot be looked up. -/
theorem failsWithin_matchesSpec (scope : Scope) (spec : SpecRef) (id : SpecId) :
    FailsWithin IsFinding (layout.matchesSpec scope spec id) := by
  unfold matchesSpec
  split
  · exact failsWithin_leadsTo id.gav (failsWithin_findSpec layout scope spec)
  · exact .ok _

theorem failsWithin_matchesFeature (scope : Scope) (feature : FeatureRef) (id : ResolvedId) :
    FailsWithin IsFinding (layout.matchesFeature scope feature id) := by
  unfold matchesFeature
  split
  · exact failsWithin_leadsTo id.gav (failsWithin_findSpec layout scope _)
  · exact .ok _

/-- The search for the first match fails as one of its comparisons does. -/
theorem failsWithin_firstMatch {Element : Type} {accepts : Element → Provisioned Bool}
    (fails : ∀ element, FailsWithin IsFinding (accepts element)) (elements : List Element) :
    FailsWithin IsFinding (firstMatch accepts elements) := by
  induction elements with
  | nil => exact .ok _
  | cons element rest inductionHypothesis =>
      refine (fails element).bind fun accepted _ => ?_
      cases accepted with
      | true => exact .pure _
      | false => exact inductionHypothesis

/-- The opinion of a filter fails as the lookup of a name in one of its rules does. -/
theorem failsWithin_opinion (level : ScopedFilter) (id : ResolvedId) :
    FailsWithin IsFinding (layout.opinion level id) := by
  refine (failsWithin_firstMatch (fun _ => failsWithin_matchesFeature layout _ _ _) _).bind ?_
  rintro (_ | excluded) _
  · refine (failsWithin_firstMatch (fun _ => failsWithin_matchesFeature layout _ _ _) _).bind ?_
    rintro (_ | included) _
    · refine (failsWithin_firstMatch (fun _ => failsWithin_matchesSpec layout _ _ _) _).bind ?_
      rintro (_ | excluded) _
      · refine (failsWithin_firstMatch (fun _ => failsWithin_matchesSpec layout _ _ _) _).bind ?_
        rintro (_ | included) _
        · exact .pure _
        · exact .pure _
      · exact .pure _
    · exact .pure _
  · exact .pure _

/-- The admission of a feature fails as the opinion of a filter around it does. -/
theorem failsWithin_admission (id : ResolvedId) (filters : List ScopedFilter) :
    FailsWithin IsFinding (layout.admission id filters) := by
  induction filters with
  | nil => exact .ok _
  | cons level outer inductionHypothesis =>
      refine (failsWithin_opinion layout level id).bind fun decided _ => ?_
      cases decided with
      | some decided => exact .pure _
      | none => exact inductionHypothesis

/-- Only the alias of an exclusion can fail; a group that is not found excludes nothing. -/
theorem failsWithin_excludesGroup (index : Nat) (name : String) (scope : Scope)
    (excluded : SpecRef) :
    FailsWithin IsFinding (layout.excludesGroup index name scope excluded) := by
  unfold excludesGroup
  split
  · split
    · exact .ok _
    · exact .ok _
    · next problem _ failed =>
      exact .error (failsWithin_findGroup layout scope excluded problem failed)
  · exact .ok _

theorem failsWithin_isGroupExcluded (index : Nat) (name : String) (filters : List ScopedFilter) :
    FailsWithin IsFinding (layout.isGroupExcluded index name filters) :=
  (failsWithin_firstMatch (fun _ => failsWithin_excludesGroup layout _ _ _ _) _).bind
    fun _ _ => .pure _

/-- A filter is refused for an alias alone. -/
theorem failsWithin_activate (filter : FeatureFilter) (scope : Scope) :
    FailsWithin IsUnknownOrigin (layout.activate filter scope) := by
  have resolves (origins : List String) :
      FailsWithin IsUnknownOrigin (layout.resolveOrigins scope origins) := by
    induction origins with
    | nil => exact .ok _
    | cons origin rest inductionHypothesis =>
        exact (failsWithin_resolveOrigin layout scope origin).bind fun _ _ => inductionHypothesis
  unfold activate
  split
  · exact .ok _
  · exact (resolves _).bind fun _ _ => .pure _

end Layout

section

variable {layout : Layout} {spec : FeatureSpec} {params : OrderedMap String String}

/-- A value of the parent is missing or in conflict; no alias is looked up for it. -/
theorem failsWithin_takeFromParent (id : SpecId) (spec : FeatureSpec) (parent : ResolvedId)
    (params : OrderedMap String String) (mapping : List (String × String)) :
    FailsWithin IsBeyondAliases (takeFromParent id spec parent params mapping) := by
  fun_induction takeFromParent id spec parent params mapping with
  | case1 => exact .ok _
  | case2 => assumption
  | case3 => exact .error ⟨trivial, not_false⟩
  | case4 => assumption
  | case5 => exact .error ⟨trivial, not_false⟩
  | case6 => assumption

/-- A feature takes over values of its parent unless the search for the target of its reference
fails, or the values themselves stand in the way. -/
theorem failsWithin_initFromParent {Allowed : ProvisioningError → Prop} {layout : Layout}
    {index : Nat} {spec : FeatureSpec} {config : FeatureConfig} {parent : ResolvedId}
    (others : ∀ problem, IsBeyondAliases problem → Allowed problem)
    (finds : ∀ reference, spec.referenceTo? config parent = some reference →
      FailsWithin Allowed (layout.findSpec (.pack index) ⟨reference.origin, reference.target⟩))
    (id : SpecId) (params : OrderedMap String String) :
    FailsWithin Allowed (initFromParent layout index id spec config parent params) := by
  unfold initFromParent
  split
  · exact .error (others _ ⟨trivial, not_false⟩)
  · next reference isReference =>
    refine (finds reference isReference).bind fun target _ => ?_
    split
    · exact .error (others _ ⟨trivial, not_false⟩)
    · exact (failsWithin_takeFromParent _ _ _ _ _).mono others

/-- An id parameter without a value is found without looking up an alias. -/
theorem failsWithin_settleIdParams (id : SpecId) (params : OrderedMap String String)
    (idParams : IdParams) (declared : List Parameter) :
    FailsWithin IsBeyondAliases (settleIdParams id params idParams declared) := by
  fun_induction settleIdParams id params idParams declared with
  | case1 => exact .ok _
  | case2 => assumption
  | case3 => assumption
  | case4 => exact .error ⟨trivial, not_false⟩

/-- Overrides are applied without looking up an alias. -/
theorem failsWithin_applyOverrides (id : ResolvedId) (spec : FeatureSpec)
    (params : OrderedMap String String) (overrides : List (String × String)) :
    FailsWithin IsBeyondAliases (applyOverrides id spec params overrides) := by
  fun_induction applyOverrides id spec params overrides with
  | case1 => exact .ok _
  | case2 => exact .error ⟨trivial, not_false⟩
  | case3 => exact .error ⟨trivial, not_false⟩
  | case4 => assumption
  | case5 => assumption

/-- Every spec has an id parameter, so the id of a feature is never empty. -/
theorem new_of_settled {id : SpecId} {settled : OrderedMap String String × IdParams}
    (isSettled : settleIdParams id params .empty spec.idParams = .ok settled) :
    ResolvedId.new id settled.2 = .ok ⟨id, settled.2⟩ := by
  have keys : settled.2.keys = spec.idParams.map Parameter.name :=
    keys_settleIdParams isSettled spec.nodup_idParams
  have filled : settled.2.isEmpty = false := by
    rw [OrderedMap.isEmpty, List.isEmpty_eq_false_iff]
    intro isEmpty
    rw [OrderedMap.keys, isEmpty, List.map_nil] at keys
    exact spec.idParams_ne_nil (List.map_eq_nil_iff.1 keys.symm)
  rw [ResolvedId.new, filled]
  rfl

/-- With the values taken over from a parent, only an id parameter can still lack a value. -/
theorem failsWithin_settled (found : Found FeatureSpec) (params : OrderedMap String String) :
    FailsWithin IsBeyondAliases (do
      let settled ← settleIdParams ⟨found.gav, found.definition.name⟩ params .empty
        found.definition.idParams
      let id ← ofDescription (ResolvedId.new ⟨found.gav, found.definition.name⟩ settled.2)
      return (⟨id, found.definition, found.index, settled.1⟩ : CollectedFeature)) := by
  refine (failsWithin_settleIdParams _ _ _ _).bind fun settled isSettled => ?_
  rw [new_of_settled isSettled]
  exact .pure _

/-- The id of a feature fails with a finding about the feature or about its parent. -/
theorem failsWithin_identify (layout : Layout) (scope : Scope) (config : FeatureConfig)
    (parent : Option ResolvedId) :
    FailsWithin (ConcernsOccurrence config.text) (identify layout scope config parent) := by
  refine ((Layout.failsWithin_findSpec layout scope config.spec).mono fun _ => .finding).bind
    fun found _ => ?_
  dsimp only
  split
  · exact .error (.finding trivial)
  · cases parent with
    | none => exact (failsWithin_settled found config.params).mono fun _ beyond => .finding beyond.1
    | some parent =>
        refine .bind ?_ fun params _ =>
          (failsWithin_settled found params).mono fun _ beyond => .finding beyond.1
        have finds (reference : FeatureReference) := Layout.failsWithin_findSpec layout
          (.pack found.index) ⟨reference.origin, reference.target⟩
        exact (failsWithin_initFromParent (fun _ => And.left) (fun reference _ => finds reference)
          _ _).wrapWith fun _ => .fromParent

/-- Values are in conflict when they differ; no alias is looked up for them. -/
theorem failsWithin_mergeParams (spec : SpecId) (params : OrderedMap String String)
    (entries : List (String × String)) :
    FailsWithin IsBeyondAliases (CollectedFeature.mergeParams spec params entries) := by
  fun_induction CollectedFeature.mergeParams spec params entries with
  | case1 => exact .ok _
  | case2 => assumption
  | case3 => assumption
  | case4 => exact .error ⟨trivial, not_false⟩

/-- Features are merged without looking up an alias. -/
theorem failsWithin_merge (feature : CollectedFeature) (collected : Collected) :
    FailsWithin IsBeyondAliases (collected.merge feature) := by
  induction collected with
  | nil => exact .ok _
  | cons known rest inductionHypothesis =>
      unfold Collected.merge
      split
      · exact (failsWithin_mergeParams _ _ _).bind fun _ _ => .pure _
      · exact inductionHypothesis.bind fun _ _ => .pure _

/-- A feature that cannot be collected has a finding of its own as its cause. -/
theorem failsWithin_collectOccurrence (layout : Layout) (filters : List ScopedFilter)
    (scope : Scope) (config : FeatureConfig) (parent : Option ResolvedId) (collected : Collected) :
    FailsWithin (ConcernsOccurrence config.text)
      (collectOccurrence layout filters scope config parent collected) := by
  refine (failsWithin_identify layout scope config parent).bind fun feature _ => ?_
  have admits := Layout.failsWithin_admission layout feature.id filters
  refine (admits.mono fun _ => .finding).bind ?_
  rintro (_ | rule) _
  · exact .pure _
  · refine FailsWithin.mono ?_ fun _ (beyond : IsBeyondAliases _) => .finding beyond.1
    refine (failsWithin_applyOverrides _ _ _ _).bind fun params _ => ?_
    exact (failsWithin_merge _ _).bind fun _ _ => .pure _

end

namespace Expansion

/-- An item fails for a cause that concerns it, be it a search, an occurrence, a filter or a cycle. -/
theorem ItemFails.concerns {layout : Layout} {state : State} {frame : Frame}
    {opened : Option OpenGroup} {cause : ProvisioningError}
    (failed : ItemFails layout state frame opened cause) : ConcernsItem opened.isSome cause := by
  cases failed with
  | feature items failed =>
      exact .occurrence (failsWithin_collectOccurrence _ _ _ _ _ _ _ failed)
  | search items failed => exact .search (layout.failsWithin_findGroup _ _ _ failed)
  | exclusion items isFound failed =>
      exact .search (layout.failsWithin_isGroupExcluded _ _ _ _ failed)
  | cycle items isFound notExcluded closes => exact .cycle _
  | filter items isFound notExcluded isNew failed =>
      exact .filter (layout.failsWithin_activate _ _ _ failed)

/-- The groups around an error do not change what it says at its core. -/
theorem isSpecific_inGroups (groups : List GroupId) {problem : ProvisioningError}
    (isSpecific : problem.IsSpecific) : (inGroups groups problem).IsSpecific := by
  rwa [IsSpecific, rootCause_inGroups]

/-- A run fails with the specific problem of the item at which it stops. -/
theorem failsWithin_run (layout : Layout) (filters : List ScopedFilter) (groups : List OpenGroup)
    (state : State) : FailsWithin IsSpecific (run layout filters groups state).result := by
  intro problem isProblem
  have ends := run_ends layout filters groups state
  rw [isProblem] at ends
  cases ends with
  | fails comes frames failed => exact isSpecific_inGroups _ failed.concerns.isSpecific

/-- The expansion of a part fails specifically, in its filter or in one of its items. -/
theorem failsWithin_expandPart (layout : Layout) (collected : Collected)
    (filters : List ScopedFilter) (groups : List OpenGroup) (part : ConfigPart) :
    FailsWithin IsSpecific (expandPart layout collected filters groups part).result := by
  unfold expandPart
  split
  · exact failsWithin_run _ _ _ _
  · split
    · next problem failed =>
      exact .error (Layout.failsWithin_activate layout _ _ problem failed).isFinding.isSpecific
    · exact failsWithin_run _ _ _ _
    · exact failsWithin_run _ _ _ _

/-- No invalid description comes out of the expansion of a config. -/
theorem failsWithin_expandParts (layout : Layout) (collected : Collected)
    (filters : List ScopedFilter) (groups : List OpenGroup) (parts : List ConfigPart) :
    FailsWithin IsSpecific (expandParts layout collected filters groups parts) := by
  induction parts generalizing collected filters groups with
  | nil => exact .ok _
  | cons part rest inductionHypothesis =>
      exact (failsWithin_expandPart layout collected filters groups part).bind
        fun _ _ => inductionHypothesis _ _ _

end Expansion

end Provisioning
