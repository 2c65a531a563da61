/-
This file proves that collected features are instances of declared specs and keep the values of
their ids.
-/

import Provisioning.Expansion.Frames
import Provisioning.Proofs.Success

namespace Provisioning

/-- A collected feature is an instance of a spec that its feature-pack declares. -/
structure CollectedFeature.Grounded (layout : Layout) (feature : CollectedFeature) : Prop where
  declared : ∃ entry, layout.entries[feature.index]? = some entry ∧
    entry.gav = feature.id.gav ∧ entry.pack.spec? feature.id.specId.name = some feature.spec
  idParams : ∀ name value, feature.id.param? name = some value →
    ∃ param ∈ feature.spec.idParams, param.name = name
  idValues : ∀ name value, feature.id.param? name = some value →
    feature.params.get? name = some value

namespace CollectedFeature

/-- More values do not change what a feature is an instance of. -/
theorem Grounded.grow {layout : Layout} {feature : CollectedFeature}
    (grounded : feature.Grounded layout) {params : OrderedMap String String}
    (kept : ∀ name value, feature.params.get? name = some value → params.get? name = some value) :
    Grounded layout { feature with params } :=
  ⟨grounded.declared, grounded.idParams,
    fun name value isId => kept name value (grounded.idValues name value isId)⟩

theorem mergeParams_ok {spec : SpecId} {params merged : OrderedMap String String}
    {entries : List (String × String)} (isMerged : mergeParams spec params entries = .ok merged)
    (name value : String) (isValue : params.get? name = some value) :
    merged.get? name = some value := by
  fun_induction mergeParams spec params entries with
  | case1 params =>
      cases isMerged
      exact isValue
  | case2 params added first rest absent inductionHypothesis =>
      apply inductionHypothesis isMerged
      rw [OrderedMap.get?_insert]
      split
      · next same => simp [same, isValue] at absent
      · exact isValue
  | case3 params added rest first _ inductionHypothesis =>
      exact inductionHypothesis isMerged isValue
  | case4 => cases isMerged

end CollectedFeature

/-- Whatever holds of the collected features and of a new occurrence holds after their merger. -/
theorem Collected.merge_ok {Holds : CollectedFeature → Prop} {feature : CollectedFeature}
    (grows : ∀ known params, Holds known →
      (∀ name value, known.params.get? name = some value → params.get? name = some value) →
      Holds { known with params })
    (isNew : Holds feature) {collected merged : Collected}
    (isMerged : merge feature collected = .ok merged) (before : ∀ known ∈ collected, Holds known) :
    ∀ known ∈ merged, Holds known := by
  induction collected generalizing merged with
  | nil =>
      cases isMerged
      simpa using isNew
  | cons known rest inductionHypothesis =>
      rw [List.forall_mem_cons] at before
      rw [merge] at isMerged
      split at isMerged
      · simp only [bind_eq_ok_iff, pure_eq_ok_iff] at isMerged
        obtain ⟨params, merges, rfl⟩ := isMerged
        rw [List.forall_mem_cons]
        exact ⟨grows known params before.1 (CollectedFeature.mergeParams_ok merges), before.2⟩
      · simp only [bind_eq_ok_iff, pure_eq_ok_iff] at isMerged
        obtain ⟨others, merges, rfl⟩ := isMerged
        rw [List.forall_mem_cons]
        exact ⟨before.1, inductionHypothesis merges before.2⟩

/-- A parameter that has been settled is the one that was inserted or one of the others. -/
theorem named_of_insert {idParams : IdParams} {param : Parameter} {rest : List Parameter}
    {given name value : String}
    (settled : (idParams.insert param.name given).get? name = some value ∨
      ∃ other ∈ rest, other.name = name) :
    idParams.get? name = some value ∨ ∃ other ∈ param :: rest, other.name = name := by
  rcases settled with earlier | ⟨other, later, same⟩
  · rcases OrderedMap.get?_insert_eq_some_iff.1 earlier with ⟨same, _⟩ | ⟨_, before⟩
    · exact Or.inr ⟨param, List.mem_cons_self, same⟩
    · exact Or.inl before
  · exact Or.inr ⟨other, List.mem_cons_of_mem _ later, same⟩

/-- Settled id parameters are declared, and their values are among the values of the feature. -/
theorem settleIdParams_ok {id : SpecId} {params : OrderedMap String String} {idParams : IdParams}
    {declared : List Parameter} {settled : OrderedMap String String × IdParams}
    (isSettled : settleIdParams id params idParams declared = .ok settled)
    (values : ∀ name value, idParams.get? name = some value → params.get? name = some value) :
    (∀ name value, settled.2.get? name = some value → settled.1.get? name = some value) ∧
      ∀ name value, settled.2.get? name = some value →
        idParams.get? name = some value ∨ ∃ param ∈ declared, param.name = name := by
  fun_induction settleIdParams id params idParams declared with
  | case1 params idParams =>
      cases isSettled
      exact ⟨values, fun name value isId => Or.inl isId⟩
  | case2 params idParams param rest given isGiven inductionHypothesis =>
      have kept : ∀ name value, (idParams.insert param.name given).get? name = some value →
          params.get? name = some value := by
        intro name value isId
        rcases OrderedMap.get?_insert_eq_some_iff.1 isId with ⟨rfl, rfl⟩ | ⟨_, before⟩
        · exact isGiven
        · exact values name value before
      obtain ⟨settles, named⟩ := inductionHypothesis isSettled kept
      exact ⟨settles, fun name value isId => named_of_insert (named name value isId)⟩
  | case3 params idParams param rest absent given isDefault inductionHypothesis =>
      have kept : ∀ name value, (idParams.insert param.name given).get? name = some value →
          (params.insert param.name given).get? name = some value := by
        intro name value isId
        rw [OrderedMap.get?_insert_eq_some_iff] at isId ⊢
        exact isId.imp_right fun ⟨different, before⟩ => ⟨different, values name value before⟩
      obtain ⟨settles, named⟩ := inductionHypothesis isSettled kept
      exact ⟨settles, fun name value isId => named_of_insert (named name value isId)⟩
  | case4 => cases isSettled

/-- Overrides never change the values of an id. -/
theorem applyOverrides_ok {id : ResolvedId} {spec : FeatureSpec}
    {params result : OrderedMap String String} {overrides : List (String × String)}
    (applied : applyOverrides id spec params overrides = .ok result)
    (idParams : ∀ name value, id.param? name = some value →
      ∃ param ∈ spec.idParams, param.name = name)
    (values : ∀ name value, id.param? name = some value → params.get? name = some value) :
    ∀ name value, id.param? name = some value → result.get? name = some value := by
  fun_induction applyOverrides id spec params overrides with
  | case1 params =>
      cases applied
      exact values
  | case2 => cases applied
  | case3 => cases applied
  | case4 params name value rest param declared first isFirst noConflict inductionHypothesis =>
      apply inductionHypothesis applied
      intro other known isKnown
      rw [OrderedMap.get?_insert]
      split
      · next same =>
        subst same
        -- The name belongs to an id parameter, so the override passed because it agrees.
        obtain ⟨idParam, isIdParam, named⟩ := idParams name known isKnown
        obtain ⟨isDeclared, isId⟩ := List.mem_filter.1 isIdParam
        have sameParam := FeatureSpec.param?_eq_some_iff.2 ⟨isDeclared, named⟩
        rw [declared, Option.some.injEq] at sameParam
        rw [isFirst, Option.some.injEq] at isKnown
        simp only [sameParam, isId, Bool.true_and, bne_iff_ne, ne_eq, Decidable.not_not]
          at noConflict
        rw [← noConflict, isKnown]
      · exact values other known isKnown
  | case5 params name value rest param declared absent inductionHypothesis =>
      apply inductionHypothesis applied
      intro other known isKnown
      rw [OrderedMap.get?_insert]
      split
      · next same =>
        subst same
        simp [absent] at isKnown
      · exact values other known isKnown

/-- An instance of a spec that is found has settled values for its id. -/
theorem grounded_of_settled {layout : Layout} {scope : Scope} {spec : SpecRef}
    {found : Found FeatureSpec} {params : OrderedMap String String}
    {settled : OrderedMap String String × IdParams} {id : ResolvedId}
    (isFound : layout.findSpec scope spec = .ok found)
    (isSettled : settleIdParams ⟨found.gav, found.definition.name⟩ params .empty
      found.definition.idParams = .ok settled)
    (isId : ResolvedId.new ⟨found.gav, found.definition.name⟩ settled.2 = .ok id) :
    CollectedFeature.Grounded layout ⟨id, found.definition, found.index, settled.1⟩ := by
  obtain ⟨entry, inLayout, sameGav, isSpec⟩ := Layout.findSpec_ok isFound
  have sameName : found.definition.name = spec.name := by
    simpa using List.find?_some isSpec
  obtain ⟨values, named⟩ := settleIdParams_ok isSettled (by simp)
  rw [ResolvedId.new] at isId
  split at isId
  · cases isId
  · cases isId
    refine ⟨⟨entry, inLayout, sameGav, sameName ▸ isSpec⟩, fun name value isParam => ?_, values⟩
    exact (named name value isParam).resolve_left (by simp)

theorem identify_ok {layout : Layout} {scope : Scope} {config : FeatureConfig}
    {parent : Option ResolvedId} {feature : CollectedFeature}
    (identified : identify layout scope config parent = .ok feature) : feature.Grounded layout := by
  simp only [identify, bind_eq_ok_iff] at identified
  obtain ⟨found, isFound, identified⟩ := identified
  split at identified
  · cases identified
  · cases parent <;>
      simp only [bind_eq_ok_iff, pure_eq_ok_iff, ofDescription_eq_ok_iff] at identified <;>
      obtain ⟨params, _, settled, isSettled, id, isId, rfl⟩ := identified
    · exact grounded_of_settled isFound isSettled isId
    · exact grounded_of_settled isFound isSettled isId

/-- An occurrence is collected as an instance of its spec. -/
theorem collectOccurrence_ok {layout : Layout} {filters : List ScopedFilter} {scope : Scope}
    {config : FeatureConfig} {parent : Option ResolvedId} {collected : Collected}
    {result : Collected × Option ResolvedId}
    (isCollected : collectOccurrence layout filters scope config parent collected = .ok result)
    (before : ∀ feature ∈ collected, feature.Grounded layout) :
    ∀ feature ∈ result.1, feature.Grounded layout := by
  simp only [collectOccurrence, bind_eq_ok_iff] at isCollected
  obtain ⟨feature, identified, decision, _, rest⟩ := isCollected
  have grounded := identify_ok identified
  cases decision with
  | excluded =>
      cases rest
      exact before
  | included rule =>
      simp only [bind_eq_ok_iff, pure_eq_ok_iff] at rest
      obtain ⟨params, applied, merged, isMerged, rfl⟩ := rest
      have overridden := applyOverrides_ok applied grounded.idParams grounded.idValues
      refine Collected.merge_ok (fun known params isKnown kept => isKnown.grow kept) ?_ isMerged
        before
      exact ⟨grounded.declared, grounded.idParams, overridden⟩

namespace Expansion

/-- A step changes the collected features only by collecting an occurrence. -/
theorem step_collected {layout : Layout} {Holds : Collected → Prop}
    (kept : ∀ filters scope config parent collected result,
      collectOccurrence layout filters scope config parent collected = .ok result →
        Holds collected → Holds result.1)
    {state next : State} {frame : Frame} {outer : List Frame}
    (stepped : step layout state frame outer = .ok next) (before : Holds state.collected) :
    Holds next.collected := by
  unfold step at stepped
  split at stepped
  · cases stepped
    unfold leave
    split <;> exact before
  · simp only [bind_eq_ok_iff, pure_eq_ok_iff, wrapWith_eq_ok_iff] at stepped
    obtain ⟨result, isCollected, child, _, rfl⟩ := stepped
    exact kept _ _ _ _ _ _ isCollected before
  · obtain ⟨opening, _, stepped⟩ := bind_eq_ok_iff.1 stepped
    cases opening with
    | none =>
        cases stepped
        exact before
    | some opening =>
        cases stepped
        exact before

/-- What every occurrence keeps up holds of everything that a run collects. -/
theorem run_collected {layout : Layout} {Holds : Collected → Prop}
    (kept : ∀ filters scope config parent collected result,
      collectOccurrence layout filters scope config parent collected = .ok result →
        Holds collected → Holds result.1)
    (filters : List ScopedFilter) (groups : List OpenGroup) (state : State) {collected : Collected}
    (isResult : (run layout filters groups state).result = .ok collected)
    (before : Holds state.collected) : Holds collected := by
  fun_induction run layout filters groups state with
  | case1 state _ =>
      cases isResult
      exact before
  | case2 => cases isResult
  | case3 state frame outer _ next stepped inductionHypothesis =>
      exact inductionHypothesis isResult (step_collected kept stepped before)

theorem expandPart_collected {layout : Layout} {Holds : Collected → Prop}
    (kept : ∀ filters scope config parent collected result,
      collectOccurrence layout filters scope config parent collected = .ok result →
        Holds collected → Holds result.1)
    {before after : Collected} {filters : List ScopedFilter} {groups : List OpenGroup}
    {part : ConfigPart} (isResult : (expandPart layout before filters groups part).result = .ok after)
    (holds : Holds before) : Holds after := by
  unfold expandPart at isResult
  split at isResult
  · exact run_collected kept _ _ _ isResult holds
  · split at isResult
    · cases isResult
    · exact run_collected kept _ _ _ isResult holds
    · exact run_collected kept _ _ _ isResult holds

theorem expandParts_collected {layout : Layout} {Holds : Collected → Prop}
    (kept : ∀ filters scope config parent collected result,
      collectOccurrence layout filters scope config parent collected = .ok result →
        Holds collected → Holds result.1)
    {before after : Collected} {filters : List ScopedFilter} {groups : List OpenGroup}
    {parts : List ConfigPart} (isResult : expandParts layout before filters groups parts = .ok after)
    (holds : Holds before) : Holds after := by
  induction parts generalizing before filters groups with
  | nil =>
      cases isResult
      exact holds
  | cons part rest inductionHypothesis =>
      obtain ⟨between, isPart, isRest⟩ := bind_eq_ok_iff.1 isResult
      exact inductionHypothesis isRest (expandPart_collected kept isPart holds)

/-- All features of a config are instances of declared specs. -/
theorem grounded_of_expandParts {layout : Layout} {collected : Collected} {parts : List ConfigPart}
    (isResult : expandParts layout [] [] [] parts = .ok collected) :
    ∀ feature ∈ collected, feature.Grounded layout :=
  expandParts_collected (fun _ _ _ _ _ _ => collectOccurrence_ok) isResult
    fun _ listed => absurd listed List.not_mem_nil

end Expansion

end Provisioning
