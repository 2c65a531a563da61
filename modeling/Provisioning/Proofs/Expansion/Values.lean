/-
This file says where the values of an identified feature come from.
-/

import Provisioning.Proofs.Expansion.Collected

namespace Provisioning

/-- The value that the id of an enclosing feature gives to a parameter. -/
def FeatureSpec.inherited? (spec : FeatureSpec) (config : FeatureConfig) (parent : ResolvedId)
    (name : String) : Option String :=
  (spec.referenceTo? config parent).bind fun reference =>
    (OrderedMap.lookup name (parentMapping reference parent)).bind parent.param?

/-- The default that an id parameter takes as its value. -/
def FeatureSpec.idDefault? (spec : FeatureSpec) (name : String) : Option String :=
  (spec.idParams.find? fun param => param.name == name).bind Parameter.default

/-- What a feature takes over from the id of its parent through a mapping. -/
structure TakesOver (spec : FeatureSpec) (parent : ResolvedId) (mapping : List (String × String))
    (params result : OrderedMap String String) : Prop where
  value : ∀ name, result.get? name =
    (params.get? name).or ((OrderedMap.lookup name mapping).bind parent.param?)
  agrees : ∀ pair ∈ mapping, ∀ value, parent.param? pair.2 = some value →
    result.get? pair.1 = some value
  declared : ∀ pair ∈ mapping, ∀ value, parent.param? pair.2 = some value →
    spec.declares pair.1 = true

section

variable {spec : FeatureSpec} {parent : ResolvedId} {rest : List (String × String)}
  {params result : OrderedMap String String} {param target value : String}

/-- A pair whose target is not part of the parent's id gives nothing. -/
theorem TakesOver.skip (taken : TakesOver spec parent rest params result)
    (isNew : param ∉ rest.map Prod.fst) (absent : parent.param? target = none) :
    TakesOver spec parent ((param, target) :: rest) params result where
  value := by
    intro name
    rw [taken.value, OrderedMap.lookup]
    split
    · next same => simp [← same, OrderedMap.lookup_eq_none_iff.2 isNew, absent]
    · rfl
  agrees := by
    rw [List.forall_mem_cons]
    exact ⟨fun value isValue => by simp [absent] at isValue, taken.agrees⟩
  declared := by
    rw [List.forall_mem_cons]
    exact ⟨fun value isValue => by simp [absent] at isValue, taken.declared⟩

/-- A value that is set already has to be that of the parent. -/
theorem TakesOver.keep (taken : TakesOver spec parent rest params result)
    (isValue : parent.param? target = some value) (declared : spec.declares param = true)
    (isSet : params.get? param = some value) :
    TakesOver spec parent ((param, target) :: rest) params result where
  value := by
    intro name
    rw [taken.value, OrderedMap.lookup]
    split
    · next same => simp [← same, isSet]
    · rfl
  agrees := by
    rw [List.forall_mem_cons]
    refine ⟨fun other isOther => ?_, taken.agrees⟩
    rw [taken.value, isSet, Option.some_or, ← isValue, isOther]
  declared := by
    rw [List.forall_mem_cons]
    exact ⟨fun _ _ => declared, taken.declared⟩

/-- A parameter that is not set takes the value of the parent. -/
theorem TakesOver.take (taken : TakesOver spec parent rest (params.insert param value) result)
    (isValue : parent.param? target = some value) (declared : spec.declares param = true)
    (isUnset : params.get? param = none) :
    TakesOver spec parent ((param, target) :: rest) params result where
  value := by
    intro name
    rw [taken.value, OrderedMap.lookup, OrderedMap.get?_insert]
    split
    · next same => simp [← same, isUnset, isValue]
    · rfl
  agrees := by
    rw [List.forall_mem_cons]
    refine ⟨fun other isOther => ?_, taken.agrees⟩
    rw [taken.value, OrderedMap.get?_insert, if_pos rfl, Option.some_or, ← isValue, isOther]
  declared := by
    rw [List.forall_mem_cons]
    exact ⟨fun _ _ => declared, taken.declared⟩

end

/-- Values that are taken from a parent are taken over as mapped. -/
theorem takeFromParent_ok {id : SpecId} {spec : FeatureSpec} {parent : ResolvedId}
    {params result : OrderedMap String String} {mapping : List (String × String)}
    (nodup : (mapping.map Prod.fst).Nodup)
    (isTaken : takeFromParent id spec parent params mapping = .ok result) :
    TakesOver spec parent mapping params result := by
  fun_induction takeFromParent id spec parent params mapping with
  | case1 params =>
      cases isTaken
      exact ⟨by simp [OrderedMap.lookup], by simp, by simp⟩
  | case2 params param target rest absent inductionHypothesis =>
      rw [List.map_cons, List.nodup_cons] at nodup
      exact (inductionHypothesis nodup.2 isTaken).skip nodup.1 absent
  | case3 => cases isTaken
  | case4 params param target rest declared value isSet isValue inductionHypothesis =>
      rw [List.map_cons, List.nodup_cons] at nodup
      exact (inductionHypothesis nodup.2 isTaken).keep isValue (by simpa using declared) isSet
  | case5 => cases isTaken
  | case6 params param target rest value isValue declared isUnset inductionHypothesis =>
      rw [List.map_cons, List.nodup_cons] at nodup
      exact (inductionHypothesis nodup.2 isTaken).take isValue (by simpa using declared) isUnset

/-- A mapping feeds each local parameter once. -/
theorem nodup_parentMapping (reference : FeatureReference) (parent : ResolvedId) :
    ((parentMapping reference parent).map Prod.fst).Nodup := by
  unfold parentMapping
  split
  · rw [List.map_map]
    exact (List.map_id' parent.params.keys).symm ▸ parent.params.keysNodup
  · exact reference.mapping.keysNodup

/-- Id parameters without a value take their defaults, and nothing else changes. -/
theorem get?_settleIdParams {id : SpecId} {params : OrderedMap String String} {idParams : IdParams}
    {declared : List Parameter} {settled : OrderedMap String String × IdParams}
    (isSettled : settleIdParams id params idParams declared = .ok settled) (name : String) :
    settled.1.get? name = (params.get? name).or
      ((declared.find? fun param => param.name == name).bind Parameter.default) := by
  fun_induction settleIdParams id params idParams declared with
  | case1 params idParams =>
      cases isSettled
      simp
  | case2 params idParams param rest value isValue inductionHypothesis =>
      rw [inductionHypothesis isSettled, List.find?_cons]
      split
      · next same =>
        rw [beq_iff_eq] at same
        simp [← same, isValue]
      · rfl
  | case3 params idParams param rest isUnset value isDefault inductionHypothesis =>
      rw [inductionHypothesis isSettled, List.find?_cons, OrderedMap.get?_insert]
      by_cases same : param.name = name
      · simp [← same, isUnset, isDefault]
      · simp [same, beq_eq_false_iff_ne.2 same]
  | case4 => cases isSettled

/-- The id lists the id parameters in the order of their declaration. -/
theorem keys_settleIdParams {id : SpecId} {params : OrderedMap String String} {idParams : IdParams}
    {declared : List Parameter} {settled : OrderedMap String String × IdParams}
    (isSettled : settleIdParams id params idParams declared = .ok settled)
    (nodup : (idParams.keys ++ declared.map Parameter.name).Nodup) :
    settled.2.keys = idParams.keys ++ declared.map Parameter.name := by
  have isNew : ∀ (idParams : IdParams) (param : Parameter) (rest : List Parameter),
      (idParams.keys ++ (param :: rest).map Parameter.name).Nodup →
        idParams.get? param.name = none := by
    intro idParams param rest nodup
    rw [OrderedMap.get?_eq_none_iff]
    exact fun known => (List.nodup_append.1 nodup).2.2 _ known _ List.mem_cons_self rfl
  fun_induction settleIdParams id params idParams declared with
  | case1 params idParams =>
      cases isSettled
      simp
  | case2 params idParams param rest value isValue inductionHypothesis =>
      have keys := OrderedMap.keys_insert_of_new value (isNew idParams param rest nodup)
      rw [inductionHypothesis isSettled (by rw [keys]; simpa using nodup), keys]
      simp
  | case3 params idParams param rest isUnset value isDefault inductionHypothesis =>
      have keys := OrderedMap.keys_insert_of_new value (isNew idParams param rest nodup)
      rw [inductionHypothesis isSettled (by rw [keys]; simpa using nodup), keys]
      simp
  | case4 => cases isSettled

/-- An override replaces whatever value there was. -/
theorem get?_applyOverrides {id : ResolvedId} {spec : FeatureSpec}
    {params result : OrderedMap String String} {overrides : List (String × String)}
    (nodup : (overrides.map Prod.fst).Nodup)
    (applied : applyOverrides id spec params overrides = .ok result) (name : String) :
    result.get? name = (OrderedMap.lookup name overrides).or (params.get? name) := by
  have insert : ∀ (params : OrderedMap String String) (key value : String)
      (rest : List (String × String)), (((key, value) :: rest).map Prod.fst).Nodup →
        (OrderedMap.lookup name rest).or ((params.insert key value).get? name) =
          (OrderedMap.lookup name ((key, value) :: rest)).or (params.get? name) := by
    intro params key value rest nodup
    rw [OrderedMap.lookup, OrderedMap.get?_insert]
    split
    · next same =>
      have absent := OrderedMap.lookup_eq_none_iff.2 (List.nodup_cons.1 nodup).1
      rw [← same, absent, Option.none_or, Option.some_or]
    · rfl
  fun_induction applyOverrides id spec params overrides with
  | case1 params =>
      cases applied
      rfl
  | case2 => cases applied
  | case3 => cases applied
  | case4 params key value rest param declared first isFirst noConflict inductionHypothesis =>
      rw [inductionHypothesis (List.nodup_cons.1 nodup).2 applied, insert params key value rest nodup]
  | case5 params key value rest param declared absent inductionHypothesis =>
      rw [inductionHypothesis (List.nodup_cons.1 nodup).2 applied, insert params key value rest nodup]

/-- A spec declares the names of its parameters. -/
theorem declares_iff {spec : FeatureSpec} {name : String} :
    spec.declares name = true ↔ name ∈ spec.params.map Parameter.name := by
  simp [FeatureSpec.Declaration.declares]

/-- Only declared parameters are overridden. -/
theorem declares_of_applyOverrides {id : ResolvedId} {spec : FeatureSpec}
    {params result : OrderedMap String String} {overrides : List (String × String)}
    (applied : applyOverrides id spec params overrides = .ok result) :
    ∀ pair ∈ overrides, spec.declares pair.1 = true := by
  have declares : ∀ name param, spec.param? name = some param → spec.declares name = true := by
    intro name param found
    obtain ⟨listed, named⟩ := FeatureSpec.param?_eq_some_iff.1 found
    exact declares_iff.2 (List.mem_map.2 ⟨param, listed, named⟩)
  fun_induction applyOverrides id spec params overrides with
  | case1 => simp
  | case2 => cases applied
  | case3 => cases applied
  | case4 params key value rest param declared first isFirst noConflict inductionHypothesis =>
      rw [List.forall_mem_cons]
      exact ⟨declares key param declared, inductionHypothesis applied⟩
  | case5 params key value rest param declared absent inductionHypothesis =>
      rw [List.forall_mem_cons]
      exact ⟨declares key param declared, inductionHypothesis applied⟩

/-- A feature takes over the id of its parent through a reference to the parent's spec. -/
theorem initFromParent_ok {layout : Layout} {index : Nat} {id : SpecId} {spec : FeatureSpec}
    {config : FeatureConfig} {parent : ResolvedId} {params result : OrderedMap String String}
    (isTaken : initFromParent layout index id spec config parent params = .ok result) :
    ∃ reference target, spec.referenceTo? config parent = some reference ∧
      layout.findSpec (.pack index) ⟨reference.origin, reference.target⟩ = .ok target ∧
      target.gav = parent.gav ∧ target.definition.name = parent.specId.name ∧
      TakesOver spec parent (parentMapping reference parent) params result := by
  rw [initFromParent] at isTaken
  split at isTaken
  · cases isTaken
  · next reference selected =>
    obtain ⟨target, found, isTaken⟩ := bind_eq_ok_iff.1 isTaken
    split at isTaken
    · cases isTaken
    · next sameSpec =>
      simp only [Bool.or_eq_true, bne_iff_ne, ne_eq, not_or, Decidable.not_not] at sameSpec
      exact ⟨reference, target, selected, found, sameSpec.1, sameSpec.2,
        takeFromParent_ok (nodup_parentMapping reference parent) isTaken⟩

/-- The reference through which a feature leads to its parent, and what it takes over from it. -/
structure LinkedToParent (layout : Layout) (config : FeatureConfig) (index : Nat)
    (spec : FeatureSpec) (parent : ResolvedId) (params : OrderedMap String String)
    (reference : FeatureReference) : Prop where
  selected : spec.referenceTo? config parent = some reference
  target : ∃ target, layout.findSpec (.pack index) ⟨reference.origin, reference.target⟩ =
    .ok target ∧ target.gav = parent.gav ∧ target.definition.name = parent.specId.name
  takesOver : ∀ pair ∈ parentMapping reference parent, ∀ value, parent.param? pair.2 = some value →
    params.get? pair.1 = some value

/-- The values that a feature starts with are its own and those that its parent gives to it. -/
structure Started (layout : Layout) (config : FeatureConfig) (parent : Option ResolvedId)
    (index : Nat) (spec : FeatureSpec) (params : OrderedMap String String) : Prop where
  value : ∀ name, params.get? name = (config.params.get? name).or
    (parent.bind fun enclosing => spec.inherited? config enclosing name)
  declared : ∀ name value, params.get? name = some value → spec.declares name = true
  linked : ∀ enclosing, parent = some enclosing →
    ∃ reference, LinkedToParent layout config index spec enclosing params reference

/-- An instance of a spec has all its id parameters, in the order of their declaration, and values
for declared parameters only. -/
structure CollectedFeature.Instance (layout : Layout) (feature : CollectedFeature) : Prop
    extends feature.Grounded layout where
  idKeys : feature.id.params.keys = feature.spec.idParams.map Parameter.name
  valuesDeclared : ∀ name value, feature.params.get? name = some value →
    feature.spec.declares name = true

/-- What is known about a feature once it is identified. -/
structure Identified (layout : Layout) (config : FeatureConfig) (parent : Option ResolvedId)
    (feature : CollectedFeature) : Prop extends feature.Instance layout where
  /-- A value is given explicitly, or by the parent, or by the default of an id parameter. -/
  value : ∀ name, feature.params.get? name =
    (config.params.get? name).or
      ((parent.bind fun enclosing => feature.spec.inherited? config enclosing name).or
        (feature.spec.idDefault? name))
  linked : ∀ enclosing, parent = some enclosing →
    ∃ reference, LinkedToParent layout config feature.index feature.spec enclosing feature.params
      reference

/-- Further values do not undo the link to the parent. -/
theorem LinkedToParent.grow {layout : Layout} {config : FeatureConfig} {index : Nat}
    {spec : FeatureSpec} {parent : ResolvedId} {params more : OrderedMap String String}
    {reference : FeatureReference}
    (linked : LinkedToParent layout config index spec parent params reference)
    (kept : ∀ name value, params.get? name = some value → more.get? name = some value) :
    LinkedToParent layout config index spec parent more reference :=
  ⟨linked.selected, linked.target, fun pair mapped value isValue =>
    kept pair.1 value (linked.takesOver pair mapped value isValue)⟩

section

variable {layout : Layout} {config : FeatureConfig} {index : Nat}
  {spec : FeatureSpec} {params : OrderedMap String String}

/-- A feature with no parent starts with its own values. -/
theorem started_without_parent
    (declared : ∀ name value, config.params.get? name = some value → spec.declares name = true) :
    Started layout config none index spec config.params where
  value name := by rw [Option.bind_none, Option.or_none]
  declared := declared
  linked enclosing isParent := by cases isParent

/-- A feature within a parent starts with its own values and those it takes over. -/
theorem started_within {id : SpecId} {parent : ResolvedId}
    (declared : ∀ name value, config.params.get? name = some value → spec.declares name = true)
    (isTaken : initFromParent layout index id spec config parent config.params = .ok params) :
    Started layout config (some parent) index spec params := by
  obtain ⟨reference, target, selected, found, sameGav, sameName, taken⟩ :=
    initFromParent_ok isTaken
  have inherited : ∀ name, spec.inherited? config parent name =
      (OrderedMap.lookup name (parentMapping reference parent)).bind parent.param? := by
    intro name
    rw [FeatureSpec.inherited?, selected, Option.bind_some]
  refine ⟨fun name => ?_, fun name value isValue => ?_, fun enclosing isParent => ?_⟩
  · rw [taken.value, Option.bind_some, inherited]
  · rw [taken.value, Option.or_eq_some_iff] at isValue
    rcases isValue with explicit | ⟨_, isTaken⟩
    · exact declared name value explicit
    · obtain ⟨source, mapped, isSource⟩ := Option.bind_eq_some_iff.1 isTaken
      exact taken.declared _ (OrderedMap.mem_of_lookup mapped) value isSource
  · cases isParent
    exact ⟨reference, selected, ⟨target, found, sameGav, sameName⟩, taken.agrees⟩

/-- Only declared parameters have a default. -/
theorem declares_of_idDefault {name value : String} (isDefault : spec.idDefault? name = some value) :
    spec.declares name = true := by
  obtain ⟨param, found, _⟩ := Option.bind_eq_some_iff.1 isDefault
  have isId := List.mem_of_find?_eq_some found
  have named : param.name = name := by simpa using List.find?_some found
  exact declares_iff.2 (List.mem_map.2 ⟨param, (List.mem_filter.1 isId).1, named⟩)

/-- No two id parameters share a name. -/
theorem FeatureSpec.nodup_idParams (spec : FeatureSpec) :
    (spec.idParams.map Parameter.name).Nodup := by
  refine List.Nodup.sublist (List.filter_sublist.map Parameter.name) ?_
  exact List.pairwise_map.2 spec.paramNames_distinct

/-- The values of a feature are settled from those that it starts with. -/
theorem identified_of_started {parent : Option ResolvedId} {feature : CollectedFeature}
    (grounded : feature.Grounded layout) {id : SpecId}
    (started : Started layout config parent feature.index feature.spec params)
    (isSettled : settleIdParams id params .empty feature.spec.idParams =
      .ok (feature.params, feature.id.params)) :
    Identified layout config parent feature := by
  have value := get?_settleIdParams isSettled
  have kept : ∀ name value, params.get? name = some value →
      feature.params.get? name = some value := by
    intro name given isGiven
    rw [value, isGiven, Option.some_or]
  have nodup := feature.spec.nodup_idParams
  have valuesDeclared : ∀ name value, feature.params.get? name = some value →
      feature.spec.declares name = true := by
    intro name given isGiven
    rw [value, Option.or_eq_some_iff] at isGiven
    rcases isGiven with before | ⟨_, isDefault⟩
    · exact started.declared name given before
    · exact declares_of_idDefault isDefault
  refine ⟨⟨grounded, keys_settleIdParams isSettled nodup, valuesDeclared⟩, fun name => ?_,
    fun enclosing isParent => ?_⟩
  · rw [value, started.value, Option.or_assoc, FeatureSpec.idDefault?]
  · obtain ⟨reference, linked⟩ := started.linked enclosing isParent
    exact ⟨reference, linked.grow kept⟩

end

/-- An id keeps the parameters that it is built from. -/
theorem params_of_new {specId : SpecId} {params : IdParams} {id : ResolvedId}
    (isId : ResolvedId.new specId params = .ok id) : params = id.params := by
  rw [ResolvedId.new] at isId
  split at isId
  · cases isId
  · cases isId
    rfl

/-- A feature that is identified has its id from its own values, its parent and the defaults. -/
theorem identified_of_identify {layout : Layout} {scope : Scope} {config : FeatureConfig}
    {parent : Option ResolvedId} {feature : CollectedFeature}
    (isFeature : identify layout scope config parent = .ok feature) :
    Identified layout config parent feature := by
  have grounded := identify_ok isFeature
  simp only [identify, bind_eq_ok_iff] at isFeature
  obtain ⟨found, _, isFeature⟩ := isFeature
  split at isFeature
  · cases isFeature
  · next noUnknown =>
    have declared : ∀ name value, config.params.get? name = some value →
        found.definition.declares name = true := by
      intro name value isValue
      simpa using List.find?_eq_none.1 noUnknown name (OrderedMap.mem_keys_iff.2 ⟨value, isValue⟩)
    cases parent with
    | none =>
        simp only [bind_eq_ok_iff, pure_eq_ok_iff, ofDescription_eq_ok_iff] at isFeature
        obtain ⟨params, isStart, ⟨values, idParams⟩, isSettled, id, isId, rfl⟩ := isFeature
        cases isStart
        obtain rfl := params_of_new isId
        exact identified_of_started grounded (started_without_parent declared) isSettled
    | some parent =>
        simp only [bind_eq_ok_iff, pure_eq_ok_iff, ofDescription_eq_ok_iff, wrapWith_eq_ok_iff]
          at isFeature
        obtain ⟨params, isTaken, ⟨values, idParams⟩, isSettled, id, isId, rfl⟩ := isFeature
        obtain rfl := params_of_new isId
        exact identified_of_started grounded (started_within declared isTaken) isSettled

end Provisioning
