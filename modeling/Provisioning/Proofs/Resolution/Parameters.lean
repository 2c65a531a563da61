/-
This file says which parameters a provisioned feature has, with which values and in which order.
-/

import Provisioning.Proofs.Expansion.Records
import Provisioning.Proofs.State

namespace Provisioning

namespace Resolution

/-- Each parameter takes the default of its first declaration that has one. -/
theorem get?_foldl_defaults {declared : List Parameter}
    (distinct : declared.Pairwise fun first second => first.name ≠ second.name)
    (params : OrderedMap String String) (name : String) :
    (declared.foldl
      (fun params param =>
        match param.default with
        | some value => params.insertNew param.name value
        | none => params)
      params).get? name =
      (params.get? name).or
        ((declared.find? fun param => param.name == name).bind Parameter.default) := by
  induction distinct generalizing params with
  | nil => simp
  | @cons param rest apart _ inductionHypothesis =>
      rw [List.foldl_cons, inductionHypothesis, List.find?_cons]
      by_cases same : param.name = name
      · have absent : rest.find? (fun param => param.name == name) = none := by
          rw [List.find?_eq_none]
          intro other listed
          simpa [← same] using Ne.symm (apart other listed)
        rw [absent, same, beq_self_eq_true]
        cases isDefault : param.default with
        | none => simp [isDefault]
        | some value =>
            rw [OrderedMap.get?_insertNew, if_pos rfl]
            cases params.get? name <;> simp [isDefault]
      · rw [beq_eq_false_iff_ne.2 same]
        cases param.default with
        | none => rfl
        | some value => rw [OrderedMap.get?_insertNew, if_neg same]

/-- A parameter without a value has its default. -/
theorem get?_withDefaults (feature : CollectedFeature) (name : String) :
    (withDefaults feature).params.get? name =
      (feature.params.get? name).or ((feature.spec.param? name).bind Parameter.default) :=
  get?_foldl_defaults feature.spec.paramNames_distinct feature.params name

theorem instance_withDefaults {layout : Layout} {feature : CollectedFeature}
    (isInstance : feature.Instance layout) : (withDefaults feature).Instance layout := by
  refine ⟨grounded_withDefaults isInstance.toGrounded, isInstance.idKeys, fun name value isValue => ?_⟩
  rw [get?_withDefaults, Option.or_eq_some_iff] at isValue
  rcases isValue with isOwn | ⟨_, isDefault⟩
  · exact isInstance.valuesDeclared name value isOwn
  · obtain ⟨param, found, _⟩ := Option.bind_eq_some_iff.1 isDefault
    obtain ⟨listed, named⟩ := FeatureSpec.param?_eq_some_iff.1 found
    exact declares_iff.2 (List.mem_map.2 ⟨param, listed, named⟩)

theorem Alike.withDefaults {first second : CollectedFeature} (alike : Alike first second) :
    Alike (withDefaults first) (Resolution.withDefaults second) := by
  refine ⟨alike.id, alike.spec, alike.index, fun name => ?_⟩
  rw [get?_withDefaults, get?_withDefaults, alike.values, alike.spec]

section

variable {layout : Layout} {feature : CollectedFeature}

/-- A provisioned feature has the values of the feature that was collected. -/
theorem param?_of_instance (isInstance : feature.Instance layout) (name : String) :
    (provisionedFeature feature).param? name = feature.params.get? name := by
  rw [param?_provisionedFeature]
  cases isId : feature.id.param? name with
  | none => rw [Option.or_none]
  | some value => rw [isInstance.idValues name value isId, Option.some_or]

/-- The parameters of a provisioned feature are the declared ones that have a value, in the order
of their declaration. -/
theorem keys_provisionedFeature (isInstance : feature.Instance layout) :
    (provisionedFeature feature).params.keys =
      (feature.spec.params.map Parameter.name).filter feature.params.contains := by
  have value := param?_of_instance isInstance
  have nodup : (feature.spec.params.map Parameter.name).Nodup :=
    List.pairwise_map.2 feature.spec.paramNames_distinct
  unfold provisionedFeature at value ⊢
  have held : ∀ name, ProvisionedFeature.param? (feature.params.entries.foldl
      (fun provisioned entry => provisioned.set entry.1 entry.2)
      (ProvisionedFeature.ofId feature.id)) name = feature.params.get? name := by
    intro name
    rw [← value, ProvisionedFeature.param?_orderParams]
  rw [ProvisionedFeature.keys_orderParams nodup]
  · apply List.filter_congr
    intro name _
    rw [OrderedMap.contains, OrderedMap.contains, ← held]
    rfl
  · intro key isKey
    obtain ⟨given, isGiven⟩ := OrderedMap.mem_keys_iff.1 isKey
    have isValue : feature.params.get? key = some given := (held key).symm.trans isGiven
    exact declares_iff.1 (isInstance.valuesDeclared key given isValue)

/-- Features that are alike are provisioned in the same way. -/
theorem Alike.provisionedFeature_eq {other : CollectedFeature} (alike : Alike feature other)
    (isInstance : feature.Instance layout) (isOther : other.Instance layout) :
    provisionedFeature feature = provisionedFeature other := by
  apply ProvisionedFeature.ext
  · rw [provisionedFeature_id, provisionedFeature_id, alike.id]
  · apply OrderedMap.eq_of_keys
    · rw [keys_provisionedFeature isInstance, keys_provisionedFeature isOther, alike.spec]
      apply List.filter_congr
      intro name _
      rw [OrderedMap.contains, OrderedMap.contains, alike.values]
    · intro name
      have value := param?_of_instance isInstance name
      have otherValue := param?_of_instance isOther name
      rw [← alike.values] at otherValue
      exact value.trans otherValue.symm

end

end Resolution

end Provisioning
