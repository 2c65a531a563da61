/-
This file proves that features take over the id values of the features around them.
-/

import Provisioning.Proofs.Resolution.Provenance

namespace Provisioning.Resolution

open Expansion

/-- The rule that let a feature in sets a parameter that is no id parameter. -/
def Overridden (occurrence : Occurrence) (name : String) : Prop :=
  name ∈ occurrence.overrides.map Prod.fst ∧
    name ∉ occurrence.feature.spec.idParams.map Parameter.name

/-- What a feature owes to the nearest feature around it through a reference. -/
structure KeepsParentKeys (layout : Layout) (config : ProvisionedConfig)
    (parent child : Occurrence) (reference : FeatureReference) : Prop where
  /-- The reference is the one that the feature names, or its parent reference, or the one with the
  name of the parent's spec. -/
  selected : child.feature.spec.referenceTo? child.config parent.feature.id = some reference
  /-- It leads to the spec of the parent. -/
  target : ∃ target, targetOf layout child.feature reference = .ok target ∧
    target.index = parent.feature.index ∧ target.gav = parent.feature.id.gav ∧
    target.definition = parent.feature.spec
  /-- The parameters that it maps to id parameters of the parent have the parent's values. -/
  keys : ∃ feature ∈ config.features, feature.id = child.feature.id ∧
    ∀ pair ∈ targetMapping reference parent.feature.spec,
      pair.2 ∈ parent.feature.spec.idParams.map Parameter.name → ¬Overridden child pair.1 →
        ∃ value, parent.feature.id.param? pair.2 = some value ∧
          feature.param? pair.1 = some value

/-- An empty mapping pairs the id parameters of the parent's spec with themselves. -/
theorem parentMapping_eq {parent : ResolvedId} {spec : FeatureSpec}
    (idKeys : parent.params.keys = spec.idParams.map Parameter.name)
    (reference : FeatureReference) :
    parentMapping reference parent = targetMapping reference spec := by
  unfold parentMapping targetMapping
  split
  · rw [idKeys, List.map_map]
    rfl
  · rfl

section

variable {layout : Layout} {parent child : Occurrence} {reference : FeatureReference}

/-- The feature-pack of the parent declares one spec of the name that is looked for. -/
theorem target_eq (distinct : Layout.ArtifactsDistinct (fun entry => entry.gav) layout.entries)
    {target : Found FeatureSpec} {feature : CollectedFeature} (isInstance : feature.Instance layout)
    {scope : Scope} {spec : SpecRef} (found : layout.findSpec scope spec = .ok target)
    (sameGav : target.gav = feature.id.gav)
    (sameName : target.definition.name = feature.id.specId.name) :
    target.index = feature.index ∧ target.definition = feature.spec := by
  obtain ⟨entry, isEntry, gav, isSpec⟩ := Layout.findSpec_ok found
  have named : target.definition.name = spec.name := by simpa using List.find?_some isSpec
  rw [sameGav] at gav
  rw [← named, sameName] at isSpec
  exact Layout.Declares.unique distinct ⟨entry, isEntry, gav, isSpec⟩ isInstance.declared

/-- A feature is identified through a reference to the feature around it. -/
theorem exists_linkedToParent {assembly : ConfigAssembly}
    (occurs : OccursIn layout assembly.parts (some parent) child) :
    ∃ reference, LinkedToParent layout child.config child.feature.index child.feature.spec
      parent.feature.id child.feature.params reference := by
  have identified := identified_of_identify occurs.admitted.identified
  exact identified.linked parent.feature.id occurs.encloses.1

/-- Unless it is overridden, a value that was taken over from the parent is contributed. -/
theorem value?_of_linked (admitted : child.Admitted layout) {name value : String}
    (isValue : child.feature.params.get? name = some value)
    (notSet : name ∉ child.overrides.map Prod.fst) : child.value? name = some value := by
  have identified := identified_of_identify admitted.identified
  rw [identified.value] at isValue
  rw [Occurrence.value?, OrderedMap.lookup_eq_none_iff.2 notSet, Option.none_or]
  exact isValue

/-- The id of a feature has a value for each id parameter. -/
theorem exists_idValue {feature : CollectedFeature} (isInstance : feature.Instance layout)
    {name : String} (isId : name ∈ feature.spec.idParams.map Parameter.name) :
    ∃ value, feature.id.param? name = some value ∧ feature.params.get? name = some value := by
  rw [← isInstance.idKeys] at isId
  obtain ⟨value, isValue⟩ := OrderedMap.mem_keys_iff.1 isId
  exact ⟨value, isValue, isInstance.idValues name value isValue⟩

end

/-- The features of a config refer to the features around them, and share their id values. -/
theorem parentKeys_of_buildConfig {repository : Repository} {request : Request} {layout : Layout}
    (isBuilt : Layout.build repository request = .ok layout) {assembly : ConfigAssembly}
    {config : ProvisionedConfig} (isConfig : buildConfig layout assembly = .ok config)
    {parent child : Occurrence} (occurs : OccursIn layout assembly.parts (some parent) child) :
    ∃ reference, KeepsParentKeys layout config parent child reference := by
  have distinct := Layout.distinct_of_build isBuilt
  have parentAdmitted := occurs.encloses.2 parent rfl
  have isParent := (identified_of_identify parentAdmitted.identified).toInstance
  have isChild := (identified_of_identify occurs.admitted.identified).toInstance
  obtain ⟨reference, linked⟩ := exists_linkedToParent occurs
  obtain ⟨found, collected, builtFrom, _, _, features⟩ := exists_builtFrom isConfig
  refine ⟨reference, linked.selected, ?_, ?_⟩
  · obtain ⟨target, isTarget, sameGav, sameName⟩ := linked.target
    obtain ⟨sameIndex, sameSpec⟩ := target_eq distinct isParent isTarget sameGav sameName
    exact ⟨target, isTarget, sameIndex, sameGav, sameSpec⟩
  · obtain ⟨contributed, listed, contributes⟩ :=
      builtFrom.gathers.contributed _ child occurs
    obtain ⟨known, isKnown, same⟩ := builtFrom.merged.recorded contributed listed
    have provenance := builtFrom.provenance distinct isKnown
    have occursAs : OccursAs layout assembly (provisionedFeature (withDefaults known)).id child := by
      refine ⟨⟨_, occurs⟩, ?_⟩
      rw [provisionedFeature_id, ← contributes.id]
      exact ResolvedId.same_symm same
    have sameId := (provenance.sameSpec child occursAs).1
    refine ⟨provisionedFeature (withDefaults known), ?_, sameId.symm, ?_⟩
    · exact features.mem_iff.2 (List.mem_map_of_mem (List.mem_map_of_mem isKnown))
    · intro pair mapped isId notOverridden
      obtain ⟨value, isValue, _⟩ := exists_idValue isParent isId
      rw [← parentMapping_eq isParent.idKeys] at mapped
      have takenOver := linked.takesOver pair mapped value isValue
      refine ⟨value, isValue, ?_⟩
      by_cases localIsId : pair.1 ∈ child.feature.spec.idParams.map Parameter.name
      · -- Overrides leave the id alone, so the value is part of it.
        obtain ⟨idValue, isIdValue, isOwn⟩ := exists_idValue isChild localIsId
        rw [takenOver, Option.some.injEq] at isOwn
        rw [← isOwn, sameId] at isIdValue
        exact provenance.idValues pair.1 value isIdValue
      · have notSet : pair.1 ∉ child.overrides.map Prod.fst :=
          fun isSet => notOverridden ⟨isSet, localIsId⟩
        exact provenance.contributed child occursAs pair.1 value
          (value?_of_linked occurs.admitted takenOver notSet)

namespace Harbor

def shipAround : Occurrence :=
  ⟨around, shipConfig, ⟨shipId, ship, 0, .ofList [("name", "anna")]⟩, none⟩

def cargoBelow : Occurrence :=
  ⟨around.within (.pack 0) shipId, cargoConfig [],
    ⟨cargoId, cargo, 0, .ofList [("vessel", "anna"), ("hold", "aft")]⟩, some rule⟩

theorem occursIn_cargoBelow :
    OccursIn layout (assembly items).parts (some shipAround) cargoBelow := by
  have shipAdmitted : shipAround.Admitted layout := ⟨by cbv, by cbv⟩
  have cargoAdmitted : cargoBelow.Admitted layout := ⟨by cbv, by cbv⟩
  have occurs : Occurs layout around none items (some shipAround) cargoBelow :=
    .nested List.mem_cons_self shipAdmitted rfl (.here List.mem_cons_self cargoAdmitted)
  exact ⟨part items, List.mem_singleton_self _, around, surroundings_eq items, occurs⟩

end Harbor

/-- The cargo below the ship has the name of the ship. -/
theorem parentKeys_harbor :
    Layout.build Harbor.repository Harbor.request = .ok Harbor.layout ∧
      buildConfig Harbor.layout (Harbor.assembly Harbor.items) = .ok Harbor.config ∧
      ∃ reference, KeepsParentKeys Harbor.layout Harbor.config Harbor.shipAround Harbor.cargoBelow
        reference :=
  ⟨Harbor.build_eq, Harbor.config_eq,
    parentKeys_of_buildConfig Harbor.build_eq Harbor.config_eq Harbor.occursIn_cargoBelow⟩

end Provisioning.Resolution
