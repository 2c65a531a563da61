/-
This file proves that the references and requirements of provisioned features are met by the
features that are provisioned with them.
-/

import Provisioning.Proofs.Expansion.Collected
import Provisioning.Proofs.Resolution.Order
import Provisioning.Proofs.State
import Provisioning.Provision

namespace Provisioning

namespace Capability

/-- An expansion depends only on the values under the names of parameters. -/
theorem segmentValues_congr {first second : OrderedMap String String}
    (same : ∀ name, first.get? name = second.get? name) (spec : FeatureSpec) (segment : Segment) :
    segmentValues spec first segment = segmentValues spec second segment := by
  cases segment with
  | literal text => rfl
  | param name => simp only [segmentValues, same name]

/-- The same holds for a text that is expanded so far. -/
theorem expandFrom_congr {first second : OrderedMap String String}
    (same : ∀ name, first.get? name = second.get? name) (spec : FeatureSpec)
    (segments : List Segment) (expanded : List (Option String)) :
    expandFrom spec first expanded segments = expandFrom spec second expanded segments := by
  induction segments generalizing expanded with
  | nil => rfl
  | cons segment rest inductionHypothesis =>
      simp only [expandFrom, segmentValues_congr same, inductionHypothesis]

/-- The same holds for a whole pattern. -/
theorem expand_congr {first second : OrderedMap String String}
    (same : ∀ name, first.get? name = second.get? name) (capability : Capability)
    (spec : FeatureSpec) : capability.expand spec first = capability.expand spec second := by
  rw [expand, expandFrom_congr same, ← expand]

end Capability

namespace Resolution

/-- Two records of a feature are alike when they differ at most in the order of the values. -/
structure Alike (first second : CollectedFeature) : Prop where
  id : first.id = second.id
  spec : first.spec = second.spec
  index : first.index = second.index
  values : ∀ name, first.params.get? name = second.params.get? name

theorem Alike.symm {first second : CollectedFeature} (alike : Alike first second) :
    Alike second first :=
  ⟨alike.id.symm, alike.spec.symm, alike.index.symm, fun name => (alike.values name).symm⟩

/-- A reference has the same target. -/
theorem Alike.targetOf_eq {first second : CollectedFeature} (alike : Alike first second)
    (layout : Layout) (reference : FeatureReference) :
    targetOf layout first reference = targetOf layout second reference := by
  rw [targetOf, alike.index, ← targetOf]

/-- The same capabilities can be expanded. -/
theorem Alike.canExpand {first second : CollectedFeature} (alike : Alike first second)
    {capabilities : List Capability} (canExpand : CanExpand first capabilities) :
    CanExpand second capabilities := by
  intro capability listed
  rw [← Capability.expand_congr alike.values, ← alike.spec]
  exact canExpand capability listed

/-- The same capabilities come out. -/
theorem Alike.yields {first second : CollectedFeature} (alike : Alike first second)
    {capabilities : List Capability} {text : String} (yields : Yields first capabilities text) :
    Yields second capabilities text := by
  obtain ⟨capability, listed, texts, expanded, isText⟩ := yields
  refine ⟨capability, listed, texts, ?_, isText⟩
  rw [← Capability.expand_congr alike.values, ← alike.spec]
  exact expanded

/-- The same id is built for a reference. -/
theorem Alike.builtId_eq {first second : CollectedFeature} (alike : Alike first second)
    (reference : FeatureReference) (target : Found FeatureSpec) :
    builtId first reference target = builtId second reference target := by
  simp only [builtId, fedParams, alike.values]

/-- A reference that leads from one record to another leads between records like them. -/
theorem Alike.leadsTo {layout : Layout} {first second : CollectedFeature}
    (alike : Alike first second) {reference : FeatureReference} {other record : CollectedFeature}
    (alikeTarget : Alike other record) (leads : LeadsTo layout first reference other) :
    LeadsTo layout second reference record := by
  obtain ⟨target, found, isFed, sameSpec, sameParams⟩ := leads
  rw [alike.targetOf_eq] at found
  rw [alike.builtId_eq, alikeTarget.id] at sameSpec
  rw [alike.builtId_eq, alikeTarget.id] at sameParams
  refine ⟨target, found, fun pair mapped => ?_, sameSpec, sameParams⟩
  rw [← alike.values]
  exact isFed pair mapped

/-- What features need from each other does not depend on how they are recorded or listed. -/
theorem Resolvable.transfer {layout : Layout} {features records : Collected}
    (resolvable : Resolvable layout features)
    (recorded : ∀ feature ∈ features, ∃ record ∈ records, Alike feature record)
    (known : ∀ record ∈ records, ∃ feature ∈ features, Alike feature record) :
    Resolvable layout records := by
  constructor
  · intro record listed reference declared
    obtain ⟨feature, isFeature, alike⟩ := known record listed
    rw [← alike.spec] at declared
    rw [← alike.targetOf_eq]
    exact resolvable.targetsFound feature isFeature reference declared
  · intro record listed reference declared strict
    obtain ⟨feature, isFeature, alike⟩ := known record listed
    rw [← alike.spec] at declared
    obtain ⟨other, isOther, leads⟩ :=
      resolvable.referencesMet feature isFeature reference declared strict
    obtain ⟨target, isTarget, alikeTarget⟩ := recorded other isOther
    exact ⟨target, isTarget, alike.leadsTo alikeTarget leads⟩
  · intro record listed param declared strict
    obtain ⟨feature, isFeature, alike⟩ := known record listed
    rw [← alike.spec] at declared
    rw [← alike.values]
    exact resolvable.valuesSet feature isFeature param declared strict
  · intro record listed
    obtain ⟨feature, isFeature, alike⟩ := known record listed
    rw [← alike.spec]
    exact alike.canExpand (resolvable.providedExpand feature isFeature)
  · intro record listed
    obtain ⟨feature, isFeature, alike⟩ := known record listed
    rw [← alike.spec]
    exact alike.canExpand (resolvable.requiredExpand feature isFeature)
  · intro record listed text yields
    obtain ⟨feature, isFeature, alike⟩ := known record listed
    rw [← alike.spec] at yields
    obtain ⟨other, isOther, offers⟩ :=
      resolvable.requirementsProvided feature isFeature text (alike.symm.yields yields)
    obtain ⟨target, isTarget, alikeTarget⟩ := recorded other isOther
    exact ⟨target, isTarget, alikeTarget.spec ▸ alikeTarget.yields offers⟩

/-- Defaults do not replace a value that is there. -/
theorem get?_foldl_insertNew {params : OrderedMap String String} {name value : String}
    (isValue : params.get? name = some value) (declared : List Parameter) :
    (declared.foldl
      (fun params param =>
        match param.default with
        | some value => params.insertNew param.name value
        | none => params)
      params).get? name = some value := by
  induction declared generalizing params with
  | nil => exact isValue
  | cons param rest inductionHypothesis =>
      rw [List.foldl_cons]
      apply inductionHypothesis
      split
      · rw [OrderedMap.get?_insertNew]
        split
        · next same => rw [same, isValue, Option.getD_some]
        · exact isValue
      · exact isValue

/-- Defaults do not change the identity of a feature. -/
theorem grounded_withDefaults {layout : Layout} {feature : CollectedFeature}
    (grounded : feature.Grounded layout) : (withDefaults feature).Grounded layout :=
  grounded.grow fun _ _ isValue => get?_foldl_insertNew isValue feature.spec.params

@[simp] theorem provisionedFeature_id (feature : CollectedFeature) :
    (provisionedFeature feature).id = feature.id := by
  rw [provisionedFeature, ProvisionedFeature.orderParams_id, ProvisionedFeature.foldl_set]
  rfl

/-- A provisioned feature has the values of its id besides those that were collected. -/
theorem param?_provisionedFeature (feature : CollectedFeature) (name : String) :
    (provisionedFeature feature).param? name =
      (feature.params.get? name).or (feature.id.param? name) := by
  rw [provisionedFeature, ProvisionedFeature.param?_orderParams, ProvisionedFeature.foldl_set]
  exact OrderedMap.get?_extend _ feature.params.keysNodup name

/-- A feature with the values that it is provisioned with. -/
def withFinalValues (feature : CollectedFeature) : CollectedFeature :=
  { feature with params := (provisionedFeature feature).params }

/-- Provisioning keeps the values of a feature whose id is made of them. -/
theorem alike_withFinalValues {layout : Layout} {feature : CollectedFeature}
    (grounded : feature.Grounded layout) : Alike feature (withFinalValues feature) := by
  refine ⟨rfl, rfl, rfl, fun name => ?_⟩
  have values := param?_provisionedFeature feature name
  change feature.params.get? name = (provisionedFeature feature).param? name
  rw [values]
  cases isId : feature.id.param? name with
  | none => rw [Option.or_none]
  | some value => rw [grounded.idValues name value isId, Option.some_or]

/-- A provisioned feature records a feature of a declared spec, with all its values. -/
structure Records (layout : Layout) (provisioned : ProvisionedFeature)
    (feature : CollectedFeature) : Prop where
  id : provisioned.id = feature.id
  params : provisioned.params = feature.params
  grounded : feature.Grounded layout

/-- The features of a config have everything that they need from the layout and each other. -/
def IsSelfContained (layout : Layout) (config : ProvisionedConfig) : Prop :=
  ∃ features, List.Forall₂ (Records layout) config.features features ∧ Resolvable layout features

/-- A provisioned feature records the feature with its final values. -/
theorem records_withFinalValues {layout : Layout} {feature : CollectedFeature}
    (grounded : feature.Grounded layout) :
    Records layout (provisionedFeature feature) (withFinalValues feature) :=
  ⟨provisionedFeature_id feature, rfl,
    grounded.grow fun name value isValue => by
      rw [← isValue]
      exact ((alike_withFinalValues grounded).values name).symm⟩

/-- A built config meets the references and requirements of its own features. -/
theorem isSelfContained_of_buildConfig {layout : Layout} {assembly : ConfigAssembly}
    {config : ProvisionedConfig} (built : buildConfig layout assembly = .ok config) :
    IsSelfContained layout config := by
  simp only [buildConfig, bind_eq_ok_iff, ofDescription_eq_ok_iff] at built
  obtain ⟨collected, expanded, resolved, isResolved, built⟩ := built
  rw [ProvisionedConfig.build] at built
  split at built
  · cases built
  cases built
  have resolvable := succeeds_resolveFeatures_iff.1 ⟨resolved, isResolved⟩
  obtain ⟨order, ordered⟩ := featureOrder_of_resolveFeatures isResolved
  have grounded : ∀ feature ∈ collected.map withDefaults, feature.Grounded layout := by
    rw [List.forall_mem_map]
    intro feature listed
    exact grounded_withDefaults (Expansion.grounded_of_expandParts expanded feature listed)
  revert resolvable ordered grounded
  generalize collected.map withDefaults = features
  intro resolvable ordered grounded
  have listed := perm_filterMap_getElem? ordered.perm
  refine ⟨(order.filterMap (features[·]?)).map withFinalValues, ?_, resolvable.transfer ?_ ?_⟩
  · rw [ordered.provisioned, List.forall₂_map_left_iff, List.forall₂_map_right_iff,
      List.forall₂_same]
    exact fun feature inOrder => records_withFinalValues (grounded feature (listed.mem_iff.1 inOrder))
  · intro feature isFeature
    exact ⟨withFinalValues feature, List.mem_map_of_mem (listed.mem_iff.2 isFeature),
      alike_withFinalValues (grounded feature isFeature)⟩
  · rw [List.forall_mem_map]
    intro feature inOrder
    have isFeature := listed.mem_iff.1 inOrder
    exact ⟨feature, isFeature, alike_withFinalValues (grounded feature isFeature)⟩

/-- Each of the built configs does so for itself. -/
theorem isSelfContained_of_buildConfigs {layout : Layout} {assemblies : List ConfigAssembly}
    {configs : List ProvisionedConfig} (built : buildConfigs layout assemblies = .ok configs) :
    ∀ config ∈ configs, IsSelfContained layout config := by
  induction assemblies generalizing configs with
  | nil =>
      cases built
      exact fun config listed => absurd listed List.not_mem_nil
  | cons assembly rest inductionHypothesis =>
      simp only [buildConfigs, bind_eq_ok_iff, pure_eq_ok_iff, wrapWith_eq_ok_iff] at built
      obtain ⟨config, isConfig, others, isRest, rfl⟩ := built
      rw [List.forall_mem_cons]
      exact ⟨isSelfContained_of_buildConfig isConfig, inductionHypothesis isRest⟩

/-- Features are resolved exactly when nothing that they refer to or require is missing, and in a
provisioned state this holds of the features of each config with their final values. -/
theorem references_and_requirements_met :
    (∀ layout collected, Succeeds (resolveFeatures layout collected) ↔
      Resolvable layout (collected.map withDefaults)) ∧
    ∀ repository request state, provision repository request = .ok state →
      ∃ layout, Layout.build repository request = .ok layout ∧
        ∀ config ∈ state.configs, IsSelfContained layout config := by
  refine ⟨fun layout collected => succeeds_resolveFeatures_iff, ?_⟩
  intro repository request state provisioned
  simp only [provision, bind_eq_ok_iff, ofDescription_eq_ok_iff] at provisioned
  obtain ⟨layout, isLayout, packages, _, configs, built, provisioned⟩ := provisioned
  rw [ProvisionedState.build] at provisioned
  split at provisioned
  · cases provisioned
  · cases provisioned
    exact ⟨layout, isLayout, isSelfContained_of_buildConfigs built⟩

end Resolution

end Provisioning
