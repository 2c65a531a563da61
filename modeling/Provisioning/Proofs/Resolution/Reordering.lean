/-
This file proves that a config does not depend on the order or the repetition of its items.
-/

import Provisioning.Proofs.Resolution.Config

namespace Provisioning

/-- A part has the items of another in some order, in the same scope and under the same filter. -/
structure ConfigPart.Reorders (first second : ConfigPart) : Prop where
  scope : first.scope = second.scope
  filter : first.filter = second.filter
  items : first.spec.items.Perm second.spec.items

/-- The parts of a config have the items of the parts of another in some order. -/
structure ConfigAssembly.Reorders (first second : ConfigAssembly) : Prop where
  id : first.id = second.id
  properties : first.properties = second.properties
  parts : List.Forall₂ ConfigPart.Reorders first.parts second.parts

/-- The part with an item once more at its end. -/
def ConfigPart.repeating (part : ConfigPart) (item : Item) : ConfigPart :=
  { part with spec := { part.spec with items := part.spec.items ++ [item] } }

theorem ConfigPart.Reorders.symm {first second : ConfigPart} (reorders : first.Reorders second) :
    second.Reorders first :=
  ⟨reorders.scope.symm, reorders.filter.symm, reorders.items.symm⟩

theorem ConfigAssembly.Reorders.symm {first second : ConfigAssembly}
    (reorders : first.Reorders second) : second.Reorders first :=
  ⟨reorders.id.symm, reorders.properties.symm,
    List.Forall₂.flip (reorders.parts.imp fun _ _ part => part.symm)⟩

namespace Expansion

/-- A part keeps its surroundings. -/
theorem surroundings_congr {first second : ConfigPart} (layout : Layout)
    (reorders : first.Reorders second) : surroundings layout first = surroundings layout second := by
  unfold surroundings
  rw [reorders.scope, reorders.filter]

/-- The same features are contributed in whatever order the items of the parts stand. -/
theorem gatherParts_reorders {layout : Layout} {first second : List ConfigPart}
    (reorders : List.Forall₂ ConfigPart.Reorders first second) {found : List CollectedFeature}
    (isFound : gatherParts layout first = .ok found) :
    ∃ others, gatherParts layout second = .ok others ∧ found.Perm others := by
  induction reorders generalizing found with
  | nil => exact ⟨found, isFound, .refl found⟩
  | cons part _ inductionHypothesis =>
      obtain ⟨around, own, rest, isAround, isOwn, isRest, rfl⟩ :=
        gatherParts_cons_eq_ok_iff.1 isFound
      obtain ⟨reordered, isReordered, sameOwn⟩ := gather_perm part.items isOwn
      obtain ⟨others, isOthers, sameRest⟩ := inductionHypothesis isRest
      rw [surroundings_congr layout part] at isAround
      exact ⟨reordered ++ others, gatherParts_cons_eq_ok_iff.2
        ⟨around, reordered, others, isAround, isReordered, isOthers, rfl⟩, sameOwn.append sameRest⟩

/-- An item that is repeated contributes nothing new. -/
theorem evaluatePart_repeating {layout : Layout} {found : List CollectedFeature}
    {collected : Collected} (isMerged : Merged found collected) {part : ConfigPart} {item : Item}
    (listed : item ∈ part.spec.items) :
    evaluatePart layout [] [] collected (part.repeating item) =
      evaluatePart layout [] [] collected part := by
  rw [evaluatePart_eq, evaluatePart_eq]
  refine bind_congr fun around => ?_
  change evaluate layout around collected (part.spec.items ++ [item]) = _
  rw [evaluate_append]
  cases evaluated : evaluate layout around collected part.spec.items with
  | error problem => rfl
  | ok after =>
      obtain ⟨more, isMore, merges⟩ := evaluate_eq_ok_iff.1 evaluated
      obtain ⟨own, isOwn, included⟩ := gather_of_mem listed isMore
      have merged := isMerged.run merges
      have again := merged.mergeAll_again
        (List.Subset.trans included (List.subset_append_right found more))
      exact evaluate_eq_ok_iff.2 ⟨own, isOwn, again⟩

/-- An item that is repeated in its part changes nothing. -/
theorem expandParts_repeating (layout : Layout) (before after : List ConfigPart) {part : ConfigPart}
    {item : Item} (listed : item ∈ part.spec.items) :
    expandParts layout [] [] [] (before ++ part.repeating item :: after) =
      expandParts layout [] [] [] (before ++ part :: after) := by
  rw [expandParts_eq_foldlM, expandParts_eq_foldlM, List.foldlM_append, List.foldlM_append]
  cases expanded : before.foldlM (evaluatePart layout [] []) ([] : Collected) with
  | error problem => rfl
  | ok collected =>
      obtain ⟨found, _, merges⟩ := foldlM_evaluatePart_eq_ok_iff.1 expanded
      have repeated : evaluatePart layout [] [] collected (part.repeating item) =
          evaluatePart layout [] [] collected part :=
        evaluatePart_repeating (Merged.nil.run merges) listed
      simp only [List.foldlM_cons, bind, Except.bind, repeated]

end Expansion

namespace Merged

variable {layout : Layout} {found others : List CollectedFeature} {collected records : Collected}

open Resolution

/-- No feature is provisioned twice. -/
theorem nodup_provisioned (isMerged : Merged found collected) :
    ((collected.map withDefaults).map provisionedFeature).Nodup := by
  rw [List.map_map, List.Nodup, List.pairwise_map]
  refine isMerged.distinct.imp fun {first second} apart same => ?_
  have sameId := congrArg ProvisionedFeature.id same
  rw [Function.comp_apply, Function.comp_apply, provisionedFeature_id, provisionedFeature_id]
    at sameId
  have equalId : first.id = second.id := sameId
  rw [equalId, ResolvedId.same_self] at apart
  cases apart

/-- The same occurrences give the same provisioned features in any order. -/
theorem provisioned_subset
    (distinct : Layout.ArtifactsDistinct (fun entry => entry.gav) layout.entries)
    (instances : ∀ feature ∈ found, feature.Instance layout) (isMerged : Merged found collected)
    (again : Merged others records) (sameFound : ∀ feature, feature ∈ found ↔ feature ∈ others) :
    (collected.map withDefaults).map provisionedFeature ⊆
      (records.map withDefaults).map provisionedFeature := by
  intro feature listed
  obtain ⟨completed, isCompleted, rfl⟩ := List.mem_map.1 listed
  obtain ⟨known, isKnown, rfl⟩ := List.mem_map.1 isCompleted
  obtain ⟨record, isRecord, alike⟩ :=
    isMerged.exists_alike distinct instances again sameFound known isKnown
  have otherInstances : ∀ feature ∈ others, feature.Instance layout :=
    fun feature isOther => instances feature ((sameFound feature).2 isOther)
  have same := alike.withDefaults.provisionedFeature_eq
    (instance_withDefaults (isMerged.isInstance distinct instances isKnown))
    (instance_withDefaults (again.isInstance distinct otherInstances isRecord))
  rw [same]
  exact List.mem_map_of_mem (List.mem_map_of_mem isRecord)

/-- The same features are provisioned in whatever order their occurrences were merged. -/
theorem perm_provisioned
    (distinct : Layout.ArtifactsDistinct (fun entry => entry.gav) layout.entries)
    (instances : ∀ feature ∈ found, feature.Instance layout) (isMerged : Merged found collected)
    (again : Merged others records) (sameFound : ∀ feature, feature ∈ found ↔ feature ∈ others) :
    ((collected.map withDefaults).map provisionedFeature).Perm
      ((records.map withDefaults).map provisionedFeature) := by
  have otherInstances : ∀ feature ∈ others, feature.Instance layout :=
    fun feature isOther => instances feature ((sameFound feature).2 isOther)
  have there := isMerged.provisioned_subset distinct instances again sameFound
  have back := again.provisioned_subset distinct otherInstances isMerged
    fun feature => (sameFound feature).symm
  rw [List.perm_ext_iff_of_nodup isMerged.nodup_provisioned again.nodup_provisioned]
  exact fun feature => ⟨fun listed => there listed, fun listed => back listed⟩

end Merged

namespace Resolution

open Expansion

variable {layout : Layout} {first second : ConfigAssembly} {found others : List CollectedFeature}
  {collected records : Collected}

/-- A config that is built from some items is built from them in any order. -/
theorem BuiltFrom.reorders
    (distinct : Layout.ArtifactsDistinct (fun entry => entry.gav) layout.entries)
    (reorders : first.Reorders second) (builtFrom : BuiltFrom layout first found collected) :
    ∃ others records, BuiltFrom layout second others records ∧ found.Perm others := by
  obtain ⟨others, gathered, sameFound⟩ := gatherParts_reorders reorders.parts builtFrom.gathered
  have compatible := succeeds_mergeAll_iff.1 ⟨collected, builtFrom.merges⟩
  have merges : Succeeds (Collected.mergeAll [] others) := by
    rw [succeeds_mergeAll_iff]
    intro feature listed other isOther
    exact compatible feature (sameFound.mem_iff.2 listed) other (sameFound.mem_iff.2 isOther)
  obtain ⟨records, merges⟩ := merges
  have merged := builtFrom.merged
  have again := Merged.nil.run merges
  have instances := builtFrom.instances
  have otherInstances : ∀ feature ∈ others, feature.Instance layout :=
    fun feature isOther => instances feature (sameFound.mem_iff.2 isOther)
  have recorded := merged.exists_alike distinct instances again fun _ => sameFound.mem_iff
  have known := again.exists_alike distinct otherInstances merged fun _ => sameFound.mem_iff.symm
  have resolvable : Resolvable layout (records.map withDefaults) := by
    apply builtFrom.resolvable.transfer
    · rw [List.forall_mem_map]
      intro feature listed
      obtain ⟨record, isRecord, alike⟩ := recorded feature listed
      exact ⟨Resolution.withDefaults record, List.mem_map_of_mem isRecord, alike.withDefaults⟩
    · rw [List.forall_mem_map]
      intro record listed
      obtain ⟨feature, isFeature, alike⟩ := known record listed
      exact ⟨Resolution.withDefaults feature, List.mem_map_of_mem isFeature,
        alike.withDefaults.symm⟩
  exact ⟨others, records, ⟨gathered, merges, resolvable⟩, sameFound⟩

/-- A config is built whatever the order of the items in its parts. -/
theorem succeeds_of_reorders
    (distinct : Layout.ArtifactsDistinct (fun entry => entry.gav) layout.entries)
    (reorders : first.Reorders second) (succeeds : Succeeds (buildConfig layout first)) :
    Succeeds (buildConfig layout second) := by
  obtain ⟨found, collected, builtFrom⟩ := succeeds_buildConfig_iff.1 succeeds
  obtain ⟨others, records, again, _⟩ := builtFrom.reorders distinct reorders
  exact again.succeeds

/-- The order of the items in the parts of a config decides neither whether it is built nor what
its features are, and an item that is repeated at the end of a part changes nothing at all. -/
theorem items_commute_and_repeat {repository : Repository} {request : Request} {layout : Layout}
    (isBuilt : Layout.build repository request = .ok layout) :
    (∀ first second : ConfigAssembly, first.Reorders second →
      (Succeeds (buildConfig layout first) ↔ Succeeds (buildConfig layout second)) ∧
      ∀ config other, buildConfig layout first = .ok config → buildConfig layout second = .ok other →
        config.id = other.id ∧ config.properties = other.properties ∧
        config.features.Perm other.features) ∧
    ∀ (assembly : ConfigAssembly) (before after : List ConfigPart) (part : ConfigPart) (item : Item),
      item ∈ part.spec.items →
      buildConfig layout { assembly with parts := before ++ part.repeating item :: after } =
        buildConfig layout { assembly with parts := before ++ part :: after } := by
  have distinct := Layout.distinct_of_build isBuilt
  constructor
  · intro first second reorders
    constructor
    · exact ⟨succeeds_of_reorders distinct reorders, succeeds_of_reorders distinct reorders.symm⟩
    · intro config other isConfig isOther
      obtain ⟨found, collected, builtFrom, id, properties, features⟩ := exists_builtFrom isConfig
      obtain ⟨others, records, again, otherId, otherProperties, otherFeatures⟩ :=
        exists_builtFrom isOther
      obtain ⟨reordered, gathered, sameFound⟩ :=
        gatherParts_reorders reorders.parts builtFrom.gathered
      rw [again.gathered, Except.ok.injEq] at gathered
      rw [← gathered] at sameFound
      have same := builtFrom.merged.perm_provisioned distinct builtFrom.instances again.merged
        fun _ => sameFound.mem_iff
      rw [id, otherId, properties, otherProperties, reorders.id, reorders.properties]
      exact ⟨rfl, rfl, features.trans (same.trans otherFeatures.symm)⟩
  · intro assembly before after part item listed
    have repeated := expandParts_repeating layout before after listed
    simp only [buildConfig, repeated]

/-- The items of the harbor may be listed in reverse. -/
theorem Harbor.reorders_reverse (items : List Item) :
    (Harbor.assembly items).Reorders (Harbor.assembly items.reverse) :=
  ⟨rfl, rfl, .cons ⟨rfl, rfl, items.reverse_perm.symm⟩ .nil⟩

/-- The second occurrence of the cargo may come before the ship, and the ship may come twice. -/
theorem items_commute_and_repeat_harbor :
    Layout.build Harbor.repository Harbor.request = .ok Harbor.layout ∧
      Succeeds (buildConfig Harbor.layout (Harbor.assembly Harbor.items.reverse)) ∧
      buildConfig Harbor.layout (Harbor.assembly
        (Harbor.items ++ [.feature Harbor.shipConfig [.feature (Harbor.cargoConfig []) []]])) =
          .ok Harbor.config := by
  have settled := items_commute_and_repeat Harbor.build_eq
  have reordered := settled.1 _ _ (Harbor.reorders_reverse Harbor.items)
  have repeated := settled.2 (Harbor.assembly Harbor.items) [] [] (Harbor.part Harbor.items) _
    List.mem_cons_self
  exact ⟨Harbor.build_eq, reordered.1.1 ⟨_, Harbor.config_eq⟩, repeated.trans Harbor.config_eq⟩

end Resolution

end Provisioning
