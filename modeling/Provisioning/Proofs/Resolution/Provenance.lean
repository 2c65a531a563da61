/-
This file proves where the parameter values of provisioned features come from.
-/

import Provisioning.Proofs.Resolution.Config

namespace Provisioning.Resolution

open Expansion

/-- An occurrence of a feature in a config. -/
def OccursAs (layout : Layout) (assembly : ConfigAssembly) (id : ResolvedId)
    (occurrence : Occurrence) : Prop :=
  (∃ nearest, OccursIn layout assembly.parts nearest occurrence) ∧
    occurrence.feature.id.same id = true

/-- What a provisioned feature owes to its spec and to its occurrences. -/
structure Provenance (layout : Layout) (assembly : ConfigAssembly) (feature : ProvisionedFeature)
    (spec : FeatureSpec) : Prop where
  /-- The spec is declared by the feature-pack that the id names. -/
  declared : ∃ entry ∈ layout.entries, entry.gav = feature.id.gav ∧
    entry.pack.spec? feature.id.specId.name = some spec
  /-- The feature stands in the config. -/
  occurs : ∃ occurrence, OccursAs layout assembly feature.id occurrence
  /-- All its occurrences have this spec, and the id is written in the same way in each. -/
  sameSpec : ∀ occurrence, OccursAs layout assembly feature.id occurrence →
    occurrence.feature.id = feature.id ∧ occurrence.feature.spec = spec
  /-- A value that an occurrence contributes is the value of the feature. -/
  contributed : ∀ occurrence, OccursAs layout assembly feature.id occurrence →
    ∀ name value, occurrence.value? name = some value → feature.param? name = some value
  /-- A parameter to which no occurrence contributes has its default, if there is one. -/
  defaulted : ∀ name,
    (∀ occurrence, OccursAs layout assembly feature.id occurrence → occurrence.value? name = none) →
      feature.param? name = (spec.param? name).bind Parameter.default
  /-- There are no other parameters than those that the spec declares, and they keep its order. -/
  ordered : feature.params.keys.Sublist (spec.params.map Parameter.name)
  /-- The id consists of the values of the id parameters. -/
  idKeys : feature.id.params.keys = spec.idParams.map Parameter.name
  idValues : ∀ name value, feature.id.param? name = some value → feature.param? name = some value

section

variable {layout : Layout} {assembly : ConfigAssembly} {found : List CollectedFeature}
  {collected : Collected} {known : CollectedFeature}

/-- An occurrence of a recorded feature has contributed to the record. -/
theorem BuiltFrom.contributed (builtFrom : BuiltFrom layout assembly found collected)
    (distinct : Layout.ArtifactsDistinct (fun entry => entry.gav) layout.entries)
    (isKnown : known ∈ collected) {occurrence : Occurrence}
    (occurs : OccursAs layout assembly known.id occurrence) :
    ∃ feature ∈ found, occurrence.Contributes layout feature ∧ feature.id = known.id ∧
      feature.spec = known.spec ∧ feature.index = known.index := by
  obtain ⟨⟨nearest, occursIn⟩, same⟩ := occurs
  obtain ⟨feature, listed, contributes⟩ :=
    builtFrom.gathers.contributed nearest occurrence occursIn
  rw [← contributes.id] at same
  exact ⟨feature, listed, contributes,
    builtFrom.merged.eq_of_same distinct builtFrom.instances isKnown listed same⟩

/-- Whatever was merged into a record was contributed by an occurrence. -/
theorem BuiltFrom.occursAs (builtFrom : BuiltFrom layout assembly found collected)
    {feature : CollectedFeature} (listed : feature ∈ found)
    (same : feature.id.same known.id = true) :
    ∃ occurrence, OccursAs layout assembly known.id occurrence ∧
      occurrence.Contributes layout feature := by
  obtain ⟨nearest, occurrence, occursIn, contributes⟩ := builtFrom.gathers.occurs feature listed
  rw [contributes.id] at same
  exact ⟨occurrence, ⟨⟨nearest, occursIn⟩, same⟩, contributes⟩

/-- A feature that is provisioned from its record has its values from the occurrences. -/
theorem BuiltFrom.provenance (builtFrom : BuiltFrom layout assembly found collected)
    (distinct : Layout.ArtifactsDistinct (fun entry => entry.gav) layout.entries)
    (isKnown : known ∈ collected) :
    Provenance layout assembly (provisionedFeature (withDefaults known)) known.spec := by
  have merged := builtFrom.merged
  have isInstance := merged.isInstance distinct builtFrom.instances isKnown
  have completed := instance_withDefaults isInstance
  have sameId : (provisionedFeature (withDefaults known)).id = known.id :=
    provisionedFeature_id (withDefaults known)
  -- Merging fills the record from the occurrences, and a default stands where none has a value.
  have value : ∀ name, (provisionedFeature (withDefaults known)).param? name =
      (known.params.get? name).or ((known.spec.param? name).bind Parameter.default) := by
    intro name
    rw [param?_of_instance completed, get?_withDefaults]
  constructor
  case declared =>
    rw [sameId]
    obtain ⟨entry, isEntry, gav, isSpec⟩ := isInstance.declared
    exact ⟨entry, List.mem_of_getElem? isEntry, gav, isSpec⟩
  case occurs =>
    rw [sameId]
    obtain ⟨feature, listed, isId, _⟩ := merged.origin known isKnown
    have same : feature.id.same known.id = true := by rw [isId, ResolvedId.same_self]
    obtain ⟨occurrence, occurs, _⟩ := builtFrom.occursAs listed same
    exact ⟨occurrence, occurs⟩
  case sameSpec =>
    rw [sameId]
    intro occurrence occurs
    obtain ⟨feature, _, contributes, isId, isSpec, _⟩ :=
      builtFrom.contributed distinct isKnown occurs
    exact ⟨contributes.id.symm.trans isId, contributes.spec.symm.trans isSpec⟩
  case contributed =>
    rw [sameId]
    intro occurrence occurs name given isGiven
    obtain ⟨feature, listed, contributes, isId, _⟩ :=
      builtFrom.contributed distinct isKnown occurs
    have recorded : known.params.get? name = some given := by
      rw [merged.value known isKnown]
      refine ⟨feature, listed, ?_, ?_⟩
      · rw [isId, ResolvedId.same_self]
      · rw [contributes.value, isGiven]
    rw [value, recorded, Option.some_or]
  case defaulted =>
    rw [sameId]
    intro name unset
    have absent : known.params.get? name = none := by
      rw [Option.eq_none_iff_forall_ne_some]
      intro given isGiven
      obtain ⟨feature, listed, same, isValue⟩ := (merged.value known isKnown name given).1 isGiven
      obtain ⟨occurrence, occurs, contributes⟩ := builtFrom.occursAs listed same
      rw [contributes.value, unset occurrence occurs] at isValue
      cases isValue
    rw [value, absent, Option.none_or]
  case ordered =>
    rw [keys_provisionedFeature completed]
    exact List.filter_sublist
  case idKeys =>
    rw [sameId]
    exact isInstance.idKeys
  case idValues =>
    rw [sameId]
    intro name given isId
    rw [value, isInstance.idValues name given isId, Option.some_or]

end

/-- Each value of a provisioned feature is the one that all its occurrences contribute, or else the
default; a config in which two occurrences contribute different values is not built. -/
theorem provenance_of_buildConfig {repository : Repository} {request : Request} {layout : Layout}
    (isBuilt : Layout.build repository request = .ok layout) (assembly : ConfigAssembly) :
    (∀ config, buildConfig layout assembly = .ok config →
      ∀ feature ∈ config.features, ∃ spec, Provenance layout assembly feature spec) ∧
    ∀ id first second, OccursAs layout assembly id first → OccursAs layout assembly id second →
      ∀ name left right, first.value? name = some left → second.value? name = some right →
        left ≠ right → ¬Succeeds (buildConfig layout assembly) := by
  have distinct := Layout.distinct_of_build isBuilt
  constructor
  · intro config isConfig feature listed
    obtain ⟨found, collected, builtFrom, _, _, features⟩ := exists_builtFrom isConfig
    obtain ⟨record, isRecord, rfl⟩ := List.mem_map.1 (features.mem_iff.1 listed)
    obtain ⟨known, isKnown, rfl⟩ := List.mem_map.1 isRecord
    exact ⟨known.spec, builtFrom.provenance distinct isKnown⟩
  · intro id first second isFirst isSecond name left right isLeft isRight different succeeds
    obtain ⟨⟨nearest, occursFirst⟩, sameFirst⟩ := isFirst
    obtain ⟨⟨other, occursSecond⟩, sameSecond⟩ := isSecond
    obtain ⟨found, collected, builtFrom⟩ := succeeds_buildConfig_iff.1 succeeds
    obtain ⟨feature, listed, contributes⟩ :=
      builtFrom.gathers.contributed nearest first occursFirst
    obtain ⟨record, isListed, contributesAlso⟩ :=
      builtFrom.gathers.contributed other second occursSecond
    have same : feature.id.same record.id = true := by
      rw [contributes.id, contributesAlso.id]
      exact ResolvedId.same_trans sameFirst (ResolvedId.same_symm sameSecond)
    rw [← contributes.value] at isLeft
    rw [← contributesAlso.value] at isRight
    exact different (builtFrom.merged.compatible listed isListed same name left right isLeft isRight)

/-! Cargo that is sealed twice, each time with another mark. -/

namespace Harbor

def sealedItem (mark : String) : Item :=
  .feature (cargoConfig [("vessel", "anna"), ("seal", mark)]) []

def sealedCargo (mark : String) : Occurrence :=
  ⟨around, cargoConfig [("vessel", "anna"), ("seal", mark)],
    ⟨cargoId, cargo, 0, .ofList [("vessel", "anna"), ("seal", mark), ("hold", "aft")]⟩, some rule⟩

theorem occursAs_sealedCargo {items : List Item} {mark : String}
    (listed : sealedItem mark ∈ items) :
    OccursAs layout (assembly items) cargoId (sealedCargo mark) := by
  have admitted : (sealedCargo mark).Admitted layout := ⟨by cbv, by cbv⟩
  have occurs : Occurs layout around none items none (sealedCargo mark) := .here listed admitted
  exact ⟨⟨none, part items, List.mem_singleton_self _, around, surroundings_eq items, occurs⟩,
    cargoId.same_self⟩

end Harbor

/-- The cargo has its values from the ship around it, from the rule and from its second occurrence;
another seal is not accepted. -/
theorem provenance_harbor :
    Layout.build Harbor.repository Harbor.request = .ok Harbor.layout ∧
      buildConfig Harbor.layout (Harbor.assembly Harbor.items) = .ok Harbor.config ∧
      (∃ spec, Provenance Harbor.layout (Harbor.assembly Harbor.items) Harbor.cargoFeature spec) ∧
      ¬Succeeds (buildConfig Harbor.layout
        (Harbor.assembly [Harbor.sealedItem "wax", Harbor.sealedItem "tar"])) := by
  have listed : Harbor.cargoFeature ∈ Harbor.config.features := by simp [Harbor.config]
  have wax : OccursAs Harbor.layout
      (Harbor.assembly [Harbor.sealedItem "wax", Harbor.sealedItem "tar"]) Harbor.cargoId
      (Harbor.sealedCargo "wax") :=
    Harbor.occursAs_sealedCargo List.mem_cons_self
  have tar : OccursAs Harbor.layout
      (Harbor.assembly [Harbor.sealedItem "wax", Harbor.sealedItem "tar"]) Harbor.cargoId
      (Harbor.sealedCargo "tar") :=
    Harbor.occursAs_sealedCargo (List.mem_cons_of_mem _ List.mem_cons_self)
  refine ⟨Harbor.build_eq, Harbor.config_eq, ?_, ?_⟩
  · exact (provenance_of_buildConfig Harbor.build_eq _).1 _ Harbor.config_eq _ listed
  · exact (provenance_of_buildConfig Harbor.build_eq _).2 _ _ _ wax tar "seal" "wax" "tar" rfl rfl
      (by decide)

end Provisioning.Resolution
