/-
This file says when a config is built and what its features are made of.
-/

import Mathlib.Data.List.Permutation
import Provisioning.Proofs.Resolution.Parameters

namespace Provisioning

namespace Resolution

open Expansion

/-- A config is built from what occurs in its parts, merged and completed with defaults. -/
structure BuiltFrom (layout : Layout) (assembly : ConfigAssembly) (found : List CollectedFeature)
    (collected : Collected) : Prop where
  gathered : gatherParts layout assembly.parts = .ok found
  merges : Collected.mergeAll [] found = .ok collected
  resolvable : Resolvable layout (collected.map withDefaults)

section

variable {layout : Layout} {assembly : ConfigAssembly} {found : List CollectedFeature}
  {collected : Collected} {config : ProvisionedConfig}

/-- The features that a config is built from are the merged occurrences. -/
theorem BuiltFrom.merged (builtFrom : BuiltFrom layout assembly found collected) :
    Merged found collected :=
  Merged.nil.run builtFrom.merges

/-- What has been merged are the contributions of the occurrences. -/
theorem BuiltFrom.gathers (builtFrom : BuiltFrom layout assembly found collected) :
    Gathers layout (OccursIn layout assembly.parts) found :=
  gathers_of_gatherParts builtFrom.gathered

/-- Every occurrence is an instance of a spec of the layout. -/
theorem BuiltFrom.instances (builtFrom : BuiltFrom layout assembly found collected) :
    ∀ feature ∈ found, feature.Instance layout := by
  intro feature listed
  obtain ⟨_, _, _, contributes⟩ := builtFrom.gathers.occurs feature listed
  exact contributes.isInstance

/-- A config is built from its collected features, with defaults filled in. -/
theorem exists_builtFrom (isConfig : buildConfig layout assembly = .ok config) :
    ∃ found collected, BuiltFrom layout assembly found collected ∧ config.id = assembly.id ∧
      config.properties = ProvisionedConfig.firstValues assembly.properties.entries ∧
      config.features.Perm ((collected.map withDefaults).map provisionedFeature) := by
  simp only [buildConfig, bind_eq_ok_iff, ofDescription_eq_ok_iff] at isConfig
  obtain ⟨collected, expanded, resolved, isResolved, isConfig⟩ := isConfig
  obtain ⟨found, gathered, merges⟩ := expandParts_eq_ok_iff.1 expanded
  obtain ⟨order, ordered⟩ := featureOrder_of_resolveFeatures isResolved
  have resolvable := succeeds_resolveFeatures_iff.1 ⟨resolved, isResolved⟩
  obtain ⟨_, rfl⟩ := ProvisionedConfig.build_eq_ok_iff.1 isConfig
  exact ⟨found, collected, ⟨gathered, merges, resolvable⟩, rfl, rfl, ordered.kept⟩

/-- No two of the features that a config resolves are the same. -/
theorem distinct_of_resolveFeatures {resolved : List ProvisionedFeature}
    (isMerged : Merged found collected) (isResolved : resolveFeatures layout collected = .ok resolved) :
    resolved.Pairwise fun first second => first.id.same second.id = false := by
  obtain ⟨order, ordered⟩ := featureOrder_of_resolveFeatures isResolved
  have symmetric : ∀ {first second : ProvisionedFeature}, first.id.same second.id = false →
      second.id.same first.id = false :=
    fun apart => (ResolvedId.same_comm _ _).trans apart
  rw [ordered.kept.pairwise_iff symmetric, List.map_map, List.pairwise_map]
  refine isMerged.distinct.imp fun {first second} apart => ?_
  rw [Function.comp_apply, Function.comp_apply, provisionedFeature_id, provisionedFeature_id]
  exact apart

/-- Whatever is gathered, merged and resolved makes a config. -/
theorem BuiltFrom.succeeds (builtFrom : BuiltFrom layout assembly found collected) :
    Succeeds (buildConfig layout assembly) := by
  have expanded := expandParts_eq_ok_iff.2 ⟨found, builtFrom.gathered, builtFrom.merges⟩
  obtain ⟨resolved, isResolved⟩ := succeeds_resolveFeatures_iff.2 builtFrom.resolvable
  have distinct := distinct_of_resolveFeatures builtFrom.merged isResolved
  exact ⟨_, bind_eq_ok_iff.2 ⟨collected, expanded, bind_eq_ok_iff.2 ⟨resolved, isResolved,
    ofDescription_eq_ok_iff.2 (ProvisionedConfig.build_eq_ok_iff.2 ⟨distinct, rfl⟩)⟩⟩⟩

/-- A config is built exactly when its features can be collected and resolved. -/
theorem succeeds_buildConfig_iff :
    Succeeds (buildConfig layout assembly) ↔
      ∃ found collected, BuiltFrom layout assembly found collected := by
  constructor
  · rintro ⟨config, isConfig⟩
    obtain ⟨found, collected, builtFrom, _⟩ := exists_builtFrom isConfig
    exact ⟨found, collected, builtFrom⟩
  · rintro ⟨found, collected, builtFrom⟩
    exact builtFrom.succeeds

end

/-! A ship and its cargo: the cargo takes over the name of the ship, and a rule sets its crates. -/

namespace Harbor

def gav : Gav :=
  ⟨"g", "harbor", "1"⟩

def ship : FeatureSpec where
  name := "ship"
  params := [⟨"name", .id, none, .scalar⟩, ⟨"flag", .nillable, none, .scalar⟩]
  references := []
  providedPatterns := []
  requiredPatterns := []
  provides := []
  requires := []
  accepted := by rfl

def toShip : FeatureReference where
  name := "ship"
  target := "ship"
  origin := none
  nillable := false
  parent := true
  mapping := .ofList [("vessel", "name")]

def cargo : FeatureSpec where
  name := "cargo"
  params := [⟨"vessel", .id, none, .scalar⟩, ⟨"hold", .id, some "aft", .scalar⟩,
    ⟨"crates", .required, some "1", .scalar⟩, ⟨"seal", .nillable, none, .scalar⟩]
  references := [toShip]
  providedPatterns := []
  requiredPatterns := []
  provides := []
  requires := []
  accepted := by rfl

def pack : FeaturePack where
  gav := gav
  dependencies := []
  packages := []
  markedDefaults := []
  specs := [ship, cargo]
  groups := []
  configs := []
  accepted := by rfl

def repository : Repository :=
  ⟨[pack], by decide⟩

def request : Request :=
  ⟨[.ofGav gav], .empty, .inheritAll, by simp⟩

def layout : Layout :=
  .ofWalked request ⟨[⟨pack, [.ofGav gav], none⟩], [0]⟩

theorem build_eq : Layout.build repository request = .ok layout := by
  cbv

def shipConfig : FeatureConfig :=
  ⟨⟨none, "ship"⟩, .ofList [("name", "anna")], none⟩

def cargoConfig (params : List (String × String)) : FeatureConfig :=
  ⟨⟨none, "cargo"⟩, .ofList params, none⟩

def rule : IncludedFeature :=
  ⟨⟨none, ⟨"cargo", .ofList [("hold", "aft"), ("vessel", "anna")]⟩⟩, .ofList [("crates", "5")]⟩

def filter : ScopedFilter :=
  ⟨⟨true, [.includeFeature rule]⟩, .pack 0⟩

def part (items : List Item) : ConfigPart :=
  ⟨⟨⟨none, some "c"⟩, .empty, items, false⟩, .pack 0, some filter⟩

def assembly (items : List Item) : ConfigAssembly :=
  ⟨⟨none, some "c"⟩, .empty, [part items]⟩

/-- A ship with cargo below it, and the same cargo once more with a seal. -/
def items : List Item :=
  [.feature shipConfig [.feature (cargoConfig []) []],
    .feature (cargoConfig [("vessel", "anna"), ("seal", "wax")]) []]

def shipId : ResolvedId :=
  ⟨⟨gav, "ship"⟩, .ofList [("name", "anna")]⟩

def cargoId : ResolvedId :=
  ⟨⟨gav, "cargo"⟩, .ofList [("vessel", "anna"), ("hold", "aft")]⟩

def cargoFeature : ProvisionedFeature :=
  ⟨cargoId, .ofList [("vessel", "anna"), ("hold", "aft"), ("crates", "5"), ("seal", "wax")]⟩

def config : ProvisionedConfig :=
  ⟨⟨none, some "c"⟩, .empty, [⟨shipId, .ofList [("name", "anna")]⟩, cargoFeature]⟩

theorem config_eq : buildConfig layout (assembly items) = .ok config := by
  cbv

/-- The features of the config stand directly in its part. -/
def around : Surroundings :=
  ⟨.pack 0, [filter], [], none⟩

theorem surroundings_eq (items : List Item) : surroundings layout (part items) = .ok around := by
  cbv

end Harbor

end Resolution

end Provisioning
