/-
This file reads feature-packs and how they are installed from manifests.
-/

import Provisioning.Manifest.Config
import Provisioning.Manifest.Package
import Provisioning.Manifest.Spec
import Provisioning.Pack.FeaturePack

namespace Provisioning.Manifest

/-- A coordinate that does not parse is reported as such. -/
def coordinate : Toml → Read Gav
  | .string text =>
      match Gav.parse text with
      | .ok gav => .ok gav
      | .error error => .error (.coordinate error)
  | _ => .error .form

/-- This coordinate holds the place of one that is still to be read. -/
def blankCoordinate : Gav := ⟨"", "", ""⟩

structure PackConfig where
  gav : Gav := blankCoordinate
  origin : Option String := none
  inheritPackages : Bool := true
  includedPackages : List String := []
  excludedPackages : List String := []
  configs : Option Customizations := none

namespace PackConfig

def put (config : PackConfig) (name : String) (value : Toml) : Read PackConfig :=
  match name with
  | "gav" => do return { config with gav := ← coordinate value }
  | "origin" => do return { config with origin := some (← text value) }
  | "inherit-packages" => do return { config with inheritPackages := ← flag value }
  | "include-packages" => do return { config with includedPackages := ← list text value }
  | "exclude-packages" => do return { config with excludedPackages := ← list text value }
  | "configs" => do return { config with configs := some (← Customizations.read value) }
  | _ => .error .form

def fieldNames : List String :=
  ["gav", "origin", "inherit-packages", "include-packages", "exclude-packages", "configs"]

def read (value : Toml) : Read PackConfig :=
  Fields.read ⟨fieldNames, ["gav"], 6, false⟩ put {} value

def describe (config : PackConfig) : Except DescriptionError Provisioning.PackConfig := do
  let configRules ← Customizations.rulesOf config.configs
  Provisioning.PackConfig.build {
    gav := config.gav
    inheritPackages := config.inheritPackages
    includedPackages := config.includedPackages
    excludedPackages := config.excludedPackages
    configRules }

end PackConfig

structure FeaturePack where
  gav : Gav := blankCoordinate
  dependencies : List PackConfig := []
  packages : List Package := []
  specs : List Spec := []
  groups : List Group := []
  configs : List Config := []

namespace FeaturePack

def put (pack : FeaturePack) (name : String) (value : Toml) : Read FeaturePack :=
  match name with
  | "gav" => do return { pack with gav := ← coordinate value }
  | "dependencies" => do return { pack with dependencies := ← list PackConfig.read value }
  | "packages" => do return { pack with packages := ← list Package.read value }
  | "specs" => do return { pack with specs := ← list Spec.read value }
  | "groups" => do return { pack with groups := ← list Group.read value }
  | "configs" => do return { pack with configs := ← list Config.read value }
  | _ => .error .form

def fieldNames : List String :=
  ["gav", "dependencies", "packages", "specs", "groups", "configs"]

def read (value : Toml) : Read FeaturePack :=
  Fields.read ⟨fieldNames, ["gav"], 1, false⟩ put {} value

/-- The parts are described in the order of the fields, and then the whole is checked. -/
def describe (pack : FeaturePack) : Except DescriptionError Provisioning.FeaturePack := do
  let dependencies ← pack.dependencies.mapM fun dependency => do
    return PackDependency.mk dependency.origin (← dependency.describe)
  let packages ← pack.packages.mapM Package.describe
  let specs ← pack.specs.mapM Spec.describe
  let groups ← pack.groups.mapM Group.describe
  let configs ← pack.configs.mapM (Config.describe false)
  Provisioning.FeaturePack.build {
    gav := pack.gav
    dependencies
    packages
    markedDefaults := (pack.packages.filter Package.isDefault).map Package.name
    specs
    groups
    configs }

end FeaturePack

end Provisioning.Manifest
