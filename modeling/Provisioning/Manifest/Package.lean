/-
This file reads packages from manifests.
-/

import Provisioning.Manifest.Fields
import Provisioning.Package

namespace Provisioning.Manifest

/-- A dependency with an origin is on a package of another feature-pack. -/
structure Dependency where
  name : String := ""
  origin : Option String := none
  optional : Bool := false

namespace Dependency

def put (dependency : Dependency) (name : String) (value : Toml) : Read Dependency :=
  match name with
  | "name" => do return { dependency with name := ← text value }
  | "origin" => do return { dependency with origin := some (← text value) }
  | "optional" => do return { dependency with optional := ← flag value }
  | _ => .error .form

def read (value : Toml) : Read Dependency :=
  Fields.read ⟨["name", "origin", "optional"], ["name"], 2, false⟩ put {} value

def describe (dependency : Dependency) : PackageDependency :=
  ⟨dependency.name, dependency.optional⟩

end Dependency

structure Package where
  name : String := ""
  isDefault : Bool := false
  dependencies : List Dependency := []
  params : List PackageParameter := []

namespace Package

def putParam (param : PackageParameter) (name : String) (value : Toml) : Read PackageParameter :=
  match name with
  | "name" => do return { param with name := ← text value }
  | "default" => do return { param with default := some (← text value) }
  | _ => .error .form

def readParam (value : Toml) : Read PackageParameter :=
  Fields.read ⟨["name", "default"], ["name"], 2, false⟩ putParam ⟨"", none⟩ value

def put (package : Package) (name : String) (value : Toml) : Read Package :=
  match name with
  | "name" => do return { package with name := ← text value }
  | "default" => do return { package with isDefault := ← flag value }
  | "dependencies" => do return { package with dependencies := ← list Dependency.read value }
  | "params" => do return { package with params := ← list readParam value }
  | _ => .error .form

def read (value : Toml) : Read Package :=
  Fields.read ⟨["name", "default", "dependencies", "params"], ["name"], 1, false⟩ put {} value

def describe (package : Package) : Except DescriptionError Provisioning.Package :=
  Provisioning.Package.build {
    name := package.name
    locals := (package.dependencies.filter fun dependency => dependency.origin.isNone).map
      Dependency.describe
    externals := package.dependencies.filterMap fun dependency =>
      dependency.origin.map fun origin => (origin, dependency.describe)
    params := package.params }

end Package

end Provisioning.Manifest
