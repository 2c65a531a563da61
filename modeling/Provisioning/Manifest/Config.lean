/-
This file reads configs and their customizations from manifests.
-/

import Provisioning.Config.Customization
import Provisioning.Manifest.Item

namespace Provisioning.Manifest

structure Config where
  id : ConfigId := ⟨none, none⟩
  properties : OrderedMap String String := .empty
  resetOrigin : Option Bool := none
  items : List Item := []

namespace Config

def put (config : Config) (name : String) (value : Toml) : Read Config :=
  match name with
  | "model" => do return { config with id := { config.id with model := some (← text value) } }
  | "name" => do return { config with id := { config.id with name := some (← text value) } }
  | "props" => do return { config with properties := ← textMap value }
  | "reset-origin" => do return { config with resetOrigin := some (← flag value) }
  | "items" => do return { config with items := ← Item.readList value }
  | _ => .error .form

def read (value : Toml) : Read Config :=
  Fields.read ⟨["model", "name", "props", "reset-origin", "items"], [], 4, false⟩ put {} value

/-- The place of a config decides about the origin if the config itself does not. -/
def describe (resetOrigin : Bool) (config : Config) : Except DescriptionError ConfigSpec := do
  ConfigSpec.build {
    id := config.id
    properties := config.properties.entries
    items := ← config.items.mapM Item.describe
    resetOrigin := config.resetOrigin.getD resetOrigin }

end Config

/-- Configs are picked by name. -/
structure ConfigPick where
  model : Option String := none
  name : String := ""
  filter : Option Filter := none

namespace ConfigPick

def putExcluded (pick : ConfigPick) (name : String) (value : Toml) : Read ConfigPick :=
  match name with
  | "model" => do return { pick with model := some (← text value) }
  | "name" => do return { pick with name := ← text value }
  | _ => .error .form

/-- Only an included config has a filter. -/
def putIncluded (pick : ConfigPick) (name : String) (value : Toml) : Read ConfigPick :=
  match name with
  | "filter" => do return { pick with filter := some (← Filter.read false value) }
  | _ => pick.putExcluded name value

def readIncluded (value : Toml) : Read ConfigPick :=
  Fields.read ⟨["model", "name", "filter"], ["name"], 3, false⟩ putIncluded {} value

def readExcluded (value : Toml) : Read ConfigPick :=
  Fields.read ⟨["model", "name"], ["name"], 2, false⟩ putExcluded {} value

def id (pick : ConfigPick) : ConfigId := ⟨pick.model, some pick.name⟩

def describe (pick : ConfigPick) : Except DescriptionError IncludedConfig := do
  return ⟨pick.id, ← Filter.describeOptional pick.filter⟩

end ConfigPick

structure Customizations where
  inherit : Bool := true
  inheritModelOnly : Bool := true
  includedModels : List String := []
  /-- The flag of an excluded model says whether only its named configs are excluded. -/
  excludedModels : List (String × Bool) := []
  included : List ConfigPick := []
  excluded : List ConfigPick := []
  defined : List Config := []

namespace Customizations

def putModel (model : String × Bool) (name : String) (value : Toml) : Read (String × Bool) :=
  match name with
  | "model" => do return (← text value, model.2)
  | "named-only" => do return (model.1, ← flag value)
  | _ => .error .form

/-- A model is excluded altogether unless a table says otherwise. -/
def readModel : Toml → Read (String × Bool)
  | .string model => .ok (model, false)
  | value => Fields.read ⟨["model", "named-only"], ["model"], 1, true⟩ putModel ("", false) value

def put (customizations : Customizations) (name : String) (value : Toml) : Read Customizations :=
  match name with
  | "inherit" => do return { customizations with inherit := ← flag value }
  | "inherit-model-only" => do return { customizations with inheritModelOnly := ← flag value }
  | "include-models" => do return { customizations with includedModels := ← list text value }
  | "exclude-models" => do return { customizations with excludedModels := ← list readModel value }
  | "include" => do
      return { customizations with included := ← list ConfigPick.readIncluded value }
  | "exclude" => do
      return { customizations with excluded := ← list ConfigPick.readExcluded value }
  | "define" => do return { customizations with defined := ← list Config.read value }
  | _ => .error .form

def fieldNames : List String :=
  ["inherit", "inherit-model-only", "include-models", "exclude-models", "include", "exclude",
    "define"]

def read (value : Toml) : Read Customizations :=
  Fields.read ⟨fieldNames, [], 0, false⟩ put {} value

/-- A config that is defined here is looked up from here unless it says otherwise. -/
def rules (customizations : Customizations) :
    Except DescriptionError (List ConfigCustomizations.Rule) := do
  let included ← customizations.included.mapM fun pick => do
    return ConfigCustomizations.Rule.includeConfig (← pick.describe)
  let defined ← customizations.defined.mapM fun config => do
    return ConfigCustomizations.Rule.defineConfig (← config.describe true)
  return [.inheritConfigs customizations.inherit,
      .inheritModelOnlyConfigs customizations.inheritModelOnly] ++
    customizations.includedModels.map .includeModel ++
    customizations.excludedModels.map (fun model => .excludeModel model.1 model.2) ++
    included ++
    customizations.excluded.map (fun pick => .excludeConfig pick.id) ++
    defined

/-- Without customizations there are no rules. -/
def rulesOf : Option Customizations → Except DescriptionError (List ConfigCustomizations.Rule)
  | some customizations => customizations.rules
  | none => .ok []

end Customizations

end Provisioning.Manifest
