/-
This file writes provisioned states and identities as JSON and reads them back.
-/

import Provisioning.Json.Decoder
import Provisioning.Json.Reader
import Provisioning.Json.Writer
import Provisioning.State

namespace Provisioning

namespace Json

def ofMap (map : OrderedMap String String) : Json :=
  object (map.entries.map fun entry => (entry.1, string entry.2))

/-- Nothing is written for an absent text. -/
def optionalMember (name : String) : Option String → List (String × Json)
  | some text => [(name, string text)]
  | none => []

/-- Nothing is written for an empty map. -/
def mapMember (name : String) (map : OrderedMap String String) : List (String × Json) :=
  if map.isEmpty then [] else [(name, ofMap map)]

/-- A coordinate is written as its text. -/
def ofGav (gav : Gav) : Json := string gav.text

def gav? (json : Json) : Option Gav :=
  (text? json).bind fun text => (Gav.parse text).toOption

def ofFeatureId (id : FeatureId) : Json := string id.text

def featureId? (json : Json) : Option FeatureId :=
  (text? json).bind fun text => (FeatureId.parse text).toOption

def ofSpecId (id : SpecId) : Json :=
  object [("gav", ofGav id.gav), ("name", string id.name)]

def specId? (json : Json) : Option SpecId := do
  match ← record? ["gav", "name"] json with
  | [some gav, some name] => return ⟨← gav? gav, ← text? name⟩
  | _ => none

def ofResolvedId (id : ResolvedId) : Json :=
  object [("gav", ofGav id.specId.gav), ("name", string id.specId.name),
    ("params", ofMap id.params)]

def resolvedId? (level : Nat) (json : Json) : Option ResolvedId := do
  match ← openRecord? level ["gav", "name", "params"] json with
  | [some gav, some name, some params] =>
      return ⟨⟨← gav? gav, ← text? name⟩, ← textMap? params⟩
  | _ => none

def ofConfigId (id : ConfigId) : Json :=
  object (optionalMember "model" id.model ++ optionalMember "name" id.name)

def configId? (json : Json) : Option ConfigId := do
  match ← record? ["model", "name"] json with
  | [model, name] => return ⟨← optionalText? model, ← optionalText? name⟩
  | _ => none

def ofFeature (feature : ProvisionedFeature) : Json :=
  object (("id", ofResolvedId feature.id) :: mapMember "params" feature.params)

def feature? (json : Json) : Option ProvisionedFeature := do
  match ← record? ["id", "params"] json with
  | [some id, params] => return ⟨← resolvedId? 6 id, ← orDefault .empty textMap? params⟩
  | _ => none

def ofConfig (config : ProvisionedConfig) : Json :=
  object (optionalMember "model" config.id.model ++ optionalMember "name" config.id.name ++
    mapMember "properties" config.properties ++
    [("features", array (config.features.map ofFeature))])

def config? (json : Json) : Option ProvisionedConfig := do
  match ← openRecord? 3 ["model", "name", "properties", "features"] json with
  | [model, name, properties, features] =>
      return ⟨⟨← optionalText? model, ← optionalText? name⟩,
        ← orDefault .empty textMap? properties,
        ← orDefault [] (elements? feature?) features⟩
  | _ => none

def ofPack (pack : ProvisionedPack) : Json :=
  object [("gav", ofGav pack.gav), ("packages", array (pack.packages.elements.map string))]

def packages? (json : Json) : Option (OrderedSet String) :=
  (elements? text? json).map OrderedSet.ofList

def pack? (json : Json) : Option ProvisionedPack := do
  match ← record? ["gav", "packages"] json with
  | [some gav, packages] => return ⟨← gav? gav, ← orDefault .empty packages? packages⟩
  | _ => none

def ofState (state : ProvisionedState) : Json :=
  object [("feature-packs", array (state.packs.map ofPack)),
    ("configs", array (state.configs.map ofConfig))]

/-- A state is read as it stands: nothing checks that its parts are distinct. -/
def state? (json : Json) : Option ProvisionedState := do
  match ← record? ["feature-packs", "configs"] json with
  | [packs, configs] =>
      return ⟨← orDefault [] (elements? pack?) packs, ← orDefault [] (elements? config?) configs⟩
  | _ => none

end Json

namespace ProvisionedState

def toCompactText (state : ProvisionedState) : String := (Json.ofState state).compact

/-- The text of a state file ends with a new line. -/
def toFileText (state : ProvisionedState) : String := (Json.ofState state).indented 0 ++ "\n"

def ofText? (text : String) : Option ProvisionedState := (Json.parse? text).bind Json.state?

/-- Two features agree when their parameters do, in any order. -/
def sameFeature (first second : ProvisionedFeature) : Bool :=
  first.id.same second.id && first.params.agrees second.params

def sameConfig (first second : ProvisionedConfig) : Bool :=
  first.id == second.id && first.properties.agrees second.properties &&
    first.features.length == second.features.length &&
    (first.features.zip second.features).all fun pair => sameFeature pair.1 pair.2

def samePack (first second : ProvisionedPack) : Bool :=
  first.gav == second.gav && first.packages.elements.length == second.packages.elements.length &&
    first.packages.elements.all second.packages.contains

/-- States agree up to the order of entries in maps and sets. -/
def same (first second : ProvisionedState) : Bool :=
  first.packs.length == second.packs.length && first.configs.length == second.configs.length &&
    ((first.packs.zip second.packs).all fun pair => samePack pair.1 pair.2) &&
    (first.configs.zip second.configs).all fun pair => sameConfig pair.1 pair.2

end ProvisionedState

end Provisioning
