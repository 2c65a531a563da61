/-
This file defines which configs are taken from a feature-pack and which are added to it.
-/

import Provisioning.Config.Spec

namespace Provisioning

/-- A config is included by its id and its features pass a filter. -/
structure IncludedConfig where
  id : ConfigId
  filter : FeatureFilter
deriving DecidableEq, Repr

/-- One level of customizations either decides about a config or leaves it to inheritance. -/
inductive ConfigDecision where
  | excluded
  /-- A config that is included by name brings its filter. -/
  | included (byName : Option IncludedConfig)
  | inherited (admitted : Bool)
deriving DecidableEq, Repr

inductive ConfigCustomizations.Rule where
  | inheritConfigs (inherit : Bool)
  | inheritModelOnlyConfigs (inherit : Bool)
  | includeModel (model : String)
  /-- The model-only config of the model may stay eligible. -/
  | excludeModel (model : String) (namedOnly : Bool)
  | includeConfig (config : IncludedConfig)
  | excludeConfig (id : ConfigId)
  | defineConfig (config : ConfigSpec)

namespace ConfigCustomizations.Rule

/-- A config with a model and a name is included with all its features. -/
def includeDefaultConfig (model name : String) : Rule :=
  .includeConfig ⟨⟨some model, some name⟩, .passAll⟩

def excludeDefaultConfig (model name : String) : Rule :=
  .excludeConfig ⟨some model, some name⟩

end ConfigCustomizations.Rule

structure ConfigCustomizations where
  inheritConfigs : Bool
  inheritModelOnlyConfigs : Bool
  includedModels : OrderedSet String
  /-- The flag of an excluded model says whether only its named configs are excluded. -/
  excludedModels : OrderedMap String Bool
  includedConfigs : List IncludedConfig
  excludedConfigs : OrderedSet ConfigId
  definedConfigs : List ConfigSpec

namespace ConfigCustomizations

/-- Without rules every config is inherited. -/
def inheritAll : ConfigCustomizations :=
  { inheritConfigs := true
    inheritModelOnlyConfigs := true
    includedModels := .empty
    excludedModels := .empty
    includedConfigs := []
    excludedConfigs := .empty
    definedConfigs := [] }

instance : Inhabited ConfigCustomizations := ⟨inheritAll⟩

def isModelIncluded (customizations : ConfigCustomizations) (model : String) : Bool :=
  customizations.includedModels.contains model

def modelExclusion? (customizations : ConfigCustomizations) (model : String) : Option Bool :=
  customizations.excludedModels.get? model

/-- The exclusion of a model may spare its model-only config. -/
def isModelExcludedFor (customizations : ConfigCustomizations) (id : ConfigId) : Bool :=
  match id.model.bind customizations.modelExclusion? with
  | some namedOnly => !namedOnly || id.name.isSome
  | none => false

def includedConfig? (customizations : ConfigCustomizations) (id : ConfigId) :
    Option IncludedConfig :=
  customizations.includedConfigs.find? fun included => included.id == id

def isConfigExcluded (customizations : ConfigCustomizations) (id : ConfigId) : Bool :=
  customizations.excludedConfigs.contains id

/-- A name decides before a model does, and exclusion decides before inclusion. -/
def decide (customizations : ConfigCustomizations) (id : ConfigId) : ConfigDecision :=
  if id.isAnonymous then
    .inherited customizations.inheritConfigs
  else if customizations.isConfigExcluded id then
    .excluded
  else
    match customizations.includedConfig? id with
    | some included => .included (some included)
    | none =>
        if customizations.isModelExcludedFor id then
          .excluded
        else if id.model.any customizations.isModelIncluded then
          .included none
        else if id.isModelOnly then
          .inherited customizations.inheritModelOnlyConfigs
        else
          .inherited customizations.inheritConfigs

/-- A rule that cannot be taken in is refused in view of those that have been. -/
def ruleProblem? (customizations : ConfigCustomizations) : Rule → Option DescriptionError
  | .includeConfig config =>
      if config.id.isAnonymous then
        some (.missing "An anonymous config cannot be included by id")
      else if (customizations.includedConfig? config.id).isSome then
        some (.duplicate s!"Config {config.id.text} has already been included")
      else
        none
  | .excludeConfig id =>
      if id.name.isNone then
        some (.missing s!"Only named configs can be excluded by id, got {id.text}")
      else
        none
  | .defineConfig config =>
      if !config.id.isAnonymous &&
          customizations.definedConfigs.any (fun known => known.id == config.id) then
        some (.duplicate s!"Config model with id {config.id.text} has already been defined")
      else
        none
  | _ => none

def apply (customizations : ConfigCustomizations) : Rule → ConfigCustomizations
  | .inheritConfigs inherit => { customizations with inheritConfigs := inherit }
  | .inheritModelOnlyConfigs inherit => { customizations with inheritModelOnlyConfigs := inherit }
  | .includeModel model =>
      { customizations with includedModels := customizations.includedModels.insert model }
  | .excludeModel model namedOnly =>
      { customizations with
        excludedModels := customizations.excludedModels.insert model namedOnly }
  | .includeConfig config =>
      { customizations with includedConfigs := customizations.includedConfigs ++ [config] }
  | .excludeConfig id =>
      { customizations with excludedConfigs := customizations.excludedConfigs.insert id }
  | .defineConfig config =>
      { customizations with definedConfigs := customizations.definedConfigs ++ [config] }

/-- No model and no config is both included and excluded. -/
def conflict? (customizations : ConfigCustomizations) : Option DescriptionError :=
  match customizations.includedModels.elements.find? customizations.excludedModels.contains with
  | some model => some (.conflict s!"Model {model} has been both included and excluded")
  | none =>
      match customizations.includedConfigs.find? fun included =>
          customizations.isConfigExcluded included.id with
      | some included =>
          some (.conflict s!"Config {included.id.text} has been both included and excluded")
      | none => none

/-- What the rules so far amount to, with the problems of those that have been refused. -/
structure Draft where
  customizations : ConfigCustomizations
  problems : List DescriptionError

namespace Draft

def empty : Draft := ⟨inheritAll, []⟩

/-- A refused rule leaves its problem behind and nothing else. -/
def add (draft : Draft) (rule : Rule) : Draft :=
  match draft.customizations.ruleProblem? rule with
  | some problem => { draft with problems := draft.problems ++ [problem] }
  | none => { draft with customizations := draft.customizations.apply rule }

/-- The rules are taken in one after the other. -/
def ofRules (rules : List Rule) : Draft := rules.foldl add empty

/-- The first refused rule is reported before any conflict. -/
def finish (draft : Draft) : Except DescriptionError ConfigCustomizations :=
  match draft.problems.head?.or draft.customizations.conflict? with
  | some problem => .error problem
  | none => .ok draft.customizations

end Draft

def build (rules : List Rule) : Except DescriptionError ConfigCustomizations :=
  (Draft.ofRules rules).finish

end ConfigCustomizations

end Provisioning
