/-
This file selects the configs of a layout and puts their parts together.
-/

import Provisioning.Layout.Basic

namespace Provisioning

/-- The names in a filter are understood in the scope in which it was written. -/
structure ScopedFilter where
  filter : FeatureFilter
  scope : Scope
deriving DecidableEq, Repr

/-- A config spec contributes its items, looked up from a scope, to a config. -/
structure ConfigPart where
  spec : ConfigSpec
  scope : Scope
  /-- The filter of the customization that included the config by name. -/
  filter : Option ScopedFilter

/-- A config is assembled from parts, and its properties are settled on the way. -/
structure ConfigAssembly where
  id : ConfigId
  properties : OrderedMap String String
  parts : List ConfigPart

/-- Customizations apply in the scope in which they were written. -/
structure CustomizationLevel where
  customizations : ConfigCustomizations
  scope : Scope

namespace Layout

/-- The feature-packs through which an entry came in, nearest first. Each was placed before the
one that it brought in. -/
def ancestors (layout : Layout) (index : Nat) : List Nat :=
  match (layout.entries[index]?).bind fun entry => entry.parent with
  | none => []
  | some parent => if parent < index then parent :: layout.ancestors parent else []
termination_by index

/-- The scopes in which the pack configs of an entry's chain were written, outermost first. -/
def declaredIn (layout : Layout) (index : Nat) : List Scope :=
  ((layout.ancestors index).map Scope.pack ++ [Scope.installation]).reverse

/-- The customizations that govern an entry, outermost first. -/
def levels (layout : Layout) (index : Nat) (entry : LayoutEntry) : List CustomizationLevel :=
  ⟨layout.request.configs, .installation⟩ ::
    List.zipWith (fun config scope => ⟨config.configs, scope⟩) entry.chain
      (layout.declaredIn index)

end Layout

/-- A config is either left out or taken, perhaps with a filter. -/
inductive ConfigSelection where
  | excluded
  | included (filter : Option ScopedFilter)

/-- The outermost level that decides prevails; otherwise every level has to inherit the config. -/
def selectConfig (id : ConfigId) (inherited : Bool) : List CustomizationLevel → ConfigSelection
  | [] => if inherited then .included none else .excluded
  | level :: inner =>
      match level.customizations.decide id with
      | .excluded => .excluded
      | .included byName =>
          .included (byName.map fun config => ⟨config.filter, level.scope⟩)
      | .inherited admitted => selectConfig id (inherited && admitted) inner

namespace Layout

/-- The configs that a feature-pack declares, as far as its levels take them. -/
def declaredParts (layout : Layout) (index : Nat) (entry : LayoutEntry) : List ConfigPart :=
  entry.pack.configs.filterMap fun config =>
    match selectConfig config.id true (layout.levels index entry) with
    | .excluded => none
    | .included filter => some ⟨config, .pack index, filter⟩

/-- The configs that the innermost level defines, unless a level around it excludes them. -/
def definedParts (layout : Layout) (index : Nat) (entry : LayoutEntry) : List ConfigPart :=
  match (layout.levels index entry).reverse with
  | [] => []
  | innermost :: outer =>
      innermost.customizations.definedConfigs.filterMap fun config =>
        if outer.any fun level => level.customizations.isConfigExcluded config.id then
          none
        else
          let scope := if config.resetOrigin then .pack index else declaringScope entry
          some ⟨config, scope, none⟩
where
  /-- Names are looked up from the feature-pack that brought the entry in. -/
  declaringScope (entry : LayoutEntry) : Scope :=
    match entry.parent with
    | some parent => .pack parent
    | none => .installation

/-- Dependencies contribute first and the installation last. -/
def contributions (layout : Layout) : List ConfigPart :=
  (layout.postOrder.flatMap fun index =>
    match layout.entries[index]? with
    | some entry => layout.declaredParts index entry ++ layout.definedParts index entry
    | none => []) ++
  layout.request.configs.definedConfigs.map fun config => ⟨config, .installation, none⟩

end Layout

namespace ConfigAssembly

/-- A property that is already set keeps its value. -/
def addProperties (properties : OrderedMap String String) (more : List (String × String)) :
    OrderedMap String String :=
  more.foldl (fun map property => map.insertNew property.1 property.2) properties

def ofPart (part : ConfigPart) : ConfigAssembly :=
  ⟨part.spec.id, addProperties .empty part.spec.properties.entries, [part]⟩

def addPart (assembly : ConfigAssembly) (part : ConfigPart) : ConfigAssembly :=
  { assembly with
    properties := addProperties assembly.properties part.spec.properties.entries
    parts := assembly.parts ++ [part] }

/-- A part joins the assembly with its id; an anonymous one stays alone. -/
def collect (part : ConfigPart) : List ConfigAssembly → List ConfigAssembly
  | [] => [ofPart part]
  | assembly :: rest =>
      if !part.spec.id.isAnonymous && assembly.id == part.spec.id then
        assembly.addPart part :: rest
      else
        assembly :: collect part rest

def collectAll (parts : List ConfigPart) : List ConfigAssembly :=
  parts.foldl (fun assemblies part => collect part assemblies) []

/-- The model has a config with a name. -/
def hasNamed (assemblies : List ConfigAssembly) (model : String) : Bool :=
  assemblies.any fun assembly => assembly.id.model == some model && assembly.id.name.isSome

/-- A model-only config gives way to the named configs of its model. -/
def isDefaults (assemblies : List ConfigAssembly) (assembly : ConfigAssembly) : Bool :=
  match assembly.id.model with
  | some model => assembly.id.name == none && hasNamed assemblies model
  | none => false

/-- A named config takes in the parts of its model's defaults before its own. -/
def withDefaults (assemblies : List ConfigAssembly) (assembly : ConfigAssembly) : ConfigAssembly :=
  match assembly.id.model, assembly.id.name with
  | some model, some _ =>
      match assemblies.find? fun defaults => defaults.id == .modelOnly model with
      | some defaults =>
          { assembly with
            properties := addProperties assembly.properties defaults.properties.entries
            parts := defaults.parts ++ assembly.parts }
      | none => assembly
  | _, _ => assembly

def finish (assemblies : List ConfigAssembly) : List ConfigAssembly :=
  (assemblies.filter fun assembly => !isDefaults assemblies assembly).map (withDefaults assemblies)

end ConfigAssembly

/-- The configs of a run, in the order of their first contributions. -/
def Layout.assembleConfigs (layout : Layout) : List ConfigAssembly :=
  ConfigAssembly.finish (ConfigAssembly.collectAll layout.contributions)

end Provisioning
