/-
This file defines the items that groups and configs are made of.
-/

import Provisioning.Feature.Filter

namespace Provisioning

/-- A feature is written with the parameters that it sets itself. -/
structure FeatureConfig where
  spec : SpecRef
  params : OrderedMap String String
  /-- The name of the reference that is filled in from the enclosing feature. -/
  parentRef : Option String
deriving DecidableEq, Repr

/-- The text lists the parameters after the spec. -/
def FeatureConfig.text (feature : FeatureConfig) : String :=
  if feature.params.isEmpty then s!"[{feature.spec.text}]"
  else s!"[{feature.spec.text} {IdParams.text feature.params}]"

/-- A group is referred to by name and its features pass a filter. -/
structure GroupConfig where
  group : SpecRef
  filter : FeatureFilter
deriving DecidableEq, Repr

/-- The items below a feature are its children. -/
inductive Item where
  | feature (feature : FeatureConfig) (children : List Item)
  | group (group : GroupConfig)

/-- A group is a named list of items. -/
structure FeatureGroup where
  name : String
  items : List Item

def FeatureGroup.build (name : String) (items : List Item) :
    Except DescriptionError FeatureGroup :=
  match blankProblem? "Feature group name" name with
  | some problem => .error problem
  | none => .ok ⟨name, items⟩

end Provisioning
