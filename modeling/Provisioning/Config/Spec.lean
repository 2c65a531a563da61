/-
This file defines configs as feature-packs and requests declare them.
-/

import Provisioning.Config.Id
import Provisioning.Feature.Item

namespace Provisioning

structure ConfigSpec where
  id : ConfigId
  properties : OrderedMap String String
  items : List Item
  /-- Unqualified names are looked up from the feature-pack that owns the definition, and not
  from the place it is used in. -/
  resetOrigin : Bool

namespace ConfigSpec

structure Declaration where
  id : ConfigId
  properties : List (String × String)
  items : List Item
  resetOrigin : Bool

def propertyProblem? (id : ConfigId) (earlier : List (String × String))
    (property : String × String) : Option DescriptionError :=
  (blankProblem? "Config property name" property.1).or <|
  if earlier.any fun known => known.1 == property.1 then
    some (.duplicate s!"Property {property.1} is defined twice for config {id.text}")
  else
    none

def Declaration.problem? (declaration : Declaration) : Option DescriptionError :=
  (declaration.id.model.bind (blankProblem? "Config model")).or <|
  (declaration.id.name.bind (blankProblem? "Config name")).or <|
  Checks.first (propertyProblem? declaration.id) declaration.properties

def build (declaration : Declaration) : Except DescriptionError ConfigSpec :=
  match declaration.problem? with
  | some problem => .error problem
  | none =>
      .ok {
        id := declaration.id
        properties := .ofList declaration.properties
        items := declaration.items
        resetOrigin := declaration.resetOrigin }

end ConfigSpec

end Provisioning
