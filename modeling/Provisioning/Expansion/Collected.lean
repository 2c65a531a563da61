/-
This file collects the features of one config and merges the occurrences of each.
-/

import Provisioning.Feature.Spec
import Provisioning.ProvisioningError

namespace Provisioning

/-- A feature is collected with its spec and the values that it has been given so far. -/
structure CollectedFeature where
  id : ResolvedId
  spec : FeatureSpec
  /-- The feature-pack that declares the spec, by its index in the layout. -/
  index : Nat
  params : OrderedMap String String

/-- Features are listed in the order of their first occurrence. -/
abbrev Collected := List CollectedFeature

namespace CollectedFeature

/-- A value may be given again but not changed. -/
def mergeParams (spec : SpecId) (params : OrderedMap String String) :
    List (String × String) → Provisioned (OrderedMap String String)
  | [] => .ok params
  | (name, value) :: rest =>
      match params.get? name with
      | none => mergeParams spec (params.insert name value) rest
      | some first =>
          if first = value then mergeParams spec params rest
          else .error (.valueConflict spec name first value)

end CollectedFeature

namespace Collected

/-- An occurrence of a collected feature adds the parameters that it lacks. -/
def merge (feature : CollectedFeature) : Collected → Provisioned Collected
  | [] => .ok [feature]
  | known :: rest =>
      if known.id.same feature.id then do
        let params ←
          CollectedFeature.mergeParams known.id.specId known.params feature.params.entries
        return { known with params } :: rest
      else do
        return known :: (← merge feature rest)

/-- The position of the feature with an id. -/
def position? (collected : Collected) (id : ResolvedId) : Option Nat :=
  collected.findIdx? fun known => known.id.same id

end Collected

end Provisioning
