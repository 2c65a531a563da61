/-
This file reads feature filters from manifests.
-/

import Provisioning.Feature.Filter
import Provisioning.Manifest.Fields

namespace Provisioning.Manifest

/-- A filter names specs, features and groups by text. -/
structure Filter where
  inherit : Bool := true
  includedSpecs : List String := []
  excludedSpecs : List String := []
  /-- Each included feature comes with the parameters that it overrides. -/
  includedFeatures : List (String × OrderedMap String String) := []
  excludedFeatures : List String := []
  excludedGroups : List String := []

namespace Filter

def putIncluded (included : String × OrderedMap String String) (name : String) (value : Toml) :
    Read (String × OrderedMap String String) :=
  match name with
  | "feature" => do return (← text value, included.2)
  | "params" => do return (included.1, ← textMap value)
  | _ => .error .form

/-- A feature is included by its id alone or together with overrides. -/
def readIncluded : Toml → Read (String × OrderedMap String String)
  | .string id => .ok (id, .empty)
  | value =>
      Fields.read ⟨["feature", "params"], ["feature"], 1, true⟩ putIncluded ("", .empty) value

def put (filter : Filter) (name : String) (value : Toml) : Read Filter :=
  match name with
  | "inherit-features" => do return { filter with inherit := ← flag value }
  | "include-specs" => do return { filter with includedSpecs := ← list text value }
  | "exclude-specs" => do return { filter with excludedSpecs := ← list text value }
  | "include-features" => do return { filter with includedFeatures := ← list readIncluded value }
  | "exclude-features" => do return { filter with excludedFeatures := ← list text value }
  | "exclude-groups" => do return { filter with excludedGroups := ← list text value }
  | _ => .error .form

def fieldNames : List String :=
  ["inherit-features", "include-specs", "exclude-specs", "include-features", "exclude-features",
    "exclude-groups"]

def read (exact : Bool) (value : Toml) : Read Filter :=
  Fields.read ⟨fieldNames, [], 0, exact⟩ put {} value

/-- Feature ids are parsed before the rules are checked. -/
def describe (filter : Filter) : Except DescriptionError FeatureFilter := do
  let included ← filter.includedFeatures.mapM fun included => do
    return FeatureFilter.Rule.includeFeature ⟨← FeatureRef.parse included.1, included.2⟩
  let excluded ← filter.excludedFeatures.mapM fun feature => do
    return FeatureFilter.Rule.excludeFeature (← FeatureRef.parse feature)
  FeatureFilter.build filter.inherit
    (filter.includedSpecs.map (fun spec => .includeSpec (SpecRef.parse spec)) ++
      filter.excludedSpecs.map (fun spec => .excludeSpec (SpecRef.parse spec)) ++
      included ++ excluded ++
      filter.excludedGroups.map fun group => .excludeGroup (SpecRef.parse group))

/-- Without a filter every feature passes. -/
def describeOptional : Option Filter → Except DescriptionError FeatureFilter
  | some filter => filter.describe
  | none => .ok .passAll

end Filter

end Provisioning.Manifest
