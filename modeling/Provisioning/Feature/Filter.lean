/-
This file defines filters on the features that a group or a config brings in.
-/

import Provisioning.Checks
import Provisioning.Feature.Id

namespace Provisioning

/-- The name of a spec or a group may be qualified by a dependency alias. -/
structure SpecRef where
  origin : Option String
  name : String
deriving DecidableEq, Repr

def SpecRef.text (reference : SpecRef) : String :=
  match reference.origin with
  | some origin => s!"{origin}#{reference.name}"
  | none => reference.name

/-- Whatever stands before the first hash sign is an alias. -/
def SpecRef.parse (text : String) : SpecRef :=
  match Text.cut? '#' text with
  | some (origin, name) => ⟨some origin, name⟩
  | none => ⟨none, text⟩

/-- A feature id may be qualified by a dependency alias. -/
structure FeatureRef where
  origin : Option String
  id : FeatureId
deriving DecidableEq, Repr

namespace FeatureRef

def text (reference : FeatureRef) : String :=
  match reference.origin with
  | some origin => s!"{origin}#{reference.id.text}"
  | none => reference.id.text

/-- Whatever stands before the first hash sign is an alias. -/
def parse (text : String) : Except DescriptionError FeatureRef :=
  match Text.cut? '#' text with
  | some (origin, id) => (FeatureId.parse id).map fun id => ⟨some origin, id⟩
  | none => (FeatureId.parse text).map fun id => ⟨none, id⟩

/-- The order of the id parameters does not matter. -/
def same (first second : FeatureRef) : Bool :=
  first.origin == second.origin && first.id.same second.id

end FeatureRef

/-- An included feature may override parameters. -/
structure IncludedFeature where
  feature : FeatureRef
  overrides : OrderedMap String String
deriving DecidableEq, Repr

inductive FeatureFilter.Rule where
  | includeSpec (spec : SpecRef)
  | excludeSpec (spec : SpecRef)
  | includeFeature (included : IncludedFeature)
  | excludeFeature (feature : FeatureRef)
  /-- Nested references to the group are skipped anywhere below the filter. -/
  | excludeGroup (group : SpecRef)
deriving DecidableEq, Repr

/-- A feature that no rule names passes exactly when the filter inherits. -/
structure FeatureFilter where
  inherit : Bool
  rules : List FeatureFilter.Rule
deriving DecidableEq, Repr

namespace FeatureFilter

/-- This filter lets every feature pass unchanged. -/
def passAll : FeatureFilter := ⟨true, []⟩

def includedSpecs (filter : FeatureFilter) : List SpecRef :=
  filter.rules.filterMap fun
    | .includeSpec spec => some spec
    | _ => none

def excludedSpecs (filter : FeatureFilter) : List SpecRef :=
  filter.rules.filterMap fun
    | .excludeSpec spec => some spec
    | _ => none

def includedFeatures (filter : FeatureFilter) : List IncludedFeature :=
  filter.rules.filterMap fun
    | .includeFeature included => some included
    | _ => none

def excludedFeatures (filter : FeatureFilter) : List FeatureRef :=
  filter.rules.filterMap fun
    | .excludeFeature feature => some feature
    | _ => none

def excludedGroups (filter : FeatureFilter) : List SpecRef :=
  filter.rules.filterMap fun
    | .excludeGroup group => some group
    | _ => none

/-- A filter without rules that inherits changes nothing. -/
def isPassThrough (filter : FeatureFilter) : Bool :=
  filter.inherit && filter.rules.isEmpty

/-- Two rules say the same when they include or exclude the same thing. -/
def Rule.repeats : Rule → Rule → Bool
  | includeSpec first, includeSpec second => first == second
  | excludeSpec first, excludeSpec second => first == second
  | includeFeature first, includeFeature second => first.feature.same second.feature
  | excludeFeature first, excludeFeature second => first.same second
  | excludeGroup first, excludeGroup second => first == second
  | _, _ => false

def Rule.twiceText : Rule → String
  | includeSpec spec => s!"spec {spec.text} is included twice"
  | excludeSpec spec => s!"spec {spec.text} is excluded twice"
  | includeFeature included => s!"feature {included.feature.text} is included twice"
  | excludeFeature feature => s!"feature {feature.text} is excluded twice"
  | excludeGroup group => s!"group {group.text} is excluded twice"

def repeatProblem? (earlier : List Rule) (rule : Rule) : Option DescriptionError :=
  if earlier.any rule.repeats then some (.duplicate rule.twiceText) else none

/-- Nothing is both included and excluded. -/
def conflict? (filter : FeatureFilter) : Option DescriptionError :=
  match filter.includedSpecs.find? fun spec => filter.excludedSpecs.contains spec with
  | some spec => some (.conflict s!"Spec {spec.text} has been both included and excluded")
  | none =>
      match filter.includedFeatures.find? fun included =>
          filter.excludedFeatures.any included.feature.same with
      | some included =>
          some (.conflict s!"Feature {included.feature.text} has been both included and excluded")
      | none => none

def build (inherit : Bool) (rules : List Rule) : Except DescriptionError FeatureFilter :=
  match (Checks.first repeatProblem? rules).or (conflict? ⟨inherit, rules⟩) with
  | some problem => .error problem
  | none => .ok ⟨inherit, rules⟩

end FeatureFilter

end Provisioning
