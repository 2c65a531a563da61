/-
This file fills the places of a capability pattern with the values of parameters.
-/

import Provisioning.Feature.ListValue
import Provisioning.Feature.Spec

namespace Provisioning.Capability

/-- The values that a segment can take; nothing at all where a parameter has no value. -/
def segmentValues (spec : FeatureSpec) (params : OrderedMap String String) :
    Segment → Except DescriptionError (List String)
  | .literal text => .ok [text]
  | .param name =>
      match params.get? name with
      | none => .ok []
      | some value =>
          if (spec.param? name).any Parameter.isList then ListValue.parse value else .ok [value]

/-- A value follows what stands before it after a dot. -/
def appendValue (before : Option String) (value : String) : String :=
  match before with
  | none => value
  | some text => s!"{text}.{value}"

/-- Every text so far is continued with every value, and a segment without values ends it all. -/
def expandFrom (spec : FeatureSpec) (params : OrderedMap String String)
    (expanded : List (Option String)) :
    List Segment → Except DescriptionError (List (Option String))
  | [] => .ok expanded
  | segment :: rest => do
      let values ← segmentValues spec params segment
      if values.isEmpty then
        return []
      else
        expandFrom spec params
          (expanded.flatMap fun before => values.map fun value => some (appendValue before value))
          rest

/-- The concrete capabilities of a feature, with the leftmost segment varying slowest. -/
def expand (capability : Capability) (spec : FeatureSpec) (params : OrderedMap String String) :
    Except DescriptionError (List String) := do
  let expanded ← expandFrom spec params [none] capability.segments
  return expanded.map fun text => text.getD ""

end Provisioning.Capability
