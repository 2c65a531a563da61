/-
This file defines the identity of a feature inside its spec's namespace.
-/

import Provisioning.DescriptionError
import Provisioning.OrderedMap
import Provisioning.Text.Split

namespace Provisioning

/-- The values that tell one feature of a spec from another, by parameter name. -/
abbrev IdParams := OrderedMap String String

namespace IdParams

/-- Each parameter is written as its name and value, in the order of the map. -/
def text (params : IdParams) : String :=
  Text.join "," (params.entries.map fun entry => s!"{entry.1}={entry.2}")

/-- Pairs are ordered by name, then by value. -/
def pairLe (first second : String × String) : Bool :=
  if first.1 = second.1 then first.2 ≤ second.2 else first.1 ≤ second.1

/-- Sorting forgets the order in which the parameters were given. -/
def sorted (params : IdParams) : List (String × String) :=
  params.entries.mergeSort pairLe

end IdParams

/-- A feature is identified by the name of its spec and the values of its id parameters. -/
structure FeatureId where
  spec : String
  params : IdParams
deriving DecidableEq, Repr

namespace FeatureId

/-- The spec has a name and there is at least one id parameter. -/
def new (spec : String) (params : IdParams) : Except DescriptionError FeatureId :=
  if Text.blank spec then
    .error (.malformed "Feature spec name is missing")
  else if params.isEmpty then
    .error (.malformed s!"ID parameters are missing for spec {spec}")
  else
    .ok ⟨spec, params⟩

def param? (id : FeatureId) (name : String) : Option String := id.params.get? name

def text (id : FeatureId) : String := s!"{id.spec}:{id.params.text}"

/-- The order of the parameters does not matter for identity. -/
def same (first second : FeatureId) : Bool :=
  first.spec == second.spec && first.params.agrees second.params

/-- Identical features have the same key. -/
def key (id : FeatureId) : String × List (String × String) :=
  (id.spec, id.params.sorted)

def formatText : String :=
  "The string does not follow format spec_name:param_name=value(,param_name=value)*"

def malformedIn (text : String) : DescriptionError :=
  (DescriptionError.malformed formatText).inContext text

/-- Pairs are read from left to right and no name may come twice. -/
def readPairs (text : String) (params : IdParams) : List String → Except DescriptionError IdParams
  | [] => .ok params
  | pair :: rest =>
      match Text.cut? '=' pair with
      | none => .error (malformedIn text)
      | some (name, value) =>
          if name.isEmpty then
            .error (malformedIn text)
          else if params.contains name then
            .error ((DescriptionError.duplicate s!"ID parameter '{name}'").inContext text)
          else
            readPairs text (params.insert name value) rest

def parse (text : String) : Except DescriptionError FeatureId :=
  match Text.cut? ':' text with
  | none => .error (malformedIn text)
  | some (spec, rest) =>
      if spec.isEmpty then
        .error (malformedIn text)
      else if rest.isEmpty then
        .error (.malformed s!"ID parameters are missing in '{text}'")
      else do
        new spec (← readPairs text .empty (Text.pieces ',' rest))

end FeatureId

end Provisioning
