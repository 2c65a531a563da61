/-
This file reads the capability patterns that feature specs declare.
-/

import Provisioning.DescriptionError
import Provisioning.Text.Split

namespace Provisioning

/-- A segment is either itself or the place of a parameter's value. -/
inductive Capability.Segment where
  | literal (text : String)
  | param (name : String)
deriving DecidableEq, Repr

/-- A capability is provided or required under a dotted name with places for parameters. -/
structure Capability where
  pattern : String
  segments : List Capability.Segment
  optional : Bool
deriving DecidableEq, Repr

namespace Capability

/-- A segment that starts with a dollar sign names a parameter. -/
def readSegment (pattern : String) : List Char → Except DescriptionError Segment
  | [] => .error (.malformed s!"Capability '{pattern}' contains an empty segment")
  | ['$'] => .error (.malformed s!"Capability '{pattern}' contains a '$' without a parameter name")
  | '$' :: name => .ok (.param (String.ofList name))
  | literal => .ok (.literal (String.ofList literal))

def readSegments (pattern : String) : List (List Char) → Except DescriptionError (List Segment)
  | [] => .ok []
  | piece :: rest => do
      let segment ← readSegment pattern piece
      return segment :: (← readSegments pattern rest)

def parse (pattern : String) (optional : Bool) : Except DescriptionError Capability :=
  let trimmed := Text.trim pattern
  if trimmed.isEmpty then
    .error (.malformed "Capability pattern is empty")
  else do
    return ⟨trimmed, ← readSegments trimmed (Text.piecesOf '.' trimmed.toList), optional⟩

def Segment.text : Segment → String
  | literal text => text
  | param name => s!"${name}"

/-- The parameters that the pattern names, in its order. -/
def params (capability : Capability) : List String :=
  capability.segments.filterMap fun
    | .param name => some name
    | .literal _ => none

/-- A parameter is named by a capability when it has a place in its pattern. -/
@[simp] theorem mem_params_iff {capability : Capability} {name : String} :
    name ∈ capability.params ↔ .param name ∈ capability.segments := by
  rw [params, List.mem_filterMap]
  constructor
  · intro picked
    obtain ⟨segment, listed, isName⟩ := picked
    cases segment with
    | literal text => cases isName
    | param other =>
        cases isName
        exact listed
  · intro listed
    exact ⟨.param name, listed, rfl⟩

/-- A static capability names no parameter. -/
def isStatic (capability : Capability) : Bool := capability.params.isEmpty

end Capability

end Provisioning
