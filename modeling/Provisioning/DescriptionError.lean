/-
This file names what can be wrong with a description and words it.
-/

import Provisioning.Text.Blank

namespace Provisioning

/-- Descriptions fail in six ways. -/
inductive DescriptionError.Kind where
  /-- A text does not follow its format. -/
  | malformed
  /-- Something is defined twice. -/
  | duplicate
  /-- The same element is both included and excluded. -/
  | conflict
  /-- A required text is blank or a required part is absent. -/
  | missingAttribute
  /-- A reference points at something that is not declared. -/
  | invalidReference
  /-- A package depends on something that its feature-pack lacks. -/
  | unresolvedDependency
deriving DecidableEq, Repr

/-- A description is refused for one reason, in the context of at most one enclosing piece. -/
structure DescriptionError where
  kind : DescriptionError.Kind
  detail : String
  context : Option String
deriving DecidableEq, Repr

namespace DescriptionError

def malformed (detail : String) : DescriptionError := ⟨.malformed, detail, none⟩

def duplicate (detail : String) : DescriptionError := ⟨.duplicate, detail, none⟩

def conflict (detail : String) : DescriptionError := ⟨.conflict, detail, none⟩

def missing (detail : String) : DescriptionError := ⟨.missingAttribute, detail, none⟩

def invalidReference (detail : String) : DescriptionError := ⟨.invalidReference, detail, none⟩

def unresolved (detail : String) : DescriptionError := ⟨.unresolvedDependency, detail, none⟩

/-- The outermost context replaces the ones inside it. -/
def inContext (context : String) (error : DescriptionError) : DescriptionError :=
  { error with context := some context }

def Kind.title : Kind → String
  | malformed => "Malformed value"
  | duplicate => "Duplicate definition"
  | conflict => "Conflicting customization"
  | missingAttribute => "Missing attribute"
  | invalidReference => "Invalid reference"
  | unresolvedDependency => "Unresolved dependency"

def message (error : DescriptionError) : String :=
  let context := match error.context with
    | some context => s!" ({context})"
    | none => ""
  s!"{error.kind.title}{context}: {error.detail}"

end DescriptionError

/-- Whatever fails inside is reported in this context. -/
def inContext {Result : Type} (context : String) :
    Except DescriptionError Result → Except DescriptionError Result
  | .ok result => .ok result
  | .error error => .error (error.inContext context)

/-- A blank text is a missing attribute. -/
def blankProblem? (what value : String) : Option DescriptionError :=
  if Text.blank value then some (.missing s!"{what} cannot be empty") else none

theorem blankProblem?_eq_none_iff {what value : String} :
    blankProblem? what value = none ↔ Text.blank value = false := by
  simp [blankProblem?]

end Provisioning
