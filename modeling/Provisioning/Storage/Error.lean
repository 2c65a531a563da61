/-
This file names what can go wrong with stored descriptions and states and words it.
-/

import Provisioning.Gav
import Provisioning.Manifest.Fields

namespace Provisioning

inductive StorageError where
  | directoryNotFound (path : String)
  | fileNotFound (what path : String)
  /-- Two files describe the same feature-pack. -/
  | duplicatePack (gav : Gav) (first second : String)
  /-- A call to the disk failed at some step. -/
  | disk (step : String)
  | walk (root : String)
  /-- A manifest comes from a file or stands for itself. -/
  | manifest (path : Option String) (refusal : Manifest.Refusal)
  | state (path : String)
  | description (path : Option String) (error : DescriptionError)
deriving DecidableEq, Repr

namespace StorageError

def inParentheses : Option String → String
  | some context => s!" ({context})"
  | none => ""

/-- The faults of the disk, of its directories and of state files are not spelled out. -/
def message : StorageError → String
  | directoryNotFound path => s!"Directory not found (feature-pack repository): {path}"
  | fileNotFound what path => s!"File not found ({what}): {path}"
  | duplicatePack gav first second =>
      s!"Duplicate feature-pack: {gav.text} is described by {first} and {second}"
  | disk step => s!"I/O failure ({step}): <io>"
  | walk root => s!"Directory walk failure (Failed to walk {root}): <walk>"
  | manifest path refusal =>
      s!"Malformed TOML document{inParentheses path}: {refusal.message}"
  | state path => s!"State file serialization failure ({path}): <json>"
  | description path error => s!"Invalid description{inParentheses path}: {error.message}"

/-- The text of every level, ending with that of an invalid description. -/
def messages (error : StorageError) : List String :=
  match error with
  | description _ source => [error.message, source.message]
  | _ => [error.message]

end StorageError

/-- A computation on a disk ends with the first error. -/
abbrev Stored (m : Type → Type) := ExceptT StorageError m

/-- A fault at a step ends the computation. -/
def atStep {m : Type → Type} [Monad m] {Result Fault : Type} (step : String)
    (call : m (Except Fault Result)) : Stored m Result := do
  match ← call with
  | .ok result => return result
  | .error _ => throw (.disk step)

end Provisioning
