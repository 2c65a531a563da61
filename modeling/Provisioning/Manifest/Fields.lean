/-
This file reads the fields of records out of TOML values.
-/

import Provisioning.DescriptionError
import Provisioning.OrderedMap
import Provisioning.Toml.Value

namespace Provisioning.Manifest

/-- A manifest is refused for its form or for the coordinate of a feature-pack in it. -/
inductive Refusal where
  | form
  | coordinate (error : DescriptionError)
deriving DecidableEq, Repr

/-- What is wrong with the form is not spelled out. -/
def Refusal.message : Refusal → String
  | form => "<toml>"
  | coordinate error => error.message

/-- A manifest is read in its order and the first refusal counts. -/
abbrev Read := Except Refusal

def text : Toml → Read String
  | .string text => .ok text
  | _ => .error .form

def flag : Toml → Read Bool
  | .bool value => .ok value
  | _ => .error .form

def list {Element : Type} (element : Toml → Read Element) : Toml → Read (List Element)
  | .array elements => elements.mapM element
  | _ => .error .form

/-- A date counts as a table with this one key. -/
def datetimeKey : String := "$__toml_private_datetime"

def textMap : Toml → Read (OrderedMap String String)
  | .table entries => do
      let texts ← entries.mapM fun entry => do return (entry.1, ← text entry.2)
      return .ofList texts
  | .datetime text => .ok (.ofList [(datetimeKey, text)])
  | _ => .error .form

/-- The fields of a record, as a table and as an array give them. -/
structure Fields where
  /-- An array gives the fields in this order. -/
  names : List String
  /-- A table gives at least these fields. -/
  required : List String
  /-- An array gives at least this many fields. -/
  needed : Nat
  /-- An array gives no more than the fields. -/
  exact : Bool

/-- The parts of a value that may be the fields of a record. -/
inductive Parts (Value : Type) where
  | named (entries : List (String × Value))
  | placed (elements : List Value)
  | none

/-- Fields are put into a record one after the other, and every field has to be known. -/
def Fields.readParts {Record Value : Type} (fields : Fields)
    (put : Record → String → Value → Read Record) (record : Record) : Parts Value → Read Record
  | .named entries => do
      let record ← entries.foldlM (fun record entry => put record entry.1 entry.2) record
      if fields.required.all (entries.map Prod.fst).contains then return record
      else .error .form
  | .placed elements => do
      let record ← (fields.names.zip elements).foldlM
        (fun record entry => put record entry.1 entry.2) record
      if fields.needed ≤ elements.length &&
          (!fields.exact || elements.length ≤ fields.names.length) then
        return record
      else
        .error .form
  | .none => .error .form

/-- Tables name their parts and arrays place them. -/
def parts : Toml → Parts Toml
  | .table entries => .named entries
  | .array elements => .placed elements
  | _ => .none

def Fields.read {Record : Type} (fields : Fields) (put : Record → String → Toml → Read Record)
    (record : Record) (value : Toml) : Read Record :=
  fields.readParts put record (parts value)

end Provisioning.Manifest
