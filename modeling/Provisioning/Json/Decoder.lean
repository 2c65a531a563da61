/-
This file reads the fields of records out of JSON values.
-/

import Provisioning.Json.Value
import Provisioning.OrderedMap

namespace Provisioning.Json

/-- Nesting beyond this many levels is refused where a value has to be kept. -/
def deepest : Nat := 127

/-- The member with a name, if it comes at most once. -/
def member? (members : List (String × Json)) (name : String) : Option (Option Json) :=
  match members.filter fun member => member.1 == name with
  | [] => some none
  | [member] => some (some member.2)
  | _ => none

/-- The members with the names, in the order of the names. -/
def membersNamed? (members : List (String × Json)) : List String → Option (List (Option Json))
  | [] => some []
  | name :: rest => do
      return (← member? members name) :: (← membersNamed? members rest)

/-- Missing places at the end are filled up. -/
def padTo : List String → List Json → List (Option Json)
  | [], _ => []
  | _ :: names, [] => none :: padTo names []
  | _ :: names, element :: rest => some element :: padTo names rest

/-- A plain record is an object whose other members do not matter, or an array of its fields. -/
def record? (names : List String) : Json → Option (List (Option Json))
  | object members => membersNamed? members names
  | array elements =>
      if elements.length ≤ names.length then some (padTo names elements) else none
  | _ => none

/-- An open record is an object, and whatever else it holds has to be fit to be kept. -/
def openRecord? (level : Nat) (names : List String) : Json → Option (List (Option Json))
  | object members =>
      if members.all fun member =>
          names.contains member.1 || (member.2.isReadable && level + member.2.depth ≤ deepest) then
        membersNamed? members names
      else
        none
  | _ => none

def text? : Json → Option String
  | string text => some text
  | _ => none

/-- An absent field and null both mean nothing. -/
def optionalText? : Option Json → Option (Option String)
  | none => some none
  | some null => some none
  | some (string text) => some (some text)
  | some _ => none

/-- A repeated name keeps its first place and its last value. -/
def textMap? : Json → Option (OrderedMap String String)
  | object members => do
      let entries ← members.mapM fun member => (text? member.2).map fun text => (member.1, text)
      return .ofList entries
  | _ => none

def elements? {Element : Type} (element? : Json → Option Element) : Json → Option (List Element)
  | array elements => elements.mapM element?
  | _ => none

/-- An absent field takes the default; a present one has to fit. -/
def orDefault {Field : Type} (default : Field) (field? : Json → Option Field) :
    Option Json → Option Field
  | none => some default
  | some value => field? value

end Provisioning.Json
