/-
This file reads the values of list parameters.
-/

import Provisioning.DescriptionError
import Provisioning.Text.Split

namespace Provisioning.ListValue

/-- The text between an opening and a closing bracket that are two characters. -/
def betweenBrackets? : List Char → Option (List Char)
  | '[' :: rest =>
      match rest.reverse with
      | ']' :: inner => some inner.reverse
      | _ => none
  | _ => none

/-- Elements are trimmed and none may be empty. -/
def elements (value : String) : List (List Char) → Except DescriptionError (List String)
  | [] => .ok []
  | piece :: rest =>
      match Text.trimChars piece with
      | [] => .error (.malformed s!"List value '{value}' contains an empty element")
      | element => do
          return String.ofList element :: (← elements value rest)

/-- A list is written in brackets with commas between its elements. -/
def parse (value : String) : Except DescriptionError (List String) :=
  match betweenBrackets? (Text.trimChars value.toList) with
  | none => .error (.malformed s!"List value '{value}' must be enclosed in brackets")
  | some inner =>
      if inner.all Text.isBlank then .ok [] else elements value (Text.piecesOf ',' inner)

end Provisioning.ListValue
