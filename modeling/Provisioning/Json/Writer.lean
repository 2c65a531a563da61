/-
This file writes JSON values on one line or indented.
-/

import Provisioning.Json.Value

namespace Provisioning.Json

def hexDigit (digit : Nat) : Char :=
  if digit < 10 then Char.ofNat (48 + digit) else Char.ofNat (87 + digit)

/-- Quotes, backslashes and control characters are escaped, with the short forms preferred. -/
def escapeChar (c : Char) : List Char :=
  match c with
  | '"' => ['\\', '"']
  | '\\' => ['\\', '\\']
  | '\n' => ['\\', 'n']
  | '\r' => ['\\', 'r']
  | '\t' => ['\\', 't']
  | c =>
      if c.toNat = 8 then ['\\', 'b']
      else if c.toNat = 12 then ['\\', 'f']
      else if c.toNat < 32 then
        ['\\', 'u', '0', '0', hexDigit (c.toNat / 16), hexDigit (c.toNat % 16)]
      else [c]

def quote (text : String) : String :=
  String.ofList ('"' :: text.toList.flatMap escapeChar ++ ['"'])

/-- The text of a value without any blanks. -/
def compact : Json → String
  | null => "null"
  | bool value => if value then "true" else "false"
  | number value => value.text
  | string text => quote text
  | array elements => "[" ++ ",".intercalate (compactAll elements) ++ "]"
  | object members => "\x7b" ++ ",".intercalate (compactMembers members) ++ "\x7d"
  | unreadable => "null"
where
  compactAll : List Json → List String
    | [] => []
    | element :: rest => element.compact :: compactAll rest
  compactMembers : List (String × Json) → List String
    | [] => []
    | (name, value) :: rest => (quote name ++ ":" ++ value.compact) :: compactMembers rest

/-- A new line is indented by two blanks for each level. -/
def newLine (level : Nat) : String := String.ofList ('\n' :: List.replicate (2 * level) ' ')

/-- Brackets around nothing stay together. -/
def enclose (opening closing : String) (level : Nat) : List String → String
  | [] => opening ++ closing
  | lines =>
      opening ++ newLine (level + 1) ++ ("," ++ newLine (level + 1)).intercalate lines ++
        newLine level ++ closing

/-- The text of a value with each element and member on a line of its own. -/
def indented (level : Nat) : Json → String
  | array elements => enclose "[" "]" level (indentedAll (level + 1) elements)
  | object members => enclose "\x7b" "\x7d" level (indentedMembers (level + 1) members)
  | scalar => scalar.compact
where
  indentedAll (level : Nat) : List Json → List String
    | [] => []
    | element :: rest => element.indented level :: indentedAll level rest
  indentedMembers (level : Nat) : List (String × Json) → List String
    | [] => []
    | (name, value) :: rest =>
        (quote name ++ ": " ++ value.indented level) :: indentedMembers level rest

end Provisioning.Json
