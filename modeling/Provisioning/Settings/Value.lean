/-
This file defines the values of settings.
-/

import Provisioning.Json.Value
import Provisioning.OrderedMap
import Provisioning.Toml.Value

namespace Provisioning

/-- Settings are values without the marks of the format that they are written in. -/
inductive Setting where
  | nothing
  | flag (value : Bool)
  | integer (value : Int)
  | float (value : Double)
  | text (text : String)
  | list (elements : List Setting)
  /-- A table lists its entries in their order, each key once. -/
  | table (entries : List (String × Setting))

namespace Setting

/-- Only integers of 64 bits are settings in TOML. -/
def ofInteger? (value : Int) : Option Setting :=
  if -Int.ofNat (Int64.size / 2) ≤ value && value < Int64.size / 2 then some (integer value)
  else none

/-- A number too large for a double is no setting, while infinity itself is one. -/
def ofLiteral? (literal : String) : Option Setting :=
  match Double.ofText? literal with
  | some (.infinite negative) =>
      if literal.endsWith "inf" then some (float (.infinite negative)) else none
  | some value => some (float value)
  | none => none

mutual

/-- The setting that a TOML value gives, where a date is a text. -/
def ofToml? : Toml → Option Setting
  | .string content => some (text content)
  | .integer value => ofInteger? value
  | .float literal => ofLiteral? literal
  | .bool value => some (flag value)
  | .datetime content => some (text content)
  | .array elements => (ofTomlElements? elements).map list
  | .table entries => (ofTomlEntries? entries).map table

def ofTomlElements? : List Toml → Option (List Setting)
  | [] => some []
  | element :: rest => do return (← ofToml? element) :: (← ofTomlElements? rest)

def ofTomlEntries? : List (String × Toml) → Option (List (String × Setting))
  | [] => some []
  | entry :: rest => do return (entry.1, ← ofToml? entry.2) :: (← ofTomlEntries? rest)

end

def ofNumber : Json.Number → Setting
  | .integer value => integer value
  | .float value => float value

mutual

/-- The setting that a JSON value gives; of members with one name the last one counts. -/
def ofJson? : Json → Option Setting
  | .null => some nothing
  | .bool value => some (flag value)
  | .number value => some (ofNumber value)
  | .string content => some (text content)
  | .array elements => (ofJsonElements? elements).map list
  | .object members => (ofJsonMembers? [] members).map table
  | .unreadable => none

def ofJsonElements? : List Json → Option (List Setting)
  | [] => some []
  | element :: rest => do return (← ofJson? element) :: (← ofJsonElements? rest)

def ofJsonMembers? (entries : List (String × Setting)) :
    List (String × Json) → Option (List (String × Setting))
  | [] => some entries
  | member :: rest => do
      ofJsonMembers? (OrderedMap.put member.1 (← ofJson? member.2) entries) rest

end

end Setting

end Provisioning
