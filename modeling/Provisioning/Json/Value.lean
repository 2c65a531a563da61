/-
This file defines JSON values.
-/

import Provisioning.Json.Number

namespace Provisioning

/-- An object lists its members in their order, and a name may come more than once. -/
inductive Json where
  | null
  | bool (value : Bool)
  | number (value : Json.Number)
  | string (text : String)
  | array (elements : List Json)
  | object (members : List (String × Json))
  /-- A value that is written correctly but that no text or number can hold. -/
  | unreadable

namespace Json

/-- The nesting of arrays and objects. -/
def depth : Json → Nat
  | array elements => depthAll elements + 1
  | object members => depthMembers members + 1
  | _ => 0
where
  depthAll : List Json → Nat
    | [] => 0
    | element :: rest => max element.depth (depthAll rest)
  depthMembers : List (String × Json) → Nat
    | [] => 0
    | member :: rest => max member.2.depth (depthMembers rest)

/-- Nothing in the value is unreadable. -/
def isReadable : Json → Bool
  | array elements => readableAll elements
  | object members => readableMembers members
  | unreadable => false
  | _ => true
where
  readableAll : List Json → Bool
    | [] => true
    | element :: rest => element.isReadable && readableAll rest
  readableMembers : List (String × Json) → Bool
    | [] => true
    | member :: rest => member.2.isReadable && readableMembers rest

end Json

end Provisioning
