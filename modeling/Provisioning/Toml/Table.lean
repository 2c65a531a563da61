/-
This file builds nested tables from dotted keys and table headers.
-/

import Provisioning.OrderedMap
import Provisioning.Toml.Value

namespace Provisioning.Toml

/-- A dotted key passes through parent tables. -/
structure Key where
  parents : List String
  name : String

/-- What brought a table into being decides what may still be added to it. -/
inductive TableOrigin where
  /-- The table has a header of its own. -/
  | header
  /-- The table is passed through by a header. -/
  | path
  /-- The table is passed through by a dotted key, whatever passed through it before. -/
  | dotted
deriving DecidableEq

/-- Values are closed, while tables and arrays of tables still grow. -/
inductive Node where
  | closed (value : Toml)
  | table (origin : TableOrigin) (entries : List (String × Node))
  /-- Headers and dotted keys pass through the last table of an array. -/
  | tables (elements : List (List (String × Node)))

abbrev Entries := List (String × Node)

namespace Node

/-- Nothing more is added. -/
def close : Node → Toml
  | closed value => value
  | table _ entries => Toml.table (closeEntries entries)
  | tables elements => array (closeElements elements)
where
  closeEntries : Entries → List (String × Toml)
    | [] => []
    | entry :: rest => (entry.1, entry.2.close) :: closeEntries rest
  closeElements : List Entries → List Toml
    | [] => []
    | element :: rest => Toml.table (closeEntries element) :: closeElements rest

end Node

/-- A change is made to the table at the end of a path, and missing tables arise on the way. -/
def changeAt (dotted : Bool) (change : TableOrigin → Entries → Option Entries) :
    List String → TableOrigin → Entries → Option Entries
  | [], origin, entries => change origin entries
  | key :: path, _, entries =>
      match OrderedMap.lookup key entries with
      | none =>
          let origin := if dotted then .dotted else .path
          (changeAt dotted change path origin []).map fun inner =>
            OrderedMap.put key (.table origin inner) entries
      | some (.table origin inner) =>
          if dotted && origin == .header then
            none
          else
            let origin := if dotted then .dotted else origin
            (changeAt dotted change path origin inner).map fun inner =>
              OrderedMap.put key (.table origin inner) entries
      | some (.tables elements) =>
          match elements.getLast? with
          | none => none
          | some last =>
              (changeAt dotted change path .header last).map fun last =>
                OrderedMap.put key (.tables (elements.dropLast ++ [last])) entries
      | some (.closed _) => none

/-- A dotted key adds to no table that has a header of its own. -/
def assign (key : Key) (value : Toml) (entries : Entries) : Option Entries :=
  let dotted := !key.parents.isEmpty
  let change := fun (origin : TableOrigin) (entries : Entries) =>
    if (origin == .dotted) != dotted then
      none
    else
      match OrderedMap.lookup key.name entries with
      | some _ => none
      | none => some (OrderedMap.put key.name (.closed value) entries)
  changeAt dotted change key.parents .header entries

def assignAll (assignments : List (Key × Toml)) (entries : Entries) : Option Entries :=
  assignments.foldlM (fun entries assignment => assign assignment.1 assignment.2 entries) entries

/-- A section is a header with the assignments below it. -/
structure Section where
  key : Key
  /-- The section is the next table of an array. -/
  isElement : Bool
  assignments : List (Key × Toml)

/-- A table has one header, and earlier headers may have passed through it. -/
def addTable (part : Section) (entries : Entries) : Option Entries :=
  let fill := fun entries inner =>
    (assignAll part.assignments inner).map fun inner =>
      OrderedMap.put part.key.name (.table .header inner) entries
  match OrderedMap.lookup part.key.name entries with
  | none => fill entries []
  | some (.table .path inner) => fill (entries.filter fun entry => entry.1 != part.key.name) inner
  | some _ => none

def addElement (part : Section) (entries : Entries) : Option Entries :=
  let fill := fun elements =>
    (assignAll part.assignments []).map fun element =>
      OrderedMap.put part.key.name (.tables (elements ++ [element])) entries
  match OrderedMap.lookup part.key.name entries with
  | none => fill []
  | some (.tables elements) => fill elements
  | some _ => none

def addSection (entries : Entries) (part : Section) : Option Entries :=
  let add := if part.isElement then addElement part else addTable part
  changeAt false (fun _ => add) part.key.parents .header entries

/-- The table that assignments make, if no key is assigned twice. -/
def ofAssignments? (assignments : List (Key × Toml)) : Option Toml :=
  (assignAll assignments []).map fun entries => (Node.table .header entries).close

/-- A document starts with assignments and goes on with sections. -/
def ofSections? (assignments : List (Key × Toml)) (sections : List Section) : Option Toml := do
  let entries ← assignAll assignments []
  let entries ← sections.foldlM addSection entries
  return (Node.table .header entries).close

end Provisioning.Toml
