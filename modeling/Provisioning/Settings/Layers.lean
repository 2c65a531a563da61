/-
This file lays settings over each other.
-/

import Provisioning.OrderedMap
import Provisioning.Settings.Path
import Provisioning.Settings.Value

namespace Provisioning.Layers

abbrev Entries := List (String × Setting)

/-- The entries of a table; anything else has none. -/
def entriesOf : Option Setting → Entries
  | some (.table entries) => entries
  | _ => []

/-- The elements of a list; anything else has none. -/
def elementsOf : Option Setting → List Setting
  | some (.list elements) => elements
  | _ => []

mutual

/-- Tables are laid over each other entry by entry, and any other value hides what is below. -/
def overlay (below : Option Setting) : Setting → Setting
  | .table entries => .table (overlayAll (entriesOf below) entries)
  | value => value

def overlayAll (below : Entries) : Entries → Entries
  | [] => below
  | entry :: rest =>
      overlayAll
        (OrderedMap.put entry.1 (overlay (OrderedMap.lookup entry.1 below) entry.2) below) rest

end

/-- A list is filled up with nothing until it has an element at the position, which is returned. -/
def fillUp (elements : List Setting) : Int → Nat × List Setting
  | .ofNat index =>
      (index, elements ++ List.replicate (index + 1 - elements.length) .nothing)
  | .negSucc index =>
      (elements.length - (index + 1),
        List.replicate (index + 1 - elements.length) .nothing ++ elements)

/-- A value is laid over what is at the end of the steps, and what is on the way gives way to tables
and lists. -/
def setAt (value : Setting) : List Step → Option Setting → Setting
  | [], below => overlay below value
  | .key name :: rest, below =>
      let entries := entriesOf below
      .table (OrderedMap.put name (setAt value rest (OrderedMap.lookup name entries)) entries)
  | .position position :: rest, below =>
      let (index, elements) := fillUp (elementsOf below) position
      .list (elements.set index (setAt value rest elements[index]?))

/-- An entry is laid over the entries at the path that its name gives. -/
def setEntry (below : Entries) (entry : String × Setting) : Entries :=
  let (name, steps) := Step.path entry.1
  OrderedMap.put name (setAt entry.2 steps (OrderedMap.lookup name below)) below

/-- The later entries are laid over the earlier ones. -/
def ofEntries (entries : Entries) : Entries := entries.foldl setEntry []

end Provisioning.Layers
