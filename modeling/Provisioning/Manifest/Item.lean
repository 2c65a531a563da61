/-
This file reads the items of groups and configs from manifests.
-/

import Provisioning.Feature.Item
import Provisioning.Manifest.Filter

namespace Provisioning.Manifest

structure FeatureEntry where
  spec : String := ""
  origin : Option String := none
  params : OrderedMap String String := .empty
  parentRef : Option String := none

structure GroupEntry where
  group : String := ""
  origin : Option String := none
  filter : Option Filter := none

/-- The items below a feature are its children. -/
inductive Item where
  | feature (feature : FeatureEntry) (children : List Item)
  | group (group : GroupEntry)

/-- The children of a feature are read apart from its other fields. -/
def FeatureEntry.put (feature : FeatureEntry) (name : String) (value : Toml) :
    Read FeatureEntry :=
  match name with
  | "spec" => do return { feature with spec := ← text value }
  | "origin" => do return { feature with origin := some (← text value) }
  | "params" => do return { feature with params := ← textMap value }
  | "parent-ref" => do return { feature with parentRef := some (← text value) }
  | _ => .error .form

namespace GroupEntry

def put (group : GroupEntry) (name : String) (value : Toml) : Read GroupEntry :=
  match name with
  | "group" => do return { group with group := ← text value }
  | "origin" => do return { group with origin := some (← text value) }
  | "filter" => do return { group with filter := some (← Filter.read true value) }
  | _ => .error .form

def read (value : Toml) : Read GroupEntry :=
  Fields.read ⟨["group", "origin", "filter"], ["group"], 3, true⟩ put {} value

def describe (group : GroupEntry) : Except DescriptionError GroupConfig := do
  return ⟨⟨group.origin, group.group⟩, ← Filter.describeOptional group.filter⟩

end GroupEntry

namespace Item

mutual

/-- What does not read as a feature has to read as a group. -/
def read : Toml → Read Item
  | .table entries =>
      match readEntries {} [] entries with
      | .ok parts =>
          if (entries.map Prod.fst).contains "spec" then .ok (.feature parts.1 parts.2)
          else (GroupEntry.read (.table entries)).map .group
      | .error _ => (GroupEntry.read (.table entries)).map .group
  | .array elements =>
      match readElements {} [] ["spec", "origin", "params", "parent-ref", "items"] elements with
      | .ok parts =>
          if 4 ≤ elements.length then .ok (.feature parts.1 parts.2)
          else (GroupEntry.read (.array elements)).map .group
      | .error _ => (GroupEntry.read (.array elements)).map .group
  | _ => .error .form

/-- The fields of a feature in a table. -/
def readEntries (feature : FeatureEntry) (children : List Item) :
    List (String × Toml) → Read (FeatureEntry × List Item)
  | [] => .ok (feature, children)
  | entry :: rest =>
      if entry.1 == "items" then do
        readEntries feature (← readList entry.2) rest
      else do
        readEntries (← feature.put entry.1 entry.2) children rest

/-- The fields of a feature in an array, which has no more than the fields. -/
def readElements (feature : FeatureEntry) (children : List Item) :
    List String → List Toml → Read (FeatureEntry × List Item)
  | _, [] => .ok (feature, children)
  | [], _ :: _ => .error .form
  | name :: names, element :: rest =>
      if name == "items" then do
        readElements feature (← readList element) names rest
      else do
        readElements (← feature.put name element) children names rest

def readList : Toml → Read (List Item)
  | .array elements => readEach elements
  | _ => .error .form

def readEach : List Toml → Read (List Item)
  | [] => .ok []
  | element :: rest => do return (← read element) :: (← readEach rest)

end

/-- Children are described in their order. -/
def describe : Item → Except DescriptionError Provisioning.Item
  | feature entry children => do
      return .feature ⟨⟨entry.origin, entry.spec⟩, entry.params, entry.parentRef⟩
        (← describeEach children)
  | group entry => do return .group (← entry.describe)
where
  describeEach : List Item → Except DescriptionError (List Provisioning.Item)
    | [] => .ok []
    | item :: rest => do return (← item.describe) :: (← describeEach rest)

end Item

structure Group where
  name : String := ""
  items : List Item := []

namespace Group

def put (group : Group) (name : String) (value : Toml) : Read Group :=
  match name with
  | "name" => do return { group with name := ← text value }
  | "items" => do return { group with items := ← Item.readList value }
  | _ => .error .form

def read (value : Toml) : Read Group :=
  Fields.read ⟨["name", "items"], ["name"], 1, false⟩ put {} value

/-- Problems of the items are reported in the context of the group. -/
def describe (group : Group) : Except DescriptionError FeatureGroup := do
  let items ← inContext s!"in feature group {group.name}" (group.items.mapM Item.describe)
  FeatureGroup.build group.name items

end Group

end Provisioning.Manifest
