/-
This file defines a disk that is held in memory.
-/

import Provisioning.OrderedMap
import Provisioning.Storage.Disk

namespace Provisioning

/-- A place is reached by names from the working directory, from a directory above it, or from the
root under its own name. -/
abbrev Place := List String

inductive Memory.Node where
  | directory
  | file (contents : Contents)
deriving DecidableEq, Repr

/-- A memory disk knows what is where, the oldest first. The working directory, the directories
above it and the root need no entry. -/
structure Memory where
  nodes : OrderedMap Place Memory.Node

namespace Memory

def empty : Memory := ⟨.empty⟩

def root : Place := ["/"]

/-- The working directory and the directories above it. -/
def isAtOrAbove (place : Place) : Bool := place.all (· == "..")

def isDirectoryAt (memory : Memory) (place : Place) : Bool :=
  isAtOrAbove place || place == root || memory.nodes.get? place == some .directory

/-- The directory above a directory; the root has none but itself. -/
def above (place : Place) : Place :=
  if place == root then root else if isAtOrAbove place then place ++ [".."] else place.dropLast

/-- Names have this many bytes at most. -/
def longestName : Nat := 255

/-- Paths have this many bytes at most. -/
def longestPath : Nat := 4095

/-- A name leads on from a directory only. -/
def step (memory : Memory) (place : Place) (name : String) : Option Place :=
  if !memory.isDirectoryAt place || longestName < name.utf8ByteSize then
    none
  else if Path.isIdle name then
    some place
  else if name == ".." then
    some (above place)
  else
    some (place ++ [name])

/-- No path is empty, too long or holds a null character. -/
def isPath (path : String) : Bool :=
  !path.isEmpty && path.utf8ByteSize ≤ longestPath && !path.toList.contains (Char.ofNat 0)

/-- A path from the root starts with an empty name. -/
def start : List String → Place × List String
  | "" :: names => (root, names)
  | names => ([], names)

/-- The place at the end of a path, whether or not anything is there. -/
def place? (memory : Memory) (path : String) : Option Place :=
  if isPath path then
    let (place, names) := start (Text.pieces '/' path)
    names.foldlM memory.step place
  else
    none

def contents? (memory : Memory) (path : String) : Option Contents :=
  (memory.place? path).bind fun place =>
    match memory.nodes.get? place with
    | some (.file contents) => some contents
    | _ => none

def isFile (memory : Memory) (path : String) : Bool := (memory.contents? path).isSome

def isDirectory (memory : Memory) (path : String) : Bool :=
  (memory.place? path).any memory.isDirectoryAt

/-- The names right below a directory. -/
def names (memory : Memory) (path : String) : Except Fault (List String) :=
  match memory.place? path with
  | none => .error .notFound
  | some place =>
      if memory.isDirectoryAt place then
        .ok (memory.nodes.keys.filterMap fun other =>
          if other.dropLast == place && other != root then other.getLast? else none)
      else
        .error .other

def read (memory : Memory) (path : String) : Except Fault Contents :=
  match memory.contents? path with
  | some contents => .ok contents
  | none => .error .notFound

/-- Whatever was at the place is replaced. -/
def set (memory : Memory) (place : Place) (node : Node) : Memory :=
  ⟨memory.nodes.insert place node⟩

/-- Directories arise along the names as long as no file is in the way. -/
def makeDirectories (memory : Memory) (place : Place) :
    List String → Except Fault Unit × Memory
  | [] => (if memory.isDirectoryAt place then .ok () else .error .alreadyExists, memory)
  | name :: names =>
      match memory.step place name with
      | none => (.error .other, memory)
      | some next =>
          let memory :=
            if memory.isDirectoryAt next || (memory.nodes.get? next).isSome then memory
            else memory.set next .directory
          memory.makeDirectories next names

def createDirectories (memory : Memory) (path : String) : Except Fault Unit × Memory :=
  if path.isEmpty then
    (.ok (), memory)
  else if isPath path then
    let (place, names) := start (Text.pieces '/' path)
    memory.makeDirectories place names
  else
    (.error .other, memory)

def createFile (memory : Memory) (path : String) : Except Fault Unit × Memory :=
  match memory.place? path with
  | none => (.error .notFound, memory)
  | some place =>
      if memory.isDirectoryAt place || (memory.nodes.get? place).isSome then
        (.error .alreadyExists, memory)
      else
        (.ok (), memory.set place (.file (.ofText "")))

def write (memory : Memory) (path text : String) : Except Fault Unit × Memory :=
  match memory.place? path with
  | none => (.error .notFound, memory)
  | some place =>
      match memory.nodes.get? place with
      | some (.file _) => (.ok (), memory.set place (.file (.ofText text)))
      | _ => (.error .other, memory)

def remove (memory : Memory) (path : String) : Except Fault Unit × Memory :=
  match memory.place? path with
  | none => (.error .notFound, memory)
  | some place =>
      match memory.nodes.get? place with
      | some (.file _) => (.ok (), ⟨memory.nodes.erase place⟩)
      | _ => (.error .other, memory)

/-- A directory is never replaced by a file. -/
def rename (memory : Memory) (source target : String) : Except Fault Unit × Memory :=
  match memory.place? source, memory.place? target with
  | some source, some target =>
      match memory.nodes.get? source with
      | some (.file contents) =>
          if memory.isDirectoryAt target then
            (.error .other, memory)
          else
            (.ok (), (Memory.mk (memory.nodes.erase source)).set target (.file contents))
      | _ => (.error .notFound, memory)
  | _, _ => (.error .notFound, memory)

/-- What is synced is in memory anyway. -/
def sync (memory : Memory) (path : String) : Except Fault Unit :=
  if memory.isFile path then .ok () else .error .notFound

/-- The calls read and change the memory in turn, and there are no links in it. -/
def disk : Disk (StateM Memory) where
  isFile path := fun memory => (memory.isFile path, memory)
  isDirectory path := fun memory => (memory.isDirectory path, memory)
  isLink _ := fun memory => (false, memory)
  names path := fun memory => (memory.names path, memory)
  read path := fun memory => (memory.read path, memory)
  createDirectories path := fun memory => memory.createDirectories path
  createFile path := fun memory => memory.createFile path
  write path text := fun memory => memory.write path text
  sync path := fun memory => (memory.sync path, memory)
  rename source target := fun memory => memory.rename source target
  remove path := fun memory => memory.remove path

/-- A file is put at a path together with the directories that lead there. -/
def put (memory : Memory) (path : String) (contents : Contents) : Memory :=
  let memory := (memory.createDirectories ((Path.parent? path).getD "")).2
  match memory.place? path with
  | some place => if memory.isDirectoryAt place then memory else memory.set place (.file contents)
  | none => memory

end Memory

end Provisioning
