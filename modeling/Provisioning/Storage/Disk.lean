/-
This file says what a disk does and finds files on it.
-/

import Provisioning.Storage.Contents
import Provisioning.Storage.Path

namespace Provisioning

/-- Calls to a disk fail for many reasons, of which only some make a difference. -/
inductive Fault where
  | notFound
  | alreadyExists
  | other
deriving DecidableEq, Repr

/-- A disk answers calls in the course of a computation. -/
structure Disk (m : Type → Type) where
  isFile : String → m Bool
  isDirectory : String → m Bool
  /-- The path only points at another one. -/
  isLink : String → m Bool
  /-- The names in a directory, the oldest first. -/
  names : String → m (Except Fault (List String))
  read : String → m (Except Fault Contents)
  /-- Missing directories are created along the path. -/
  createDirectories : String → m (Except Fault Unit)
  /-- An empty file is created where there is none. -/
  createFile : String → m (Except Fault Unit)
  /-- A file gets a text. -/
  write : String → String → m (Except Fault Unit)
  /-- What has been written is made to last. -/
  sync : String → m (Except Fault Unit)
  /-- A file takes another path, and the place of the file that was there. -/
  rename : String → String → m (Except Fault Unit)
  remove : String → m (Except Fault Unit)

namespace Disk

variable {m : Type → Type} [Monad m]

/-- The text of a file that is well-formed as a whole. -/
def readText (disk : Disk m) (path : String) : m (Except Fault String) := do
  match ← disk.read path with
  | .error fault => return .error fault
  | .ok contents => return if contents.isIntact then .ok contents.text else .error .other

/-- The paths of the files with a name, directory by directory in the order of names. Links are
not followed, a directory that cannot be listed comes as its fault, and the number bounds the
nesting. -/
def find (disk : Disk m) (name : String) : Nat → String → m (List (Except Fault String))
  | 0, _ => return []
  | depth + 1, directory => do
      match ← disk.names directory with
      | .error fault => return [.error fault]
      | .ok names =>
          let nested ← (names.mergeSort fun first second => first ≤ second).mapM fun entry => do
            let path := Path.join directory entry
            if ← disk.isLink path then
              return []
            else if ← disk.isDirectory path then
              disk.find name depth path
            else if entry == name && (← disk.isFile path) then
              return [.ok path]
            else
              return []
          return nested.flatten

end Disk

end Provisioning
