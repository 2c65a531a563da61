/-
This file loads feature-packs and descriptors from manifests.
-/

import Provisioning.Manifest.Descriptor
import Provisioning.Repository
import Provisioning.Storage.Disk
import Provisioning.Storage.Error
import Provisioning.Toml.Reader
import Provisioning.Version

namespace Provisioning

namespace Manifest

variable {Form Described : Type}

def ofText (read : Toml → Read Form) (path : Option String) (text : String) :
    Except StorageError Form :=
  match Toml.parse? text with
  | none => .error (.manifest path .form)
  | some value =>
      match read value with
      | .ok form => .ok form
      | .error refusal => .error (.manifest path refusal)

def described (path : Option String) :
    Except DescriptionError Described → Except StorageError Described
  | .ok described => .ok described
  | .error error => .error (.description path error)

/-- The feature-pack that a text describes. -/
def parseFeaturePack (text : String) : Except StorageError Provisioning.FeaturePack := do
  described none (← ofText FeaturePack.read none text).describe

/-- The request that a text describes. -/
def parseDescriptor (text : String) : Except StorageError Request := do
  described none (← ofText Descriptor.read none text).describe

variable {m : Type → Type} [Monad m]

def ofFile (disk : Disk m) (read : Toml → Read Form) (path : String) : Stored m Form := do
  let text ← atStep s!"Failed to read {path}" (disk.readText path)
  ofText read (some path) text

end Manifest

variable {m : Type → Type} [Monad m]

/-- A descriptor is read from its file. -/
def loadDescriptor (disk : Disk m) (path : String) : Stored m Request := do
  if !(← disk.isFile path) then
    throw (.fileNotFound "provisioning descriptor" path)
  let manifest ← Manifest.ofFile disk Manifest.Descriptor.read path
  Manifest.described (some path) manifest.describe

namespace Repository

/-- A file with this name describes a feature-pack. -/
def manifestName : String := "feature-pack.toml"

/-- No directory lies deeper, since no path is longer than 4096 bytes. -/
def deepest : Nat := 2048

/-- The files are read in turn, and none describes what an earlier one does. -/
def loadAll (disk : Disk m) (root : String) (sources : List (Gav × String)) :
    List (Except Fault String) → Stored m (List FeaturePack)
  | [] => return []
  | .error _ :: _ => throw (.walk root)
  | .ok path :: rest => do
      let manifest ← Manifest.ofFile disk Manifest.FeaturePack.read path
      match sources.find? fun source => source.1 == manifest.gav with
      | some source => throw (.duplicatePack manifest.gav source.2 path)
      | none =>
          let pack ← Manifest.described (some path) manifest.describe
          return pack :: (← loadAll disk root ((manifest.gav, path) :: sources) rest)

/-- The highest version of an artifact comes last and so is the current one. -/
def ofLoaded (packs : List FeaturePack) : Repository :=
  ofList (Version.sort (fun (pack : FeaturePack) => pack.gav.version) packs)

/-- Every manifest below a directory goes into the repository. -/
def load (disk : Disk m) (root : String) : Stored m Repository := do
  if !(← disk.isDirectory root) then
    throw (.directoryNotFound root)
  let found ← disk.find manifestName deepest root
  return ofLoaded (← loadAll disk root [] found)

end Repository

end Provisioning
