/-
This file keeps provisioned states in files.
-/

import Provisioning.Json.State
import Provisioning.Storage.Disk
import Provisioning.Storage.Error

namespace Provisioning.StateFile

/-- The state of an installation is kept below its directory. -/
def ofInstallation (directory : String) : String :=
  Path.join (Path.join directory ".fpm") "provisioned.json"

variable {m : Type → Type} [Monad m]

def read (disk : Disk m) (path : String) : Stored m ProvisionedState := do
  if !(← disk.isFile path) then
    throw (.fileNotFound "provisioned state" path)
  let text ← atStep s!"Failed to read {path}" (disk.readText path)
  match ProvisionedState.ofText? text with
  | some state => return state
  | none => throw (.state path)

/-- A temporary file stands next to its target, and a tag makes its name unique. -/
def temporary (tag path : String) : String :=
  let name := (Path.fileName? path).getD "provisioned.json"
  Path.sibling path s!"{name}.fpmtmp.{tag}"

def writeTemporary (disk : Disk m) (path text : String) : Stored m Unit := do
  atStep s!"Temp creation failed: {path}" (disk.createFile path)
  atStep "Write failed" (disk.write path text)
  atStep "Sync failed" (disk.sync path)

/-- Where a rename does not replace the target, the target is removed first. -/
def swap (disk : Disk m) (source target : String) : Stored m Unit := do
  let step := s!"Atomic swap failed: {source} -> {target}"
  match ← disk.rename source target with
  | .ok _ => return ()
  | .error .alreadyExists =>
      atStep s!"Failed to replace existing file: {target}" (disk.remove target)
      atStep step (disk.rename source target)
  | .error _ => throw (.disk step)

/-- The text is written to a temporary file, which then takes the place of the target. -/
def fill (disk : Disk m) (source target text : String) : Stored m Unit := do
  writeTemporary disk source text
  swap disk source target

/-- A temporary file that did not take the place of the target is removed. -/
def replace (disk : Disk m) (tag path text : String) : Stored m Unit :=
  let source := temporary tag path
  ExceptT.mk do
    match ← (fill disk source path text).run with
    | .ok _ => return .ok ()
    | .error error =>
        let _ ← disk.remove source
        return .error error

def write (disk : Disk m) (tag path : String) (state : ProvisionedState) : Stored m Unit := do
  match Path.parent? path with
  | some directory =>
      atStep s!"Failed to create {directory}" (disk.createDirectories directory)
  | none => pure ()
  replace disk tag path state.toFileText

end Provisioning.StateFile
