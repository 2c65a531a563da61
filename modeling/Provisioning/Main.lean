/-
This file runs the command line on the disk of the system.
-/

import Provisioning.CommandLine.Run
import Std.Time.DateTime

namespace Provisioning.Host

/-- Relative paths start at the working directory. -/
def entry (path : String) : IO.FS.DirEntry := ⟨".", path⟩

def fault : IO.Error → Fault
  | .noFileOrDirectory .. => .notFound
  | .alreadyExists .. => .alreadyExists
  | _ => .other

/-- The faults of a call are part of its result. -/
def call {Result : Type} (action : IO Result) : IO (Except Fault Result) := do
  match ← action.toBaseIO with
  | .ok result => return .ok result
  | .error error => return .error (fault error)

def isFile (path : String) : IO Bool := do
  if path.isEmpty then
    return false
  else
    match ← (entry path).path.metadata.toBaseIO with
    | .ok metadata => return metadata.type == .file
    | .error _ => return false

def isLink (path : String) : IO Bool := do
  match ← (entry path).path.symlinkMetadata.toBaseIO with
  | .ok metadata => return metadata.type == .symlink
  | .error _ => return false

def isDirectory (path : String) : IO Bool := do
  if path.isEmpty then return false else (entry path).path.isDir

/-- The age of a file is that of its last change. -/
def names (path : String) : IO (List String) := do
  let aged ← (← (entry path).path.readDir).toList.mapM fun found => do
    let metadata ← found.path.symlinkMetadata
    return (metadata.modified, found.fileName)
  return (aged.mergeSort fun first second => compare first.1 second.1 != .gt).map Prod.snd

def read (path : String) : IO Contents := do
  return .ofBytes ((← IO.FS.readBinFile path).toList.map UInt8.toNat)

def createFile (path : String) : IO Unit := do
  let _ ← IO.FS.Handle.mk path .writeNew

/-- Written files are left to the system to keep. -/
def disk : Disk IO where
  isFile := isFile
  isDirectory := isDirectory
  isLink := isLink
  names path := call (names path)
  read path := call (read path)
  createDirectories path := call (if path.isEmpty then pure () else IO.FS.createDirAll path)
  createFile path := call (createFile path)
  write path text := call (IO.FS.writeFile path text)
  sync _ := return .ok ()
  rename source target := call (IO.FS.rename source target)
  remove path := call (IO.FS.removeFile path)

/-- These variables of the environment give settings. -/
def variableNames : List String :=
  ["FPM__REPOSITORY", "FPM__INSTALL_DIR", "FPM__LOGGING"] ++
    Logging.Settings.fieldNames.map fun name => s!"FPM__LOGGING__{name.toUpper}"

def environment : IO (List (String × String)) := do
  let values ← variableNames.mapM fun name => do
    return (← IO.getEnv name).map fun value => (name, value)
  return values.filterMap id

/-- Numbers are filled up with zeros in front. -/
def padded (width : Nat) (number : Nat) : String :=
  let digits := toString number
  String.ofList (List.replicate (width - digits.length) '0') ++ digits

def moment : IO Logging.Moment := do
  let timestamp ← Std.Time.Timestamp.now
  let wall := Std.Time.WallTime.ofTimestamp timestamp Std.Time.TimeZone.Offset.zero
  let now := Std.Time.PlainDateTime.ofWallTime wall
  return ⟨padded 4 now.year.toInt.toNat, padded 2 now.month.toNat, padded 2 now.day.toNat,
    padded 2 now.hour.toNat, padded 2 now.minute.toNat⟩

end Provisioning.Host

open Provisioning in
def main (arguments : List String) : IO UInt32 := do
  let tag := toString (← IO.rand 0 UInt32.size)
  let surroundings := ⟨← Host.environment, ← Host.moment, tag⟩
  let outcome ← CommandLine.run Host.disk surroundings arguments
  (← IO.getStdout).putStr outcome.output
  (← IO.getStderr).putStr outcome.errors
  return outcome.code.toUInt32
