/-
This file sets log output up.
-/

import Provisioning.Logging.Settings
import Provisioning.Storage.Disk
import Provisioning.Text.Blank

namespace Provisioning.Logging

/-- A moment, by the digits of its parts. -/
structure Moment where
  year : String
  month : String
  day : String
  hour : String
  minute : String

/-- Files that follow each other have the moment of their start in their names. -/
def Rotation.stamp? (moment : Moment) : Rotation → Option String
  | .minutely =>
      some (Text.join "-" [moment.year, moment.month, moment.day, moment.hour, moment.minute])
  | .hourly => some (Text.join "-" [moment.year, moment.month, moment.day, moment.hour])
  | .daily => some (Text.join "-" [moment.year, moment.month, moment.day])
  | .never => none

/-- Log files are named for the program. -/
def fileName (program : String) (rotation : Rotation) (moment : Moment) : String :=
  Text.join "." (program :: (rotation.stamp? moment).toList ++ ["log"])

/-- Names of this form are taken for those of log files. -/
def isLogName (program name : String) : Bool := name.startsWith program && name.endsWith "log"

variable {m : Type → Type} [Monad m]

/-- The oldest log files are removed until there is room for one more. -/
def prune (disk : Disk m) (directory program : String) (maxFiles : Nat) : m Unit := do
  match ← disk.names directory with
  | .error _ => return ()
  | .ok names =>
      let paths := (names.filter (isLogName program)).map (Path.join directory)
      let files ← paths.filterM fun path => do
        return (← disk.isFile path) && !(← disk.isLink path)
      (files.take (files.length + 1 - maxFiles)).forM fun path => do
        let _ ← disk.remove path

/-- A log file that is there already is kept, and a missing directory is created. -/
def openFile (disk : Disk m) (path : String) : ExceptT SetupError m Unit := do
  if !(← disk.isFile path) then
    if let .error _ ← disk.createFile path then
      if let .error _ ← disk.createDirectories ((Path.parent? path).getD "") then
        throw .fileDirectory
      if let .error _ ← disk.createFile path then throw .file

/-- The outcome says whether there is a log file; a logger may have been set up before. -/
def setUp (disk : Disk m) (isSet : Bool) (moment : Moment) (program : String)
    (settings : Settings) : ExceptT SetupError m Bool := do
  if Text.blank program then
    throw (.configuration "Logger name cannot be empty")
  let _ ← settings.check
  if let some directory := settings.directory then
    if let .error _ ← disk.createDirectories directory then throw (.directory directory)
    ExceptT.lift (prune disk directory program settings.maxFiles)
    openFile disk (Path.join directory (fileName program settings.rotation moment))
  if isSet then
    throw .alreadySet
  return settings.directory.isSome

end Provisioning.Logging
