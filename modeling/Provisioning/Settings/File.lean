/-
This file finds and reads the files of settings.
-/

import Provisioning.Settings.Format
import Provisioning.Storage.Disk

namespace Provisioning.SettingsFile

/-- The path with an ending for a format behind it. -/
def extended (path extension : String) : String :=
  if (Path.extension? path).isSome then
    s!"{path}.{extension}"
  else
    match Path.fileName? path with
    | some name => Path.sibling path s!"{name}.{extension}"
    | none => path

variable {m : Type → Type} [Monad m]

/-- The first of the paths that a file has. -/
def firstFile? (disk : Disk m) :
    List (String × SettingsFormat) → m (Option (String × SettingsFormat))
  | [] => return none
  | candidate :: rest => do
      if ← disk.isFile candidate.1 then return some candidate else firstFile? disk rest

/-- A file with the path itself or, failing that, with an ending behind it. -/
def find? (disk : Disk m) (path : String) : m (Option (String × SettingsFormat)) := do
  if ← disk.isFile path then
    return (SettingsFormat.ofExtension? ((Path.extension? path).getD "")).map fun format =>
      (path, format)
  else
    firstFile? disk (SettingsFormat.all.flatMap fun format =>
      format.extensions.map fun extension => (extended path extension, format))

/-- A mark of the byte order at the start is not part of the text. -/
def withoutMark (text : String) : String :=
  match text.toList with
  | '\ufeff' :: rest => String.ofList rest
  | _ => text

/-- The text of the file with its format, if there is one and it can be read. -/
def read? (disk : Disk m) (path : String) : m (Option (String × SettingsFormat)) := do
  match ← find? disk path with
  | none => return none
  | some (found, format) =>
      match ← disk.read found with
      | .error _ => return none
      | .ok contents => return some (withoutMark contents.text, format)

end Provisioning.SettingsFile
