/-
This file defines the settings of the command line and loads them.
-/

import Provisioning.Settings.Coercion
import Provisioning.Settings.Environment
import Provisioning.Settings.File

namespace Provisioning

structure Settings where
  /-- Feature-packs are looked for below this directory. -/
  repository : String := "repository"
  installation : String := "."
  logging : Logging.Settings := { level := "warn" }
deriving DecidableEq, Repr

/-- Settings cannot be collected, or what has been collected does not fit. -/
inductive SettingsError where
  | collection
  | fit
deriving DecidableEq, Repr

/-- What is wrong in detail is not spelled out. -/
def SettingsError.message : SettingsError → String
  | collection => "Settings error (Failed to build settings): <config>"
  | fit => "Settings error (Failed to deserialize settings): <config>"

namespace Settings

/-- Settings that are not known do not matter. -/
def put (settings : Settings) (name : String) (value : Setting) : Manifest.Read Settings :=
  match name with
  | "repository" => do return { settings with repository := ← value.asText }
  | "install_dir" => do return { settings with installation := ← value.asText }
  | "logging" => do
      return { settings with logging := ← Logging.Settings.read Setting.coercion value }
  | _ => .ok settings

def read (entries : Layers.Entries) : Manifest.Read Settings :=
  entries.foldlM (fun settings entry => put settings entry.1 entry.2) {}

def defaultFile : String := "fpm.toml"

variable {m : Type → Type} [Monad m]

/-- A file that is not named need not be there. -/
def loadFile (disk : Disk m) (path : Option String) : ExceptT SettingsError m Layers.Entries := do
  match ← ExceptT.lift (SettingsFile.read? disk (path.getD defaultFile)) with
  | none => if path.isSome then throw .collection else return []
  | some (text, format) =>
      match format.entries? text with
      | some entries => return entries
      | none => throw .collection

/-- The environment is laid over the file. -/
def load (disk : Disk m) (path : Option String) (environment : List (String × String)) :
    ExceptT SettingsError m Settings := do
  let entries ← loadFile disk path
  match read (Layers.ofEntries (entries ++ Environment.entries environment)) with
  | .ok settings => return settings
  | .error _ => throw .fit

end Settings

end Provisioning
