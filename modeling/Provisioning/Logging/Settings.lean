/-
This file defines how log output is set up.
-/

import Provisioning.Logging.Directive
import Provisioning.Manifest.Fields

namespace Provisioning.Logging

/-- How often a new log file is started. -/
inductive Rotation where
  | minutely
  | hourly
  | daily
  | never
deriving DecidableEq, Repr

def Rotation.named? : String → Option Rotation
  | "minutely" => some .minutely
  | "hourly" => some .hourly
  | "daily" => some .daily
  | "never" => some .never
  | _ => none

structure Settings where
  level : String := "info"
  /-- Directives that go beyond the level. -/
  filter : Option String := none
  console : Bool := true
  json : Bool := false
  /-- Without a directory there are no log files. -/
  directory : Option String := none
  rotation : Rotation := .daily
  maxFiles : Nat := 10
deriving DecidableEq, Repr

/-- How values are taken for records, texts, flags, counts and names. -/
structure Coercion (Value : Type) where
  parts : Value → Manifest.Parts Value
  text : Value → Manifest.Read String
  /-- A value may stand for no text. -/
  optionalText : Value → Manifest.Read (Option String)
  flag : Value → Manifest.Read Bool
  count : Value → Manifest.Read Nat
  name : Value → Manifest.Read String

namespace Coercion

def strictCount : Toml → Manifest.Read Nat
  | .integer (.ofNat count) => if count < UInt64.size then .ok count else .error .form
  | _ => .error .form

/-- A name may be the only key of a table with nothing below it. -/
def strictName : Toml → Manifest.Read String
  | .string name => .ok name
  | .table [(name, .table [])] => .ok name
  | .table [(name, .array [])] => .ok name
  | _ => .error .form

/-- Every value is what it is written as. -/
def strict : Coercion Toml where
  parts := Manifest.parts
  text := Manifest.text
  optionalText value := some <$> Manifest.text value
  flag := Manifest.flag
  count := strictCount
  name := strictName

end Coercion

namespace Settings

def put {Value : Type} (coercion : Coercion Value) (settings : Settings) (name : String)
    (value : Value) : Manifest.Read Settings :=
  match name with
  | "level" => do return { settings with level := ← coercion.text value }
  | "filter" => do return { settings with filter := ← coercion.optionalText value }
  | "console" => do return { settings with console := ← coercion.flag value }
  | "json" => do return { settings with json := ← coercion.flag value }
  | "dir" => do return { settings with directory := ← coercion.optionalText value }
  | "rotation" => do
      match Rotation.named? (← coercion.name value) with
      | some rotation => return { settings with rotation }
      | none => .error .form
  | "max_files" => do return { settings with maxFiles := ← coercion.count value }
  | _ => .error .form

def fieldNames : List String :=
  ["level", "filter", "console", "json", "dir", "rotation", "max_files"]

/-- What is not given keeps its default. -/
def read {Value : Type} (coercion : Coercion Value) (value : Value) : Manifest.Read Settings :=
  Manifest.Fields.readParts ⟨fieldNames, [], 0, false⟩ (put coercion) {} (coercion.parts value)

end Settings

/-- What can go wrong when log output is set up. -/
inductive SetupError where
  | configuration (detail : String)
  | directory (path : String)
  /-- The directory that the name of the program leads to. -/
  | fileDirectory
  | file
  /-- There is only one logger. -/
  | alreadySet
deriving DecidableEq, Repr

namespace SetupError

/-- The text of the cause, where it is told. -/
def cause? : SetupError → Option String
  | fileDirectory => some "failed to create log directory: <io>"
  | file => some "failed to create log file: <io>"
  | alreadySet => some "a global default trace dispatcher has already been set"
  | _ => none

def message : SetupError → String
  | configuration detail => s!"Invalid logger configuration: {detail}"
  | directory path =>
      s!"Log directory error (Failed to create log directory {path}): <io>"
  | fileDirectory => "Rolling file appender error: failed to create log directory: <io>"
  | file => "Rolling file appender error: failed to create log file: <io>"
  | alreadySet => "Tracing subscriber error: a global default trace dispatcher has already been set"

def messages (error : SetupError) : List String := error.message :: error.cause?.toList

end SetupError

namespace Settings

def level? (settings : Settings) : Except SetupError Level :=
  match Level.parse? (Text.trim settings.level) with
  | some level => .ok level
  | none => .error (.configuration
      s!"Unknown log level '{settings.level}': {Level.problemText}")

def checkFilter (settings : Settings) : Except SetupError Unit :=
  match settings.filter with
  | none => .ok ()
  | some filter =>
      match Directive.checkAll filter with
      | .ok _ => .ok ()
      | .error error => .error (.configuration s!"Invalid log filter '{filter}': {error.message}")

/-- There is some output, and it has a level and a filter. -/
def check (settings : Settings) : Except SetupError Level := do
  if settings.maxFiles == 0 then
    throw (.configuration "max_files must be greater than zero")
  if !settings.console && settings.directory.isNone then
    throw (.configuration
      "No logging output enabled. Enable console or set a log directory.")
  let level ← settings.level?
  settings.checkFilter
  return level

end Settings

end Provisioning.Logging
