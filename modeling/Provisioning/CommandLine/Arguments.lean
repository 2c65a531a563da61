/-
This file reads the arguments of the command line.
-/

import Provisioning.Text.Split

namespace Provisioning.CommandLine

inductive Command where
  | provision (descriptor : String) (repository installation : Option String)
  | describe (descriptor : String) (repository : Option String)
  | state (file : String)
deriving DecidableEq, Repr

structure Invocation where
  settings : Option String
  logLevel : Option String
  command : Command
deriving DecidableEq, Repr

/-- Help and the version are shown as soon as they are asked for. -/
inductive Intent where
  | run (invocation : Invocation)
  | help
  | version
  /-- The arguments make no sense. -/
  | misuse
deriving DecidableEq, Repr

/-- Some options belong to a command. -/
inductive Scope where
  | root
  | provision
  | describe
  | state
deriving DecidableEq

def Scope.named? : String → Option Scope
  | "provision" => some .provision
  | "describe" => some .describe
  | "state" => some .state
  | _ => none

/-- Options that belong to no command may stand anywhere. -/
def Scope.options : Scope → List String
  | root | state => ["settings", "log-level"]
  | provision => ["settings", "log-level", "repo", "install-dir"]
  | describe => ["settings", "log-level", "repo"]

/-- What has been read so far; an option behind a command hides the same option before it. -/
structure Reading where
  scope : Scope := .root
  /-- The options that have been given in this scope. -/
  given : List String := []
  values : List (String × String) := []
  operand : Option String := none

namespace Reading

def value? (reading : Reading) (option : String) : Option String :=
  (reading.values.find? fun entry => entry.1 == option).map Prod.snd

/-- An option is given once in its scope, and only a level may be empty. -/
def set? (reading : Reading) (option value : String) : Option Reading :=
  if reading.given.contains option || (value.isEmpty && option != "log-level") then
    none
  else
    some { reading with
      given := option :: reading.given
      values := (option, value) :: reading.values }

/-- A command has one operand. -/
def setOperand? (reading : Reading) (value : String) : Option Reading :=
  if reading.scope == .root || reading.operand.isSome || value.isEmpty then none
  else some { reading with operand := some value }

def enter (reading : Reading) (scope : Scope) : Reading :=
  { reading with scope, given := [] }

/-- A command needs its operand. -/
def finish (reading : Reading) : Intent :=
  let command := match reading.scope, reading.operand with
    | .provision, some descriptor =>
        some (Command.provision descriptor (reading.value? "repo") (reading.value? "install-dir"))
    | .describe, some descriptor => some (.describe descriptor (reading.value? "repo"))
    | .state, some file => some (.state file)
    | _, _ => none
  match command with
  | some command =>
      .run ⟨reading.value? "settings", reading.value? "log-level", command⟩
  | none => .misuse

end Reading

/-- Help may be asked for on one command. -/
def helpIntent : List String → Intent
  | [] => .help
  | [command] => if command == "help" || (Scope.named? command).isSome then .help else .misuse
  | _ => .misuse

/-- The short forms of the options without a value. -/
def shortIntent (scope : Scope) : Char → Intent
  | 'h' => .help
  | 'V' => if scope == .root then .version else .misuse
  | _ => .misuse

/-- The name of a long option and the value behind an equals sign. -/
def splitOption (option : String) : String × Option String :=
  match Text.cut? '=' option with
  | some (name, value) => (name, some value)
  | none => (option, none)

/-- What an argument means next to what has been read. -/
inductive Meaning where
  | done (intent : Intent)
  | next (reading : Reading)
  /-- The next argument is the value of an option. -/
  | awaits (option : String)
  /-- All further arguments are operands. -/
  | operands

def longMeaning (reading : Reading) (argument : String) : Meaning :=
  match splitOption argument with
  | ("help", none) => .done .help
  | ("version", none) => .done (if reading.scope == .root then .version else .misuse)
  | (name, value) =>
      if reading.scope.options.contains name then
        match value with
        | none => .awaits name
        | some value =>
            match reading.set? name value with
            | some reading => .next reading
            | none => .done .misuse
      else
        .done .misuse

def operandMeaning (reading : Reading) (argument : String) : Meaning :=
  match reading.setOperand? argument with
  | some reading => .next reading
  | none => .done .misuse

def meaning (reading : Reading) (argument : String) : Meaning :=
  match argument.toList with
  | ['-', '-'] => .operands
  | '-' :: '-' :: option => longMeaning reading (String.ofList option)
  | '-' :: short :: _ => .done (shortIntent reading.scope short)
  | _ => operandMeaning reading argument

def readOperands (reading : Reading) : List String → Intent
  | [] => reading.finish
  | argument :: rest =>
      match reading.setOperand? argument with
      | some reading => readOperands reading rest
      | none => .misuse

/-- A value does not look like an option. -/
def isValue (argument : String) : Bool := argument == "-" || !argument.startsWith "-"

mutual

def readArguments (reading : Reading) : List String → Intent
  | [] => reading.finish
  | argument :: rest =>
      match reading.scope, Scope.named? argument with
      | .root, some scope => readArguments (reading.enter scope) rest
      | scope, _ =>
          if scope == .root && argument == "help" then
            helpIntent rest
          else
            match meaning reading argument with
            | .done intent => intent
            | .next reading => readArguments reading rest
            | .awaits option => readValue reading option rest
            | .operands => readOperands reading rest

def readValue (reading : Reading) (option : String) : List String → Intent
  | [] => .misuse
  | value :: rest =>
      if isValue value then
        match reading.set? option value with
        | some reading => readArguments reading rest
        | none => .misuse
      else
        .misuse

end

/-- Without arguments there is nothing to do. -/
def Intent.ofArguments (arguments : List String) : Intent := readArguments {} arguments

end Provisioning.CommandLine
