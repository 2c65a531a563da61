/-
This file carries out what the command line asks for.
-/

import Provisioning.CommandLine.Arguments
import Provisioning.Logging.Setup
import Provisioning.Report
import Provisioning.Settings.Basic
import Provisioning.Storage.Provision
import Provisioning.Storage.StateFile

namespace Provisioning.CommandLine

/-- A command fails at some step, for causes that are listed outermost first. -/
structure CommandError where
  step : String
  causes : List String
deriving DecidableEq, Repr

def CommandError.messages (error : CommandError) : List String := error.step :: error.causes

variable {m : Type → Type} [Monad m]

/-- The state of the installation is written and the report says where. -/
def runProvision (disk : Disk m) (tag descriptor repository installation : String) :
    ExceptT CommandError m String := do
  let state ← (provisionFrom disk repository descriptor).adapt fun error =>
    ⟨s!"Failed to provision {descriptor}", error.messages⟩
  let file := StateFile.ofInstallation installation
  (StateFile.write disk tag file state).adapt fun error =>
    (⟨"Failed to persist the provisioned state", error.messages⟩ : CommandError)
  return Report.written state file

def runDescribe (disk : Disk m) (descriptor repository : String) :
    ExceptT CommandError m String := do
  let state ← (provisionFrom disk repository descriptor).adapt fun error =>
    ⟨s!"Failed to resolve {descriptor}", error.messages⟩
  return Report.full state

def runState (disk : Disk m) (file : String) : ExceptT CommandError m String := do
  let state ← (StateFile.read disk file).adapt fun error =>
    ⟨s!"Failed to read state file {file}", error.messages⟩
  return Report.summary state

/-- Options come before settings. -/
def runCommand (disk : Disk m) (tag : String) (settings : Settings) :
    Command → ExceptT CommandError m String
  | .provision descriptor repository installation =>
      runProvision disk tag descriptor (repository.getD settings.repository)
        (installation.getD settings.installation)
  | .describe descriptor repository =>
      runDescribe disk descriptor (repository.getD settings.repository)
  | .state file => runState disk file

/-- What surrounds a run of the program. -/
structure Surroundings where
  environment : List (String × String)
  moment : Logging.Moment
  /-- A tag that no other run has. -/
  tag : String

/-- Settings are loaded and log output is set up before the command is run. -/
def runInvocation (disk : Disk m) (surroundings : Surroundings) (invocation : Invocation) :
    ExceptT CommandError m String := do
  let settings ← (Settings.load disk invocation.settings surroundings.environment).adapt
    fun error => ⟨"Critical: Settings are malformed", [error.message]⟩
  let logging := { settings.logging with
    level := invocation.logLevel.getD settings.logging.level }
  let _ ← (Logging.setUp disk false surroundings.moment "fpm" logging).adapt fun error =>
    ⟨error.message, error.cause?.toList⟩
  runCommand disk surroundings.tag settings invocation.command

/-- What a run leaves behind apart from files. -/
structure Outcome where
  code : Nat
  output : String
  errors : String

def versionText : String := "fpm 0.0.0\n"

def helpText : String :=
  Report.linesText [
    "Resolve feature-pack provisioning descriptors",
    "",
    "Usage: fpm [OPTIONS] <COMMAND>",
    "",
    "Commands:",
    "  provision  Resolve a descriptor and write the provisioned state of the installation",
    "  describe   Resolve a descriptor and print every config feature by feature",
    "  state      Print a summary of a persisted state file",
    "  help       Print this message or the help of the given subcommand(s)",
    "",
    "Options:",
    "      --settings <FILE>    Settings file " ++
      "(defaults to `fpm.toml` in the working directory, if present)",
    "      --log-level <LEVEL>  Log level override (`error`, `warn`, `info`, `debug`, `trace`)",
    "  -h, --help               Print help",
    "  -V, --version            Print version"]

/-- The causes of an error are numbered if there are several. -/
def errorText (error : CommandError) : String :=
  let causes := match error.causes with
    | [] => []
    | [cause] => ["", "Caused by:", s!"    {cause}"]
    | causes => "" :: "Caused by:" :: causes.zipIdx.map fun cause => s!"    {cause.2}: {cause.1}"
  Report.linesText (s!"Error: {error.step}" :: causes)

/-- A failed command and arguments that make no sense have codes of their own. -/
def run (disk : Disk m) (surroundings : Surroundings) (arguments : List String) : m Outcome := do
  match Intent.ofArguments arguments with
  | .help => return ⟨0, helpText, ""⟩
  | .version => return ⟨0, versionText, ""⟩
  | .misuse => return ⟨2, "", helpText⟩
  | .run invocation =>
      match ← (runInvocation disk surroundings invocation).run with
      | .ok output => return ⟨0, output, ""⟩
      | .error error => return ⟨1, "", errorText error⟩

end Provisioning.CommandLine
