/-
This file defines the levels of log output.
-/

import Provisioning.Text.Digits

namespace Provisioning.Logging

/-- Each level lets through what the levels before it let through, and more. -/
inductive Level where
  | off
  | error
  | warn
  | info
  | debug
  | trace
deriving DecidableEq, Repr

namespace Level

def name : Level → String
  | off => "off"
  | error => "error"
  | warn => "warn"
  | info => "info"
  | debug => "debug"
  | trace => "trace"

def all : List Level := [off, error, warn, info, debug, trace]

def lowercase (text : String) : String := String.ofList (text.toList.map Char.toLower)

/-- A level is written as its number or, in any case, as its name; no text at all means errors. -/
def parse? (text : String) : Option Level :=
  match Text.word? text.toList with
  | some number => all[number]?
  | none =>
      if text.isEmpty then some error
      else all.find? fun level => level.name == lowercase text

def problemText : String :=
  "error parsing level filter: expected one of " ++
    "\"off\", \"error\", \"warn\", \"info\", \"debug\", \"trace\", or a number 0-5"

end Level

end Provisioning.Logging
