/-
This file checks the directives that filter log output.
-/

import Provisioning.Logging.Level
import Provisioning.Logging.Pattern
import Provisioning.Number.Decimal

namespace Provisioning.Logging

inductive DirectiveError where
  | form
  | level
  /-- The value of a field is no pattern. -/
  | field
deriving DecidableEq, Repr

def DirectiveError.message : DirectiveError → String
  | form => "invalid filter directive"
  | level => Level.problemText
  | field => "invalid field filter: error building NFA"

namespace Directive

/-- Where the reader of a directive is, and where the current part starts. -/
inductive Position where
  | start
  | target
  | span
  | field (first : Nat)
  | fieldsEnd
  | spanEnd
  | level (first : Nat)

/-- A target starts with a letter, a digit or one of these signs. -/
def startsTarget (c : Char) : Bool :=
  Text.isAlphanumeric c || c == '-' || c == ':' || c == '_'

/-- The text from one position to another, where positions count bytes. -/
def slice (first last : Nat) : List Char → List Char
  | [] => []
  | c :: rest =>
      if last == 0 then []
      else if first == 0 then c :: slice 0 (last - c.utf8Size) rest
      else slice (first - c.utf8Size) (last - c.utf8Size) rest

/-- A field has a name and maybe a value, which is a number or a pattern. Nothing after a second
equals sign counts. -/
def checkField (field : List Char) : Except DirectiveError Unit :=
  match Text.piecesOf '=' field with
  | _ :: value :: _ =>
      if (Double.ofText? (String.ofList value)).isSome || Pattern.isPattern value then .ok ()
      else .error .field
  | _ => .ok ()

/-- A directive names a target, a span with fields, or both, and then a level. Fields are cut from
the whole text. -/
def advance (whole : List Char) (position : Position) (index : Nat) (c : Char) :
    Except DirectiveError Position :=
  match position with
  | .start =>
      if c == '[' then .ok .span
      else if startsTarget c then .ok .target
      else .error .form
  | .target =>
      if c == '=' then .ok (.level (index + 1))
      else if c == '[' then .ok .span
      else .ok .target
  | .span =>
      if c == ']' then .ok .spanEnd
      else if c == '\x7b' then .ok (.field (index + 1))
      else .ok .span
  | .field first =>
      if c == '\x7d' then
        if index == first then .error .form
        else do
          checkField (slice first index whole)
          return .fieldsEnd
      else
        .ok (.field first)
  | .fieldsEnd => if c == ']' then .ok .spanEnd else .error .form
  | .spanEnd => if c == '=' then .ok (.level (index + 1)) else .error .form
  | .level first => .ok (.level first)

def advanceAll (whole : List Char) (position : Position) (index : Nat) :
    List Char → Except DirectiveError Position
  | [] => .ok position
  | c :: rest => do
      advanceAll whole (← advance whole position index c) (index + c.utf8Size) rest

/-- Positions are counted without the blanks at the start, while fields and the level are cut from
the whole. -/
def check (text : List Char) : Except DirectiveError Unit := do
  match ← advanceAll text .start 0 (Text.trimChars text) with
  | .target | .spanEnd => return ()
  | .level first =>
      let level := slice first (String.ofList text).utf8ByteSize text
      if level.isEmpty || (Level.parse? (String.ofList level)).isSome then return ()
      else throw .level
  | _ => throw .form

/-- Commas divide a filter into directives. -/
def checkAll (filter : String) : Except DirectiveError Unit :=
  ((Text.piecesOf ',' filter.toList).filter fun piece => !piece.isEmpty).forM check

end Directive

end Provisioning.Logging
