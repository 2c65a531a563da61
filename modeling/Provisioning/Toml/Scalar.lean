/-
This file reads TOML numbers, booleans and dates.
-/

import Provisioning.Text.Split
import Provisioning.Toml.Datetime
import Provisioning.Toml.Value

namespace Provisioning.Toml

/-- The digits that single underscores hold apart. -/
def joined? (digits : List Char) : Option (List Char) :=
  let groups := Text.piecesOf '_' digits
  if groups.all fun group => !group.isEmpty then some groups.flatten else none

def splitSign : List Char → Bool × List Char
  | '-' :: rest => (true, rest)
  | '+' :: rest => (false, rest)
  | rest => (false, rest)

/-- Only zero itself starts with the digit zero. -/
def whole? (text : List Char) : Option (List Char) := do
  let digits ← joined? text
  let _ ← Text.decimal? digits
  match digits with
  | '0' :: _ :: _ => none
  | _ => return digits

def inBase? (base : Nat) (text : List Char) : Option Int :=
  (joined? text).bind fun digits => (Text.number? base digits).map Int.ofNat

/-- A number in another base than ten has no sign. -/
def integer? : List Char → Option Int
  | '0' :: 'x' :: digits => inBase? 16 digits
  | '0' :: 'o' :: digits => inBase? 8 digits
  | '0' :: 'b' :: digits => inBase? 2 digits
  | text => do
      let (negative, digits) := splitSign text
      let number ← Text.decimal? (← whole? digits)
      return if negative then -Int.ofNat number else Int.ofNat number

/-- The digits of an exponent may start with zeros. -/
def exponent? (text : List Char) : Option (List Char) := do
  let digits ← joined? (splitSign text).2
  let _ ← Text.decimal? digits
  return text.filter (· != '_')

/-- A mantissa says whether it has a fraction. -/
def mantissa? (text : List Char) : Option (List Char × Bool) :=
  match Text.cutChars? '.' text with
  | none => (whole? text).map fun digits => (digits, false)
  | some (before, after) => do
      let digits ← whole? before
      let fraction ← joined? after
      let _ ← Text.decimal? fraction
      return (digits ++ '.' :: fraction, true)

/-- A finite float has a fraction, an exponent or both. -/
def finite? (text : List Char) : Option (List Char) :=
  match text.span fun c => c != 'e' && c != 'E' with
  | (before, []) =>
      (mantissa? before).bind fun mantissa => if mantissa.2 then some mantissa.1 else none
  | (before, _ :: after) => do
      let mantissa ← mantissa? before
      return mantissa.1 ++ 'e' :: (← exponent? after)

def float? (text : List Char) : Option (List Char) :=
  let (negative, digits) := splitSign text
  let signed := fun literal => if negative then '-' :: literal else literal
  match digits with
  | ['i', 'n', 'f'] => some (signed digits)
  | ['n', 'a', 'n'] => some (signed digits)
  | _ => (finite? digits).map signed

/-- What an unquoted word stands for. -/
def scalar? (word : List Char) : Option Toml :=
  match word with
  | ['t', 'r', 'u', 'e'] => some (bool true)
  | ['f', 'a', 'l', 's', 'e'] => some (bool false)
  | _ =>
      match integer? word with
      | some number => some (integer number)
      | none =>
          match float? word with
          | some literal => some (float (String.ofList literal))
          | none => (datetimeText? word).map fun text => datetime (String.ofList text)

def isWordChar (c : Char) : Bool :=
  c.isAlphanum || c == '+' || c == '-' || c == '_' || c == '.' || c == ':'

/-- A blank between a date and a time belongs to the word. -/
def readWord (text : List Char) : List Char × List Char :=
  match text.span isWordChar with
  | (word, ' ' :: c :: rest) =>
      if c.isDigit && (readDate word).any (fun read => read.2.isEmpty) then
        let (time, rest) := (c :: rest).span isWordChar
        (word ++ ' ' :: time, rest)
      else
        (word, ' ' :: c :: rest)
  | read => read

def readScalar (text : List Char) : Option (Toml × List Char) :=
  let (word, rest) := readWord text
  (scalar? word).map fun value => (value, rest)

end Provisioning.Toml
