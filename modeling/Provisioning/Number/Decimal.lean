/-
This file reads doubles from decimal texts.
-/

import Provisioning.Number.Double
import Provisioning.Text.Digits
import Provisioning.Text.Split

namespace Provisioning

/-- A decimal is a number times a power of ten. -/
structure Decimal where
  number : Nat
  exponent : Int
deriving DecidableEq, Repr

namespace Decimal

/-- The nearest magnitude. No magnitude is as large as 10^400, and none but zero is as small as
10^-400. -/
def magnitude? (decimal : Decimal) : Option Magnitude :=
  if decimal.number == 0 || decimal.exponent + (decimal.number.log2 + 1) < -400 then
    some .zero
  else if decimal.exponent > 400 then
    none
  else
    Magnitude.nearest? ((Fraction.ofNat decimal.number).shift 10 decimal.exponent)

end Decimal

namespace Double

def ofDecimal (negative : Bool) (decimal : Decimal) : Double :=
  match decimal.magnitude? with
  | some magnitude => finite negative magnitude
  | none => infinite negative

/-- The sign before a number is true for a minus. -/
def splitSign : List Char → Bool × List Char
  | '-' :: rest => (true, rest)
  | '+' :: rest => (false, rest)
  | rest => (false, rest)

def exponent? (text : List Char) : Option Int := do
  let (negative, digits) := splitSign text
  let number ← Text.decimal? digits
  return if negative then -Int.ofNat number else Int.ofNat number

/-- Digits with a point anywhere among them or without one. -/
def mantissa? (text : List Char) : Option Decimal :=
  let (whole, fraction) := (Text.cutChars? '.' text).getD (text, [])
  (Text.decimal? (whole ++ fraction)).map fun number => ⟨number, -Int.ofNat fraction.length⟩

/-- A mantissa that may have an exponent, in either case. -/
def decimal? (text : List Char) : Option Decimal :=
  match text.span fun c => c != 'e' && c != 'E' with
  | (before, []) => mantissa? before
  | (before, _ :: after) => do
      let mantissa ← mantissa? before
      return { mantissa with exponent := mantissa.exponent + (← exponent? after) }

/-- The double that is nearest to a number, if the text writes one. -/
def ofText? (text : String) : Option Double :=
  let (negative, unsigned) := splitSign text.toList
  let word := String.ofList (unsigned.map Char.toLower)
  if word == "inf" || word == "infinity" then some (infinite negative)
  else if word == "nan" then some undefined
  else (decimal? unsigned).map (ofDecimal negative)

end Double

end Provisioning
