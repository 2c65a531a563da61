/-
This file defines doubles and rounds fractions to them.
-/

import Provisioning.Number.Fraction

namespace Provisioning

/-- A magnitude is a mantissa below 2^53 times a power of two, where the mantissa is large or the
power is the smallest one. -/
structure Magnitude where
  mantissa : Nat
  exponent : Int
deriving DecidableEq, Repr

/-- A double is a signed magnitude, an infinity or no number at all. -/
inductive Double where
  | finite (negative : Bool) (magnitude : Magnitude)
  | infinite (negative : Bool)
  | undefined
deriving DecidableEq, Repr

namespace Magnitude

def zero : Magnitude := ⟨0, 0⟩

def leastExponent : Int := -1074

def greatestExponent : Int := 971

/-- The smallest of the mantissas that are large. -/
def largeMantissa : Nat := Nat.pow 2 52

def fraction (magnitude : Magnitude) : Fraction :=
  (Fraction.ofNat magnitude.mantissa).shift 2 magnitude.exponent

/-- The power of two that makes the mantissa of a fraction large. -/
def exponentFor (fraction : Fraction) : Int :=
  let estimate : Int := fraction.numerator.log2 - fraction.denominator.log2 - 52
  let mantissa := fraction.shift 2 (-estimate)
  if mantissa.compare (.ofNat largeMantissa) == .lt then estimate - 1 else estimate

/-- The nearest magnitude, where a half goes to the even mantissa. Fractions that round beyond the
greatest magnitude have none. -/
def nearest? (fraction : Fraction) : Option Magnitude :=
  if fraction.numerator == 0 then
    some zero
  else
    let exponent := max (exponentFor fraction) leastExponent
    let mantissa := (fraction.shift 2 (-exponent)).nearestEven
    let rounded : Magnitude :=
      if mantissa == 2 * largeMantissa then ⟨largeMantissa, exponent + 1⟩ else ⟨mantissa, exponent⟩
    if rounded.exponent ≤ greatestExponent then some rounded else none

def times? (first second : Magnitude) : Option Magnitude :=
  nearest? (first.fraction.times second.fraction)

def dividedBy? (first second : Magnitude) : Option Magnitude :=
  nearest? (first.fraction.dividedBy second.fraction)

end Magnitude

namespace Double

def isZero : Double → Bool
  | finite _ magnitude => magnitude.mantissa == 0
  | _ => false

/-- The nearest number up to a limit, where a half goes up and nothing goes below zero. -/
def count (limit : Nat) : Double → Nat
  | finite negative magnitude =>
      if negative then 0 else min magnitude.fraction.nearestUp limit
  | infinite negative => if negative then 0 else limit
  | undefined => 0

end Double

end Provisioning
