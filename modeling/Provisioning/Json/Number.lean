/-
This file says which numbers the digits of JSON values stand for.
-/

import Provisioning.Number.Shortest

namespace Provisioning.Json

/-- Numbers that fit into 64 bits are kept as they are, and all others become doubles. -/
inductive Number where
  | integer (value : Int)
  | float (value : Double)
deriving DecidableEq, Repr

namespace Number

/-- Digits are added to a number as long as it fits into 64 bits; the other digits are left. -/
def leading (number : Nat) : List Char → Nat × List Char
  | [] => (number, [])
  | c :: rest =>
      let next := 10 * number + ((Text.hexValue? c).getD 0)
      if next < UInt64.size then leading next rest else (number, c :: rest)

def greatestPower : Nat := 308

def powerOfTen (exponent : Nat) : Magnitude :=
  (Decimal.magnitude? ⟨1, exponent⟩).getD .zero

/-- A magnitude times a power of ten. The power is rounded before the product is, and small powers
are taken in steps, of which the fuel bounds the number. -/
def scale? : Nat → Magnitude → Int → Option Magnitude
  | 0, _, _ => some .zero
  | fuel + 1, magnitude, exponent =>
      if magnitude.mantissa == 0 then
        some .zero
      else
        match exponent with
        | .ofNat power =>
            if power ≤ greatestPower then magnitude.times? (powerOfTen power) else none
        | .negSucc power =>
            if power < greatestPower then
              magnitude.dividedBy? (powerOfTen (power + 1))
            else do
              let smaller ← magnitude.dividedBy? (powerOfTen greatestPower)
              scale? fuel smaller (exponent + greatestPower)

/-- Exponents are limited to 32 bits. -/
def greatestExponent : Int := 2147483647

/-- After four steps nothing is left of a number that fits into 64 bits. -/
def float? (number : Nat) (exponent : Int) : Option Magnitude := do
  let magnitude ← Magnitude.nearest? (.ofNat number)
  scale? 4 magnitude (max (-greatestExponent) (min greatestExponent exponent))

/-- The number that the digits before and behind the point and the exponent stand for. Digits that
do not fit count as zeros before the point and are dropped behind it; numbers beyond the greatest
double are none. -/
def ofDigits? (negative : Bool) (whole : List Char) (fraction : Option (List Char))
    (exponent : Option Int) : Option Number :=
  let (number, dropped) := leading 0 whole
  let (mantissa, rest) := leading number (fraction.getD [])
  let added := (fraction.getD []).length - rest.length
  let isWhole := fraction.isNone && exponent.isNone && dropped.isEmpty
  if isWhole && !negative then
    some (integer number)
  else if isWhole && 0 < number && number ≤ Int64.size / 2 then
    some (integer (-Int.ofNat number))
  else
    (float? mantissa (dropped.length - added + exponent.getD 0)).map fun magnitude =>
      float (.finite negative magnitude)

def text : Number → String
  | integer value => toString value
  | float value => value.text

end Number

end Provisioning.Json
