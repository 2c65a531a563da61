/-
This file writes doubles with as few digits as tell them apart.
-/

import Provisioning.Number.Decimal

namespace Provisioning

namespace Magnitude

/-- Whether the numbers on both sides of the ends of the interval round to the mantissa itself. -/
def holdsEnds (magnitude : Magnitude) : Bool := magnitude.mantissa % 2 == 0

/-- The middle between a magnitude and the one below it, which is half as far away as the one above
where the mantissa has just become large. -/
def lowerEnd (magnitude : Magnitude) : Fraction :=
  let narrow := magnitude.mantissa == largeMantissa && leastExponent < magnitude.exponent
  (Fraction.ofNat (4 * magnitude.mantissa - if narrow then 1 else 2)).shift 2
    (magnitude.exponent - 2)

/-- The middle between a magnitude and the one above it. -/
def upperEnd (magnitude : Magnitude) : Fraction :=
  (Fraction.ofNat (4 * magnitude.mantissa + 2)).shift 2 (magnitude.exponent - 2)

end Magnitude

namespace Decimal

def fraction (decimal : Decimal) : Fraction :=
  (Fraction.ofNat decimal.number).shift 10 decimal.exponent

/-- A decimal reads back when the magnitude is the nearest one. -/
def readsBack (magnitude : Magnitude) (decimal : Decimal) : Bool :=
  let within := fun ordering => ordering == .lt || (magnitude.holdsEnds && ordering == .eq)
  within (magnitude.lowerEnd.compare decimal.fraction) &&
    within (decimal.fraction.compare magnitude.upperEnd)

/-- Of the two decimals around a magnitude with this exponent, one that reads back. If both do, it
is the nearer one, or the one above in the middle. -/
def around? (magnitude : Magnitude) (exponent : Int) : Option Decimal :=
  let scaled := magnitude.fraction.shift 10 (-exponent)
  let below : Decimal := ⟨scaled.floor, exponent⟩
  let above : Decimal := ⟨scaled.floor + 1, exponent⟩
  let (first, second) := if scaled.nearestUp == below.number then (below, above) else (above, below)
  [first, second].find? (readsBack magnitude)

/-- A power of ten above the magnitude, and not far above it. -/
def scaleOf (magnitude : Magnitude) : Int :=
  (magnitude.mantissa.log2 + magnitude.exponent + 1) * 30103 / 100000 + 1

/-- The decimal with the fewest digits that reads back; seventeen digits always do. -/
def shortest (magnitude : Magnitude) : Decimal :=
  if magnitude.mantissa == 0 then
    ⟨0, 0⟩
  else
    let scale := scaleOf magnitude
    ((List.range 20).findSome? fun (digits : Nat) =>
      around? magnitude (scale - digits)).getD ⟨0, 0⟩

/-- The digits on both sides of the point, and no point without digits behind it. -/
def positional (decimal : Decimal) : List Char :=
  let digits := (toString decimal.number).toList
  match decimal.exponent with
  | .ofNat places =>
      if decimal.number == 0 then digits else digits ++ List.replicate places '0'
  | .negSucc places =>
      let padded := List.replicate (places + 2 - digits.length) '0' ++ digits
      let whole := padded.length - (places + 1)
      padded.take whole ++ '.' :: padded.drop whole

end Decimal

namespace Double

/-- Zero has a sign too. -/
def text : Double → String
  | finite negative magnitude =>
      let digits := (Decimal.shortest magnitude).positional
      String.ofList (if negative then '-' :: digits else digits)
  | infinite negative => if negative then "-inf" else "inf"
  | undefined => "NaN"

end Double

end Provisioning
