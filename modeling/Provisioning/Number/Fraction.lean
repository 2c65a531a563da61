/-
This file rounds and compares fractions.
-/

namespace Provisioning

/-- A fraction need not be in lowest terms. -/
structure Fraction where
  numerator : Nat
  /-- No fraction has the denominator zero. -/
  denominator : Nat
deriving DecidableEq, Repr

namespace Fraction

def ofNat (number : Nat) : Fraction := ⟨number, 1⟩

def times (first second : Fraction) : Fraction :=
  ⟨first.numerator * second.numerator, first.denominator * second.denominator⟩

def dividedBy (first second : Fraction) : Fraction :=
  ⟨first.numerator * second.denominator, first.denominator * second.numerator⟩

/-- The fraction times a power of the base. -/
def shift (base : Nat) (exponent : Int) (fraction : Fraction) : Fraction :=
  match exponent with
  | .ofNat places => ⟨fraction.numerator * Nat.pow base places, fraction.denominator⟩
  | .negSucc places => ⟨fraction.numerator, fraction.denominator * Nat.pow base (places + 1)⟩

def compare (first second : Fraction) : Ordering :=
  Ord.compare (first.numerator * second.denominator) (second.numerator * first.denominator)

def floor (fraction : Fraction) : Nat := fraction.numerator / fraction.denominator

/-- The nearest number, where a half goes to the even one. -/
def nearestEven (fraction : Fraction) : Nat :=
  match Ord.compare (2 * (fraction.numerator % fraction.denominator)) fraction.denominator with
  | .lt => fraction.floor
  | .eq => fraction.floor + fraction.floor % 2
  | .gt => fraction.floor + 1

/-- The nearest number, where a half goes up. -/
def nearestUp (fraction : Fraction) : Nat :=
  (2 * fraction.numerator + fraction.denominator) / (2 * fraction.denominator)

end Fraction

end Provisioning
