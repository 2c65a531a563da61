/-
This file reads natural numbers from their digits.
-/

namespace Provisioning.Text

/-- The value of a hexadecimal digit, in either case. -/
def hexValue? (c : Char) : Option Nat :=
  if '0' ≤ c ∧ c ≤ '9' then some (c.toNat - 48)
  else if 'a' ≤ c ∧ c ≤ 'f' then some (c.toNat - 87)
  else if 'A' ≤ c ∧ c ≤ 'F' then some (c.toNat - 55)
  else none

/-- The number that digits of a base write, where every digit is below the base. -/
def number? (base : Nat) (digits : List Char) : Option Nat :=
  digits.foldlM (fun number c =>
    match hexValue? c with
    | some value => if value < base then some (number * base + value) else none
    | none => none) 0

/-- The decimal number of at least one digit. -/
def decimal? (digits : List Char) : Option Nat :=
  if digits.isEmpty then none else number? 10 digits

/-- A number that fits into 64 bits; a plus sign may precede it. -/
def word? (text : List Char) : Option Nat :=
  let digits := match text with
    | '+' :: digits => digits
    | digits => digits
  (decimal? digits).filter fun number => number < UInt64.size

end Provisioning.Text
