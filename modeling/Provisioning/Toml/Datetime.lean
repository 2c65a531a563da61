/-
This file reads dates and times and brings them into their normal form.
-/

import Provisioning.Text.Digits

namespace Provisioning.Toml

def isLeapYear (year : Nat) : Bool :=
  year % 4 == 0 && (year % 100 != 0 || year % 400 == 0)

def daysOf (year : Nat) : Nat → Nat
  | 2 => if isLeapYear year then 29 else 28
  | 4 | 6 | 9 | 11 => 30
  | _ => 31

/-- A date of the calendar, written year first. -/
def readDate : List Char → Option (List Char × List Char)
  | a :: b :: c :: d :: '-' :: e :: f :: '-' :: g :: h :: rest => do
      let year ← Text.decimal? [a, b, c, d]
      let month ← Text.decimal? [e, f]
      let day ← Text.decimal? [g, h]
      if 1 ≤ month && month ≤ 12 && 1 ≤ day && day ≤ daysOf year month then
        return ([a, b, c, d, '-', e, f, '-', g, h], rest)
      else
        none
  | _ => none

/-- Fractions keep nine digits at most and no zeros at the end. -/
def fractionText (digits : List Char) : List Char :=
  match ((digits.take 9).reverse.dropWhile (· == '0')).reverse with
  | [] => []
  | kept => '.' :: kept

def readFractionText : List Char → Option (List Char × List Char)
  | '.' :: rest =>
      match rest.span Char.isDigit with
      | ([], _) => none
      | (digits, rest) => some (fractionText digits, rest)
  | rest => some ([], rest)

/-- Seconds that are left out are zero, and a minute may have a leap second. -/
def readSeconds : List Char → Option (List Char × List Char)
  | ':' :: a :: b :: rest => do
      let second ← Text.decimal? [a, b]
      let (fraction, rest) ← readFractionText rest
      if second ≤ 60 then return (':' :: a :: b :: fraction, rest) else none
  | rest => some ([':', '0', '0'], rest)

/-- A time of day to the minute. -/
def readMinutes : List Char → Option (List Char × List Char)
  | a :: b :: ':' :: c :: d :: rest => do
      let hour ← Text.decimal? [a, b]
      let minute ← Text.decimal? [c, d]
      if hour ≤ 23 && minute ≤ 59 then return ([a, b, ':', c, d], rest) else none
  | _ => none

def readTime (text : List Char) : Option (List Char × List Char) := do
  let (minutes, rest) ← readMinutes text
  let (seconds, rest) ← readSeconds rest
  return (minutes ++ seconds, rest)

/-- The text may end with an offset from universal time, and there is no negative zero. -/
def readOffset : List Char → Option (List Char)
  | [] => some []
  | ['Z'] => some ['Z']
  | ['z'] => some ['Z']
  | sign :: rest => do
      let (minutes, rest) ← readMinutes rest
      if rest.isEmpty && (sign == '+' || sign == '-') then
        return (if minutes.all fun c => c == '0' || c == ':' then '+' else sign) :: minutes
      else
        none

def isDateSeparator (c : Char) : Bool := c == 'T' || c == 't' || c == ' '

/-- A date, a time of day, or a date with a time that may be offset. -/
def datetimeText? (text : List Char) : Option (List Char) :=
  match readDate text with
  | some (date, []) => some date
  | some (date, separator :: rest) => do
      let (time, rest) ← readTime rest
      let offset ← readOffset rest
      if isDateSeparator separator then return date ++ 'T' :: time ++ offset else none
  | none =>
      match readTime text with
      | some (time, []) => some time
      | _ => none

end Provisioning.Toml
