/-
This file defines YAML values and says what plain scalars stand for.
-/

import Provisioning.Number.Decimal

namespace Provisioning

inductive Yaml where
  | null
  | bool (value : Bool)
  | integer (value : Int)
  /-- A number with a fraction or an exponent, or of another kind, as it is written. -/
  | real (literal : String)
  | string (text : String)
  | list (elements : List Yaml)
  | mapping (pairs : List (Yaml × Yaml))

namespace Yaml

/-- The digits of a base with a sign or without one, for an integer of 64 bits. -/
def integer? (base : Nat) (text : List Char) : Option Int := do
  let (negative, digits) := Double.splitSign text
  if digits.isEmpty then none
  let number ← Text.number? base digits
  let value := if negative then -Int.ofNat number else Int.ofNat number
  if -Int.ofNat (Int64.size / 2) ≤ value && value < Int64.size / 2 then some value else none

/-- An integer in base ten, or in base sixteen or eight after a mark. A plus sign may come before
any sign. -/
def wholeOf? : List Char → Option Int
  | '0' :: 'x' :: digits => integer? 16 digits
  | '0' :: 'o' :: digits => integer? 8 digits
  | '+' :: rest => integer? 10 rest
  | text => integer? 10 text

def infinities : List String :=
  [".inf", ".Inf", ".INF", "+.inf", "+.Inf", "+.INF", "-.inf", "-.Inf", "-.INF"]

def undefineds : List String := [".nan", ".NaN", ".NAN"]

/-- Numbers with at least one digit, infinities and what is no number. -/
def isReal (text : String) : Bool :=
  infinities.contains text || undefineds.contains text ||
    (text.toList.any Char.isDigit && (Double.ofText? text).isSome)

/-- Scalars without quotes and tags are of the first kind that they fit. -/
def ofPlain (text : String) : Yaml :=
  match wholeOf? text.toList with
  | some value => integer value
  | none =>
      match text with
      | "~" | "null" => null
      | "true" => bool true
      | "false" => bool false
      | text => if isReal text then real text else string text

/-- A tag gives the kind of a scalar, and what does not fit is nothing. -/
def ofTagged (kind text : String) : Yaml :=
  match kind with
  | "bool" => if text == "true" then bool true else if text == "false" then bool false else null
  | "int" =>
      match integer? 10 text.toList with
      | some value => integer value
      | none => null
  | "float" => if isReal text then real text else null
  | "null" => null
  | _ => string text

mutual

def same : Yaml → Yaml → Bool
  | null, null => true
  | bool first, bool second => first == second
  | integer first, integer second => first == second
  | real first, real second => first == second
  | string first, string second => first == second
  | list first, list second => sameAll first second
  | mapping first, mapping second => samePairs first second
  | _, _ => false

def sameAll : List Yaml → List Yaml → Bool
  | [], [] => true
  | first :: rest, second :: others => same first second && sameAll rest others
  | _, _ => false

def samePairs : List (Yaml × Yaml) → List (Yaml × Yaml) → Bool
  | [], [] => true
  | first :: rest, second :: others =>
      same first.1 second.1 && same first.2 second.2 && samePairs rest others
  | _, _ => false

end

/-- A pair is added unless its key is there already. -/
def addPair? (pairs : List (Yaml × Yaml)) (key value : Yaml) : Option (List (Yaml × Yaml)) :=
  if pairs.any fun pair => pair.1.same key then none else some (pairs ++ [(key, value)])

end Yaml

end Provisioning
