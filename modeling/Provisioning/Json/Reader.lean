/-
This file reads JSON values from their text.
-/

import Provisioning.Json.Value

namespace Provisioning.Json

def isBlank (c : Char) : Bool := c == ' ' || c == '\n' || c == '\t' || c == '\r'

def shortEscape? : Char → Option Char
  | '"' => some '"'
  | '\\' => some '\\'
  | '/' => some '/'
  | 'b' => some (Char.ofNat 8)
  | 'f' => some (Char.ofNat 12)
  | 'n' => some '\n'
  | 'r' => some '\r'
  | 't' => some '\t'
  | _ => none

/-- A code unit of a string; a code point above the first plane takes two. -/
inductive Piece where
  | char (c : Char)
  | unit (code : Nat)

def readPieces (pieces : List Piece) : List Char → Option (List Piece × List Char)
  | '"' :: rest => some (pieces.reverse, rest)
  | '\\' :: 'u' :: a :: b :: c :: d :: rest =>
      match Text.number? 16 [a, b, c, d] with
      | some code => readPieces (.unit code :: pieces) rest
      | none => none
  | '\\' :: escaped :: rest =>
      match shortEscape? escaped with
      | some c => readPieces (.char c :: pieces) rest
      | none => none
  | c :: rest => if c.toNat < 32 || c == '\\' then none else readPieces (.char c :: pieces) rest
  | [] => none

/-- Surrogates count in pairs only. -/
def join? : List Piece → Option (List Char)
  | [] => some []
  | .char c :: rest => (join? rest).map (c :: ·)
  | .unit first :: rest =>
      if 0xD800 ≤ first ∧ first < 0xDC00 then
        match rest with
        | .unit second :: rest =>
            if 0xDC00 ≤ second ∧ second < 0xE000 then
              (join? rest).map
                (Char.ofNat (0x10000 + (first - 0xD800) * 0x400 + (second - 0xDC00)) :: ·)
            else
              none
        | _ => none
      else if 0xDC00 ≤ first ∧ first < 0xE000 then
        none
      else
        (join? rest).map (Char.ofNat first :: ·)

/-- The text after an opening quote; none of it if a surrogate stands alone. -/
def readString (text : List Char) : Option (Option String × List Char) :=
  (readPieces [] text).map fun read => ((join? read.1).map String.ofList, read.2)

def digits (text : List Char) : List Char × List Char := text.span Char.isDigit

/-- A whole part has no leading zero. -/
def readWhole (text : List Char) : Option (List Char × List Char) :=
  match digits text with
  | ([], _) => none
  | ('0' :: _ :: _, _) => none
  | read => some read

def readFraction : List Char → Option (Option (List Char) × List Char)
  | '.' :: rest =>
      match digits rest with
      | ([], _) => none
      | (fraction, rest) => some (some fraction, rest)
  | text => some (none, text)

/-- An exponent is absent or has at least one digit. -/
def readExponent : List Char → Option (Option Int × List Char)
  | c :: rest =>
      if c == 'e' || c == 'E' then
        let (negative, rest) := match rest with
          | '-' :: rest => (true, rest)
          | '+' :: rest => (false, rest)
          | rest => (false, rest)
        match digits rest with
        | ([], _) => none
        | (exponent, rest) => do
            let number ← Text.number? 10 exponent
            return (some (if negative then -Int.ofNat number else Int.ofNat number), rest)
      else
        some (none, c :: rest)
  | [] => some (none, [])

/-- A number that is too large for its type is unreadable. -/
def readNumber (text : List Char) : Option (Json × List Char) := do
  let (negative, unsigned) := match text with
    | '-' :: rest => (true, rest)
    | rest => (false, rest)
  let (whole, rest) ← readWhole unsigned
  let (fraction, rest) ← readFraction rest
  let (exponent, rest) ← readExponent rest
  match Number.ofDigits? negative whole fraction exponent with
  | some value => return (number value, rest)
  | none => return (unreadable, rest)

def skip (text : List Char) : List Char := text.dropWhile isBlank

mutual

/-- The fuel bounds the characters that are read. -/
def readValue : Nat → List Char → Option (Json × List Char)
  | 0, _ => none
  | fuel + 1, text =>
      match skip text with
      | 'n' :: 'u' :: 'l' :: 'l' :: rest => some (null, rest)
      | 't' :: 'r' :: 'u' :: 'e' :: rest => some (bool true, rest)
      | 'f' :: 'a' :: 'l' :: 's' :: 'e' :: rest => some (bool false, rest)
      | '"' :: rest =>
          (readString rest).map fun read => (read.1.elim unreadable string, read.2)
      | '[' :: rest =>
          match skip rest with
          | ']' :: rest => some (array [], rest)
          | rest => (readElements fuel rest).map fun read => (array read.1, read.2)
      | '\x7b' :: rest =>
          match skip rest with
          | '\x7d' :: rest => some (object [], rest)
          | rest =>
              (readMembers fuel rest).map fun read => (read.1.elim unreadable object, read.2)
      | rest => readNumber rest

def readElements : Nat → List Char → Option (List Json × List Char)
  | 0, _ => none
  | fuel + 1, text => do
      let (element, rest) ← readValue fuel text
      match skip rest with
      | ',' :: rest =>
          let (elements, rest) ← readElements fuel rest
          return (element :: elements, rest)
      | ']' :: rest => return ([element], rest)
      | _ => none

/-- An unreadable name makes its object unreadable. -/
def readMembers : Nat → List Char → Option (Option (List (String × Json)) × List Char)
  | 0, _ => none
  | fuel + 1, text =>
      match skip text with
      | '"' :: rest => do
          let (name, rest) ← readString rest
          match skip rest with
          | ':' :: rest =>
              let (value, rest) ← readValue fuel rest
              let member := name.map fun name => (name, value)
              match skip rest with
              | ',' :: rest =>
                  let (members, rest) ← readMembers fuel rest
                  return (member.bind fun member => members.map (member :: ·), rest)
              | '\x7d' :: rest => return (member.map ([·]), rest)
              | _ => none
          | _ => none
      | _ => none

end

/-- A text is one value with blanks around it. -/
def parse? (text : String) : Option Json :=
  match readValue (2 * text.length + 2) text.toList with
  | some (value, rest) => if (skip rest).isEmpty then some value else none
  | none => none

end Provisioning.Json
