/-
This file reads JSON values that are written in the wider JSON5 format.
-/

import Provisioning.Json.Reader
import Provisioning.Text.Alphanumeric

namespace Provisioning.Json5

def isLineEnd (c : Char) : Bool := c == '\n' || c == '\r' || c == '\u2028' || c == '\u2029'

/-- Blanks are the space separators of Unicode, line ends and some control characters. -/
def isBlank (c : Char) : Bool :=
  let code := c.toNat
  isLineEnd c || code == 0x9 || code == 0xB || code == 0xC || code == 0x20 || code == 0xA0 ||
    code == 0x1680 || (0x2000 ≤ code && code ≤ 0x200A) || code == 0x202F || code == 0x205F ||
    code == 0x3000 || code == 0xFEFF

/-- What is skipped between values. -/
inductive Gap where
  | blanks
  | lineComment
  | blockComment

/-- Comments reach to the end of the line, or to a mark that may not be missing. -/
def skip (gap : Gap) : List Char → Option (List Char)
  | [] =>
      match gap with
      | .blockComment => none
      | _ => some []
  | '/' :: '/' :: rest =>
      match gap with
      | .blanks => skip .lineComment rest
      | gap => skip gap ('/' :: rest)
  | '/' :: '*' :: rest =>
      match gap with
      | .blanks => skip .blockComment rest
      | gap => skip gap ('*' :: rest)
  | '*' :: '/' :: rest =>
      match gap with
      | .blanks => some ('*' :: '/' :: rest)
      | .lineComment => skip .lineComment ('/' :: rest)
      | .blockComment => skip .blanks rest
  | c :: rest =>
      match gap with
      | .blanks => if isBlank c then skip .blanks rest else some (c :: rest)
      | .lineComment => skip (if isLineEnd c then .blanks else .lineComment) rest
      | .blockComment => skip .blockComment rest

/-- The characters that have a meaning of their own after a backslash. -/
def shortEscape? : Char → Option Char
  | 'b' => some (Char.ofNat 8)
  | 'f' => some (Char.ofNat 12)
  | 'n' => some '\n'
  | 'r' => some '\r'
  | 't' => some '\t'
  | 'v' => some (Char.ofNat 11)
  | '0' => some (Char.ofNat 0)
  | c => if c.isDigit || c == 'x' || c == 'u' then none else some c

/-- A string goes to its closing quote, and a backslash at the end of a line continues it. -/
def readPieces (quote : Char) (pieces : List Json.Piece) :
    List Char → Option (List Json.Piece × List Char)
  | [] => none
  | '\\' :: 'u' :: a :: b :: c :: d :: rest => do
      readPieces quote (.unit (← Text.number? 16 [a, b, c, d]) :: pieces) rest
  | '\\' :: 'x' :: a :: b :: rest => do
      readPieces quote (.char (Char.ofNat (← Text.number? 16 [a, b])) :: pieces) rest
  | '\\' :: '\r' :: '\n' :: rest => readPieces quote pieces rest
  | '\\' :: escaped :: rest =>
      if isLineEnd escaped then readPieces quote pieces rest
      else do readPieces quote (.char (← shortEscape? escaped) :: pieces) rest
  | c :: rest =>
      if c == quote then some (pieces.reverse, rest)
      else if c == '\\' || isLineEnd c then none
      else readPieces quote (.char c :: pieces) rest

def readString (quote : Char) (text : List Char) : Option (String × List Char) := do
  let (pieces, rest) ← readPieces quote [] text
  return (String.ofList (← Json.join? pieces), rest)

def startsName (c : Char) : Bool :=
  c == '$' || c == '_' || (Text.isAlphanumeric c && !c.isDigit)

def continuesName (c : Char) : Bool :=
  startsName c || c.isDigit || c == '\u200c' || c == '\u200d'

/-- A name without quotes. -/
def readName (isFirst : Bool) (pieces : List Json.Piece) :
    List Char → Option (List Json.Piece × List Char)
  | '\\' :: 'u' :: a :: b :: c :: d :: rest => do
      readName false (.unit (← Text.number? 16 [a, b, c, d]) :: pieces) rest
  | c :: rest =>
      if startsName c || (!isFirst && continuesName c) then
        readName false (.char c :: pieces) rest
      else if isFirst then none
      else some (pieces.reverse, c :: rest)
  | [] => if isFirst then none else some (pieces.reverse, [])

def readKey : List Char → Option (String × List Char)
  | [] => none
  | c :: rest =>
      if c == '"' || c == '\'' then readString c rest
      else do
        let (pieces, rest) ← readName true [] (c :: rest)
        return (String.ofList (← Json.join? pieces), rest)

/-- Integers have 64 bits. -/
def integer? (value : Int) : Option Json :=
  if -Int.ofNat (Int64.size / 2) ≤ value && value < Int64.size / 2 then
    some (.number (.integer value))
  else
    none

def float? (text : List Char) : Option Json :=
  match Double.ofText? (String.ofList text) with
  | some (.finite negative magnitude) => some (.number (.float (.finite negative magnitude)))
  | _ => none

/-- Hexadecimal integers have no sign and 32 bits. -/
def hexadecimal? (digits : List Char) : Option Json :=
  match Text.number? 16 digits with
  | some number => if number < UInt32.size then some (.number (.integer number)) else none
  | none => none

def digits (text : List Char) : List Char × List Char := text.span Char.isDigit

/-- The digits before and behind the point, of which one part may be missing. -/
def readMantissa (text : List Char) : Option (List Char × List Char) :=
  match digits text with
  | ([], '.' :: rest) =>
      match digits rest with
      | ([], _) => none
      | (fraction, rest) => some ('.' :: fraction, rest)
  | ([], _) => none
  | (whole, '.' :: rest) =>
      let (fraction, rest) := digits rest
      if whole.head? == some '0' && 1 < whole.length then none
      else some (whole ++ '.' :: fraction, rest)
  | (whole, rest) =>
      if whole.head? == some '0' && 1 < whole.length then none else some (whole, rest)

/-- Without an exponent the text goes on behind the mantissa. -/
def readExponent (text : List Char) : List Char × List Char :=
  match text with
  | c :: rest =>
      if c == 'e' || c == 'E' then
        let (sign, rest) := match rest with
          | '-' :: rest => (['-'], rest)
          | '+' :: rest => ([], rest)
          | rest => ([], rest)
        match digits rest with
        | ([], _) => ([], text)
        | (exponent, rest) => ('e' :: sign ++ exponent, rest)
      else
        ([], text)
  | [] => ([], [])

/-- The sign of an infinity may only be a minus, and no sign changes what is no number. -/
def readNumber (text : List Char) : Option (Json × List Char) := do
  let (sign, unsigned) := match text with
    | '-' :: rest => (some '-', rest)
    | '+' :: rest => (some '+', rest)
    | rest => (none, rest)
  let negative := sign == some '-'
  match unsigned with
  | 'I' :: 'n' :: 'f' :: 'i' :: 'n' :: 'i' :: 't' :: 'y' :: rest =>
      if sign == some '+' then none else return (.number (.float (.infinite negative)), rest)
  | 'N' :: 'a' :: 'N' :: rest =>
      if sign == some '+' then none else return (.number (.float .undefined), rest)
  | '0' :: x :: rest =>
      if (x == 'x' || x == 'X') && rest.head?.any fun c => (Text.hexValue? c).isSome then
        let (hexadecimal, rest) := rest.span fun c => (Text.hexValue? c).isSome
        if sign.isSome then none else return (← hexadecimal? hexadecimal, rest)
      else
        readDecimal negative ('0' :: x :: rest)
  | unsigned => readDecimal negative unsigned
where
  readDecimal (negative : Bool) (unsigned : List Char) : Option (Json × List Char) := do
    let (mantissa, rest) ← readMantissa unsigned
    let (exponent, rest) := readExponent rest
    if mantissa.contains '.' || !exponent.isEmpty then
      return (← float? ((if negative then ['-'] else []) ++ mantissa ++ exponent), rest)
    else
      let number ← Text.decimal? mantissa
      return (← integer? (if negative then -Int.ofNat number else number), rest)

mutual

/-- Lists and objects may have a comma at their end; the fuel bounds the characters that are read.
-/
def readValue : Nat → List Char → Option (Json × List Char)
  | 0, _ => none
  | fuel + 1, text => do
      match ← skip .blanks text with
      | 'n' :: 'u' :: 'l' :: 'l' :: rest => return (.null, rest)
      | 't' :: 'r' :: 'u' :: 'e' :: rest => return (.bool true, rest)
      | 'f' :: 'a' :: 'l' :: 's' :: 'e' :: rest => return (.bool false, rest)
      | '[' :: rest =>
          match ← skip .blanks rest with
          | ']' :: rest => return (.array [], rest)
          | rest =>
              let (elements, rest) ← readElements fuel rest
              return (.array elements, rest)
      | '\x7b' :: rest =>
          match ← skip .blanks rest with
          | '\x7d' :: rest => return (.object [], rest)
          | rest =>
              let (members, rest) ← readMembers fuel rest
              return (.object members, rest)
      | c :: rest =>
          if c == '"' || c == '\'' then
            let (content, rest) ← readString c rest
            return (.string content, rest)
          else
            readNumber (c :: rest)
      | [] => none

def readElements : Nat → List Char → Option (List Json × List Char)
  | 0, _ => none
  | fuel + 1, text => do
      let (element, rest) ← readValue fuel text
      match ← skip .blanks rest with
      | ']' :: rest => return ([element], rest)
      | ',' :: rest =>
          match ← skip .blanks rest with
          | ']' :: rest => return ([element], rest)
          | rest =>
              let (elements, rest) ← readElements fuel rest
              return (element :: elements, rest)
      | _ => none

def readMembers : Nat → List Char → Option (List (String × Json) × List Char)
  | 0, _ => none
  | fuel + 1, text => do
      let (name, rest) ← readKey text
      match ← skip .blanks rest with
      | ':' :: rest =>
          let (value, rest) ← readValue fuel rest
          match ← skip .blanks rest with
          | '\x7d' :: rest => return ([(name, value)], rest)
          | ',' :: rest =>
              match ← skip .blanks rest with
              | '\x7d' :: rest => return ([(name, value)], rest)
              | rest =>
                  let (members, rest) ← readMembers fuel rest
                  return ((name, value) :: members, rest)
          | _ => none
      | _ => none

end

/-- A text is one value with gaps around it. -/
def parse? (text : String) : Option Json := do
  let (value, rest) ← readValue (2 * text.length + 2) text.toList
  if (← skip .blanks rest).isEmpty then some value else none

end Provisioning.Json5
