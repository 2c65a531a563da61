/-
This file reads quoted TOML strings.
-/

import Provisioning.Text.Digits

namespace Provisioning.Toml

/-- Control characters other than the tab stand neither in strings nor in comments. -/
def isPlain (c : Char) : Bool := c == '\t' || (32 ≤ c.toNat && c.toNat != 127)

def isBlank (c : Char) : Bool := c == ' ' || c == '\t'

/-- The character with a hexadecimal code point; surrogates are not characters. -/
def codePoint? (digits : List Char) : Option Char :=
  (Text.number? 16 digits).bind fun code =>
    if code.isValidChar then some (Char.ofNat code) else none

def shortEscape? : Char → Option Char
  | '"' => some '"'
  | '\\' => some '\\'
  | 'b' => some (Char.ofNat 8)
  | 'e' => some (Char.ofNat 27)
  | 'f' => some (Char.ofNat 12)
  | 'n' => some '\n'
  | 'r' => some '\r'
  | 't' => some '\t'
  | _ => none

/-- The character that is written after a backslash. -/
def readEscape : List Char → Option (Char × List Char)
  | 'x' :: a :: b :: rest => (codePoint? [a, b]).map fun c => (c, rest)
  | 'u' :: a :: b :: c :: d :: rest => (codePoint? [a, b, c, d]).map fun c => (c, rest)
  | 'U' :: a :: b :: c :: d :: e :: f :: g :: h :: rest =>
      (codePoint? [a, b, c, d, e, f, g, h]).map fun c => (c, rest)
  | escaped :: rest => (shortEscape? escaped).map fun c => (c, rest)
  | [] => none

/-- The text up to a quotation mark; the fuel bounds its characters. -/
def readBasic : Nat → List Char → Option (List Char × List Char)
  | 0, _ => none
  | _, [] => none
  | fuel + 1, c :: rest =>
      if c == '"' then
        some ([], rest)
      else if c == '\\' then do
        let (escaped, rest) ← readEscape rest
        let (text, rest) ← readBasic fuel rest
        return (escaped :: text, rest)
      else if isPlain c then do
        let (text, rest) ← readBasic fuel rest
        return (c :: text, rest)
      else
        none

/-- The text up to an apostrophe stands for itself. -/
def readLiteral : List Char → Option (List Char × List Char)
  | [] => none
  | c :: rest =>
      if c == '\'' then some ([], rest)
      else if isPlain c then (readLiteral rest).map fun read => (c :: read.1, read.2)
      else none

/-- A line ends with a line feed, and a carriage return may precede it. -/
def lineEnd? : List Char → Option (List Char)
  | '\n' :: rest => some rest
  | '\r' :: '\n' :: rest => some rest
  | _ => none

/-- A line end right after the opening marks is not part of the text. -/
def dropLineEnd (text : List Char) : List Char := (lineEnd? text).getD text

def skipBlankLines : List Char → List Char
  | ' ' :: rest => skipBlankLines rest
  | '\t' :: rest => skipBlankLines rest
  | '\n' :: rest => skipBlankLines rest
  | '\r' :: '\n' :: rest => skipBlankLines rest
  | rest => rest

/-- After a backslash at the end of a line, the text goes on at the next character that is not
blank. -/
def continuation? (text : List Char) : Option (List Char) :=
  (lineEnd? (text.dropWhile isBlank)).map skipBlankLines

/-- Three marks close a text, and up to two marks before them belong to it. -/
def closing? (mark : Char) : List Char → Option (List Char × List Char)
  | a :: b :: c :: rest =>
      if a == mark && b == mark && c == mark then
        let more := (rest.take 2).takeWhile (· == mark)
        some (more, rest.drop more.length)
      else
        none
  | _ => none

/-- The text of several lines up to three quotation marks; the fuel bounds its characters. -/
def readBasicLines : Nat → List Char → Option (List Char × List Char)
  | 0, _ => none
  | _, [] => none
  | fuel + 1, c :: rest =>
      match closing? '"' (c :: rest) with
      | some read => some read
      | none =>
          if c == '\\' then
            match continuation? rest with
            | some rest => readBasicLines fuel rest
            | none => do
                let (escaped, rest) ← readEscape rest
                let (text, rest) ← readBasicLines fuel rest
                return (escaped :: text, rest)
          else if isPlain c || (lineEnd? (c :: rest)).isSome then do
            let (text, rest) ← readBasicLines fuel rest
            return (c :: text, rest)
          else
            none

/-- The text of several lines up to three apostrophes stands for itself. -/
def readLiteralLines : List Char → Option (List Char × List Char)
  | [] => none
  | c :: rest =>
      match closing? '\'' (c :: rest) with
      | some read => some read
      | none =>
          if isPlain c || (lineEnd? (c :: rest)).isSome then
            (readLiteralLines rest).map fun read => (c :: read.1, read.2)
          else
            none

/-- A quoted text on one line. -/
def readQuoted : List Char → Option (List Char × List Char)
  | '"' :: rest => readBasic rest.length rest
  | '\'' :: rest => readLiteral rest
  | _ => none

/-- A quoted text, on one line or on several. -/
def readString : List Char → Option (List Char × List Char)
  | '"' :: '"' :: '"' :: rest => readBasicLines rest.length (dropLineEnd rest)
  | '\'' :: '\'' :: '\'' :: rest => readLiteralLines (dropLineEnd rest)
  | text => readQuoted text

end Provisioning.Toml
