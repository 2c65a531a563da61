/-
This file reads settings that are written in the RON format.
-/

import Provisioning.Settings.Value
import Provisioning.Text.Split

namespace Provisioning.Ron

def isBlank (c : Char) : Bool :=
  c == ' ' || c == '\t' || c == '\n' || c == '\r' || c == '\u000b' || c == '\u000c' ||
    c == '\u0085' || c == '\u200e' || c == '\u200f' || c == '\u2028' || c == '\u2029'

/-- Comments between stars and slashes may be nested, and the first number counts those that are
open. Line comments reach to the end of the line. -/
def skip (opened : Nat) (inLine : Bool) : List Char → Option (List Char)
  | [] => if opened == 0 then some [] else none
  | '/' :: '/' :: rest =>
      if inLine || 0 < opened then skip opened inLine ('/' :: rest) else skip 0 true rest
  | '/' :: '*' :: rest =>
      if inLine then skip opened true ('*' :: rest) else skip (opened + 1) false rest
  | '*' :: '/' :: rest =>
      if inLine then skip opened true ('/' :: rest)
      else if opened == 0 then some ('*' :: '/' :: rest)
      else skip (opened - 1) false rest
  | c :: rest =>
      if inLine then skip opened (c != '\n') rest
      else if 0 < opened || isBlank c then skip opened false rest
      else some (c :: rest)

def skipGap (text : List Char) : Option (List Char) := skip 0 false text

def startsName (c : Char) : Bool := c.isAlpha || c == '_'

def continuesName (c : Char) : Bool := c.isAlphanum || c == '_'

/-- A name, which may be marked as such. The mark of a string that holds no escapes is no name. -/
def readName : List Char → Option (List Char × List Char)
  | 'r' :: '"' :: _ => none
  | 'r' :: '#' :: rest =>
      match rest.span continuesName with
      | ([], _) => none
      | read => some read
  | c :: rest =>
      if startsName c then
        let (name, rest) := rest.span continuesName
        some (c :: name, rest)
      else
        none
  | [] => none

/-- The character that an escape stands for. -/
def readEscape : List Char → Option (Char × List Char)
  | '\'' :: rest => some ('\'', rest)
  | '"' :: rest => some ('"', rest)
  | '\\' :: rest => some ('\\', rest)
  | 'n' :: rest => some ('\n', rest)
  | 'r' :: rest => some ('\r', rest)
  | 't' :: rest => some ('\t', rest)
  | '0' :: rest => some (Char.ofNat 0, rest)
  | 'x' :: a :: b :: rest => (Text.number? 16 [a, b]).map fun code => (Char.ofNat code, rest)
  | 'u' :: '\x7b' :: rest => do
      let (digits, rest) := rest.span fun c => c != '\x7d'
      let code ← Text.number? 16 digits
      if 0 < digits.length && digits.length ≤ 6 && code.isValidChar then
        return (Char.ofNat code, rest.drop 1)
      else
        none
  | _ => none

/-- A string goes to its closing quote; the fuel bounds its characters. -/
def readString : Nat → List Char → Option (List Char × List Char)
  | 0, _ => none
  | fuel + 1, text =>
      match text with
      | [] => none
      | '"' :: rest => some ([], rest)
      | '\\' :: rest => do
          let (c, rest) ← readEscape rest
          let (content, rest) ← readString fuel rest
          return (c :: content, rest)
      | c :: rest => (readString fuel rest).map fun read => (c :: read.1, read.2)

/-- A string without escapes ends with a quote and as many signs as stand before it. -/
def readRaw (signs : Nat) : List Char → Option (List Char × List Char)
  | [] => none
  | c :: rest =>
      if c == '"' && (rest.take signs == List.replicate signs '#') then some ([], rest.drop signs)
      else (readRaw signs rest).map fun read => (c :: read.1, read.2)

/-- A string after its first quote, or after the mark that it holds no escapes. -/
def readText : List Char → Option (String × List Char)
  | '"' :: rest =>
      (readString (rest.length + 1) rest).map fun read => (String.ofList read.1, read.2)
  | 'r' :: rest =>
      match rest.span (· == '#') with
      | (signs, '"' :: rest) =>
          (readRaw signs.length rest).map fun read => (String.ofList read.1, read.2)
      | _ => none
  | _ => none

def readChar : List Char → Option (String × List Char)
  | '\\' :: rest => do
      match ← readEscape rest with
      | (c, '\'' :: rest) => return (String.singleton c, rest)
      | _ => none
  | c :: '\'' :: rest => if c == '\'' then none else some (String.singleton c, rest)
  | _ => none

/-- Integers have 64 bits, with or without a sign. -/
def integer? (negative : Bool) (number : Nat) : Option Setting :=
  if negative then
    if number ≤ Int64.size / 2 then some (.integer (-Int.ofNat number)) else none
  else
    if number < UInt64.size then some (.integer number) else none

/-- The digits of a number in a base, which underscores may hold apart but not start. -/
def inBase? (base : Nat) (digits : List Char) : Option Nat :=
  match digits.filter (· != '_') with
  | [] => none
  | written => if digits.head? == some '_' then none else Text.number? base written

def isNumberChar (c : Char) : Bool := c.isAlphanum || c == '_' || c == '.' || c == '+' || c == '-'

/-- The characters of a number; a sign stands only before it or its exponent. -/
def readWord (afterExponent : Bool) : List Char → List Char × List Char
  | [] => ([], [])
  | c :: rest =>
      let isSign := c == '+' || c == '-'
      if isNumberChar c && (!isSign || afterExponent) then
        let (word, rest) := readWord (c == 'e' || c == 'E') rest
        (c :: word, rest)
      else
        ([], c :: rest)

def number? (negative : Bool) (word : List Char) : Option Setting := do
  match word with
  | ['i', 'n', 'f'] => return .float (.infinite negative)
  | ['N', 'a', 'N'] => return .float .undefined
  | '0' :: 'x' :: digits => integer? negative (← inBase? 16 digits)
  | '0' :: 'o' :: digits => integer? negative (← inBase? 8 digits)
  | '0' :: 'b' :: digits => integer? negative (← inBase? 2 digits)
  | word =>
      if word.any fun c => c == '.' || c == 'e' || c == 'E' then
        let mantissa ← Double.decimal? (word.filter (· != '_'))
        if word.head? == some '_' then none else return .float (.ofDecimal negative mantissa)
      else
        integer? negative (← inBase? 10 word)

def readNumber (text : List Char) : Option (Setting × List Char) := do
  let (negative, unsigned) := match text with
    | '-' :: rest => (true, rest)
    | '+' :: rest => (false, rest)
    | rest => (false, rest)
  let (word, rest) := readWord false unsigned
  return (← number? negative word, rest)

/-- Keys of maps are texts. -/
def keyOf : Setting → Option String
  | .text name => some name
  | _ => none

/-- Whether a name and a colon come first, so that fields have names. -/
def hasFieldName (text : List Char) : Bool :=
  ((do
    let (_, rest) ← readName text
    let rest ← skipGap rest
    return rest.head? == some ':') : Option Bool).getD false

/-- What may come between elements. -/
def readSeparator (close : Char) (text : List Char) : Option (Bool × List Char) := do
  match ← skipGap text with
  | [] => none
  | c :: rest =>
      if c == close then return (true, rest)
      else if c == ',' then
        match ← skipGap rest with
        | [] => none
        | c :: rest => return if c == close then (true, rest) else (false, c :: rest)
      else
        none

/-- How the entries of a table name their values. -/
inductive Naming where
  /-- Any text is a key of a map. -/
  | keys
  /-- Fields of a record have bare names. -/
  | fields

def Naming.close : Naming → Char
  | keys => '\x7d'
  | fields => ')'

mutual

/-- A value without a mark of its kind is a number. A name alone is nothing, and before parentheses
it does not matter. The fuel bounds the characters that are read. -/
def readValue : Nat → List Char → Option (Setting × List Char)
  | 0, _ => none
  | fuel + 1, text => do
      let text ← skipGap text
      match text with
      | '[' :: rest =>
          let (elements, rest) ← readElements fuel ']' rest
          return (.list elements, rest)
      | '\x7b' :: rest =>
          let (entries, rest) ← readEntries fuel .keys [] rest
          return (.table entries, rest)
      | '(' :: rest => readParentheses fuel rest
      | '\'' :: rest =>
          let (content, rest) ← readChar rest
          return (.text content, rest)
      | text =>
          match readText text with
          | some (content, rest) => return (.text content, rest)
          | none =>
              match readName text with
              | none => readNumber text
              | some (name, rest) =>
                  match String.ofList name with
                  | "true" => return (.flag true, rest)
                  | "false" => return (.flag false, rest)
                  | "inf" => return (.float (.infinite false), rest)
                  | "NaN" => return (.float .undefined, rest)
                  | "None" => return (.nothing, rest)
                  | "Some" =>
                      match ← skipGap rest with
                      | '(' :: rest =>
                          let (value, rest) ← readValue fuel rest
                          match ← readSeparator ')' rest with
                          | (true, rest) => return (value, rest)
                          | _ => none
                      | rest => return (.nothing, rest)
                  | _ =>
                      match ← skipGap rest with
                      | '(' :: rest => readParentheses fuel rest
                      | _ => return (.nothing, rest)

/-- Parentheses hold nothing, the fields of a record, or elements. -/
def readParentheses : Nat → List Char → Option (Setting × List Char)
  | 0, _ => none
  | fuel + 1, text => do
      match ← skipGap text with
      | ')' :: rest => return (.nothing, rest)
      | text =>
          if hasFieldName text then
            let (entries, rest) ← readEntries fuel .fields [] text
            return (.table entries, rest)
          else
            let (elements, rest) ← readElements fuel ')' text
            return (.list elements, rest)

def readElements : Nat → Char → List Char → Option (List Setting × List Char)
  | 0, _, _ => none
  | fuel + 1, close, text => do
      let text ← skipGap text
      if text.head? == some close then
        return ([], text.drop 1)
      else
        let (element, rest) ← readValue fuel text
        match ← readSeparator close rest with
        | (true, rest) => return ([element], rest)
        | (false, rest) =>
            let (elements, rest) ← readElements fuel close rest
            return (element :: elements, rest)

/-- The entries are put into a table one after the other. -/
def readEntries : Nat → Naming → List (String × Setting) → List Char →
    Option (List (String × Setting) × List Char)
  | 0, _, _, _ => none
  | fuel + 1, naming, entries, text => do
      let text ← skipGap text
      if text.head? == some naming.close then
        return (entries, text.drop 1)
      else
        let (name, rest) ← match naming with
          | .fields => (readName text).map fun read => (String.ofList read.1, read.2)
          | .keys => do
              let (key, rest) ← readValue fuel text
              pure (← keyOf key, rest)
        match ← skipGap rest with
        | ':' :: rest =>
            let (value, rest) ← readValue fuel rest
            let entries := OrderedMap.put name value entries
            match ← readSeparator naming.close rest with
            | (true, rest) => return (entries, rest)
            | (false, rest) => readEntries fuel naming entries rest
        | _ => none

end

/-- The names of extensions that a document may enable. -/
def extensions : List String :=
  ["unwrap_newtypes", "implicit_some", "unwrap_variant_newtypes", "explicit_struct_names"]

/-- A document may start with the extensions that it enables, and none changes what settings are. -/
def skipExtensions (text : List Char) : Option (List Char) := do
  let text ← skipGap text
  match text with
  | '#' :: '!' :: '[' :: rest =>
      let (inner, rest) := rest.span (· != ']')
      let (word, names) ← Text.cutChars? '(' (inner.filter fun c => !isBlank c)
      let names := (Text.piecesOf ',' names.dropLast).map String.ofList
      if word == "enable".toList && rest.head? == some ']' &&
          names.all fun name => name.isEmpty || extensions.contains name then
        some (rest.drop 1)
      else
        none
  | text => some text

/-- A text is one value with gaps around it. -/
def parse? (text : String) : Option Setting := do
  let start ← skipExtensions text.toList
  let (value, rest) ← readValue (3 * text.length + 3) start
  if (← skipGap rest).isEmpty then some value else none

end Provisioning.Ron
