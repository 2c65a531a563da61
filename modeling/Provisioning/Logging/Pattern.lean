/-
This file decides which texts are patterns for the values of fields.
-/

import Provisioning.Text.Alphanumeric
import Provisioning.Text.Blank
import Provisioning.Text.Digits
import Provisioning.Text.Split

namespace Provisioning.Logging.Pattern

/-- How the characters of a pattern are taken. -/
structure Flags where
  ignoresCase : Bool := false
  /-- Characters are those of Unicode; otherwise they are the first 128. -/
  isUnicode : Bool := true
  /-- Blanks and comments do not count. -/
  isSpaced : Bool := false

/-- Comments start with a number sign and end with the line. -/
def skipSpace (inComment : Bool) : List Char → List Char
  | [] => []
  | c :: rest =>
      if inComment then skipSpace (c != '\n') rest
      else if c == '#' then skipSpace true rest
      else if Text.isBlank c then skipSpace false rest
      else c :: rest

def skip (flags : Flags) (text : List Char) : List Char :=
  if flags.isSpaced then skipSpace false text else text

/-- What a backslash and the characters after it stand for. -/
inductive Escape where
  | literal (c : Char)
  /-- A class of characters that is known by a letter. -/
  | shorthand (negated : Bool)
  /-- The start or the end of the text. -/
  | edge
  /-- The start or the end of a word, or a place that is neither. -/
  | wordBoundary

/-- A character by the number of hexadecimal digits of its code. -/
def readCode (length : Nat) (text : List Char) : Option (Escape × List Char) := do
  let digits := text.take length
  let code ← Text.number? 16 digits
  if digits.length == length && code.isValidChar then
    return (.literal (Char.ofNat code), text.drop length)
  else
    none

/-- Letters and digits stand for themselves only without a backslash. -/
def readEscape : List Char → Option (Escape × List Char)
  | [] => none
  | c :: rest =>
      match c with
      | 'x' => readCode 2 rest
      | 'u' => readCode 4 rest
      | 'U' => readCode 8 rest
      | 'd' | 's' | 'w' => some (.shorthand false, rest)
      | 'D' | 'S' | 'W' => some (.shorthand true, rest)
      | 'a' => some (.literal (Char.ofNat 7), rest)
      | 'f' => some (.literal (Char.ofNat 12), rest)
      | 't' => some (.literal '\t', rest)
      | 'n' => some (.literal '\n', rest)
      | 'r' => some (.literal '\r', rest)
      | 'v' => some (.literal (Char.ofNat 11), rest)
      | 'A' | 'z' => some (.edge, rest)
      | 'b' | 'B' | '<' | '>' => some (.wordBoundary, rest)
      | c => if c.toNat < 128 && !c.isAlphanum then some (.literal c, rest) else none

/-- There are no tables of Unicode for the case of letters and for classes that have names. -/
def allowsLiteral (flags : Flags) (c : Char) : Bool :=
  if flags.isUnicode then !flags.ignoresCase else c.toNat < 128

def allowsEscape (flags : Flags) : Escape → Bool
  | .literal c => allowsLiteral flags c
  | .shorthand negated => !flags.isUnicode && !negated
  | .edge => true
  | .wordBoundary => !flags.isUnicode

/-! Classes in brackets. -/

def namedClasses : List String :=
  ["alnum", "alpha", "ascii", "blank", "cntrl", "digit", "graph", "lower", "print", "punct",
    "space", "upper", "word", "xdigit"]

/-- The rest after a named class, and whether the class is negated. -/
def readNamedClass : List Char → Option (Bool × List Char)
  | '[' :: ':' :: rest =>
      let (negated, rest) := match rest with
        | '^' :: rest => (true, rest)
        | rest => (false, rest)
      match rest.span (· != ':') with
      | (name, ':' :: ']' :: rest) =>
          if namedClasses.contains (String.ofList name) then some (negated, rest) else none
      | _ => none
  | _ => none

/-- An element of a class is a character or an escape. -/
def readElement : List Char → Option (Escape × List Char)
  | [] => none
  | '\\' :: rest => readEscape rest
  | c :: rest => some (.literal c, rest)

/-- Hyphens at the start are elements; the fuel bounds their number. -/
def skipHyphens (flags : Flags) : Nat → List Char → List Char
  | fuel + 1, '-' :: rest => skipHyphens flags fuel (skip flags rest)
  | _, text => text

/-- A closing bracket that comes first is an element. -/
def skipFirst (flags : Flags) : List Char → List Char
  | ']' :: rest => rest
  | text => skipHyphens flags text.length text

/-- The text after an opening bracket and the start of its class. A class that is negated holds more
than the first 128 characters. -/
def openClass (flags : Flags) (text : List Char) : Option (List Char) :=
  match skip flags text with
  | '^' :: rest => if flags.isUnicode then some (skipFirst flags (skip flags rest)) else none
  | text => some (skipFirst flags text)

/-- Whether a hyphen makes a range of the elements around it. -/
def isRange (flags : Flags) : List Char → Bool
  | '-' :: rest =>
      match skip flags rest with
      | ']' :: _ => false
      | '-' :: _ => false
      | _ => true
  | _ => false

/-- A range does not go backwards and lies between characters. -/
def readRange (flags : Flags) (text : List Char) : Option (List Char) := do
  let (first, rest) ← readElement text
  let rest := skip flags rest
  if isRange flags rest then
    let (last, rest) ← readElement (skip flags (rest.drop 1))
    match first, last with
    | .literal first, .literal last =>
        if first ≤ last && (flags.isUnicode || last.toNat < 128) then some rest else none
    | _, _ => none
  else
    match first with
    | .literal c => if flags.isUnicode || c.toNat < 128 then some rest else none
    | .shorthand negated => if allowsEscape flags (.shorthand negated) then some rest else none
    | _ => none

/-- The text after the brackets that are open; classes may be combined by doubled signs. The fuel
bounds the elements. -/
def readClass (flags : Flags) : Nat → Nat → List Char → Option (List Char)
  | 0, _, _ => none
  | fuel + 1, opened, text =>
      match skip flags text with
      | [] => none
      | '[' :: rest =>
          match readNamedClass ('[' :: rest) with
          | some (negated, rest) =>
              if negated && !flags.isUnicode then none else readClass flags fuel opened rest
          | none => (openClass flags rest).bind (readClass flags fuel (opened + 1))
      | ']' :: rest => if opened == 0 then some rest else readClass flags fuel (opened - 1) rest
      | '&' :: '&' :: rest => readClass flags fuel opened rest
      | '-' :: '-' :: rest => readClass flags fuel opened rest
      | '~' :: '~' :: rest => readClass flags fuel opened rest
      | text => (readRange flags text).bind (readClass flags fuel opened)

/-! Groups. -/

def isGroupNameChar (isFirst : Bool) (c : Char) : Bool :=
  c == '_' || (Text.isAlphanumeric c && !(isFirst && c.isDigit)) ||
    (!isFirst && (c == '.' || c == '[' || c == ']'))

/-- A group has a name that no other group has. -/
def readGroupName (names : List (List Char)) (text : List Char) :
    Option (List (List Char) × List Char) :=
  match Text.cutChars? '>' text with
  | some (first :: others, rest) =>
      let name := first :: others
      if isGroupNameChar true first && others.all (isGroupNameChar false) &&
          !names.contains name then
        some (name :: names, rest)
      else
        none
  | _ => none

def flagLetters : List Char := ['i', 'm', 's', 'U', 'u', 'R', 'x']

/-- A flag is set once, and a single hyphen turns the flags after it off. -/
def setFlags (flags : Flags) (word : List Char) : Option Flags :=
  let (on, off) := match Text.cutChars? '-' word with
    | some (on, off) => (on, some off)
    | none => (word, none)
  let letters := on ++ off.getD []
  let has := fun (letter : Char) (before : Bool) =>
    if on.contains letter then true
    else if (off.getD []).contains letter then false
    else before
  if letters.all flagLetters.contains && letters.Nodup && off != some [] then
    some ⟨has 'i' flags.ignoresCase, has 'u' flags.isUnicode, has 'x' flags.isSpaced⟩
  else
    none

/-- How a group starts. -/
inductive Opening where
  | group (flags : Flags) (names : List (List Char))
  /-- There is no group, and the flags are set for what follows. -/
  | flags (flags : Flags)

def isFlagEnd (c : Char) : Bool := c == ':' || c == ')'

/-- Looking around is not possible. -/
def readOpening (flags : Flags) (names : List (List Char)) (text : List Char) :
    Option (Opening × List Char) :=
  match skip flags text with
  | '?' :: 'P' :: '<' :: rest => do
      let (names, rest) ← readGroupName names rest
      return (.group flags names, rest)
  | '?' :: '<' :: rest => do
      let (names, rest) ← readGroupName names rest
      return (.group flags names, rest)
  | '?' :: rest =>
      match rest.span fun c => !isFlagEnd c with
      | (word, ':' :: rest) => do return (.group (← setFlags flags word) names, rest)
      | ([], _) => none
      | (word, ')' :: rest) => do return (.flags (← setFlags flags word), rest)
      | _ => none
  | rest => some (.group flags names, rest)

def skipLazy : List Char → List Char
  | '?' :: rest => rest
  | text => text

/-- The text after the end of a group, or the end of the whole, with the names of the groups. What
comes last may be repeated, unless nothing came yet or the last were flags. Counts need a closing
brace, which ends the fields before the pattern does. The fuel bounds the parts. -/
def readParts : Nat → Flags → Bool → Bool → List (List Char) → List Char →
    Option (List (List Char) × List Char)
  | 0, _, _, _, _, _ => none
  | fuel + 1, flags, inGroup, repeatable, names, text =>
      match skip flags text with
      | [] => if inGroup then none else some (names, [])
      | c :: rest =>
          match c with
          | ')' => if inGroup then some (names, rest) else none
          | '|' => readParts fuel flags inGroup false names rest
          | '?' | '*' | '+' =>
              if repeatable then readParts fuel flags inGroup true names (skipLazy rest) else none
          | '\x7b' => none
          | '[' => do
              let rest ← readClass flags (rest.length + 1) 0 (← openClass flags rest)
              if flags.isUnicode && flags.ignoresCase then none
              else readParts fuel flags inGroup true names rest
          | '(' => do
              match ← readOpening flags names rest with
              | (.flags flags, rest) => readParts fuel flags inGroup false names rest
              | (.group inner names, rest) =>
                  let (names, rest) ← readParts fuel inner true false names rest
                  readParts fuel flags inGroup true names rest
          | '\\' => do
              let (escape, rest) ← readEscape rest
              if allowsEscape flags escape then readParts fuel flags inGroup true names rest
              else none
          | '.' => if flags.isUnicode then readParts fuel flags inGroup true names rest else none
          | '^' | '$' => readParts fuel flags inGroup true names rest
          | c =>
              if allowsLiteral flags c then readParts fuel flags inGroup true names rest else none

def isPattern (text : List Char) : Bool :=
  (readParts (text.length + 1) {} false false [] text).isSome

end Provisioning.Logging.Pattern
