/-
This file reads INI documents, which are keys with texts, and sections of them.
-/

import Provisioning.Text.Blank
import Provisioning.Text.Digits

namespace Provisioning.Ini

/-- A document is a row of section names and keys with their texts. -/
inductive Item where
  | header (name : String)
  | assignment (key value : String)
deriving DecidableEq, Repr

def escapeOf : Char → Option Char
  | '0' => some (Char.ofNat 0)
  | 'a' => some (Char.ofNat 7)
  | 'b' => some (Char.ofNat 8)
  | 't' => some '\t'
  | 'r' => some '\r'
  | 'n' => some '\n'
  | '\n' => none
  | c => some c

/-- The text up to a sign that ends it, with the rest from that sign on. A backslash takes the
meaning from the sign after it or gives it one, and at the end of a line it continues the line. -/
def readUntil (isEnd : Char → Bool) (mayEnd : Bool) : List Char → Option (List Char × List Char)
  | [] => if mayEnd then some ([], []) else none
  | '\\' :: 'x' :: a :: b :: c :: d :: rest =>
      match Text.number? 16 [a, b, c, d] with
      | some code =>
          if code.isValidChar then
            (readUntil isEnd mayEnd rest).map fun read => (Char.ofNat code :: read.1, read.2)
          else
            none
      | none => none
  | '\\' :: escaped :: rest =>
      if escaped == 'x' then none
      else
        (readUntil isEnd mayEnd rest).map fun read => ((escapeOf escaped).toList ++ read.1, read.2)
  | c :: rest =>
      if isEnd c then some ([], c :: rest)
      else if c == '\\' then none
      else (readUntil isEnd mayEnd rest).map fun read => (c :: read.1, read.2)

def isLineEnd (c : Char) : Bool := c == '\n' || c == '\r'

/-- Blanks may end a line, and what follows them may start one. -/
def skipBlanks (atStart : Bool) : List Char → Bool × List Char
  | [] => (atStart, [])
  | c :: rest => if Text.isBlank c then skipBlanks (c == '\n') rest else (atStart, c :: rest)

def skipLine (text : List Char) : List Char := (text.dropWhile (· != '\n')).drop 1

def trimEnd (text : List Char) : List Char := (text.reverse.dropWhile Text.isBlank).reverse

/-- A value is quoted parts and then a plain one, without the blanks around it. The fuel bounds the
parts. -/
def readValue (isFirst : Bool) : Nat → List Char → Option (List Char × List Char)
  | 0, _ => none
  | fuel + 1, text => do
      match text with
      | [] => return ([], [])
      | c :: rest =>
          if c == '"' || c == '\'' then
            let (quoted, rest) ← readUntil (· == c) false rest
            let (more, rest) ← readValue false fuel (rest.drop 1)
            return (quoted ++ more, rest)
          else
            let (plain, rest) ← readUntil isLineEnd true (c :: rest)
            return (if isFirst then Text.trimChars plain else trimEnd plain, rest)

def trimmed (text : List Char) : String := String.ofList (Text.trimChars text)

/-- A comment starts at the start of a line. Keys may be spread over lines, while values end with
theirs. The fuel bounds the items and comments. -/
def readItems : Nat → Bool → List Char → Option (List Item)
  | 0, _, _ => none
  | fuel + 1, atStart, text =>
      match skipBlanks atStart text with
      | (_, []) => some []
      | (atStart, c :: rest) =>
          if c == ';' || c == '#' then
            if atStart then readItems fuel true (skipLine rest) else none
          else if c == '[' then do
            let (name, rest) ← readUntil (· == ']') false rest
            return .header (trimmed name) :: (← readItems fuel false (rest.drop 1))
          else do
            let (key, rest) ← readUntil (fun c => c == '=' || c == ':') false (c :: rest)
            if key.all Text.isBlank then none
            let rest := (rest.drop 1).dropWhile fun c => Text.isBlank c && !isLineEnd c
            let (value, rest) ← readValue true (rest.length + 1) rest
            return .assignment (trimmed key) (String.ofList value) ::
              (← readItems fuel false rest)

def parse? (text : String) : Option (List Item) :=
  readItems (text.length + 1) true text.toList

end Provisioning.Ini
