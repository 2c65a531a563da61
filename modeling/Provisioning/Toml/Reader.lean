/-
This file reads TOML documents from their text.
-/

import Provisioning.Toml.Quoted
import Provisioning.Toml.Scalar
import Provisioning.Toml.Table

namespace Provisioning.Toml

def skipBlanks (text : List Char) : List Char := text.dropWhile isBlank

/-- Blanks, line ends and comments are skipped as long as comments are well-formed. -/
def skipTrivia (inComment : Bool) : List Char → Option (List Char)
  | [] => some []
  | '\n' :: rest => skipTrivia false rest
  | '\r' :: '\n' :: rest => skipTrivia false rest
  | c :: rest =>
      if inComment then
        if isPlain c then skipTrivia true rest else none
      else if c == '#' then
        skipTrivia true rest
      else if isBlank c then
        skipTrivia false rest
      else
        some (c :: rest)

/-- Only a comment may follow on the same line. -/
def endLine : List Char → Option (List Char)
  | [] => some []
  | '#' :: rest => some ('#' :: rest)
  | text => lineEnd? text

def isBareKeyChar (c : Char) : Bool := c.isAlphanum || c == '-' || c == '_'

def readSimpleKey : List Char → Option (String × List Char)
  | '"' :: '"' :: '"' :: _ => none
  | '\'' :: '\'' :: '\'' :: _ => none
  | text =>
      match readQuoted text with
      | some (key, rest) => some (String.ofList key, rest)
      | none =>
          match text.span isBareKeyChar with
          | ([], _) => none
          | (key, rest) => some (String.ofList key, rest)

/-- Blanks may stand around the dots and after the key; the fuel bounds the parts. -/
def readKey : Nat → List Char → Option (Key × List Char)
  | 0, _ => none
  | fuel + 1, text => do
      let (name, rest) ← readSimpleKey text
      match skipBlanks rest with
      | '.' :: rest =>
          let (key, rest) ← readKey fuel (skipBlanks rest)
          return ({ key with parents := name :: key.parents }, rest)
      | rest => return (⟨[], name⟩, rest)

/-- A key and its value, with what is skipped around the equals sign. -/
def readAssignment (skip : List Char → Option (List Char))
    (readValue : List Char → Option (Toml × List Char)) (text : List Char) :
    Option ((Key × Toml) × List Char) := do
  let (key, rest) ← readKey text.length text
  match ← skip rest with
  | '=' :: rest =>
      let (value, rest) ← readValue (← skip rest)
      return ((key, value), rest)
  | _ => none

/-- Items are held apart by commas, and the last one may have a comma too; the fuel bounds their
number. -/
def readItems {Item : Type} (readItem : List Char → Option (Item × List Char)) (close : Char) :
    Nat → List Char → Option (List Item × List Char)
  | 0, _ => none
  | fuel + 1, text => do
      match ← skipTrivia false text with
      | [] => none
      | c :: rest =>
          if c == close then
            return ([], rest)
          else
            let (item, rest) ← readItem (c :: rest)
            match ← skipTrivia false rest with
            | [] => none
            | c :: rest =>
                if c == close then
                  return ([item], rest)
                else if c == ',' then
                  let (items, rest) ← readItems readItem close fuel rest
                  return (item :: items, rest)
                else
                  none

def readUnnested (text : List Char) : Option (Toml × List Char) :=
  match readString text with
  | some (read, rest) => some (string (String.ofList read), rest)
  | none => readScalar text

/-- The number bounds the nesting of arrays and inline tables. -/
def readValue : Nat → List Char → Option (Toml × List Char)
  | 0, text => readUnnested text
  | depth + 1, text =>
      match text with
      | '[' :: rest =>
          (readItems (readValue depth) ']' (rest.length + 1) rest).map fun read =>
            (array read.1, read.2)
      | '\x7b' :: rest => do
          let (assignments, rest) ←
            readItems (readAssignment (skipTrivia false) (readValue depth)) '\x7d'
              (rest.length + 1) rest
          return (← ofAssignments? assignments, rest)
      | _ => readUnnested text

/-- Arrays and inline tables nest no deeper. -/
def deepest : Nat := 79

/-- A line of a document. -/
inductive Line where
  | assignment (key : Key) (value : Toml)
  | header (key : Key) (isElement : Bool)

def readHeader : List Char → Option (Line × List Char)
  | '[' :: '[' :: rest => do
      let (key, rest) ← readKey rest.length (skipBlanks rest)
      match rest with
      | ']' :: ']' :: rest => return (.header key true, rest)
      | _ => none
  | '[' :: rest => do
      let (key, rest) ← readKey rest.length (skipBlanks rest)
      match rest with
      | ']' :: rest => return (.header key false, rest)
      | _ => none
  | _ => none

def readLine (text : List Char) : Option (Line × List Char) :=
  match text with
  | '[' :: _ => readHeader text
  | _ =>
      let skip := fun rest => some (skipBlanks rest)
      (readAssignment skip (readValue deepest) text).map fun read =>
        (.assignment read.1.1 read.1.2, read.2)

/-- The fuel bounds the number of lines. -/
def readLines : Nat → List Char → Option (List Line)
  | 0, _ => none
  | fuel + 1, text => do
      match ← skipTrivia false text with
      | [] => return []
      | text =>
          let (line, rest) ← readLine text
          return line :: (← readLines fuel (← endLine (skipBlanks rest)))

/-- The assignments up to the first header, and then the sections. -/
def sectioned : List Line → List (Key × Toml) × List Section
  | [] => ([], [])
  | .assignment key value :: rest =>
      let (assignments, sections) := sectioned rest
      ((key, value) :: assignments, sections)
  | .header key isElement :: rest =>
      let (assignments, sections) := sectioned rest
      ([], ⟨key, isElement, assignments⟩ :: sections)

/-- A mark of the byte order at the start is not part of the document. -/
def dropMark : List Char → List Char
  | '\ufeff' :: rest => rest
  | text => text

/-- The table of a document, if the text is well-formed and defines nothing twice. -/
def parse? (text : String) : Option Toml := do
  let lines ← readLines (text.length + 1) (dropMark text.toList)
  let (assignments, sections) := sectioned lines
  ofSections? assignments sections

end Provisioning.Toml
