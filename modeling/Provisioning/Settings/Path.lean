/-
This file reads the names of settings as paths.
-/

import Provisioning.Text.Digits

namespace Provisioning

/-- A step leads to an entry of a table or to an element of a list. -/
inductive Step where
  | key (name : String)
  /-- Negative positions count from the end. -/
  | position (position : Int)
deriving DecidableEq, Repr

namespace Step

def isNameChar (c : Char) : Bool := c.isAlphanum || c == '_' || c == '-'

def readName (text : List Char) : Option (Step × List Char) :=
  match text.span isNameChar with
  | ([], _) => none
  | (name, rest) => some (key (String.ofList name), rest)

def skipBlanks (text : List Char) : List Char := text.dropWhile fun c => c == ' ' || c == '\t'

/-- A position that fits into 64 bits and the bracket behind it. -/
def readPosition (text : List Char) : Option (Step × List Char) := do
  let (negative, unsigned) := match skipBlanks text with
    | '-' :: rest => (true, rest)
    | rest => (false, rest)
  let (digits, rest) := unsigned.span Char.isDigit
  let number ← Text.decimal? digits
  if Int64.size / 2 ≤ number then none
  match skipBlanks rest with
  | ']' :: rest => return (position (if negative then -Int.ofNat number else number), rest)
  | _ => none

/-- Dots come before names and brackets around positions; the fuel bounds the steps. -/
def readSteps : Nat → List Char → Option (List Step)
  | _, [] => some []
  | 0, _ => none
  | fuel + 1, c :: rest => do
      let (step, rest) ←
        if c == '.' then readName rest else if c == '[' then readPosition rest else none
      return step :: (← readSteps fuel rest)

/-- The key of a table and the steps below it. A name of another form is a key as a whole. -/
def path (name : String) : String × List Step :=
  let read := do
    match ← readName name.toList with
    | (key first, rest) => return (first, ← readSteps rest.length rest)
    | _ => none
  read.getD (name, [])

end Step

end Provisioning
