/-
This file keeps track of columns in YAML documents.
-/

import Provisioning.Yaml.Value

namespace Provisioning.Yaml

/-- A place in a document, with the values that have been given a name before it. -/
structure Cursor where
  column : Nat
  rest : List Char
  anchors : List (String × Yaml)

def isBlank (c : Char) : Bool := c == ' ' || c == '\t'

/-- Whether a blank, a line end or the end comes next. -/
def atBreak : List Char → Bool
  | [] => true
  | c :: _ => isBlank c || c == '\n'

def isFlowSign (c : Char) : Bool :=
  c == ',' || c == '[' || c == ']' || c == '\x7b' || c == '\x7d'

/-- The column and the text behind blanks, comments and line ends. A comment stands at the start of
a line or behind a blank. -/
def skipGap (inComment afterBlank : Bool) (column : Nat) : List Char → Nat × List Char
  | [] => (column, [])
  | c :: rest =>
      if c == '\n' then skipGap false true 0 rest
      else if inComment then skipGap true true (column + 1) rest
      else if isBlank c then skipGap false true (column + 1) rest
      else if c == '#' && afterBlank then skipGap true true (column + 1) rest
      else (column, c :: rest)

namespace Cursor

def isEnd (cursor : Cursor) : Bool := cursor.rest.isEmpty

/-- The place after characters on the same line. -/
def skip (cursor : Cursor) (count : Nat) : Cursor :=
  { cursor with column := cursor.column + count, rest := cursor.rest.drop count }

def skipBlanks (cursor : Cursor) : Cursor :=
  cursor.skip (cursor.rest.takeWhile isBlank).length

def gap (cursor : Cursor) : Cursor :=
  let (column, rest) := skipGap false (cursor.column == 0) cursor.column cursor.rest
  { cursor with column, rest }

/-- Whether the gap in front of the cursor holds a line end, or the cursor is at one. -/
def crosses (cursor : Cursor) : Bool :=
  cursor.column == 0 ||
    (cursor.rest.take (cursor.rest.length - cursor.gap.rest.length)).contains '\n'

/-- The blanks in front of what comes next on its line, if the gap holds a line end. -/
def indentation (cursor : Cursor) : List Char :=
  let skipped := cursor.rest.take (cursor.rest.length - cursor.gap.rest.length)
  (skipped.reverse.takeWhile (· != '\n')).reverse

/-- Whether tabs indent what comes next in front of a column. -/
def isTabbed (cursor : Cursor) (least : Nat) : Bool :=
  cursor.crosses && (cursor.indentation.take least).contains '\t'

/-- The place of what comes next, which has to be indented far enough and without tabs. -/
def reach? (cursor : Cursor) (least : Nat) : Option Cursor :=
  if (cursor.crosses && cursor.gap.column < least) || cursor.isTabbed least then none
  else some cursor.gap

def named? (cursor : Cursor) (name : String) : Option Yaml :=
  (cursor.anchors.find? fun anchor => anchor.1 == name).map Prod.snd

def name (cursor : Cursor) (anchor : Option String) (value : Yaml) : Cursor :=
  match anchor with
  | some name => { cursor with anchors := (name, value) :: cursor.anchors }
  | none => cursor

end Cursor

end Provisioning.Yaml
