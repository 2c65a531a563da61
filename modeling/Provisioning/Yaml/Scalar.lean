/-
This file reads the scalars of YAML documents.
-/

import Provisioning.Text.Split
import Provisioning.Yaml.Cursor

namespace Provisioning.Yaml

/-- A line end between words is a blank, and more line ends are one fewer. -/
def fold (lineEnds : Nat) : List Char :=
  if lineEnds == 0 then [] else if lineEnds == 1 then [' '] else List.replicate (lineEnds - 1) '\n'

/-- The number of line ends, and the column and the text after them and the blanks between. -/
def skipLines (lineEnds column : Nat) : List Char → Nat × Nat × List Char
  | [] => (lineEnds, column, [])
  | c :: rest =>
      if c == '\n' then skipLines (lineEnds + 1) 0 rest
      else if isBlank c then skipLines lineEnds (column + 1) rest
      else (lineEnds, column, c :: rest)

def trimEnd (text : List Char) : List Char := (text.reverse.dropWhile isBlank).reverse

/-! Scalars without quotes. -/

/-- These signs mean something else at the start of a value. -/
def isIndicator (c : Char) : Bool :=
  isFlowSign c || ['-', '?', ':', '#', '&', '*', '!', '|', '>', '\'', '"', '%', '@'].contains c ||
    c.toNat == 0x60

/-- A dash, a question mark or a colon starts a scalar only right before another sign. -/
def startsPlain (inFlow : Bool) : List Char → Bool
  | [] => false
  | c :: rest =>
      if c == '-' || c == '?' || c == ':' then
        !atBreak rest && !(inFlow && rest.head?.any isFlowSign)
      else
        !isIndicator c && !isBlank c && c != '\n'

/-- The part of a scalar on its line, and what ends it. -/
def readPlainLine (inFlow afterBlank : Bool) : List Char → List Char × List Char
  | [] => ([], [])
  | c :: rest =>
      let isColon := c == ':' && (atBreak rest || (inFlow && rest.head?.any isFlowSign))
      if c == '\n' || isColon || (c == '#' && afterBlank) || (inFlow && isFlowSign c) then
        ([], c :: rest)
      else
        let (line, rest) := readPlainLine inFlow (isBlank c) rest
        (c :: line, rest)

/-- The part of a scalar on its line, without the blanks behind it. -/
def readPlainPart (inFlow : Bool) (cursor : Cursor) : List Char × Cursor :=
  let (line, _) := readPlainLine inFlow false cursor.rest
  let line := trimEnd line
  (line, cursor.skip line.length)

/-- A scalar goes on with the lines that are indented far enough without tabs, up to a comment. The
fuel bounds the lines. -/
def readPlain (inFlow : Bool) (least : Nat) : Nat → Cursor → List Char × Cursor
  | 0, cursor => ([], cursor)
  | fuel + 1, cursor =>
      let (line, after) := readPlainPart inFlow cursor
      let (lineEnds, column, rest) := skipLines 0 after.column after.rest
      let (more, _) := readPlainLine inFlow true rest
      if lineEnds == 0 || column < least || after.isTabbed least || more.isEmpty then
        (line, after)
      else
        let (continued, last) := readPlain inFlow least fuel { after with column, rest }
        (line ++ fold lineEnds ++ continued, last)

/-! Scalars in quotes. -/

def codeOf? (digits : List Char) : Option Char := do
  let code ← Text.number? 16 digits
  if code.isValidChar then some (Char.ofNat code) else none

def shortEscape? : Char → Option Char
  | '0' => some (Char.ofNat 0)
  | 'a' => some (Char.ofNat 7)
  | 'b' => some (Char.ofNat 8)
  | 't' => some '\t'
  | '\t' => some '\t'
  | 'n' => some '\n'
  | 'v' => some (Char.ofNat 11)
  | 'f' => some (Char.ofNat 12)
  | 'r' => some '\r'
  | 'e' => some (Char.ofNat 27)
  | ' ' => some ' '
  | '"' => some '"'
  | '/' => some '/'
  | '\\' => some '\\'
  | 'N' => some '\u0085'
  | '_' => some '\u00a0'
  | 'L' => some '\u2028'
  | 'P' => some '\u2029'
  | _ => none

/-- A character by the digits of its code, and the text after it. -/
def readCode (length : Nat) (text : List Char) : Option (Char × List Char) := do
  if text.length < length then none
  return (← codeOf? (text.take length), text.drop length)

def readEscape : List Char → Option (Char × List Char)
  | 'x' :: rest => readCode 2 rest
  | 'u' :: rest => readCode 4 rest
  | 'U' :: rest => readCode 8 rest
  | c :: rest => (shortEscape? c).map fun escaped => (escaped, rest)
  | [] => none

/-- The text of a scalar after its first quote. The blanks around line ends do not count, two single
quotes are one, and a backslash joins lines between double quotes. All lines have to be indented far
enough. The fuel bounds the characters. -/
def readQuoted (isDouble : Bool) (least : Nat) : Nat → Cursor → Option (List Char × Cursor)
  | 0, _ => none
  | fuel + 1, cursor => do
      let add := fun (text : List Char) (column : Nat) (rest : List Char) => do
        if column < least then none
        let (content, last) ← readQuoted isDouble least fuel { cursor with column, rest }
        return (text ++ content, last)
      match cursor.rest with
      | [] => none
      | c :: rest =>
          if isDouble && c == '"' then
            return ([], cursor.skip 1)
          else if !isDouble && c == '\'' then
            match rest with
            | '\'' :: rest => add ['\''] (cursor.column + 2) rest
            | _ => return ([], cursor.skip 1)
          else if isDouble && c == '\\' then
            match rest with
            | '\n' :: rest =>
                let (lineEnds, column, rest) := skipLines 0 0 rest
                add (List.replicate lineEnds '\n') column rest
            | rest =>
                let (escaped, after) ← readEscape rest
                add [escaped] (cursor.column + 1 + (rest.length - after.length)) after
          else if isBlank c || c == '\n' then
            let (lineEnds, column, rest) := skipLines 0 cursor.column (c :: rest)
            if lineEnds == 0 then add (cursor.rest.takeWhile isBlank) column rest
            else add (fold lineEnds) column rest
          else
            add [c] (cursor.column + 1) rest

/-! Scalars in blocks of lines. -/

/-- What becomes of the line ends at the end of a block. -/
inductive Chomping where
  | strip
  | clip
  | keep
deriving DecidableEq

/-- How the lines of a block are taken. -/
structure BlockStyle where
  isFolded : Bool
  chomping : Chomping := .clip
  /-- The indentation that a block gives itself. -/
  indent : Option Nat := none

/-- The signs after the mark of a block: at most one for the line ends and one for the
indentation. -/
def readStyle (style : BlockStyle) : List Char → Option BlockStyle
  | [] => some style
  | c :: rest =>
      if (c == '+' || c == '-') && style.chomping == .clip then
        readStyle { style with chomping := if c == '+' then .keep else .strip } rest
      else if '1' ≤ c && c ≤ '9' && style.indent.isNone then
        readStyle { style with indent := some (c.toNat - 48) } rest
      else
        none

def isBlankLine (line : List Char) : Bool := line.all (· == ' ')

/-- The lines that are indented or blank, and the others. -/
def splitLines (indent : Nat) : List (List Char) → List (List Char) × List (List Char)
  | [] => ([], [])
  | line :: rest =>
      if isBlankLine line || indent ≤ (line.takeWhile (· == ' ')).length then
        let (inner, outer) := splitLines indent rest
        (line.drop indent :: inner, outer)
      else
        ([], line :: rest)

def isMoreIndented (line : List Char) : Bool := line.head?.any isBlank

/-- Lines are joined with line ends, or folded: then only lines that are indented more and blank
lines keep theirs. The number counts the blank lines since the last line. -/
def joinLines (isFolded : Bool) (last : Option (List Char)) (blanks : Nat) :
    List (List Char) → List Char
  | [] => []
  | line :: rest =>
      if line.isEmpty then
        joinLines isFolded last (blanks + 1) rest
      else
        let between := match last with
          | none => List.replicate blanks '\n'
          | some before =>
              if isFolded && !isMoreIndented before && !isMoreIndented line then fold (blanks + 1)
              else List.replicate (blanks + 1) '\n'
        between ++ line ++ joinLines isFolded (some line) 0 rest

/-- The end of a block with a number of blank lines after its last line. -/
def chomp (chomping : Chomping) (hasText : Bool) (blanks : Nat) : List Char :=
  match chomping with
  | .strip => []
  | .clip => if hasText then ['\n'] else []
  | .keep => List.replicate (blanks + if hasText then 1 else 0) '\n'

/-- A block after its mark: its style, maybe a comment, and the lines that are indented. -/
def readBlock (isFolded : Bool) (least : Nat) (cursor : Cursor) : Option (List Char × Cursor) := do
  let (signs, rest) := cursor.rest.span fun c => !isBlank c && c != '\n'
  let style ← readStyle ⟨isFolded, .clip, none⟩ signs
  let (behind, rest) := rest.span (· != '\n')
  let behind := behind.dropWhile isBlank
  if !behind.isEmpty && behind.head? != some '#' then none
  let lines := Text.piecesOf '\n' (rest.drop 1)
  let first := ((lines.dropWhile isBlankLine).head?.getD []).takeWhile (· == ' ')
  let indent := max 1 (match style.indent with
    | some indent => least - 1 + indent
    | none => max least first.length)
  let (inner, outer) := splitLines indent lines
  let ended := inner.reverse.takeWhile List.isEmpty
  let inner := inner.take (inner.length - ended.length)
  let blanks := ended.length - if outer.isEmpty then 1 else 0
  let content := joinLines isFolded none 0 inner ++ chomp style.chomping (!inner.isEmpty) blanks
  return (content, { cursor with column := 0, rest := ['\n'].intercalate outer })

end Provisioning.Yaml
