/-
This file reads YAML documents.
-/

import Provisioning.Yaml.Scalar

namespace Provisioning.Yaml

/-- What is said about a value in front of it. -/
structure Properties where
  anchor : Option String := none
  /-- The kind that a tag gives. -/
  kind : Option String := none

namespace Properties

/-- The full names of kinds start with it. -/
def namespaceOfKinds : String := "tag:yaml.org,2002:"

/-- Tags that are not known give texts. -/
def kindOf : List Char → String
  | '!' :: name => String.ofList name
  | '<' :: name =>
      match Text.cutChars? '>' name with
      | some (name, []) =>
          if namespaceOfKinds.toList.isPrefixOf name then
            String.ofList (name.drop namespaceOfKinds.length)
          else
            "str"
      | _ => "str"
  | _ => "str"

/-- A property reaches to a blank or to a sign of a collection. -/
def endsProperty (c : Char) : Bool := isBlank c || c == '\n' || isFlowSign c

/-- The properties with one more, if there is one. -/
def read? (properties : Properties) (cursor : Cursor) : Option (Properties × Cursor) :=
  match cursor.rest with
  | '&' :: rest =>
      let name := rest.takeWhile fun c => !endsProperty c
      if name.isEmpty || properties.anchor.isSome then none
      else
        some ({ properties with anchor := some (String.ofList name) },
          cursor.skip (name.length + 1))
  | '!' :: rest =>
      let name := if rest.head? == some '<' then rest.takeWhile (fun c => !isBlank c && c != '\n')
        else rest.takeWhile fun c => !endsProperty c
      if properties.kind.isSome then none
      else
        some ({ properties with kind := some (kindOf name) }, cursor.skip (name.length + 1))
  | _ => none

def plain (properties : Properties) (text : List Char) : Yaml :=
  match properties.kind with
  | some kind => ofTagged kind (String.ofList text)
  | none => ofPlain (String.ofList text)

/-- No value is null, while properties without a value are those of an empty scalar. -/
def empty (properties : Properties) : Yaml :=
  if properties.anchor.isNone && properties.kind.isNone then null else properties.plain []

/-- All properties in front of a value on its line. -/
def readAll : Nat → Properties → Cursor → Properties × Cursor
  | 0, properties, cursor => (properties, cursor)
  | fuel + 1, properties, cursor =>
      match properties.read? cursor with
      | some (properties, after) => readAll fuel properties after.skipBlanks
      | none => (properties, cursor)

end Properties

def isQuote (c : Char) : Bool := c == '"' || c == '\''

def isListMark : List Char → Bool
  | '-' :: rest => atBreak rest
  | _ => false

def isKeyMark : List Char → Bool
  | '?' :: rest => atBreak rest
  | _ => false

/-- Behind a colon and tabs only, no word may follow. -/
def isValueMark : List Char → Bool
  | ':' :: rest =>
      let (blanks, word) := rest.span isBlank
      atBreak rest &&
        (blanks.isEmpty || blanks.contains ' ' ||
          !word.head?.any fun c => c.isAlphanum || c == '_' || c == '-')
  | _ => false

/-- The value with a name that was given to it before. -/
def readAlias (cursor : Cursor) : Option (Yaml × Cursor) := do
  let name := (cursor.rest.drop 1).takeWhile fun c => !Properties.endsProperty c
  return (← cursor.named? (String.ofList name), cursor.skip (name.length + 1))

/-- A scalar in quotes with its first quote. -/
def readQuotes (least : Nat) (cursor : Cursor) : Option (Yaml × Cursor) := do
  let isDouble := cursor.rest.head? == some '"'
  let (text, after) ← readQuoted isDouble least cursor.rest.length (cursor.skip 1)
  return (string (String.ofList text), after)

/-- A scalar on one line in front of a colon, which makes it a key. -/
def readKey? (cursor : Cursor) : Option (Yaml × Cursor) := do
  let (properties, start) := Properties.readAll cursor.rest.length {} cursor
  let (key, after) ← match start.rest with
    | [] => none
    | c :: _ =>
        if c == '*' then readAlias start
        else if isQuote c then readQuotes 0 start
        else if startsPlain false start.rest then
          let (text, after) := readPlainPart false start
          some (properties.plain text, after)
        else none
  let passed := start.rest.take (start.rest.length - after.rest.length)
  let colon := after.skipBlanks
  if passed.contains '\n' || !isValueMark colon.rest then none
  return (key, (colon.skip 1).name properties.anchor key)

/-- Where a value may stand. -/
structure Place where
  /-- The least column of the value on a line of its own. -/
  least : Nat
  /-- The least column of a list on lines of its own. -/
  leastList : Nat
  /-- Whether a collection may start on this line already. -/
  startsHere : Bool

mutual

/-- A value between the signs of collections, with the properties in front of it. The fuel bounds
the characters that are read. -/
def readFlow : Nat → Nat → Properties → Cursor → Option (Yaml × Cursor)
  | 0, _, _, _ => none
  | fuel + 1, least, properties, cursor => do
      let here ← cursor.reach? least
      match properties.read? here with
      | some (properties, after) => readFlow fuel least properties after
      | none =>
          let (value, after) ← match here.rest with
            | [] => none
            | '[' :: _ => readFlowList fuel least [] (here.skip 1)
            | '\x7b' :: _ => readFlowMapping fuel least [] (here.skip 1)
            | '*' :: _ => readAlias here
            | c :: _ =>
                if isQuote c then readQuotes least here
                else if startsPlain true here.rest then
                  let (text, after) := readPlain true 0 here.rest.length here
                  some (properties.plain text, after)
                else if isFlowSign c && (properties.anchor.isSome || properties.kind.isSome) then
                  some (properties.empty, here)
                else none
          return (value, after.name properties.anchor value)

/-- A value and, behind a colon, the value that it is the key of. -/
def readFlowPair : Nat → Nat → Cursor → Option (Yaml × Option Yaml × Cursor)
  | 0, _, _ => none
  | fuel + 1, least, cursor => do
      let start ← cursor.reach? least
      let (key, after) ← readFlow fuel least {} start
      let colon ← after.reach? least
      match colon.rest with
      | ':' :: rest =>
          let isAdjacent := start.rest.head?.any fun c => isQuote c || c == '[' || c == '\x7b'
          if isAdjacent || isValueMark (':' :: rest) || rest.head?.any isFlowSign then
            let value ← (colon.skip 1).reach? least
            if value.rest.head?.any fun c => c == ',' || c == ']' || c == '\x7d' then
              return (key, some null, value)
            else
              let (value, after) ← readFlow fuel least {} value
              return (key, some value, ← after.reach? least)
          else none
      | _ => return (key, none, colon)

/-- The elements of a list up to its end, of which pairs are mappings. -/
def readFlowList : Nat → Nat → List Yaml → Cursor → Option (Yaml × Cursor)
  | 0, _, _, _ => none
  | fuel + 1, least, elements, cursor => do
      let here ← cursor.reach? least
      match here.rest with
      | ']' :: _ => return (list elements.reverse, here.skip 1)
      | _ =>
          let (element, value, after) ← readFlowPair fuel least here
          let element := match value with
            | some value => mapping [(element, value)]
            | none => element
          match after.rest with
          | ',' :: _ => readFlowList fuel least (element :: elements) (after.skip 1)
          | ']' :: _ => return (list (element :: elements).reverse, after.skip 1)
          | _ => none

/-- The pairs of a mapping up to its end, where a key may stand alone. -/
def readFlowMapping : Nat → Nat → List (Yaml × Yaml) → Cursor → Option (Yaml × Cursor)
  | 0, _, _, _ => none
  | fuel + 1, least, pairs, cursor => do
      let here ← cursor.reach? least
      match here.rest with
      | '\x7d' :: _ => return (mapping pairs, here.skip 1)
      | _ =>
          let (key, value, after) ← readFlowPair fuel least here
          let pairs ← addPair? pairs key (value.getD null)
          match after.rest with
          | ',' :: _ => readFlowMapping fuel least pairs (after.skip 1)
          | '\x7d' :: _ => return (mapping pairs, after.skip 1)
          | _ => none

end

/-- A value that is no collection of lines. -/
def readInline (least : Nat) (properties : Properties) (here : Cursor) : Option (Yaml × Cursor) :=
  match here.rest with
  | [] => none
  | c :: _ =>
      if c == '*' then readAlias here
      else if c == '|' || c == '>' then
        (readBlock (c == '>') least (here.skip 1)).map fun read =>
          (string (String.ofList read.1), read.2)
      else if isQuote c then readQuotes least here
      else if c == '[' || c == '\x7b' then
        readFlow (2 * here.rest.length + 2) least {} here
      else if startsPlain false here.rest then
        let (text, after) := readPlain false least here.rest.length here
        some (properties.plain text, after)
      else none

/-- What stands behind an element or a pair of a collection in a column. -/
inductive Behind where
  | next (start : Cursor)
  | outside
  | problem

/-- Collections go on in their column and end at columns before it. -/
def Cursor.behind (cursor : Cursor) (column : Nat) : Behind :=
  let start := cursor.gap
  if start.isEnd then .outside
  else if !cursor.crosses then .problem
  else if start.column < column then .outside
  else if column < start.column || cursor.isTabbed column then .problem
  else .next start

mutual

/-- The value at a place, with the properties in front of it. Nothing is read if what follows is not
indented far enough. The fuel bounds the characters that are read. -/
def readNode : Nat → Place → Properties → Cursor → Option (Yaml × Cursor)
  | 0, _, _, _ => none
  | fuel + 1, place, properties, cursor => do
      let here := cursor.gap
      let least := if isListMark here.rest then place.leastList else place.least
      if here.isEnd || (cursor.crosses && here.column < least) then
        return (properties.empty, cursor.name properties.anchor properties.empty)
      if cursor.isTabbed least then none
      let startsHere := place.startsHere || cursor.crosses
      let (value, after) ←
        if startsHere && isListMark here.rest then readList fuel here.column [] here
        else if startsHere && (isKeyMark here.rest || (readKey? here).isSome) then
          readMapping fuel here.column [] here
        else match properties.read? here with
          | some (properties, after) =>
              return ← readNode fuel { place with startsHere := false } properties after
          | none => readInline place.least properties here
      return (value, after.name properties.anchor value)

/-- The elements of a list stand behind dashes in its column. -/
def readList : Nat → Nat → List Yaml → Cursor → Option (Yaml × Cursor)
  | 0, _, _, _ => none
  | fuel + 1, column, elements, start => do
      let place := ⟨column + 1, column + 1, true⟩
      let (element, after) ← readNode fuel place {} (start.skip 1)
      let elements := element :: elements
      match after.behind column with
      | .outside => return (list elements.reverse, after)
      | .next start =>
          if isListMark start.rest then readList fuel column elements start
          else return (list elements.reverse, after)
      | .problem => none

/-- The pairs of a mapping start in its column, and a list as a value may start there too. -/
def readMapping : Nat → Nat → List (Yaml × Yaml) → Cursor → Option (Yaml × Cursor)
  | 0, _, _, _ => none
  | fuel + 1, column, pairs, start => do
      let place := ⟨column + 1, column, false⟩
      let (key, value, after) ←
        if isKeyMark start.rest then readLongPair fuel column start
        else do
          let (key, after) ← readKey? start
          let (value, after) ← readNode fuel place {} after
          pure (key, value, after)
      let pairs ← addPair? pairs key value
      match after.behind column with
      | .outside => return (mapping pairs, after)
      | .next start => readMapping fuel column pairs start
      | .problem => none

/-- A pair whose key and value have marks of their own. -/
def readLongPair : Nat → Nat → Cursor → Option (Yaml × Yaml × Cursor)
  | 0, _, _ => none
  | fuel + 1, column, start => do
      let place := ⟨column + 1, column, true⟩
      let (key, after) ← readNode fuel place {} (start.skip 1)
      match after.behind column with
      | .next start =>
          if isValueMark start.rest then
            let (value, after) ← readNode fuel place {} (start.skip 1)
            return (key, value, after)
          else
            return (key, null, after)
      | _ => return (key, null, after)

end

def isMark (mark : String) (line : List Char) : Bool :=
  mark.toList.isPrefixOf line && atBreak (line.drop mark.length)

def isCommentOnly (line : List Char) : Bool :=
  match line.dropWhile isBlank with
  | [] => true
  | c :: _ => c == '#'

/-- All line ends are one character. -/
def withLineFeeds : List Char → List Char
  | [] => []
  | '\r' :: '\n' :: rest => '\n' :: withLineFeeds rest
  | '\r' :: rest => '\n' :: withLineFeeds rest
  | c :: rest => c :: withLineFeeds rest

/-- A text is one document, which may be marked at its start and its end. No document at all has no
pairs, and only a document with a mark has directives. -/
def parse? (text : String) : Option Yaml := do
  let lines := Text.piecesOf '\n' (withLineFeeds text.toList)
  let (opening, lines) := lines.span fun line => isCommentOnly line || line.head? == some '%'
  let hasDirectives := opening.any fun line => line.head? == some '%'
  match lines with
  | [] => if hasDirectives then none else return mapping []
  | first :: rest =>
      let isMarked := isMark "---" first
      if hasDirectives && !isMarked then none
      let (body, ending) := (if isMarked then rest else first :: rest).span fun line =>
        !isMark "---" line && !isMark "..." line
      match ending with
      | [] => pure ()
      | mark :: comments =>
          if !isMark "..." mark || !(mark.drop 3 :: comments).all isCommentOnly then none
      let body := ['\n'].intercalate (if isMarked then first.drop 3 :: body else body)
      let start := ⟨if isMarked then 3 else 0, body, []⟩
      let (value, after) ← readNode (3 * body.length + 3) ⟨0, 0, !isMarked⟩ {} start
      if after.gap.isEnd then return value else none

end Provisioning.Yaml
