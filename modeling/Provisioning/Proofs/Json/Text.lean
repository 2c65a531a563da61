/-
This file proves that JSON values without numbers are read again from their texts.
-/

import Provisioning.Json.Reader
import Provisioning.Json.Writer

namespace Provisioning.Json

/-! Strings are read back character by character. -/

/-- A piece of a string stands for a character of it. -/
def Piece.StandsFor (piece : Piece) (c : Char) : Prop :=
  ∀ others, join? (piece :: others) = (join? others).map (c :: ·)

theorem standsFor_char (c : Char) : (Piece.char c).StandsFor c :=
  fun _ => rfl

theorem standsFor_unit {c : Char} (isControl : c.toNat < 32) : (Piece.unit c.toNat).StandsFor c := by
  intro others
  rw [join?.eq_def]
  dsimp only
  rw [if_neg (by omega), if_neg (by omega), Char.ofNat_toNat]

/-- The two digits of a control character are those of its code. -/
theorem number?_hexDigits :
    ∀ code < 32, Text.number? 16 ['0', '0', hexDigit (code / 16), hexDigit (code % 16)] = some code := by
  decide

/-- An escaped character is read as one piece. -/
theorem readPieces_escapeChar (c : Char) (pieces : List Piece) (rest : List Char) :
    ∃ piece : Piece, piece.StandsFor c ∧
      readPieces pieces (escapeChar c ++ rest) = readPieces (piece :: pieces) rest := by
  unfold escapeChar
  split
  · exact ⟨.char '"', standsFor_char _, by simp [readPieces, shortEscape?]⟩
  · exact ⟨.char '\\', standsFor_char _, by simp [readPieces, shortEscape?]⟩
  · exact ⟨.char '\n', standsFor_char _, by simp [readPieces, shortEscape?]⟩
  · exact ⟨.char '\r', standsFor_char _, by simp [readPieces, shortEscape?]⟩
  · exact ⟨.char '\t', standsFor_char _, by simp [readPieces, shortEscape?]⟩
  · next noQuote noSlash _ _ _ =>
    split
    · next isBackspace =>
      have isChar : c = Char.ofNat 8 := by rw [← isBackspace, Char.ofNat_toNat]
      exact ⟨.char (Char.ofNat 8), isChar ▸ standsFor_char _, by simp [readPieces, shortEscape?]⟩
    split
    · next isFormFeed =>
      have isChar : c = Char.ofNat 12 := by rw [← isFormFeed, Char.ofNat_toNat]
      exact ⟨.char (Char.ofNat 12), isChar ▸ standsFor_char _, by simp [readPieces, shortEscape?]⟩
    split
    · next isControl =>
      refine ⟨.unit c.toNat, standsFor_unit isControl, ?_⟩
      simp only [List.cons_append, List.nil_append]
      rw [readPieces, number?_hexDigits c.toNat isControl]
    · next isPlain =>
      refine ⟨.char c, standsFor_char c, ?_⟩
      rw [List.singleton_append, readPieces]
      · simpa [isPlain] using fun same => (noSlash same).elim
      · exact noQuote
      · exact fun _ _ _ _ _ same _ => noSlash same
      · exact fun _ _ same _ => noSlash same

/-- An escaped text is read to its closing quote, as pieces that stand for its characters. -/
theorem readPieces_escaped (text : List Char) (pieces : List Piece) (rest : List Char) :
    ∃ read, readPieces pieces (text.flatMap escapeChar ++ '"' :: rest) =
      some (pieces.reverse ++ read, rest) ∧ join? read = some text := by
  induction text generalizing pieces with
  | nil => exact ⟨[], by simp [readPieces], rfl⟩
  | cons c others inductionHypothesis =>
      obtain ⟨piece, standsFor, isPiece⟩ :=
        readPieces_escapeChar c pieces (others.flatMap escapeChar ++ '"' :: rest)
      obtain ⟨read, isRead, joined⟩ := inductionHypothesis (piece :: pieces)
      refine ⟨piece :: read, ?_, by rw [standsFor, joined]; rfl⟩
      rw [List.flatMap_cons, List.append_assoc, isPiece, isRead, List.reverse_cons,
        List.append_assoc]
      rfl

/-- The characters of a text between its quotes. -/
def quoted (text : String) : List Char := text.toList.flatMap escapeChar ++ ['"']

theorem toList_quote (text : String) : (quote text).toList = '"' :: quoted text := by
  rw [quote, String.toList_ofList, quoted, List.cons_append]

/-- A quoted text is read back, and what follows the closing quote is left. -/
theorem readString_quoted (text : String) (rest : List Char) :
    readString (quoted text ++ rest) = some (some text, rest) := by
  obtain ⟨read, isRead, joined⟩ := readPieces_escaped text.toList [] rest
  rw [readString, quoted, List.append_assoc, List.singleton_append, isRead]
  simp [joined]

/-! Arrays and objects are read back around their elements and members. -/

/-- How a value is laid out on its lines: what stands before an element or a closing bracket at each
level, and what stands after a colon. -/
structure Spacing where
  line : Nat → List Char
  gap : List Char
  lineBlank : ∀ level, (line level).all isBlank = true
  gapBlank : gap.all isBlank = true

namespace Spacing

/-- Nothing stands between the parts of a value. -/
def compact : Spacing := ⟨fun _ => [], [], fun _ => rfl, rfl⟩

/-- Each element and each member stands on its own line. -/
def indented : Spacing where
  line level := (newLine level).toList
  gap := [' ']
  lineBlank level := by simp [newLine, isBlank]
  gapBlank := rfl

/-- Further parts, each after a comma, and the closing bracket. -/
def following (spacing : Spacing) (closing : Char) (level : Nat) : List (List Char) → List Char
  | [] => spacing.line level ++ [closing]
  | text :: texts =>
      ',' :: (spacing.line (level + 1) ++ text ++ following spacing closing level texts)

/-- The parts of a value between its brackets. -/
def enclosed (spacing : Spacing) (opening closing : Char) (level : Nat) :
    List (List Char) → List Char
  | [] => [opening, closing]
  | text :: texts =>
      opening :: (spacing.line (level + 1) ++ text ++ following spacing closing level texts)

end Spacing

/-- The characters of a value. -/
def spell (spacing : Spacing) (level : Nat) : Json → List Char
  | array elements => spacing.enclosed '[' ']' level (spellAll (level + 1) elements)
  | object members => spacing.enclosed '\x7b' '\x7d' level (spellMembers (level + 1) members)
  | scalar => scalar.compact.toList
where
  spellAll (level : Nat) : List Json → List (List Char)
    | [] => []
    | element :: rest => spell spacing level element :: spellAll level rest
  spellMembers (level : Nat) : List (String × Json) → List (List Char)
    | [] => []
    | (name, value) :: rest =>
        ('"' :: quoted name ++ ':' :: (spacing.gap ++ spell spacing level value)) ::
          spellMembers level rest

/-- The parts stand between commas, and the closing bracket stands behind the last one. -/
theorem intercalate_following (spacing : Spacing) (closing : Char) (level : Nat)
    (text : List Char) (texts : List (List Char)) :
    (',' :: spacing.line (level + 1)).intercalate (text :: texts) ++
        (spacing.line level ++ [closing]) =
      text ++ spacing.following closing level texts := by
  induction texts generalizing text with
  | nil => simp [Spacing.following]
  | cons next rest inductionHypothesis =>
      rw [List.intercalate_cons_cons, List.append_assoc, List.append_assoc, inductionHypothesis,
        Spacing.following]
      simp

section

variable {opening closing : String} {first last : Char} (isFirst : opening.toList = [first])
  (isLast : closing.toList = [last])
include isFirst isLast

/-- Without line breaks, the parts stand between the brackets with commas alone. -/
theorem toList_enclosed_compact (level : Nat) (lines : List String) :
    (opening ++ ",".intercalate lines ++ closing).toList =
      Spacing.compact.enclosed first last level (lines.map String.toList) := by
  cases lines with
  | nil => simp [Spacing.enclosed, isFirst, isLast]
  | cons line rest =>
      have joined := intercalate_following .compact last level line.toList (rest.map String.toList)
      rw [List.map_cons, Spacing.enclosed, List.append_assoc, ← joined]
      simp [Spacing.compact, isFirst, isLast]

/-- With line breaks, every part stands on a line of its own. -/
theorem toList_enclose (level : Nat) (lines : List String) :
    (enclose opening closing level lines).toList =
      Spacing.indented.enclosed first last level (lines.map String.toList) := by
  cases lines with
  | nil => simp [enclose, Spacing.enclosed, isFirst, isLast]
  | cons line rest =>
      have joined := intercalate_following .indented last level line.toList (rest.map String.toList)
      rw [List.map_cons, Spacing.enclosed, List.append_assoc, ← joined]
      simp [enclose, Spacing.indented, isFirst, isLast]

end

mutual

/-- The compact text of a value has no blanks, at any level. -/
theorem toList_compact (level : Nat) : ∀ json : Json, json.compact.toList = spell .compact level json
  | array elements => by
      rw [compact, spell, ← toList_compactAll]
      exact toList_enclosed_compact rfl rfl level _
  | object members => by
      rw [compact, spell, ← toList_compactMembers]
      exact toList_enclosed_compact rfl rfl level _
  | null | bool _ | number _ | string _ | unreadable => rfl

/-- The elements of an array are written one by one. -/
theorem toList_compactAll (level : Nat) : ∀ elements : List Json,
    (compact.compactAll elements).map String.toList = spell.spellAll .compact level elements
  | [] => rfl
  | element :: rest => by
      rw [compact.compactAll, List.map_cons, toList_compact level element,
        toList_compactAll level rest, spell.spellAll]

/-- The members of an object are written one by one, each name before its value. -/
theorem toList_compactMembers (level : Nat) : ∀ members : List (String × Json),
    (compact.compactMembers members).map String.toList = spell.spellMembers .compact level members
  | [] => rfl
  | (name, value) :: rest => by
      rw [compact.compactMembers, List.map_cons, toList_compactMembers level rest,
        spell.spellMembers, ← toList_compact level value]
      simp [toList_quote, Spacing.compact]

end

mutual

/-- The indented text of a value has every part on its line. -/
theorem toList_indented : ∀ (level : Nat) (json : Json),
    (json.indented level).toList = spell .indented level json
  | level, array elements => by
      rw [indented, spell, ← toList_indentedAll]
      exact toList_enclose rfl rfl level _
  | level, object members => by
      rw [indented, spell, ← toList_indentedMembers]
      exact toList_enclose rfl rfl level _
  | _, null | _, bool _ | _, number _ | _, string _ | _, unreadable => rfl

/-- The elements of an array are written one by one at their level. -/
theorem toList_indentedAll : ∀ (level : Nat) (elements : List Json),
    (indented.indentedAll level elements).map String.toList =
      spell.spellAll .indented level elements
  | _, [] => rfl
  | level, element :: rest => by
      rw [indented.indentedAll, List.map_cons, toList_indented level element,
        toList_indentedAll level rest, spell.spellAll]

/-- The members of an object are written one by one at their level. -/
theorem toList_indentedMembers : ∀ (level : Nat) (members : List (String × Json)),
    (indented.indentedMembers level members).map String.toList =
      spell.spellMembers .indented level members
  | _, [] => rfl
  | level, (name, value) :: rest => by
      rw [indented.indentedMembers, List.map_cons, toList_indentedMembers level rest,
        spell.spellMembers, ← toList_indented level value]
      simp [toList_quote, Spacing.indented]

end

/-- Neither a number nor anything unreadable is in the value. -/
def isTextual : Json → Bool
  | array elements => textualAll elements
  | object members => textualMembers members
  | number _ | unreadable => false
  | _ => true
where
  textualAll : List Json → Bool
    | [] => true
    | element :: rest => element.isTextual && textualAll rest
  textualMembers : List (String × Json) → Bool
    | [] => true
    | member :: rest => member.2.isTextual && textualMembers rest

theorem isTextual_string (text : String) : (string text).isTextual = true := by
  simp [isTextual]

/-- An array is textual when each of its elements is. -/
theorem isTextual_array_iff {elements : List Json} :
    (array elements).isTextual = true ↔ ∀ element ∈ elements, element.isTextual = true := by
  induction elements with
  | nil => simp [isTextual, isTextual.textualAll]
  | cons element rest inductionHypothesis =>
      rw [isTextual] at inductionHypothesis ⊢
      rw [isTextual.textualAll, Bool.and_eq_true, inductionHypothesis, List.forall_mem_cons]

/-- An object is textual when the value of each of its members is. -/
theorem isTextual_object_iff {members : List (String × Json)} :
    (object members).isTextual = true ↔ ∀ member ∈ members, member.2.isTextual = true := by
  induction members with
  | nil => simp [isTextual, isTextual.textualMembers]
  | cons member rest inductionHypothesis =>
      rw [isTextual] at inductionHypothesis ⊢
      rw [isTextual.textualMembers, Bool.and_eq_true, inductionHypothesis, List.forall_mem_cons]

section

variable {blanks text rest : List Char} {spacing : Spacing} {level fuel : Nat}

/-- Blanks before a text are skipped. -/
theorem skip_append (areBlank : blanks.all isBlank = true) (text : List Char) :
    skip (blanks ++ text) = skip text :=
  List.dropWhile_append_of_pos (List.all_eq_true.1 areBlank)

theorem skip_cons {c : Char} (notBlank : isBlank c = false) (rest : List Char) :
    skip (c :: rest) = c :: rest :=
  List.dropWhile_cons_of_neg (by simp [notBlank])

/-- Blanks before a value do not change how it is read. -/
theorem readValue_append (areBlank : blanks.all isBlank = true) (fuel : Nat) (text : List Char) :
    readValue fuel (blanks ++ text) = readValue fuel text := by
  cases fuel with
  | zero => rfl
  | succ fuel => rw [readValue, readValue, skip_append areBlank]

/-- Blanks before elements do not change how they are read. -/
theorem readElements_append (areBlank : blanks.all isBlank = true) (fuel : Nat)
    (text : List Char) : readElements fuel (blanks ++ text) = readElements fuel text := by
  cases fuel with
  | zero => rfl
  | succ fuel => rw [readElements, readElements, readValue_append areBlank]

/-- Blanks before members do not change how they are read. -/
theorem readMembers_append (areBlank : blanks.all isBlank = true) (fuel : Nat)
    (text : List Char) : readMembers fuel (blanks ++ text) = readMembers fuel text := by
  cases fuel with
  | zero => rfl
  | succ fuel => rw [readMembers, readMembers, skip_append areBlank]

/-- The closing bracket is always to come. -/
theorem following_length_pos (spacing : Spacing) (closing : Char) (level : Nat)
    (texts : List (List Char)) : 0 < (spacing.following closing level texts).length := by
  cases texts <;> simp [Spacing.following]

/-- What follows an element starts with a comma or the closing bracket. -/
theorem skip_following_nil {closing : Char} (notBlank : isBlank closing = false) :
    skip (spacing.following closing level [] ++ rest) = closing :: rest := by
  rw [Spacing.following, List.append_assoc, skip_append (spacing.lineBlank level)]
  exact skip_cons notBlank rest

/-- A further part is announced by a comma. -/
theorem skip_following_cons {closing : Char} (texts : List (List Char)) :
    skip (spacing.following closing level (text :: texts) ++ rest) =
      ',' :: (spacing.line (level + 1) ++
        (text ++ (spacing.following closing level texts ++ rest))) := by
  rw [Spacing.following, List.cons_append, skip_cons (by rfl), List.append_assoc, List.append_assoc,
    ← List.append_assoc]

/-- A quoted text is read as a string. -/
theorem readValue_quoted (fuel : Nat) (text : String) (rest : List Char) :
    readValue (fuel + 1) ('"' :: (quoted text ++ rest)) = some (string text, rest) := by
  rw [readValue, skip_cons (by rfl)]
  simp [readString_quoted]

/-- An array is read when its elements are. -/
theorem readValue_array {c : Char} {elements : List Json} (areBlank : blanks.all isBlank = true)
    (notBlank : isBlank c = false) (notClosed : c ≠ ']')
    (isRead : readElements fuel (c :: text) = some (elements, rest)) :
    readValue (fuel + 1) ('[' :: (blanks ++ c :: text)) = some (array elements, rest) := by
  rw [readValue, skip_cons (by rfl)]
  simp only [skip_append areBlank, skip_cons notBlank]
  split
  · next same => exact (notClosed (List.cons.inj same).1).elim
  · rw [isRead]
    rfl

/-- An object is read when its members are. -/
theorem readValue_object {members : List (String × Json)} (areBlank : blanks.all isBlank = true)
    (isRead : readMembers fuel ('"' :: text) = some (some members, rest)) :
    readValue (fuel + 1) ('\x7b' :: (blanks ++ '"' :: text)) = some (object members, rest) := by
  have opens : skip ('"' :: text) = '"' :: text := skip_cons (by rfl) text
  rw [readValue, skip_cons (by rfl)]
  simp [skip_append areBlank, opens, isRead]

/-- The last element is the one before the closing bracket. -/
theorem readElements_last {element : Json} {after : List Char}
    (isRead : readValue fuel text = some (element, after)) (closes : skip after = ']' :: rest) :
    readElements (fuel + 1) text = some ([element], rest) := by
  rw [readElements, isRead]
  simp [closes]

/-- After a comma, the elements go on. -/
theorem readElements_more {element : Json} {elements : List Json} {after next : List Char}
    (isRead : readValue fuel text = some (element, after)) (goesOn : skip after = ',' :: next)
    (areRead : readElements fuel next = some (elements, rest)) :
    readElements (fuel + 1) text = some (element :: elements, rest) := by
  rw [readElements, isRead]
  simp [goesOn, areRead]

/-- The last member is the one before the closing bracket. -/
theorem readMembers_last {name : String} {value : Json} {after : List Char}
    (isRead : readValue fuel text = some (value, after)) (closes : skip after = '\x7d' :: rest) :
    readMembers (fuel + 1) ('"' :: (quoted name ++ ':' :: text)) =
      some (some [(name, value)], rest) := by
  rw [readMembers, skip_cons (by rfl)]
  simp [readString_quoted, skip_cons (by rfl : isBlank ':' = false), isRead, closes]

/-- After a comma, the members go on. -/
theorem readMembers_more {name : String} {value : Json} {members : List (String × Json)}
    {after next : List Char} (isRead : readValue fuel text = some (value, after))
    (goesOn : skip after = ',' :: next)
    (areRead : readMembers fuel next = some (some members, rest)) :
    readMembers (fuel + 1) ('"' :: (quoted name ++ ':' :: text)) =
      some (some ((name, value) :: members), rest) := by
  rw [readMembers, skip_cons (by rfl)]
  simp [readString_quoted, skip_cons (by rfl : isBlank ':' = false), isRead, goesOn, areRead]

/-- A value starts neither with a blank nor with a closing bracket. -/
theorem spell_eq_cons (spacing : Spacing) (level : Nat) {json : Json}
    (isTextual : json.isTextual = true) :
    ∃ c rest, spell spacing level json = c :: rest ∧ isBlank c = false ∧ c ≠ ']' := by
  cases json with
  | null => exact ⟨'n', _, rfl, rfl, by decide⟩
  | bool value => cases value <;> exact ⟨_, _, rfl, rfl, by decide⟩
  | number value => cases isTextual
  | string text =>
      rw [spell]
      · rw [compact, toList_quote]
        exact ⟨'"', _, rfl, rfl, by decide⟩
      all_goals simp
  | array elements =>
      rw [spell]
      cases spell.spellAll spacing (level + 1) elements <;>
        exact ⟨'[', _, rfl, rfl, by decide⟩
  | object members =>
      rw [spell]
      cases spell.spellMembers spacing (level + 1) members <;>
        exact ⟨'\x7b', _, rfl, rfl, by decide⟩
  | unreadable => cases isTextual

/-- Only an empty array is written without parts. -/
theorem eq_nil_of_spellAll {elements : List Json}
    (isTexts : spell.spellAll spacing level elements = []) : elements = [] := by
  cases elements with
  | nil => rfl
  | cons element others => cases isTexts

/-- Only an empty object is written without parts. -/
theorem eq_nil_of_spellMembers {members : List (String × Json)}
    (isTexts : spell.spellMembers spacing level members = []) : members = [] := by
  cases members with
  | nil => rfl
  | cons member others => cases isTexts

/-- The text of a first element starts with neither a blank nor the closing bracket. -/
theorem first_of_spellAll {elements : List Json} {texts : List (List Char)}
    (textual : isTextual.textualAll elements = true)
    (isTexts : spell.spellAll spacing level elements = text :: texts) :
    ∃ c rest, text = c :: rest ∧ isBlank c = false ∧ c ≠ ']' := by
  cases elements with
  | nil => cases isTexts
  | cons element others =>
      rw [spell.spellAll, List.cons.injEq] at isTexts
      rw [← isTexts.1]
      exact spell_eq_cons spacing level (Bool.and_eq_true_iff.1 textual).1

/-- The text of a first member starts with the quote of its name. -/
theorem first_of_spellMembers {members : List (String × Json)} {texts : List (List Char)}
    (isTexts : spell.spellMembers spacing level members = text :: texts) :
    ∃ rest, text = '"' :: rest := by
  cases members with
  | nil => cases isTexts
  | cons member others =>
      rw [spell.spellMembers, List.cons.injEq] at isTexts
      exact ⟨_, isTexts.1.symm⟩

/-- An array is read back when its elements are read back up to the closing bracket. -/
theorem readValue_enclosed_array {elements : List Json}
    (textual : isTextual.textualAll elements = true)
    (areRead : ∀ text texts, spell.spellAll spacing (level + 1) elements = text :: texts →
      2 * (text.length + (spacing.following ']' level texts).length) ≤ fuel →
        readElements fuel (text ++ (spacing.following ']' level texts ++ rest)) =
          some (elements, rest))
    (enough : 2 * (spell spacing level (array elements)).length ≤ fuel + 1) :
    readValue (fuel + 1) (spell spacing level (array elements) ++ rest) =
      some (array elements, rest) := by
  rw [spell] at enough ⊢
  cases isTexts : spell.spellAll spacing (level + 1) elements with
  | nil =>
      obtain rfl := eq_nil_of_spellAll isTexts
      have closes : skip (']' :: rest) = ']' :: rest := skip_cons (by rfl) rest
      rw [readValue, Spacing.enclosed, List.cons_append, skip_cons (by rfl)]
      simp [closes]
  | cons text texts =>
      rw [isTexts, Spacing.enclosed] at enough
      simp only [List.length_cons, List.length_append] at enough
      have reads := areRead text texts isTexts (by omega)
      obtain ⟨c, others, rfl, notBlank, notClosed⟩ := first_of_spellAll textual isTexts
      simpa [Spacing.enclosed] using
        readValue_array (spacing.lineBlank (level + 1)) notBlank notClosed reads

/-- An object is read back as soon as its members are, which take less fuel. -/
theorem readValue_enclosed_object {members : List (String × Json)}
    (areRead : ∀ text texts, spell.spellMembers spacing (level + 1) members = text :: texts →
      2 * (text.length + (spacing.following '\x7d' level texts).length) ≤ fuel →
        readMembers fuel (text ++ (spacing.following '\x7d' level texts ++ rest)) =
          some (some members, rest))
    (enough : 2 * (spell spacing level (object members)).length ≤ fuel + 1) :
    readValue (fuel + 1) (spell spacing level (object members) ++ rest) =
      some (object members, rest) := by
  rw [spell] at enough ⊢
  cases isTexts : spell.spellMembers spacing (level + 1) members with
  | nil =>
      obtain rfl := eq_nil_of_spellMembers isTexts
      have closes : skip ('\x7d' :: rest) = '\x7d' :: rest := skip_cons (by rfl) rest
      rw [readValue, Spacing.enclosed, List.cons_append, skip_cons (by rfl)]
      simp [closes]
  | cons text texts =>
      rw [isTexts, Spacing.enclosed] at enough
      simp only [List.length_cons, List.length_append] at enough
      have reads := areRead text texts isTexts (by omega)
      obtain ⟨others, rfl⟩ := first_of_spellMembers isTexts
      simpa [Spacing.enclosed] using readValue_object (spacing.lineBlank (level + 1)) reads

/-- An element is read back, and then the others up to the closing bracket. -/
theorem readElements_following {element : Json} {others : List Json} {texts : List (List Char)}
    (isTexts : spell.spellAll spacing (level + 1) others = texts)
    (isRead : ∀ after, readValue fuel (text ++ after) = some (element, after))
    (areRead : ∀ next more, spell.spellAll spacing (level + 1) others = next :: more →
      spacing.following ']' level texts = ',' :: (spacing.line (level + 1) ++ next ++
        spacing.following ']' level more) →
      readElements fuel (next ++ (spacing.following ']' level more ++ rest)) =
        some (others, rest)) :
    readElements (fuel + 1) (text ++ (spacing.following ']' level texts ++ rest)) =
      some (element :: others, rest) := by
  cases texts with
  | nil =>
      rw [eq_nil_of_spellAll isTexts]
      exact readElements_last (isRead _) (skip_following_nil (by rfl))
  | cons next more =>
      have reads := areRead next more isTexts (by rw [Spacing.following])
      rw [← readElements_append (spacing.lineBlank (level + 1))] at reads
      exact readElements_more (isRead _) (skip_following_cons more) reads

/-- A member is read back when its value is and the members behind it are. -/
theorem readMembers_following {name : String} {value : Json} {others : List (String × Json)}
    {texts : List (List Char)}
    (isTexts : spell.spellMembers spacing (level + 1) others = texts)
    (isRead : ∀ after, readValue fuel (text ++ after) = some (value, after))
    (areRead : ∀ next more, spell.spellMembers spacing (level + 1) others = next :: more →
      spacing.following '\x7d' level texts = ',' :: (spacing.line (level + 1) ++ next ++
        spacing.following '\x7d' level more) →
      readMembers fuel (next ++ (spacing.following '\x7d' level more ++ rest)) =
        some (some others, rest)) :
    readMembers (fuel + 1) ('"' :: (quoted name ++ ':' ::
        (spacing.gap ++ (text ++ (spacing.following '\x7d' level texts ++ rest))))) =
      some (some ((name, value) :: others), rest) := by
  have reads (after : List Char) :
      readValue fuel (spacing.gap ++ (text ++ after)) = some (value, after) := by
    rw [readValue_append spacing.gapBlank, isRead]
  cases texts with
  | nil =>
      rw [eq_nil_of_spellMembers isTexts]
      exact readMembers_last (reads _) (skip_following_nil (by rfl))
  | cons next more =>
      have othersRead := areRead next more isTexts (by rw [Spacing.following])
      rw [← readMembers_append (spacing.lineBlank (level + 1))] at othersRead
      exact readMembers_more (reads _) (skip_following_cons more) othersRead

end

/-! The readers go along with the structure of the value. Twice its length is enough fuel, because
each step into brackets and each step to a further part leaves a character behind. -/

mutual

/-- A value is read back from its characters, whatever follows them. -/
theorem readValue_spell (spacing : Spacing) : ∀ (level : Nat) (json : Json) (fuel : Nat)
    (rest : List Char), json.isTextual = true → 2 * (spell spacing level json).length ≤ fuel →
      readValue fuel (spell spacing level json ++ rest) = some (json, rest)
  | level, json, 0, rest, textual, enough => by
      -- Even the shortest value has a character.
      obtain ⟨c, others, isText, _⟩ := spell_eq_cons spacing level textual
      simp only [isText, List.length_cons] at enough
      omega
  | level, array elements, fuel + 1, rest, textual, enough =>
      readValue_enclosed_array textual
        (fun text texts isTexts => readElements_spell spacing level elements fuel rest text texts
          textual isTexts) enough
  | level, object members, fuel + 1, rest, textual, enough =>
      readValue_enclosed_object
        (fun text texts isTexts => readMembers_spell spacing level members fuel rest text texts
          textual isTexts) enough
  | level, string text, fuel + 1, rest, _, _ => by
      rw [spell, compact, toList_quote, List.cons_append]
      · exact readValue_quoted fuel text rest
      all_goals simp
  | _, null, fuel + 1, rest, _, _ => by
      simp [spell, compact, readValue, skip, isBlank]
  | _, bool value, fuel + 1, rest, _, _ => by
      cases value <;> simp [spell, compact, readValue, skip, isBlank]

/-- The elements of an array are read back from their texts. -/
theorem readElements_spell (spacing : Spacing) (level : Nat) : ∀ (elements : List Json) (fuel : Nat)
    (rest text : List Char) (texts : List (List Char)), isTextual.textualAll elements = true →
      spell.spellAll spacing (level + 1) elements = text :: texts →
        2 * (text.length + (spacing.following ']' level texts).length) ≤ fuel →
          readElements fuel (text ++ (spacing.following ']' level texts ++ rest)) =
            some (elements, rest)
  | [], _, _, _, _, _, isTexts, _ => by cases isTexts
  | element :: others, 0, rest, text, texts, textual, isTexts, enough => by
      obtain ⟨c, more, isText, _⟩ := first_of_spellAll textual isTexts
      simp only [isText, List.length_cons] at enough
      omega
  | element :: others, fuel + 1, rest, text, texts, textual, isTexts, enough => by
      rw [isTextual.textualAll, Bool.and_eq_true] at textual
      rw [spell.spellAll, List.cons.injEq] at isTexts
      obtain ⟨rfl, rfl⟩ := isTexts
      refine readElements_following rfl (fun after => ?_) fun next more isNext isFollowing => ?_
      · have closes := following_length_pos spacing ']' level
          (spell.spellAll spacing (level + 1) others)
        exact readValue_spell spacing (level + 1) element fuel after textual.1 (by omega)
      · refine readElements_spell spacing level others fuel rest next more textual.2 isNext ?_
        simp only [isFollowing, List.length_cons, List.length_append] at enough
        omega

/-- The members of an object are read back from their texts. -/
theorem readMembers_spell (spacing : Spacing) (level : Nat) : ∀ (members : List (String × Json))
    (fuel : Nat) (rest text : List Char) (texts : List (List Char)),
    isTextual.textualMembers members = true →
      spell.spellMembers spacing (level + 1) members = text :: texts →
        2 * (text.length + (spacing.following '\x7d' level texts).length) ≤ fuel →
          readMembers fuel (text ++ (spacing.following '\x7d' level texts ++ rest)) =
            some (some members, rest)
  | [], _, _, _, _, _, isTexts, _ => by cases isTexts
  | (name, value) :: others, 0, rest, text, texts, textual, isTexts, enough => by
      obtain ⟨more, isText⟩ := first_of_spellMembers isTexts
      simp only [isText, List.length_cons] at enough
      omega
  | (name, value) :: others, fuel + 1, rest, text, texts, textual, isTexts, enough => by
      rw [isTextual.textualMembers, Bool.and_eq_true] at textual
      rw [spell.spellMembers, List.cons.injEq] at isTexts
      obtain ⟨rfl, rfl⟩ := isTexts
      -- The value stands behind its name, a colon and the gap.
      simp only [List.length_append, List.length_cons] at enough
      simp only [List.cons_append, List.append_assoc]
      refine readMembers_following rfl (fun after => ?_) fun next more isNext isFollowing => ?_
      · exact readValue_spell spacing (level + 1) value fuel after textual.1 (by omega)
      · refine readMembers_spell spacing level others fuel rest next more textual.2 isNext ?_
        simp only [isFollowing, List.length_cons, List.length_append] at enough
        omega

end

/-- A text that spells a value is read as that value; blanks may follow it. -/
theorem parse?_of_toList {text : String} {spacing : Spacing} {level : Nat} {json : Json}
    {blanks : List Char} (textual : json.isTextual = true) (areBlank : blanks.all isBlank = true)
    (isText : text.toList = spell spacing level json ++ blanks) : parse? text = some json := by
  have enough : 2 * (spell spacing level json).length ≤ 2 * text.length + 2 := by
    rw [← String.length_toList, isText, List.length_append]
    omega
  have nothingLeft : skip blanks = [] := by
    rw [← List.append_nil blanks, skip_append areBlank]
    rfl
  rw [parse?, isText, readValue_spell spacing level json _ blanks textual enough]
  simp [nothingLeft]

/-- The compact text of a value is read as that value. -/
theorem parse?_compact {json : Json} (textual : json.isTextual = true) :
    parse? json.compact = some json :=
  parse?_of_toList textual List.all_nil (by rw [toList_compact 0, List.append_nil])

/-- The indented text of a value is read as that value; blanks may follow it. -/
theorem parse?_indented {json : Json} (textual : json.isTextual = true) {blanks : String}
    (areBlank : blanks.toList.all isBlank = true) :
    parse? (json.indented 0 ++ blanks) = some json :=
  parse?_of_toList textual areBlank (by rw [String.toList_append, toList_indented])

end Provisioning.Json
