/-
This file says what trimming takes away from the ends of a text.
-/

import Mathlib.Data.List.Basic
import Provisioning.Text.Blank

namespace Provisioning.Text

/-- Neither end of a text is blank. -/
structure IsTrimmed (text : List Char) : Prop where
  first : ∀ c, text.head? = some c → isBlank c = false
  last : ∀ c, text.getLast? = some c → isBlank c = false

/-- A text without the blanks that it begins with. -/
def trimStart (text : List Char) : List Char :=
  text.dropWhile isBlank

/-- A text without the blanks that it ends with. -/
def trimEnd (text : List Char) : List Char :=
  (text.reverse.dropWhile isBlank).reverse

theorem trimChars_eq (text : List Char) : trimChars text = trimEnd (trimStart text) := rfl

variable {text : List Char}

/-- Trimming adds no character. -/
theorem mem_of_mem_trimStart {c : Char} (listed : c ∈ trimStart text) : c ∈ text :=
  (List.dropWhile_suffix isBlank).mem listed

theorem mem_of_mem_trimEnd {c : Char} (listed : c ∈ trimEnd text) : c ∈ text := by
  rw [trimEnd, List.mem_reverse] at listed
  exact List.mem_reverse.1 (mem_of_mem_trimStart listed)

theorem mem_of_mem_trimChars {c : Char} (listed : c ∈ trimChars text) : c ∈ text :=
  mem_of_mem_trimStart (mem_of_mem_trimEnd listed)

/-- A text that is not blank keeps what follows it when its beginning is trimmed. -/
theorem trimStart_append (filled : text.all isBlank = false) (rest : List Char) :
    trimStart (text ++ rest) = trimStart text ++ rest := by
  have remains : ¬(text.dropWhile isBlank).isEmpty = true := by
    rw [List.isEmpty_iff, dropWhile_eq_nil_iff, filled]
    exact Bool.false_ne_true
  rw [trimStart, List.dropWhile_append, if_neg remains, trimStart]

/-- A text that is not blank keeps what stands before it when its end is trimmed. -/
theorem trimEnd_append (filled : text.all isBlank = false) (before : List Char) :
    trimEnd (before ++ text) = before ++ trimEnd text := by
  have start := trimStart_append (by rwa [List.all_reverse] : text.reverse.all isBlank = false)
    before.reverse
  rw [trimStart, trimStart] at start
  rw [trimEnd, List.reverse_append, start, List.reverse_append, List.reverse_reverse, trimEnd]

/-- Trimming the beginning leaves a blank text blank, and no other. -/
theorem all_isBlank_trimStart (text : List Char) :
    (trimStart text).all isBlank = text.all isBlank := by
  have whole := List.takeWhile_append_dropWhile (p := isBlank) (l := text)
  conv_rhs => rw [← whole, List.all_append]
  simp [trimStart]

theorem all_isBlank_trimEnd (text : List Char) :
    (trimEnd text).all isBlank = text.all isBlank := by
  rw [trimEnd, List.all_reverse, ← trimStart, all_isBlank_trimStart, List.all_reverse]

/-- What is left behind the first blanks does not begin with one. -/
theorem not_isBlank_of_head?_dropWhile {c : Char}
    (isFirst : (text.dropWhile isBlank).head? = some c) : isBlank c = false := by
  have known := List.head?_dropWhile_not isBlank text
  rwa [isFirst] at known

/-- Nothing is taken from a text exactly when it does not begin with a blank. -/
theorem trimStart_eq_self_iff :
    trimStart text = text ↔ ∀ c, text.head? = some c → isBlank c = false := by
  constructor
  · intro same c isFirst
    rw [← same] at isFirst
    exact not_isBlank_of_head?_dropWhile isFirst
  · intro first
    cases text with
    | nil => rfl
    | cons c rest => exact List.dropWhile_cons_of_neg (by simp [first c rfl])

/-- Nothing is taken from a text exactly when it does not end with a blank. -/
theorem trimEnd_eq_self_iff :
    trimEnd text = text ↔ ∀ c, text.getLast? = some c → isBlank c = false := by
  have start := @trimStart_eq_self_iff text.reverse
  rw [List.head?_reverse] at start
  rw [← start, trimStart, trimEnd, List.reverse_eq_iff]

/-- A trimmed text has no blank at either end. -/
theorem isTrimmed_trimChars (text : List Char) : IsTrimmed (trimChars text) where
  first := by
    intro c isFirst
    rw [trimChars, List.head?_reverse] at isFirst
    -- What is left behind the last blanks ends like the whole of it.
    have whole := List.takeWhile_append_dropWhile (p := isBlank)
      (l := (text.dropWhile isBlank).reverse)
    have isLast : (text.dropWhile isBlank).reverse.getLast? = some c := by
      rw [← whole, List.getLast?_append, isFirst, Option.some_or]
    rw [List.getLast?_reverse] at isLast
    exact not_isBlank_of_head?_dropWhile isLast
  last := by
    intro c isLast
    rw [trimChars, List.getLast?_reverse] at isLast
    exact not_isBlank_of_head?_dropWhile isLast

/-- Blanks before a text are trimmed with its beginning. -/
theorem trimStart_append_of_blank {before : List Char} (areBlank : before.all isBlank = true)
    (text : List Char) : trimStart (before ++ text) = trimStart text :=
  List.dropWhile_append_of_pos (List.all_eq_true.1 areBlank)

/-- Blanks after a text are trimmed with its end. -/
theorem trimEnd_append_of_blank {after : List Char} (areBlank : after.all isBlank = true)
    (text : List Char) : trimEnd (text ++ after) = trimEnd text := by
  have start := trimStart_append_of_blank (by rwa [List.all_reverse] : after.reverse.all isBlank)
    text.reverse
  rw [trimStart, trimStart] at start
  rw [trimEnd, List.reverse_append, start, trimEnd]

/-- Blanks stand around a text. -/
def IsPadded (core text : List Char) : Prop :=
  ∃ before after, before.all isBlank = true ∧ after.all isBlank = true ∧
    text = before ++ core ++ after

/-- A text that is not empty is not blank when its ends are not. -/
theorem IsTrimmed.filled (isTrimmed : IsTrimmed text) (nonempty : text ≠ []) :
    text.all isBlank = false := by
  cases text with
  | nil => exact absurd rfl nonempty
  | cons c rest => simp [isTrimmed.first c rfl]

/-- Only blanks are trimmed away. -/
theorem isPadded_trimChars (text : List Char) : IsPadded (trimChars text) text := by
  have start := List.takeWhile_append_dropWhile (p := isBlank) (l := text)
  have finish := List.takeWhile_append_dropWhile (p := isBlank) (l := (trimStart text).reverse)
  refine ⟨text.takeWhile isBlank, ((trimStart text).reverse.takeWhile isBlank).reverse, ?_, ?_, ?_⟩
  · exact List.all_takeWhile
  · rw [List.all_reverse]
    exact List.all_takeWhile
  · rw [trimChars_eq, trimEnd, List.append_assoc, ← List.reverse_append, finish,
      List.reverse_reverse, trimStart, start]

/-- Trimming leaves what the blanks stand around. -/
theorem trimChars_eq_iff {core : List Char} :
    trimChars text = core ↔ IsTrimmed core ∧ IsPadded core text := by
  constructor
  · rintro rfl
    exact ⟨isTrimmed_trimChars text, isPadded_trimChars text⟩
  · rintro ⟨isTrimmed, before, after, blankBefore, blankAfter, rfl⟩
    by_cases isEmpty : core = []
    · subst isEmpty
      rw [trimChars_eq_nil_iff]
      simp only [List.append_nil, List.all_append, blankBefore, blankAfter, Bool.and_self]
    · have filled := isTrimmed.filled isEmpty
      rw [trimChars_eq, List.append_assoc, trimStart_append_of_blank blankBefore,
        trimStart_append filled, trimEnd_append_of_blank blankAfter,
        trimStart_eq_self_iff.2 isTrimmed.first, trimEnd_eq_self_iff.2 isTrimmed.last]

end Provisioning.Text
