/-
This file proves which texts are read as the values of list parameters.
-/

import Mathlib.Data.List.Forall2
import Provisioning.Feature.ListValue
import Provisioning.Proofs.Success
import Provisioning.Proofs.Text.Split
import Provisioning.Proofs.Text.Trim

namespace Provisioning.ListValue

open Text

/-- What stands between the brackets of a text, which are its first and last characters but for the
blanks around it. -/
def IsBracketed (value : String) (inner : List Char) : Prop :=
  trimChars value.toList = '[' :: inner ++ [']']

/-- An element is told apart from the commas and blanks around it. -/
structure IsElement (element : String) : Prop where
  filled : element ≠ ""
  whole : ',' ∉ element.toList
  trimmed : IsTrimmed element.toList

/-- Elements are listed with commas between them and blanks around each of them. -/
inductive Lists : List Char → List String → Prop where
  | nothing {inner : List Char} (areBlank : inner.all isBlank = true) : Lists inner []
  | padded {pieces : List (List Char)} {elements : List String} (nonempty : elements ≠ [])
      (arePadded : List.Forall₂ (fun element piece => IsPadded element.toList piece)
        elements pieces) : Lists ([','].intercalate pieces) elements

/-- A list is written in brackets, with blanks around the whole. -/
def Writes (value : String) (elements : List String) : Prop :=
  ∃ inner, IsPadded ('[' :: inner ++ [']']) value.toList ∧ Lists inner elements

variable {value : String} {elements result : List String}

/-- A text is read between its two brackets. -/
theorem betweenBrackets?_eq_some_iff {text inner : List Char} :
    betweenBrackets? text = some inner ↔ text = '[' :: inner ++ [']'] := by
  unfold betweenBrackets?
  split
  · next rest =>
    split
    · next reversed isReversed =>
      rw [List.reverse_eq_iff, List.reverse_cons] at isReversed
      simp [isReversed]
    · next notClosed =>
      constructor
      · intro found
        cases found
      · intro same
        rw [List.cons_append, List.cons.injEq] at same
        exact absurd (by simp [same.2]) (notClosed inner.reverse)
  · next notOpened =>
    constructor
    · intro found
      cases found
    · intro same
      exact absurd same (notOpened _)

/-- Pieces are read as elements exactly when none of them is blank. -/
theorem elements_eq_ok_iff {pieces : List (List Char)} :
    ListValue.elements value pieces = .ok result ↔
      (∀ piece ∈ pieces, piece.all isBlank = false) ∧
        result = pieces.map fun piece => String.ofList (trimChars piece) := by
  induction pieces generalizing result with
  | nil =>
      rw [ListValue.elements, Except.ok.injEq, eq_comm]
      simp
  | cons piece rest inductionHypothesis =>
      rw [ListValue.elements, List.forall_mem_cons]
      split
      · next isEmpty =>
        rw [trimChars_eq_nil_iff] at isEmpty
        simp [isEmpty]
      · next nonempty =>
        have filled : piece.all isBlank = false := by
          rw [← Bool.not_eq_true, ← trimChars_eq_nil_iff]
          exact nonempty
        simp only [bind_eq_ok_iff, pure_eq_ok_iff, inductionHypothesis, filled, true_and,
          List.map_cons]
        constructor
        · rintro ⟨others, ⟨restFilled, rfl⟩, rfl⟩
          exact ⟨restFilled, rfl⟩
        · rintro ⟨restFilled, rfl⟩
          exact ⟨_, ⟨restFilled, rfl⟩, rfl⟩

theorem comma_notMem_of_blank {blanks : List Char} (areBlank : blanks.all isBlank = true) :
    ',' ∉ blanks :=
  fun listed => absurd (List.all_eq_true.1 areBlank ',' listed) (by decide)

/-- A blank text is its own only piece. -/
theorem exists_blank_piece {inner : List Char} (areBlank : inner.all isBlank = true) :
    ∃ piece ∈ piecesOf ',' inner, piece.all isBlank = true := by
  rw [piecesOf_of_notMem (comma_notMem_of_blank areBlank)]
  exact ⟨inner, List.mem_singleton_self inner, areBlank⟩

/-- A value is read exactly when it is bracketed and no element of it is blank, unless the list is
empty. -/
theorem parse_eq_ok_iff :
    parse value = .ok result ↔ ∃ inner, IsBracketed value inner ∧
      ((inner.all isBlank = true ∧ result = []) ∨
        ((∀ piece ∈ piecesOf ',' inner, piece.all isBlank = false) ∧
          result = (piecesOf ',' inner).map fun piece => String.ofList (trimChars piece))) := by
  unfold parse IsBracketed
  simp only [← betweenBrackets?_eq_some_iff]
  split
  · next notBracketed => simp [notBracketed]
  · next inner isInner =>
    simp only [isInner, Option.some.injEq, exists_eq_left']
    by_cases areBlank : inner.all isBlank = true
    · obtain ⟨piece, isPiece, isBlank⟩ := exists_blank_piece areBlank
      rw [if_pos areBlank]
      constructor
      · intro isRead
        cases isRead
        exact Or.inl ⟨areBlank, rfl⟩
      · rintro (⟨_, rfl⟩ | ⟨filled, _⟩)
        · rfl
        · simp [filled piece isPiece] at isBlank
    · rw [if_neg areBlank, elements_eq_ok_iff]
      simp [areBlank]

/-- A text in brackets has no blank at either end. -/
theorem isTrimmed_bracketed (inner : List Char) : IsTrimmed ('[' :: inner ++ [']']) where
  first := by
    intro c isFirst
    cases isFirst
    decide
  last := by
    intro c isLast
    rw [List.getLast?_concat] at isLast
    cases isLast
    decide

/-- The blanks around a list do not matter. -/
theorem isBracketed_iff {inner : List Char} :
    IsBracketed value inner ↔ IsPadded ('[' :: inner ++ [']']) value.toList := by
  rw [IsBracketed, trimChars_eq_iff]
  exact and_iff_right (isTrimmed_bracketed inner)

/-- A piece that is not blank is an element when it is trimmed. -/
theorem isElement_of_piece {inner piece : List Char} (isPiece : piece ∈ piecesOf ',' inner)
    (filled : piece.all isBlank = false) : IsElement (String.ofList (trimChars piece)) where
  filled := by
    rw [Ne, ← String.toList_inj, String.toList_ofList]
    have nonempty := mt (trimChars_eq_nil_iff piece).1
    simpa [filled] using nonempty
  whole := by
    rw [String.toList_ofList]
    exact fun listed => notMem_of_mem_piecesOf isPiece (mem_of_mem_trimChars listed)
  trimmed := by
    rw [String.toList_ofList]
    exact isTrimmed_trimChars piece

/-- A piece with blanks around an element is no other piece and holds nothing else. -/
theorem IsElement.of_isPadded {element : String} (isElement : IsElement element)
    {piece : List Char} (isPadded : IsPadded element.toList piece) :
    ',' ∉ piece ∧ piece.all isBlank = false ∧ String.ofList (trimChars piece) = element := by
  have trimmed : trimChars piece = element.toList :=
    trimChars_eq_iff.2 ⟨isElement.trimmed, isPadded⟩
  refine ⟨?_, ?_, ?_⟩
  · obtain ⟨before, after, blankBefore, blankAfter, rfl⟩ := isPadded
    simp [comma_notMem_of_blank blankBefore, comma_notMem_of_blank blankAfter, isElement.whole]
  · rw [← Bool.not_eq_true, ← trimChars_eq_nil_iff, trimmed]
    simpa using isElement.filled
  · rw [trimmed, String.ofList_toList]

/-- Blanks around elements are trimmed away, and no piece can be mistaken for two. -/
theorem elements_of_padded {pieces : List (List Char)}
    (arePadded : List.Forall₂ (fun element piece => IsPadded element.toList piece) elements pieces)
    (areElements : ∀ element ∈ elements, IsElement element) :
    (∀ piece ∈ pieces, ',' ∉ piece) ∧ (∀ piece ∈ pieces, piece.all isBlank = false) ∧
      elements = pieces.map fun piece => String.ofList (trimChars piece) := by
  induction arePadded with
  | nil => simp
  | cons isPadded _ inductionHypothesis =>
      rw [List.forall_mem_cons] at areElements
      obtain ⟨whole, filled, isRead⟩ := areElements.1.of_isPadded isPadded
      obtain ⟨restWhole, restFilled, areRead⟩ := inductionHypothesis areElements.2
      rw [List.forall_mem_cons, List.forall_mem_cons, List.map_cons, isRead, ← areRead]
      exact ⟨⟨whole, restWhole⟩, ⟨filled, restFilled⟩, rfl⟩

/-- Whatever is written of elements is read as these elements. -/
theorem parse_of_writes (areElements : ∀ element ∈ elements, IsElement element)
    (writes : Writes value elements) : parse value = .ok elements := by
  obtain ⟨inner, isPadded, lists⟩ := writes
  refine parse_eq_ok_iff.2 ⟨inner, isBracketed_iff.2 isPadded, ?_⟩
  cases lists with
  | nothing areBlank => exact Or.inl ⟨areBlank, rfl⟩
  | @padded pieces _ nonempty arePadded =>
      have somePiece : pieces ≠ [] := by
        rintro rfl
        exact nonempty (List.forall₂_nil_right_iff.1 arePadded)
      obtain ⟨whole, filled, areRead⟩ := elements_of_padded arePadded areElements
      rw [piecesOf_intercalate somePiece whole]
      exact Or.inr ⟨filled, areRead⟩

/-- A value that is read writes its elements. -/
theorem writes_of_parse (isRead : parse value = .ok elements) :
    (∀ element ∈ elements, IsElement element) ∧ Writes value elements := by
  obtain ⟨inner, isBracketed, ⟨areBlank, rfl⟩ | ⟨filled, rfl⟩⟩ := parse_eq_ok_iff.1 isRead
  · exact ⟨by simp, inner, isBracketed_iff.1 isBracketed, .nothing areBlank⟩
  · constructor
    · rw [List.forall_mem_map]
      exact fun piece isPiece => isElement_of_piece isPiece (filled piece isPiece)
    · refine ⟨inner, isBracketed_iff.1 isBracketed, ?_⟩
      have arePadded : List.Forall₂ (fun element piece => IsPadded element.toList piece)
          ((piecesOf ',' inner).map fun piece => String.ofList (trimChars piece))
          (piecesOf ',' inner) := by
        rw [List.forall₂_map_left_iff, List.forall₂_same]
        intro piece _
        rw [String.toList_ofList]
        exact isPadded_trimChars piece
      have lists := Lists.padded (by simpa using piecesOf_ne_nil ',' inner) arePadded
      rwa [intercalate_piecesOf] at lists

/-- A value is read as a list exactly when, without the blanks around it, it begins with an opening
bracket and ends with a closing one and what stands between them is blank, which is the empty list,
or is made of pieces that are not blank, which are the elements when they are trimmed. These are the
texts that list elements in brackets, with blanks wherever one likes. -/
theorem list_values_are_read (value : String) :
    (Succeeds (parse value) ↔ ∃ inner, IsBracketed value inner ∧
      (inner.all isBlank = true ∨ ∀ piece ∈ piecesOf ',' inner, piece.all isBlank = false)) ∧
    (∀ inner, IsBracketed value inner →
      (inner.all isBlank = true → parse value = .ok []) ∧
        ((∀ piece ∈ piecesOf ',' inner, piece.all isBlank = false) →
          parse value =
            .ok ((piecesOf ',' inner).map fun piece => String.ofList (trimChars piece)))) ∧
    ∀ elements, parse value = .ok elements ↔
      (∀ element ∈ elements, IsElement element) ∧ Writes value elements := by
  refine ⟨?_, fun inner isBracketed => ⟨fun areBlank => ?_, fun filled => ?_⟩, fun elements => ?_⟩
  · simp only [Succeeds, parse_eq_ok_iff]
    constructor
    · rintro ⟨elements, inner, isBracketed, ⟨areBlank, _⟩ | ⟨filled, _⟩⟩
      · exact ⟨inner, isBracketed, Or.inl areBlank⟩
      · exact ⟨inner, isBracketed, Or.inr filled⟩
    · rintro ⟨inner, isBracketed, areBlank | filled⟩
      · exact ⟨_, inner, isBracketed, Or.inl ⟨areBlank, rfl⟩⟩
      · exact ⟨_, inner, isBracketed, Or.inr ⟨filled, rfl⟩⟩
  · exact parse_eq_ok_iff.2 ⟨inner, isBracketed, Or.inl ⟨areBlank, rfl⟩⟩
  · exact parse_eq_ok_iff.2 ⟨inner, isBracketed, Or.inr ⟨filled, rfl⟩⟩
  · constructor
    · exact writes_of_parse
    · rintro ⟨areElements, writes⟩
      exact parse_of_writes areElements writes

/-- Brackets inside an element belong to it. -/
example : parse " [ [a , b]\t, ] ] " = .ok ["[a", "b]", "]"] := by rfl

end Provisioning.ListValue
