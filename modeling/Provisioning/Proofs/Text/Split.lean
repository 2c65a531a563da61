/-
This file says exactly how a text is cut at a separator and into which pieces.
-/

import Mathlib.Data.List.Basic
import Provisioning.Text.Split

namespace Provisioning.Text

variable {separator : Char}

/-- A part without the separator is cut off before it, whatever follows. -/
theorem cutChars?_append {before : List Char} (absent : separator ∉ before) (after : List Char) :
    cutChars? separator (before ++ separator :: after) = some (before, after) := by
  induction before with
  | nil => rw [List.nil_append, cutChars?, if_pos rfl]
  | cons c rest inductionHypothesis =>
      rw [List.mem_cons, not_or] at absent
      rw [List.cons_append, cutChars?, if_neg (Ne.symm absent.1), inductionHypothesis absent.2]
      rfl

theorem cutChars?_eq_some_iff {text before after : List Char} :
    cutChars? separator text = some (before, after) ↔
      text = before ++ separator :: after ∧ separator ∉ before := by
  constructor
  · exact cutChars?_eq_some
  · rintro ⟨rfl, absent⟩
    exact cutChars?_append absent after

/-- A text is cut at its first separator. -/
theorem cut?_eq_some_iff {text before after : String} :
    cut? separator text = some (before, after) ↔
      text.toList = before.toList ++ separator :: after.toList ∧ separator ∉ before.toList := by
  rw [← cutChars?_eq_some_iff, cut?, Option.map_eq_some_iff]
  constructor
  · rintro ⟨⟨first, second⟩, found, same⟩
    obtain ⟨rfl, rfl⟩ := Prod.mk.inj same
    rwa [String.toList_ofList, String.toList_ofList]
  · intro found
    exact ⟨_, found, by rw [String.ofList_toList, String.ofList_toList]⟩

theorem piecesOf_of_notMem {text : List Char} (absent : separator ∉ text) :
    piecesOf separator text = [text] := by
  induction text with
  | nil => rfl
  | cons c rest inductionHypothesis =>
      rw [List.mem_cons, not_or] at absent
      rw [piecesOf, if_neg (Ne.symm absent.1), inductionHypothesis absent.2]

/-- The first piece ends at the first separator. -/
theorem piecesOf_append {piece : List Char} (absent : separator ∉ piece) (rest : List Char) :
    piecesOf separator (piece ++ separator :: rest) = piece :: piecesOf separator rest := by
  induction piece with
  | nil => rw [List.nil_append, piecesOf, if_pos rfl]
  | cons c others inductionHypothesis =>
      rw [List.mem_cons, not_or] at absent
      rw [List.cons_append, piecesOf, if_neg (Ne.symm absent.1), inductionHypothesis absent.2]

/-- The pieces of two texts with a separator between them are the pieces of both. -/
theorem piecesOf_append_cons (first rest : List Char) :
    piecesOf separator (first ++ separator :: rest) =
      piecesOf separator first ++ piecesOf separator rest := by
  induction first with
  | nil => exact if_pos rfl
  | cons c others inductionHypothesis =>
      rw [List.cons_append, piecesOf, piecesOf, inductionHypothesis]
      split
      · rw [List.cons_append]
      · cases pieces : piecesOf separator others with
        | nil => exact absurd pieces (piecesOf_ne_nil separator others)
        | cons piece more => rw [List.cons_append, List.cons_append]

/-- Pieces without the separator are found again in the text that they make up. -/
theorem piecesOf_intercalate {pieces : List (List Char)} (nonempty : pieces ≠ [])
    (whole : ∀ piece ∈ pieces, separator ∉ piece) :
    piecesOf separator ([separator].intercalate pieces) = pieces := by
  induction pieces with
  | nil => exact absurd rfl nonempty
  | cons piece rest inductionHypothesis =>
      rw [List.forall_mem_cons] at whole
      cases rest with
      | nil => rw [List.intercalate_singleton, piecesOf_of_notMem whole.1]
      | cons second others =>
          rw [List.intercalate_cons_cons, List.append_assoc, List.singleton_append,
            piecesOf_append whole.1, inductionHypothesis (List.cons_ne_nil _ _) whole.2]

/-- The pieces of a text with the separator between them are the text. -/
theorem intercalate_pieces (separator : Char) (text : String) :
    [separator].intercalate ((pieces separator text).map String.toList) = text.toList := by
  have sameChars : String.toList ∘ String.ofList = id := funext fun _ => String.toList_ofList
  rw [pieces, List.map_map, sameChars, List.map_id, intercalate_piecesOf]

/-- The pieces are the only parts without the separator that make up the text. -/
theorem pieces_eq_iff {text : String} {parts : List String} :
    pieces separator text = parts ↔
      parts ≠ [] ∧ (∀ part ∈ parts, separator ∉ part.toList) ∧
        [separator].intercalate (parts.map String.toList) = text.toList := by
  constructor
  · rintro rfl
    refine ⟨?_, ?_, intercalate_pieces separator text⟩
    · exact fun none => piecesOf_ne_nil separator text.toList (List.map_eq_nil_iff.1 none)
    · intro part listed
      obtain ⟨piece, isPiece, rfl⟩ := List.mem_map.1 listed
      rw [String.toList_ofList]
      exact notMem_of_mem_piecesOf isPiece
  · rintro ⟨nonempty, whole, joined⟩
    have sameTexts : String.ofList ∘ String.toList = id := funext fun _ => String.ofList_toList
    rw [pieces, ← joined, piecesOf_intercalate (by simpa using nonempty)
      (by simpa using whole), List.map_map, sameTexts, List.map_id]

end Provisioning.Text
