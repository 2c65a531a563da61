/-
This file proves which texts are read as capability patterns and into which segments.
-/

import Provisioning.Capability.Pattern
import Provisioning.Proofs.Success
import Provisioning.Proofs.Text.Split

namespace Provisioning.Capability

/-- A segment is told by its text: a dollar sign before a name is the place of a parameter. -/
def Segment.IsPlain : Segment → Prop
  | literal text => text ≠ "" ∧ text.toList.head? ≠ some '$'
  | param name => name ≠ ""

variable {pattern : String} {optional : Bool} {piece : List Char} {segment : Segment}
  {segments : List Segment} {capability : Capability}

theorem toList_text_param (name : String) :
    (Segment.param name).text.toList = '$' :: name.toList := by
  simp [Segment.text, toString]

/-- A piece is read as the segment that has its text. -/
theorem text_of_readSegment (isRead : readSegment pattern piece = .ok segment) :
    segment.text = String.ofList piece ∧ segment.IsPlain := by
  unfold readSegment at isRead
  split at isRead
  · cases isRead
  · cases isRead
  · next name notAlone =>
    cases isRead
    rw [← String.toList_inj, toList_text_param, String.toList_ofList, String.toList_ofList]
    exact ⟨rfl, by simpa [Segment.IsPlain, ← String.toList_inj] using notAlone⟩
  · next notEmpty _ notParam =>
    cases isRead
    refine ⟨rfl, by simpa [← String.toList_inj] using notEmpty, fun isFirst => ?_⟩
    rw [String.toList_ofList] at isFirst
    obtain ⟨rest, same⟩ := List.head?_eq_some_iff.1 isFirst
    exact notParam rest same

/-- A plain segment is read back from its text. -/
theorem readSegment_text (pattern : String) (isPlain : segment.IsPlain) :
    readSegment pattern segment.text.toList = .ok segment := by
  unfold readSegment
  cases segment with
  | literal text =>
      obtain ⟨filled, noParam⟩ := isPlain
      split
      · next isEmpty => exact absurd (String.toList_inj.1 isEmpty) filled
      · next isDollar => simp [show text.toList = ['$'] from isDollar] at noParam
      · next name _ isParam => simp [show text.toList = '$' :: name from isParam] at noParam
      · rw [Segment.text, String.ofList_toList]
  | param name =>
      have filled : name.toList ≠ [] := fun isEmpty => isPlain (String.toList_inj.1 isEmpty)
      rw [toList_text_param]
      split
      · next isEmpty => cases isEmpty
      · next isDollar => exact absurd (List.cons.inj isDollar).2 filled
      · next same =>
        obtain rfl := (List.cons.inj same).2
        rw [String.ofList_toList]
      · next notParam => exact absurd rfl (notParam name.toList)

/-- A pattern is read as the plain segments whose texts are its pieces. -/
theorem readSegments_eq_ok_iff {pieces : List (List Char)} :
    readSegments pattern pieces = .ok segments ↔
      segments.map Segment.text = pieces.map String.ofList ∧
        ∀ segment ∈ segments, segment.IsPlain := by
  induction pieces generalizing segments with
  | nil =>
      rw [readSegments, Except.ok.injEq, List.map_nil, List.map_eq_nil_iff, eq_comm, iff_self_and]
      rintro rfl
      simp
  | cons piece rest inductionHypothesis =>
      simp only [readSegments, bind_eq_ok_iff, pure_eq_ok_iff, inductionHypothesis]
      constructor
      · rintro ⟨segment, isRead, others, ⟨areTexts, arePlain⟩, rfl⟩
        obtain ⟨isText, isPlain⟩ := text_of_readSegment isRead
        rw [List.map_cons, isText, areTexts, List.forall_mem_cons]
        exact ⟨rfl, isPlain, arePlain⟩
      · rintro ⟨texts, arePlain⟩
        cases segments with
        | nil => cases texts
        | cons segment others =>
            obtain ⟨isText, areTexts⟩ := List.cons.inj texts
            rw [List.forall_mem_cons] at arePlain
            have isRead := readSegment_text pattern arePlain.1
            rw [isText, String.toList_ofList] at isRead
            exact ⟨segment, isRead, others, ⟨areTexts, arePlain.2⟩, rfl⟩

/-- A piece is refused when it is empty or names no parameter. -/
theorem readSegment_succeeds_iff :
    Succeeds (readSegment pattern piece) ↔ piece ≠ [] ∧ piece ≠ ['$'] := by
  unfold readSegment
  split
  · simp
  · simp
  · next notAlone => simpa using notAlone
  · next notEmpty notAlone _ => simpa using ⟨notEmpty, notAlone⟩

/-- A pattern is refused when one of its pieces is. -/
theorem readSegments_succeeds_iff {pieces : List (List Char)} :
    Succeeds (readSegments pattern pieces) ↔ ∀ piece ∈ pieces, piece ≠ [] ∧ piece ≠ ['$'] := by
  induction pieces with
  | nil => simp [readSegments]
  | cons piece rest inductionHypothesis =>
      rw [List.forall_mem_cons, ← inductionHypothesis, ← @readSegment_succeeds_iff pattern]
      simp only [readSegments, succeeds_bind_iff, succeeds_pure, and_true]
      exact exists_and_right

/-- A pattern is read into the segments whose texts are the pieces of it, without the blanks around
it. -/
theorem parse_eq_ok_iff :
    parse pattern optional = .ok capability ↔
      Text.trim pattern ≠ "" ∧ capability.pattern = Text.trim pattern ∧
        capability.optional = optional ∧
          capability.segments.map Segment.text = Text.pieces '.' (Text.trim pattern) ∧
            ∀ segment ∈ capability.segments, segment.IsPlain := by
  simp only [parse, String.isEmpty_iff]
  by_cases isEmpty : Text.trim pattern = ""
  · simp [isEmpty]
  · obtain ⟨_, segments, _⟩ := capability
    simp only [if_neg isEmpty, bind_eq_ok_iff, pure_eq_ok_iff, readSegments_eq_ok_iff]
    constructor
    · rintro ⟨segments, ⟨areTexts, arePlain⟩, same⟩
      cases same
      exact ⟨isEmpty, rfl, rfl, areTexts, arePlain⟩
    · rintro ⟨_, rfl, rfl, areTexts, arePlain⟩
      exact ⟨segments, ⟨areTexts, arePlain⟩, rfl⟩

/-- A pattern is accepted when it is not blank and each of its pieces is accepted. -/
theorem parse_succeeds_iff :
    Succeeds (parse pattern optional) ↔
      Text.trim pattern ≠ "" ∧
        ∀ piece ∈ Text.pieces '.' (Text.trim pattern), piece ≠ "" ∧ piece ≠ "$" := by
  simp only [parse, String.isEmpty_iff]
  by_cases isEmpty : Text.trim pattern = ""
  · simp [isEmpty]
  · simp only [if_neg isEmpty, succeeds_bind_iff, succeeds_pure, and_true]
    rw [← Succeeds, readSegments_succeeds_iff, Text.pieces, List.forall_mem_map]
    simp [isEmpty, ← String.toList_inj]

/-- The segments of a pattern, joined by dots, are the pattern without the blanks around it. -/
theorem join_segments (isRead : parse pattern optional = .ok capability) :
    Text.join "." (capability.segments.map Segment.text) = Text.trim pattern := by
  obtain ⟨_, _, _, areTexts, _⟩ := parse_eq_ok_iff.1 isRead
  rw [areTexts, ← String.toList_inj, Text.join, String.toList_intercalate]
  exact Text.intercalate_pieces '.' (Text.trim pattern)

end Provisioning.Capability
