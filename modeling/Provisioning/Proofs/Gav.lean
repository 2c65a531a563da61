/-
This file says which coordinates are read again from their text.
-/

import Provisioning.Gav
import Provisioning.Json.State
import Provisioning.Proofs.Text.Split
import Provisioning.Proofs.Text.Trim

namespace Provisioning

namespace Gav

variable {gav : Gav}

/-- The coordinate has been read from a text. -/
def IsRead (gav : Gav) : Prop := ∃ text, parse text = .ok gav

/-- A part of a coordinate is not blank and holds no colon. -/
def IsPart (part : String) : Prop :=
  part.toList.all Text.isBlank = false ∧ ':' ∉ part.toList

/-- The text of the coordinate neither begins nor ends with a blank. -/
structure HasTrimmedEnds (gav : Gav) : Prop where
  first : ∀ c, gav.group.toList.head? = some c → Text.isBlank c = false
  last : ∀ c, gav.version.toList.getLast? = some c → Text.isBlank c = false

/-- The coordinate without the blanks that its text begins and ends with. -/
def withTrimmedEnds (gav : Gav) : Gav where
  group := String.ofList (Text.trimStart gav.group.toList)
  artifact := gav.artifact
  version := String.ofList (Text.trimEnd gav.version.toList)

/-- The text of coordinates is their parts between colons. -/
theorem toList_text (gav : Gav) :
    gav.text.toList =
      gav.group.toList ++ ':' :: (gav.artifact.toList ++ ':' :: gav.version.toList) := by
  simp [text, toString]

/-- A part is accepted when it is neither blank nor divided by a colon. -/
theorem partProblem?_eq_none_iff {what part : String} :
    partProblem? what part = none ↔ IsPart part := by
  unfold partProblem? blankProblem? IsPart Text.blank
  cases part.toList.all Text.isBlank <;> simp

/-- Coordinates are accepted when each part is. -/
theorem problem?_eq_none_iff :
    gav.problem? = none ↔ IsPart gav.group ∧ IsPart gav.artifact ∧ IsPart gav.version := by
  simp only [problem?, Option.or_eq_none_iff, partProblem?_eq_none_iff]

theorem IsPart.ne_nil {part : String} (isPart : IsPart part) : part.toList ≠ [] := by
  intro isEmpty
  simp [IsPart, isEmpty] at isPart

/-- Coordinates are built as given if they are accepted. -/
theorem new_eq_ok_iff {group artifact version : String} :
    new group artifact version = .ok gav ↔
      ⟨group, artifact, version⟩ = gav ∧ gav.problem? = none := by
  unfold new
  split
  · next problem isProblem =>
    simp only [reduceCtorEq, false_iff, not_and]
    rintro rfl
    simp [isProblem]
  · next accepted =>
    simp only [Except.ok.injEq, iff_self_and]
    rintro rfl
    exact accepted

/-- The pieces of a trimmed text are the parts of the coordinate; the version may be left out. -/
theorem pieces_of_parse {text : String} (isRead : parse text = .ok gav) :
    gav.problem? = none ∧
      (Text.trimChars text.toList = gav.text.toList ∨
        Text.trimChars text.toList = gav.group.toList ++ ':' :: gav.artifact.toList ∧
          gav.version = latestVersion) := by
  have joined := Text.intercalate_pieces ':' (Text.trim text)
  rw [Text.trim, String.toList_ofList] at joined
  unfold parse at isRead
  split at isRead
  · next group artifact isPieces =>
    obtain ⟨rfl, accepted⟩ := new_eq_ok_iff.1 isRead
    rw [← joined, ← Text.trim, isPieces]
    exact ⟨accepted, .inr ⟨by simp [List.intercalate], rfl⟩⟩
  · next group artifact version isPieces =>
    obtain ⟨rfl, accepted⟩ := new_eq_ok_iff.1 isRead
    rw [← joined, ← Text.trim, isPieces]
    exact ⟨accepted, .inl (by simp [List.intercalate, toList_text])⟩
  · cases isRead

/-- Coordinates that are read have no blanks at their ends. -/
theorem hasTrimmedEnds_of_parse {text : String} (isRead : parse text = .ok gav) :
    gav.HasTrimmedEnds := by
  have trimmed := Text.isTrimmed_trimChars text.toList
  obtain ⟨accepted, same | ⟨short, isLatest⟩⟩ := pieces_of_parse isRead
  all_goals obtain ⟨group, _, version⟩ := problem?_eq_none_iff.1 accepted
  · rw [same, toList_text] at trimmed
    constructor
    · intro c isFirst
      apply trimmed.first c
      rwa [List.head?_append_of_ne_nil _ group.ne_nil]
    · intro c isLast
      apply trimmed.last c
      rw [List.getLast?_append, List.getLast?_cons, List.getLast?_append, List.getLast?_cons,
        isLast]
      rfl
  · rw [short] at trimmed
    constructor
    · intro c isFirst
      apply trimmed.first c
      rwa [List.head?_append_of_ne_nil _ group.ne_nil]
    · intro c isLast
      obtain rfl : c = 'T' := by simpa [isLatest, latestVersion, eq_comm] using isLast
      decide

/-- A coordinate that is accepted is read from its text, but for the blanks at the ends of it. -/
theorem parse_text_of_accepted (accepted : gav.problem? = none) :
    parse gav.text = .ok gav.withTrimmedEnds := by
  obtain ⟨group, artifact, version⟩ := problem?_eq_none_iff.1 accepted
  have trimmed : Text.trimChars gav.text.toList = Text.trimStart gav.group.toList ++
      ':' :: (gav.artifact.toList ++ ':' :: Text.trimEnd gav.version.toList) := by
    rw [Text.trimChars_eq, toList_text, Text.trimStart_append group.1, List.append_cons,
      List.append_cons _ ':' gav.version.toList, ← List.append_assoc, Text.trimEnd_append version.1]
    simp
  have groupWhole : ':' ∉ Text.trimStart gav.group.toList :=
    fun listed => group.2 (Text.mem_of_mem_trimStart listed)
  have versionWhole : ':' ∉ Text.trimEnd gav.version.toList :=
    fun listed => version.2 (Text.mem_of_mem_trimEnd listed)
  have pieces : Text.pieces ':' (Text.trim gav.text) =
      [gav.withTrimmedEnds.group, gav.artifact, gav.withTrimmedEnds.version] := by
    rw [Text.pieces, Text.trim, String.toList_ofList, trimmed, Text.piecesOf_append groupWhole,
      Text.piecesOf_append artifact.2, Text.piecesOf_of_notMem versionWhole]
    simp [withTrimmedEnds]
  rw [parse, pieces]
  refine new_eq_ok_iff.2 ⟨rfl, problem?_eq_none_iff.2 ⟨?_, artifact, ?_⟩⟩
  · simp only [IsPart, withTrimmedEnds, String.toList_ofList, Text.all_isBlank_trimStart]
    exact ⟨group.1, groupWhole⟩
  · simp only [IsPart, withTrimmedEnds, String.toList_ofList, Text.all_isBlank_trimEnd]
    exact ⟨version.1, versionWhole⟩

/-- Trimming keeps exactly the coordinates without blanks at their ends. -/
theorem withTrimmedEnds_eq_self_iff : gav.withTrimmedEnds = gav ↔ gav.HasTrimmedEnds := by
  obtain ⟨group, artifact, version⟩ := gav
  have sameText {chars : List Char} {text : String} :
      String.ofList chars = text ↔ chars = text.toList := by
    rw [← String.toList_inj, String.toList_ofList]
  simp only [withTrimmedEnds, mk.injEq, true_and, sameText, Text.trimStart_eq_self_iff,
    Text.trimEnd_eq_self_iff]
  exact ⟨fun ⟨first, last⟩ => ⟨first, last⟩, fun ends => ⟨ends.first, ends.last⟩⟩

/-- Reading the text of a coordinate that has been read gives the coordinate again. -/
theorem parse_text (isRead : gav.IsRead) : parse gav.text = .ok gav := by
  obtain ⟨text, isRead⟩ := isRead
  rw [parse_text_of_accepted (pieces_of_parse isRead).1,
    withTrimmedEnds_eq_self_iff.2 (hasTrimmedEnds_of_parse isRead)]

/-- A coordinate with accepted parts is always read from its text and from the JSON that is written
for it, but the blanks at the ends of the text are lost: it is the same again exactly when its group
does not begin with a blank and its version does not end with one. -/
theorem survives_text_iff {group artifact version : String}
    (accepted : new group artifact version = .ok gav) :
    parse gav.text = .ok gav.withTrimmedEnds ∧
      Json.gav? (Json.ofGav gav) = some gav.withTrimmedEnds ∧
        (parse gav.text = .ok gav ↔ gav.HasTrimmedEnds) := by
  have isRead := parse_text_of_accepted (new_eq_ok_iff.1 accepted).2
  refine ⟨isRead, ?_, ?_⟩
  · rw [Json.gav?, Json.ofGav, Json.text?, Option.bind_some, isRead]
    rfl
  · rw [isRead, Except.ok.injEq, withTrimmedEnds_eq_self_iff]

/-- Blanks that a colon keeps from the ends of the text survive. -/
theorem survives_text_tower :
    new "sea " " tower " "\t1" = .ok ⟨"sea ", " tower ", "\t1"⟩ ∧
      parse "sea : tower :\t1" = .ok ⟨"sea ", " tower ", "\t1"⟩ := by
  have accepted : new "sea " " tower " "\t1" = .ok ⟨"sea ", " tower ", "\t1"⟩ := by rfl
  refine ⟨accepted, (survives_text_iff accepted).2.2.2 ⟨?_, ?_⟩⟩
  · simp [Text.isBlank]
  · simp [Text.isBlank]

/-- A blank before the group is accepted and written, and it is not read again. -/
theorem not_survives_text_pier :
    new " pier" "stall" "1" = .ok ⟨" pier", "stall", "1"⟩ ∧
      parse (text ⟨" pier", "stall", "1"⟩) = .ok ⟨"pier", "stall", "1"⟩ ∧
        ¬∀ group artifact version gav, new group artifact version = .ok gav →
          parse gav.text = .ok gav := by
  have accepted : new " pier" "stall" "1" = .ok ⟨" pier", "stall", "1"⟩ := by rfl
  have isRead : parse (text ⟨" pier", "stall", "1"⟩) = .ok ⟨"pier", "stall", "1"⟩ := by rfl
  refine ⟨accepted, isRead, fun survives => ?_⟩
  have same := (survives _ _ _ _ accepted).symm.trans isRead
  simp at same

end Gav

end Provisioning
