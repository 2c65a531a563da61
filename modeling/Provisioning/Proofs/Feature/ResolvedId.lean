/-
This file proves that qualified identities that have been read are read again from their texts.
-/

import Provisioning.Feature.ResolvedId
import Provisioning.Proofs.Feature.Id
import Provisioning.Proofs.Gav

namespace Provisioning

namespace Gav

variable {gav : Gav} {text : String}

/-- A written coordinate without the blanks around it, and with the version that stands for the
current one when it names none. -/
def completed (coordinate : String) : String :=
  let trimmed := Text.trim coordinate
  if trimmed.toList.count ':' = 1 then s!"{trimmed}:{latestVersion}" else trimmed

/-- Coordinates without a version are completed to the latest one. -/
theorem toList_completed (coordinate : String) :
    (completed coordinate).toList =
      if (Text.trimChars coordinate.toList).count ':' = 1 then
        Text.trimChars coordinate.toList ++ ':' :: latestVersion.toList
      else
        Text.trimChars coordinate.toList := by
  unfold completed
  simp only [Text.trim, String.toList_ofList]
  split <;> simp [toString]

/-- The text of a coordinate is the completed text that it has been read from. -/
theorem text_of_parse (isRead : parse text = .ok gav) : gav.text = completed text := by
  obtain ⟨accepted, whole | ⟨short, isLatest⟩⟩ := pieces_of_parse isRead
  all_goals obtain ⟨⟨_, group⟩, ⟨_, artifact⟩, _, version⟩ := problem?_eq_none_iff.1 accepted
  · rw [← String.toList_inj, toList_completed, whole, if_neg]
    simp [toList_text, List.count_eq_zero.2 group, List.count_eq_zero.2 artifact,
      List.count_eq_zero.2 version]
  · rw [← String.toList_inj, toList_completed, short, if_pos]
    · simp [toList_text, isLatest]
    · simp [List.count_eq_zero.2 group, List.count_eq_zero.2 artifact]

/-- Completing a coordinate brings no character but those of the version that it may add. -/
theorem notMem_completed {c : Char} (other : c ∉ ':' :: latestVersion.toList)
    (absent : c ∉ text.toList) : c ∉ (completed text).toList := by
  have notTrimmed : c ∉ Text.trimChars text.toList :=
    fun listed => absent (Text.mem_of_mem_trimChars listed)
  rw [toList_completed]
  split
  · rw [List.mem_append, not_or]
    exact ⟨notTrimmed, other⟩
  · exact notTrimmed

/-- Coordinates that are read from a text without a number sign are written without one. -/
theorem numberSign_notMem_text (isRead : parse text = .ok gav) (absent : '#' ∉ text.toList) :
    '#' ∉ gav.text.toList := by
  rw [text_of_parse isRead]
  exact notMem_completed (by decide) absent

/-- The display writes a qualified text with its coordinate completed. -/
def Completes (text display : String) : Prop :=
  ∃ coordinate rest : String, '#' ∉ coordinate.toList ∧ text = s!"{coordinate}#{rest}" ∧
    display = s!"{completed coordinate}#{rest}"

end Gav

/-- A qualified text is cut at its first number sign. -/
theorem cut?_numberSign_iff {text coordinate rest : String} :
    Text.cut? '#' text = some (coordinate, rest) ↔
      text = s!"{coordinate}#{rest}" ∧ '#' ∉ coordinate.toList := by
  have toList_qualified : (s!"{coordinate}#{rest}").toList =
      coordinate.toList ++ '#' :: rest.toList := by
    simp [toString]
  rw [Text.cut?_eq_some_iff, ← toList_qualified, String.toList_inj]

namespace SpecId

variable {text : String} {id : SpecId}

/-- A qualified spec is read from a coordinate and a name that is not empty. -/
theorem parse_eq_ok_iff :
    parse text = .ok id ↔ ∃ coordinate, '#' ∉ coordinate.toList ∧
      text = s!"{coordinate}#{id.name}" ∧ id.name ≠ "" ∧ Gav.parse coordinate = .ok id.gav := by
  constructor
  · intro isRead
    unfold parse at isRead
    split at isRead
    · cases isRead
    · next coordinate name isCut =>
      split at isRead
      · cases isRead
      · next named =>
        obtain ⟨gav, isGav, isId⟩ := bind_eq_ok_iff.1 isRead
        obtain rfl := pure_eq_ok_iff.1 isId
        obtain ⟨isText, free⟩ := cut?_numberSign_iff.1 isCut
        exact ⟨coordinate, free, isText, by simpa using named, isGav⟩
  · rintro ⟨coordinate, free, isText, named, isGav⟩
    have isCut : Text.cut? '#' text = some (coordinate, id.name) :=
      cut?_numberSign_iff.2 ⟨isText, free⟩
    simp [parse, isCut, named, isGav, bind, Except.bind, pure, Except.pure]

/-- The text of an id that was read is read as the same id. -/
theorem parse_text_of_parse (isRead : parse text = .ok id) :
    parse id.text = .ok id ∧ Gav.Completes text id.text := by
  obtain ⟨coordinate, free, isText, named, isGav⟩ := parse_eq_ok_iff.1 isRead
  constructor
  · exact parse_eq_ok_iff.2 ⟨id.gav.text, Gav.numberSign_notMem_text isGav free, rfl, named,
      Gav.parse_text ⟨coordinate, isGav⟩⟩
  · exact ⟨coordinate, id.name, free, isText, by rw [SpecId.text, Gav.text_of_parse isGav]⟩

end SpecId

namespace ResolvedId

variable {text : String} {id : ResolvedId}

/-- An id is written as its coordinates and the rest behind a number sign. -/
theorem text_eq (id : ResolvedId) : id.text = s!"{id.gav.text}#{id.unqualified.text}" := by
  rw [← String.toList_inj]
  simp [text, SpecId.text, FeatureId.text, unqualified, gav, toString]

/-- A qualified identity is read from a coordinate and the identity inside its feature-pack. -/
theorem parse_eq_ok_iff :
    parse text = .ok id ↔ ∃ coordinate rest, '#' ∉ coordinate.toList ∧
      text = s!"{coordinate}#{rest}" ∧ FeatureId.parse rest = .ok id.unqualified ∧
        Gav.parse coordinate = .ok id.gav := by
  constructor
  · intro isRead
    unfold parse at isRead
    split at isRead
    · cases isRead
    · next coordinate rest isCut =>
      obtain ⟨unqualified, isUnqualified, isRead⟩ := bind_eq_ok_iff.1 isRead
      obtain ⟨gav, isGav, isId⟩ := bind_eq_ok_iff.1 isRead
      obtain rfl := pure_eq_ok_iff.1 isId
      obtain ⟨isText, free⟩ := cut?_numberSign_iff.1 isCut
      exact ⟨coordinate, rest, free, isText, isUnqualified, isGav⟩
  · rintro ⟨coordinate, rest, free, isText, isUnqualified, isGav⟩
    have isCut : Text.cut? '#' text = some (coordinate, rest) :=
      cut?_numberSign_iff.2 ⟨isText, free⟩
    simp [parse, isCut, isUnqualified, isGav, bind, Except.bind, pure, Except.pure]
    rfl

/-- The text of an id that was read is read as the same id. -/
theorem parse_text_of_parse (isRead : parse text = .ok id) :
    parse id.text = .ok id ∧ Gav.Completes text id.text := by
  obtain ⟨coordinate, rest, free, isText, isUnqualified, isGav⟩ := parse_eq_ok_iff.1 isRead
  have sameRest : id.unqualified.text = rest := FeatureId.text_of_parse isUnqualified
  constructor
  · exact parse_eq_ok_iff.2 ⟨id.gav.text, rest, Gav.numberSign_notMem_text isGav free,
      sameRest ▸ text_eq id, isUnqualified, Gav.parse_text ⟨coordinate, isGav⟩⟩
  · exact ⟨coordinate, rest, free, isText, by rw [text_eq, sameRest, Gav.text_of_parse isGav]⟩

end ResolvedId

/-- The display of a coordinate, a qualified spec or a qualified identity that has been read is read
as the same again, and it differs from what has been read only in the coordinate, which loses the
blanks around it and takes the version that stands for the current one when it has none. -/
theorem displays_are_normal :
    (∀ text gav, Gav.parse text = .ok gav →
      Gav.parse gav.text = .ok gav ∧ gav.text = Gav.completed text) ∧
    (∀ text id, SpecId.parse text = .ok id →
      SpecId.parse id.text = .ok id ∧ Gav.Completes text id.text) ∧
    ∀ text id, ResolvedId.parse text = .ok id →
      ResolvedId.parse id.text = .ok id ∧ Gav.Completes text id.text := by
  refine ⟨fun text gav isRead => ⟨Gav.parse_text ⟨text, isRead⟩, Gav.text_of_parse isRead⟩, ?_, ?_⟩
  · exact fun _ _ => SpecId.parse_text_of_parse
  · exact fun _ _ => ResolvedId.parse_text_of_parse

end Provisioning
