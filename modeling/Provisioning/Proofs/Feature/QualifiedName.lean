/-
This file says how the names in a filter are told apart from the aliases that qualify them.
-/

import Provisioning.Feature.Filter
import Provisioning.Proofs.Feature.ResolvedId

namespace Provisioning

variable {text : String}

namespace SpecRef

variable {reference : SpecRef}

/-- A name is unqualified when it has no number sign. -/
theorem parse_eq_unqualified_iff {name : String} :
    parse text = ⟨none, name⟩ ↔ name = text ∧ '#' ∉ text.toList := by
  rw [← Text.cutChars?_eq_none_iff, parse, Text.cut?]
  cases Text.cutChars? '#' text.toList <;> simp [eq_comm]

/-- A qualified name is split at its first number sign. -/
theorem parse_eq_qualified_iff {origin name : String} :
    parse text = ⟨some origin, name⟩ ↔ text = s!"{origin}#{name}" ∧ '#' ∉ origin.toList := by
  rw [← cut?_numberSign_iff, parse]
  cases Text.cut? '#' text <;> simp [Prod.ext_iff]

/-- A text is read as the reference that it displays, with all that stands before the first number
sign as its alias. -/
theorem parse_eq_iff :
    parse text = reference ↔
      reference.text = text ∧ '#' ∉ (reference.origin.getD reference.name).toList := by
  obtain ⟨origin, name⟩ := reference
  cases origin with
  | none =>
      rw [parse_eq_unqualified_iff, SpecRef.text, Option.getD_none]
      apply and_congr_right
      rintro rfl
      rfl
  | some origin => rw [parse_eq_qualified_iff, SpecRef.text, Option.getD_some, eq_comm]

end SpecRef

namespace FeatureRef

variable {reference : FeatureRef}

/-- A feature is read from the name in the place of the spec's. -/
theorem parse_eq (text : String) :
    parse text = (FeatureId.parse (SpecRef.parse text).name).map fun id =>
      ⟨(SpecRef.parse text).origin, id⟩ := by
  rw [parse, SpecRef.parse]
  cases Text.cut? '#' text <;> rfl

/-- A reference to a feature is written like one to a spec. -/
theorem text_eq (reference : FeatureRef) :
    reference.text = SpecRef.text ⟨reference.origin, reference.id.text⟩ := by
  rw [text, SpecRef.text]

/-- A text is read as the reference that it displays when the identity in it can be read and all
that stands before the first number sign is its alias. -/
theorem parse_eq_ok_iff :
    parse text = .ok reference ↔
      reference.text = text ∧ '#' ∉ (reference.origin.getD reference.id.text).toList ∧
        FeatureId.parse reference.id.text = .ok reference.id := by
  rw [text_eq, ← and_assoc]
  have isRead_iff : SpecRef.parse text = ⟨reference.origin, reference.id.text⟩ ↔ _ :=
    SpecRef.parse_eq_iff
  rw [← isRead_iff, parse_eq]
  constructor
  · intro isRead
    cases isId : FeatureId.parse (SpecRef.parse text).name with
    | error problem =>
        rw [isId] at isRead
        cases isRead
    | ok id =>
        rw [isId] at isRead
        cases isRead
        have sameName := FeatureId.text_of_parse isId
        exact ⟨by rw [sameName], by rw [sameName, isId]⟩
  · rintro ⟨isName, isId⟩
    rw [isName, isId]
    rfl

end FeatureRef

/-- What is read of a filter's names displays the text that it was read from. Behind an alias every
identity of a feature is read, and without one every identity that holds no number sign; likewise
for the names of specs and groups. -/
theorem names_are_read_as_displayed :
    (∀ text id, FeatureId.parse text = .ok id →
      (FeatureRef.parse text = .ok ⟨none, id⟩ ↔ '#' ∉ text.toList) ∧
        FeatureRef.text ⟨none, id⟩ = text ∧
          ∀ origin : String, '#' ∉ origin.toList →
            FeatureRef.parse s!"{origin}#{text}" = .ok ⟨some origin, id⟩ ∧
              FeatureRef.text ⟨some origin, id⟩ = s!"{origin}#{text}") ∧
      (∀ name : String, '#' ∉ name.toList →
        SpecRef.parse name = ⟨none, name⟩ ∧ SpecRef.text ⟨none, name⟩ = name ∧
          ∀ origin : String, '#' ∉ origin.toList →
            SpecRef.parse s!"{origin}#{name}" = ⟨some origin, name⟩ ∧
              SpecRef.text ⟨some origin, name⟩ = s!"{origin}#{name}") ∧
        (∀ text reference, FeatureRef.parse text = .ok reference → reference.text = text) ∧
          ∀ text, (SpecRef.parse text).text = text := by
  refine ⟨fun text id isRead => ?_, fun name free => ?_, fun text reference isRead => ?_,
    fun text => ?_⟩
  · have sameText := FeatureId.text_of_parse isRead
    subst sameText
    refine ⟨?_, rfl, fun origin free => ⟨?_, rfl⟩⟩
    · rw [FeatureRef.parse_eq_ok_iff]
      exact ⟨fun known => known.2.1, fun free => ⟨rfl, free, isRead⟩⟩
    · exact FeatureRef.parse_eq_ok_iff.2 ⟨rfl, free, isRead⟩
  · refine ⟨SpecRef.parse_eq_iff.2 ⟨rfl, free⟩, rfl, fun origin originFree => ⟨?_, rfl⟩⟩
    exact SpecRef.parse_eq_iff.2 ⟨rfl, originFree⟩
  · exact (FeatureRef.parse_eq_ok_iff.1 isRead).1
  · exact (SpecRef.parse_eq_iff.1 rfl).1

/-- Behind an alias a value may hold number signs. -/
example : FeatureRef.parse "fp2#lamp:name=a#b" =
    .ok ⟨some "fp2", ⟨"lamp", ⟨[("name", "a#b")], by decide⟩⟩⟩ := by rfl

/-- The value of this identity holds a number sign, so that a filter takes its beginning for an
alias. No reading could do otherwise and still find every identity behind every alias. -/
theorem not_read_unqualified_lamp :
    FeatureId.parse "lamp:name=a#note:b=c" =
        .ok ⟨"lamp", ⟨[("name", "a#note:b=c")], by decide⟩⟩ ∧
      FeatureRef.parse "lamp:name=a#note:b=c" =
        .ok ⟨some "lamp:name=a", ⟨"note", ⟨[("b", "c")], by decide⟩⟩⟩ ∧
      (¬∀ text id, FeatureId.parse text = .ok id → FeatureRef.parse text = .ok ⟨none, id⟩) ∧
      ¬∃ read : String → Except DescriptionError FeatureRef,
        (∀ text id, FeatureId.parse text = .ok id → read text = .ok ⟨none, id⟩) ∧
          ∀ origin text id, '#' ∉ origin.toList → FeatureId.parse text = .ok id →
            read s!"{origin}#{text}" = .ok ⟨some origin, id⟩ := by
  have whole : FeatureId.parse "lamp:name=a#note:b=c" =
      .ok ⟨"lamp", ⟨[("name", "a#note:b=c")], by decide⟩⟩ := by rfl
  have behind : FeatureId.parse "note:b=c" = .ok ⟨"note", ⟨[("b", "c")], by decide⟩⟩ := by rfl
  have isCut : FeatureRef.parse "lamp:name=a#note:b=c" =
      .ok ⟨some "lamp:name=a", ⟨"note", ⟨[("b", "c")], by decide⟩⟩⟩ := by rfl
  refine ⟨whole, isCut, ?_, ?_⟩
  · intro unqualified
    have same := (unqualified _ _ whole).symm.trans isCut
    simp at same
  · rintro ⟨read, unqualified, qualified⟩
    have same := (unqualified _ _ whole).symm.trans
      (qualified "lamp:name=a" "note:b=c" _ (by decide) behind)
    simp at same

end Provisioning
