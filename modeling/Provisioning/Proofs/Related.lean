/-
This file relates what is found in two lists, and how two attempts end.
-/

import Mathlib.Data.List.Forall2
import Mathlib.Data.Option.Defs
import Provisioning.Proofs.Success

namespace Provisioning

section

variable {First Second Result : Type} {related : First → Second → Prop} {firsts : List First}
  {seconds : List Second}

/-- An option that is related to a value has a value, too. -/
theorem eq_some_of_rel {first : First} {option : Option Second}
    (alike : Option.Rel related (some first) option) :
    ∃ second, option = some second ∧ related first second := by
  cases alike with
  | some isRelated => exact ⟨_, rfl, isRelated⟩

/-- An option that is related to an absent one is absent. -/
theorem eq_none_of_rel {option : Option Second} (alike : Option.Rel related none option) :
    option = none := by
  cases alike
  rfl

/-- What holds of nothing and of related elements holds of related options. -/
@[elab_as_elim]
theorem rel_cases {motive : Option First → Option Second → Prop} {option : Option First}
    {other : Option Second} (alike : Option.Rel related option other) (absent : motive none none)
    (found : ∀ first second, related first second → motive (some first) (some second)) :
    motive option other := by
  cases alike with
  | none => exact absent
  | some isRelated => exact found _ _ isRelated

/-- Steps that agree on related values agree on related options. -/
theorem bind_eq_bind_of_rel {option : Option First} {other : Option Second}
    (alike : Option.Rel related option other) {value : First → Option Result}
    {otherValue : Second → Option Result}
    (agree : ∀ first second, related first second → value first = otherValue second) :
    option.bind value = other.bind otherValue := by
  cases alike with
  | none => rfl
  | some isRelated => exact agree _ _ isRelated

/-- Functions that agree on related values agree on related options. -/
theorem map_eq_map_of_rel {option : Option First} {other : Option Second}
    (alike : Option.Rel related option other)
    {value : First → Result} {otherValue : Second → Result}
    (agree : ∀ first second, related first second → value first = otherValue second) :
    option.map value = other.map otherValue := by
  cases alike with
  | none => rfl
  | some isRelated => exact congrArg some (agree _ _ isRelated)

/-- Functions that agree on related elements map related lists to the same. -/
theorem map_eq_map_of_related (alike : List.Forall₂ related firsts seconds) {value : First → Result}
    {otherValue : Second → Result}
    (agree : ∀ first second, related first second → value first = otherValue second) :
    firsts.map value = seconds.map otherValue := by
  have sameValues := List.rel_map (R := related) (P := Eq) (fun _ _ => agree _ _) alike
  rwa [List.forall₂_eq_eq_eq] at sameValues

/-- Functions that agree on related elements make the same list of related lists. -/
theorem flatMap_eq_flatMap_of_related (alike : List.Forall₂ related firsts seconds)
    {values : First → List Result} {otherValues : Second → List Result}
    (agree : ∀ first second, related first second → values first = otherValues second) :
    firsts.flatMap values = seconds.flatMap otherValues := by
  rw [List.flatMap_def, List.flatMap_def, map_eq_map_of_related alike agree]

/-- Selections that agree on related elements select the same from related lists. -/
theorem filterMap_eq_filterMap_of_related (alike : List.Forall₂ related firsts seconds)
    {value : First → Option Result} {otherValue : Second → Option Result}
    (agree : ∀ first second, related first second → value first = otherValue second) :
    firsts.filterMap value = seconds.filterMap otherValue := by
  have sameValues := congrArg (List.filterMap id) (map_eq_map_of_related alike agree)
  simpa only [List.filterMap_map, Function.id_comp] using sameValues

/-- Tests that agree on related elements find related elements. -/
theorem rel_find? (alike : List.Forall₂ related firsts seconds) {accepts : First → Bool}
    {acceptsAlso : Second → Bool}
    (agree : ∀ first second, related first second → accepts first = acceptsAlso second) :
    Option.Rel related (firsts.find? accepts) (seconds.find? acceptsAlso) := by
  induction alike with
  | nil => exact .none
  | @cons first second _ _ isRelated _ inductionHypothesis =>
      rw [List.find?_cons, List.find?_cons, agree first second isRelated]
      cases acceptsAlso second with
      | true => exact .some isRelated
      | false => exact inductionHypothesis

/-- Tests that agree on related elements find the same position in related lists. -/
theorem findIdx?_eq_of_related (alike : List.Forall₂ related firsts seconds)
    {accepts : First → Bool} {acceptsAlso : Second → Bool}
    (agree : ∀ first second, related first second → accepts first = acceptsAlso second) :
    firsts.findIdx? accepts = seconds.findIdx? acceptsAlso := by
  induction alike with
  | nil => rfl
  | @cons first second _ _ isRelated _ inductionHypothesis =>
      rw [List.findIdx?_cons, List.findIdx?_cons, agree first second isRelated, inductionHypothesis]

/-- Related lists have related elements at every position. -/
theorem rel_getElem? (alike : List.Forall₂ related firsts seconds) (index : Nat) :
    Option.Rel related firsts[index]? seconds[index]? := by
  induction alike generalizing index with
  | nil => exact .none
  | cons isRelated _ inductionHypothesis =>
      cases index with
      | zero => exact .some isRelated
      | succ index => exact inductionHypothesis index

/-- Related elements stand at the same positions. -/
theorem rel_zipIdx (alike : List.Forall₂ related firsts seconds) (start : Nat) :
    List.Forall₂ (fun first second => related first.1 second.1 ∧ first.2 = second.2)
      (firsts.zipIdx start) (seconds.zipIdx start) := by
  induction alike generalizing start with
  | nil => exact .nil
  | cons isRelated _ inductionHypothesis =>
      exact .cons ⟨isRelated, rfl⟩ (inductionHypothesis (start + 1))

/-- Related elements stand at the same positions beside other elements. -/
theorem rel_zip {Beside : Type} (alike : List.Forall₂ related firsts seconds)
    (besides : List Beside) :
    List.Forall₂ (fun first second => related first.1 second.1 ∧ first.2 = second.2)
      (firsts.zip besides) (seconds.zip besides) := by
  induction alike generalizing besides with
  | nil => exact .nil
  | cons isRelated _ inductionHypothesis =>
      cases besides with
      | nil => exact .nil
      | cons beside besides => exact .cons ⟨isRelated, rfl⟩ (inductionHypothesis besides)

end

/-- Two attempts end alike with related results or with the same error. -/
inductive EndAlike {Error Result OtherResult : Type} (related : Result → OtherResult → Prop) :
    Except Error Result → Except Error OtherResult → Prop where
  | ok {result : Result} {other : OtherResult} (isRelated : related result other) :
      EndAlike related (.ok result) (.ok other)
  | error (error : Error) : EndAlike related (.error error) (.error error)

/-- Attempts that end alike and go on alike end alike. -/
theorem EndAlike.bind {Error Result OtherResult Next OtherNext : Type}
    {related : Result → OtherResult → Prop} {relatedNext : Next → OtherNext → Prop}
    {first : Except Error Result} {second : Except Error OtherResult}
    (alike : EndAlike related first second) {next : Result → Except Error Next}
    {otherNext : OtherResult → Except Error OtherNext}
    (continues : ∀ result other, first = .ok result → related result other →
      EndAlike relatedNext (next result) (otherNext other)) :
    EndAlike relatedNext (first >>= next) (second >>= otherNext) := by
  cases alike with
  | ok isRelated => exact continues _ _ rfl isRelated
  | error error => exact .error error

theorem EndAlike.imp {Error Result OtherResult : Type}
    {related weaker : Result → OtherResult → Prop} {first : Except Error Result}
    {second : Except Error OtherResult}
    (alike : EndAlike related first second)
    (implies : ∀ result other, first = .ok result → related result other → weaker result other) :
    EndAlike weaker first second := by
  cases alike with
  | ok isRelated => exact .ok (implies _ _ rfl isRelated)
  | error error => exact .error error

/-- Attempts with equal results or the same error are equal. -/
theorem endAlike_eq_iff {Error Result : Type} {first second : Except Error Result} :
    EndAlike Eq first second ↔ first = second := by
  constructor
  · intro alike
    cases alike with
    | ok same => rw [same]
    | error => rfl
  · rintro rfl
    cases first with
    | ok result => exact .ok rfl
    | error error => exact .error error

end Provisioning
