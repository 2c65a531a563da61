/-
This file proves what the places of a capability pattern are filled with and in which order.
-/

import Provisioning.Capability.Expansion
import Provisioning.Proofs.Capability.Choices
import Provisioning.Proofs.Capability.Pattern

namespace Provisioning.Capability

/-- A segment offers itself, the value of its parameter or, if that is a list, the elements of it. -/
inductive Offers (spec : FeatureSpec) (params : OrderedMap String String) :
    Segment → List String → Prop where
  | literal (text : String) : Offers spec params (.literal text) [text]
  | scalar {name value : String} (isSet : params.get? name = some value)
      (isScalar : ∀ param, spec.param? name = some param → param.isList = false) :
      Offers spec params (.param name) [value]
  | elements {name value : String} {param : Parameter} {elements : List String}
      (isSet : params.get? name = some value) (declared : spec.param? name = some param)
      (isList : param.isList = true) (isRead : ListValue.parse value = .ok elements) :
      Offers spec params (.param name) elements

/-- A segment with nothing to offer names a parameter without a value or with an empty list. -/
inductive OffersNothing (spec : FeatureSpec) (params : OrderedMap String String) :
    Segment → Prop where
  | unset {name : String} (isUnset : params.get? name = none) :
      OffersNothing spec params (.param name)
  | empty {segment : Segment} (offers : Offers spec params segment []) :
      OffersNothing spec params segment

/-- A segment names a list parameter with a value that is no list. -/
inductive Refuses (spec : FeatureSpec) (params : OrderedMap String String) :
    Segment → DescriptionError → Prop where
  | malformed {name value : String} {param : Parameter} {problem : DescriptionError}
      (isSet : params.get? name = some value) (declared : spec.param? name = some param)
      (isList : param.isList = true) (isRefused : ListValue.parse value = .error problem) :
      Refuses spec params (.param name) problem

/-- A segment offers something to choose from. -/
def OffersSome (spec : FeatureSpec) (params : OrderedMap String String) (segment : Segment)
    (values : List String) : Prop :=
  Offers spec params segment values ∧ values ≠ []

/-- The segments of a pattern expand to all choices from what they offer, unless there is a first
segment that offers nothing, which leaves none, or has no list where it needs one. -/
inductive Expands (spec : FeatureSpec) (params : OrderedMap String String)
    (segments : List Segment) : Except DescriptionError (List String) → Prop where
  | product {offered : List (List String)} {texts : List String}
      (offers : List.Forall₂ (OffersSome spec params) segments offered)
      (isProduct : IsOrderedProduct offered texts) : Expands spec params segments (.ok texts)
  | nothing {before after : List Segment} {segment : Segment}
      (isSplit : segments = before ++ segment :: after)
      (filled : ∀ earlier ∈ before, ∃ values, OffersSome spec params earlier values)
      (isFirst : OffersNothing spec params segment) : Expands spec params segments (.ok [])
  | malformed {before after : List Segment} {segment : Segment} {problem : DescriptionError}
      (isSplit : segments = before ++ segment :: after)
      (filled : ∀ earlier ∈ before, ∃ values, OffersSome spec params earlier values)
      (isFirst : Refuses spec params segment problem) :
      Expands spec params segments (.error problem)

section

variable {spec : FeatureSpec} {params : OrderedMap String String} {segment : Segment}
  {values : List String} {segments : List Segment} {offered : List (List String)}
  {expanded : List (Option String)}

/-- The values of a segment are what it offers. -/
theorem segmentValues_of_offers (offers : Offers spec params segment values) :
    segmentValues spec params segment = .ok values := by
  cases offers with
  | literal text => rfl
  | @scalar name value isSet isScalar =>
      have noList : (spec.param? name).any Parameter.isList = false := by
        cases declared : spec.param? name with
        | none => rfl
        | some param => exact isScalar param declared
      simp only [segmentValues, isSet, noList]
      rfl
  | elements isSet declared isList isRead =>
      simp [segmentValues, isSet, declared, isList, isRead]

/-- A segment that offers nothing has no values. -/
theorem segmentValues_of_offersNothing (nothing : OffersNothing spec params segment) :
    segmentValues spec params segment = .ok [] := by
  cases nothing with
  | unset isUnset => simp only [segmentValues, isUnset]
  | empty offers => exact segmentValues_of_offers offers

/-- A value that is no list is reported in place of the values. -/
theorem segmentValues_of_refuses {problem : DescriptionError}
    (refuses : Refuses spec params segment problem) :
    segmentValues spec params segment = .error problem := by
  cases refuses with
  | malformed isSet declared isList isRefused =>
      simp [segmentValues, isSet, declared, isList, isRefused]

/-- There is no other kind of segment. -/
theorem offers_or_refuses (spec : FeatureSpec) (params : OrderedMap String String)
    (segment : Segment) :
    (∃ values, OffersSome spec params segment values) ∨ OffersNothing spec params segment ∨
      ∃ problem, Refuses spec params segment problem := by
  have ofOffers {values : List String} (offers : Offers spec params segment values) :
      (∃ values, OffersSome spec params segment values) ∨ OffersNothing spec params segment := by
    by_cases isEmpty : values = []
    · subst isEmpty
      exact Or.inr (.empty offers)
    · exact Or.inl ⟨values, offers, isEmpty⟩
  rw [← or_assoc]
  cases segment with
  | literal text => exact Or.inl (ofOffers (.literal text))
  | param name =>
      cases isSet : params.get? name with
      | none => exact Or.inl (Or.inr (.unset isSet))
      | some value =>
          by_cases isScalar : ∀ param, spec.param? name = some param → param.isList = false
          · exact Or.inl (ofOffers (.scalar isSet isScalar))
          · simp only [not_forall, Bool.not_eq_false] at isScalar
            obtain ⟨param, declared, isList⟩ := isScalar
            cases isRead : ListValue.parse value with
            | error problem => exact Or.inr ⟨problem, .malformed isSet declared isList isRead⟩
            | ok elements => exact Or.inl (ofOffers (.elements isSet declared isList isRead))

/-- Either all segments offer something or there is a first one that does not. -/
theorem all_offer_or_first (spec : FeatureSpec) (params : OrderedMap String String)
    (segments : List Segment) :
    (∃ offered, List.Forall₂ (OffersSome spec params) segments offered) ∨
      ∃ before segment after, segments = before ++ segment :: after ∧
        (∀ earlier ∈ before, ∃ values, OffersSome spec params earlier values) ∧
          (OffersNothing spec params segment ∨ ∃ problem, Refuses spec params segment problem) := by
  induction segments with
  | nil => exact Or.inl ⟨[], .nil⟩
  | cons segment rest inductionHypothesis =>
      rcases offers_or_refuses spec params segment with ⟨values, offers⟩ | isFirst
      · rcases inductionHypothesis with
          ⟨offered, restOffers⟩ | ⟨before, other, after, rfl, filled, isFirst⟩
        · exact Or.inl ⟨values :: offered, .cons offers restOffers⟩
        · refine Or.inr ⟨segment :: before, other, after, rfl, ?_, isFirst⟩
          exact List.forall_mem_cons.2 ⟨⟨values, offers⟩, filled⟩
      · exact Or.inr ⟨[], segment, rest, rfl, by simp, isFirst⟩

/-- A text so far, continued with one value after the other. -/
def continued (before : Option String) (chosen : List String) : Option String :=
  chosen.foldl (fun text value => some (appendValue text value)) before

theorem continued_cons (before : Option String) (value : String) (rest : List String) :
    continued before (value :: rest) = continued (some (appendValue before value)) rest := rfl

/-- The values are added to the text with dots between them. -/
theorem continued_some (text : String) (chosen : List String) :
    continued (some text) chosen = some (Text.join "." (text :: chosen)) := by
  induction chosen generalizing text with
  | nil => simp [continued, Text.join]
  | cons value rest inductionHypothesis =>
      rw [continued_cons, inductionHypothesis, Option.some.injEq]
      cases rest <;> simp [appendValue, Text.join, toString, String.append_assoc]

/-- A text that is begun with nothing is the values with dots between them. -/
theorem getD_continued_none (chosen : List String) :
    (continued none chosen).getD "" = Text.join "." chosen := by
  cases chosen with
  | nil => rfl
  | cons value rest => rw [continued_cons, appendValue, continued_some, Option.getD_some]

/-- Every text so far is continued with every choice from what the segments offer. -/
theorem expandFrom_of_offers (offers : List.Forall₂ (OffersSome spec params) segments offered)
    (expanded : List (Option String)) :
    expandFrom spec params expanded segments =
      .ok (expanded.flatMap fun before => (choices offered).map (continued before)) := by
  induction offers generalizing expanded with
  | nil => simp [expandFrom, choices, continued]
  | @cons segment values rest restOffered isOffered _ inductionHypothesis =>
      have isNonempty : values.isEmpty = false := by simp [isOffered.2]
      rw [expandFrom, segmentValues_of_offers isOffered.1]
      simp only [bind, Except.bind, isNonempty, inductionHypothesis]
      simp [choices, List.flatMap_assoc, List.flatMap_map, List.map_flatMap, continued_cons,
        Function.comp_def]

/-- Segments that offer something leave the end to the ones behind them. -/
theorem expandFrom_of_filled {after : List Segment} {before : List Segment}
    (filled : ∀ earlier ∈ before, ∃ values, OffersSome spec params earlier values)
    (expanded : List (Option String)) :
    ∃ reached, expandFrom spec params expanded (before ++ after) =
      expandFrom spec params reached after := by
  induction before generalizing expanded with
  | nil => exact ⟨expanded, rfl⟩
  | cons segment rest inductionHypothesis =>
      rw [List.forall_mem_cons] at filled
      obtain ⟨⟨values, offers, nonempty⟩, restFilled⟩ := filled
      obtain ⟨reached, same⟩ := inductionHypothesis restFilled
        (expanded.flatMap fun before => values.map fun value => some (appendValue before value))
      refine ⟨reached, ?_⟩
      rw [List.cons_append, expandFrom, segmentValues_of_offers offers, ← same]
      simp [nonempty, bind, Except.bind]

/-- A pattern expands to all choices when each of its segments offers something. -/
theorem expand_of_offers {capability : Capability}
    (offers : List.Forall₂ (OffersSome spec params) capability.segments offered) :
    capability.expand spec params = .ok ((choices offered).map (Text.join ".")) := by
  rw [expand, expandFrom_of_offers offers]
  simp [bind, Except.bind, pure, Except.pure, Function.comp_def, getD_continued_none]

/-- A pattern expands to nothing from its first segment that offers nothing. -/
theorem expand_of_offersNothing {capability : Capability} {before after : List Segment}
    (isSplit : capability.segments = before ++ segment :: after)
    (filled : ∀ earlier ∈ before, ∃ values, OffersSome spec params earlier values)
    (isFirst : OffersNothing spec params segment) : capability.expand spec params = .ok [] := by
  obtain ⟨reached, same⟩ := @expandFrom_of_filled spec params (segment :: after) _ filled [none]
  rw [expand, isSplit, same, expandFrom, segmentValues_of_offersNothing isFirst]
  rfl

/-- An expansion fails at the first segment whose value is no list. -/
theorem expand_of_refuses {capability : Capability} {before after : List Segment}
    {problem : DescriptionError} (isSplit : capability.segments = before ++ segment :: after)
    (filled : ∀ earlier ∈ before, ∃ values, OffersSome spec params earlier values)
    (isFirst : Refuses spec params segment problem) :
    capability.expand spec params = .error problem := by
  obtain ⟨reached, same⟩ := @expandFrom_of_filled spec params (segment :: after) _ filled [none]
  rw [expand, isSplit, same, expandFrom, segmentValues_of_refuses isFirst]
  rfl

/-- The outcome of an expansion is the one that the segments determine. -/
theorem expand_eq_iff {capability : Capability} {result : Except DescriptionError (List String)} :
    capability.expand spec params = result ↔ Expands spec params capability.segments result := by
  constructor
  · rintro rfl
    rcases all_offer_or_first spec params capability.segments with
      ⟨offered, offers⟩ | ⟨before, segment, after, isSplit, filled, isFirst | ⟨problem, isFirst⟩⟩
    · rw [expand_of_offers offers]
      exact .product offers (isOrderedProduct_choices offered)
    · rw [expand_of_offersNothing isSplit filled isFirst]
      exact .nothing isSplit filled isFirst
    · rw [expand_of_refuses isSplit filled isFirst]
      exact .malformed isSplit filled isFirst
  · intro expands
    cases expands with
    | product offers isProduct =>
        rw [expand_of_offers offers, (isOrderedProduct_choices _).unique isProduct]
    | nothing isSplit filled isFirst => exact expand_of_offersNothing isSplit filled isFirst
    | malformed isSplit filled isFirst => exact expand_of_refuses isSplit filled isFirst

/-- A pattern without an empty piece and without a dollar sign alone is read into its pieces, and a
feature gives it all choices of one value for each piece. -/
theorem patterns_expand_in_order (pattern : String) (optional : Bool) :
    (Succeeds (parse pattern optional) ↔
      Text.trim pattern ≠ "" ∧
        ∀ piece ∈ Text.pieces '.' (Text.trim pattern), piece ≠ "" ∧ piece ≠ "$") ∧
      ∀ capability, parse pattern optional = .ok capability →
        (capability.segments.map Segment.text = Text.pieces '.' (Text.trim pattern) ∧
          ∀ segment ∈ capability.segments, segment.IsPlain) ∧
          Text.join "." (capability.segments.map Segment.text) = Text.trim pattern ∧
            ∀ (spec : FeatureSpec) (params : OrderedMap String String)
              (result : Except DescriptionError (List String)),
              capability.expand spec params = result ↔
                Expands spec params capability.segments result := by
  refine ⟨parse_succeeds_iff, fun capability isRead => ?_⟩
  obtain ⟨_, _, _, areTexts, arePlain⟩ := parse_eq_ok_iff.1 isRead
  exact ⟨⟨areTexts, arePlain⟩, join_segments isRead, fun _ _ _ => expand_eq_iff⟩

end

end Provisioning.Capability
