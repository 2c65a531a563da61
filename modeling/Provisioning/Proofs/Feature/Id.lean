/-
This file proves which texts are read as identities of features and that each is the text of what
is read from it.
-/

import Provisioning.Feature.Id
import Provisioning.Proofs.Success
import Provisioning.Proofs.Text.Split

namespace Provisioning

namespace IdParams

/-- A parameter is written as its name and value. -/
def pairText (pair : String × String) : String := s!"{pair.1}={pair.2}"

/-- Parameters are written with commas between them. -/
def pairsText (pairs : List (String × String)) : String := Text.join "," (pairs.map pairText)

/-- A pair is told apart from its neighbours and its name from its value. -/
structure IsPair (pair : String × String) : Prop where
  named : pair.1 ≠ ""
  nameFree : '=' ∉ pair.1.toList ∧ ',' ∉ pair.1.toList
  valueFree : ',' ∉ pair.2.toList

/-- A pair is written with an equals sign. -/
theorem toList_pairText (pair : String × String) :
    (pairText pair).toList = pair.1.toList ++ '=' :: pair.2.toList := by
  simp [pairText, toString]

/-- Pairs are written with commas between them. -/
theorem toList_pairsText (pairs : List (String × String)) :
    (pairsText pairs).toList = [','].intercalate ((pairs.map pairText).map String.toList) := by
  simp [pairsText, Text.join]

/-- A piece is cut into the name and the value of which it is written. -/
theorem cut?_eq_some_iff {piece name value : String} :
    Text.cut? '=' piece = some (name, value) ↔
      piece = pairText (name, value) ∧ '=' ∉ name.toList := by
  rw [Text.cut?_eq_some_iff, ← String.toList_inj, toList_pairText]

/-- A pair is written without a comma when neither side has one. -/
theorem comma_notMem_pairText_iff {pair : String × String} :
    ',' ∉ (pairText pair).toList ↔ ',' ∉ pair.1.toList ∧ ',' ∉ pair.2.toList := by
  simp [toList_pairText]

theorem pairsText_ne_empty {pairs : List (String × String)} (nonempty : pairs ≠ []) :
    pairsText pairs ≠ "" := by
  rw [Ne, ← String.toList_inj, toList_pairsText]
  cases pairs with
  | nil => exact absurd rfl nonempty
  | cons pair rest =>
      cases rest <;> simp [toList_pairText, List.intercalate_cons_cons]

/-- Pairs are the pieces of the text that they are written in. -/
theorem pieces_pairsText {pairs : List (String × String)} (nonempty : pairs ≠ [])
    (arePairs : ∀ pair ∈ pairs, IsPair pair) :
    Text.pieces ',' (pairsText pairs) = pairs.map pairText := by
  refine Text.pieces_eq_iff.2 ⟨by simpa using nonempty, ?_, (toList_pairsText pairs).symm⟩
  rw [List.forall_mem_map]
  exact fun pair listed => comma_notMem_pairText_iff.2
    ⟨(arePairs pair listed).nameFree.2, (arePairs pair listed).valueFree⟩

end IdParams

namespace FeatureId

open IdParams

variable {text : String} {id : FeatureId} {params result : IdParams}

/-- The parts can be told apart in a text: the spec ends at the first colon, a name at the first
sign of equality and a pair at the next comma. -/
structure IsPlain (spec : String) (pairs : List (String × String)) : Prop where
  specFree : ':' ∉ spec.toList
  arePairs : ∀ pair ∈ pairs, IsPair pair

/-- The text has the form `spec:name=value(,name=value)*` with these parts. -/
structure Spells (text spec : String) (pairs : List (String × String)) : Prop
    extends IsPlain spec pairs where
  filled : Text.blank spec = false
  nonempty : pairs ≠ []
  distinct : (pairs.map Prod.fst).Nodup
  isText : text = s!"{spec}:{pairsText pairs}"

/-- What is read are the pairs that the pieces spell, behind those that are known. -/
theorem readPairs_eq_ok {pieces : List String}
    (isRead : readPairs text params pieces = .ok result) :
    ∃ pairs, pieces = pairs.map pairText ∧ (∀ pair ∈ pairs, pair.1 ≠ "" ∧ '=' ∉ pair.1.toList) ∧
      result.entries = params.entries ++ pairs := by
  fun_induction readPairs text params pieces with
  | case1 params =>
      cases isRead
      exact ⟨[], rfl, by simp, (List.append_nil _).symm⟩
  | case2 | case3 | case4 => cases isRead
  | case5 params piece rest name value isCut filled known inductionHypothesis =>
      obtain ⟨pairs, rfl, areNamed, entries⟩ := inductionHypothesis isRead
      obtain ⟨rfl, free⟩ := IdParams.cut?_eq_some_iff.1 isCut
      have isNew : params.get? name = none := by simpa [OrderedMap.contains] using known
      refine ⟨(name, value) :: pairs, rfl, ?_, ?_⟩
      · rw [List.forall_mem_cons]
        exact ⟨⟨by simpa using filled, free⟩, areNamed⟩
      · rw [entries, OrderedMap.entries_insert_of_new value isNew, List.append_assoc]
        rfl

/-- Pairs with new names are read from the pieces that they spell. -/
theorem readPairs_map_pairText {pairs : List (String × String)}
    (arePairs : ∀ pair ∈ pairs, IsPair pair)
    (nodup : ((params.entries ++ pairs).map Prod.fst).Nodup) :
    readPairs text params (pairs.map pairText) = .ok (params.extend pairs) := by
  induction pairs generalizing params with
  | nil => rfl
  | cons pair rest inductionHypothesis =>
      rw [List.forall_mem_cons] at arePairs
      have isCut : Text.cut? '=' (pairText pair) = some (pair.1, pair.2) :=
        IdParams.cut?_eq_some_iff.2 ⟨rfl, arePairs.1.nameFree.1⟩
      have isNew : params.get? pair.1 = none := OrderedMap.get?_eq_none_of_nodup nodup
      rw [List.append_cons, ← OrderedMap.entries_insert_of_new pair.2 isNew] at nodup
      simp only [List.map_cons, readPairs, isCut, inductionHypothesis arePairs.2 nodup]
      simp [arePairs.1.named, OrderedMap.contains, isNew, OrderedMap.extend]

/-- An id is built when its spec is not blank and it has parameters. -/
theorem new_eq_ok_iff {spec : String} :
    new spec params = .ok id ↔
      Text.blank spec = false ∧ params.entries ≠ [] ∧ ⟨spec, params⟩ = id := by
  unfold new
  split
  · next isBlank => simp [isBlank]
  · next filled =>
    split
    · next isEmpty => simp [List.isEmpty_iff.1 isEmpty]
    · next nonempty =>
      rw [OrderedMap.isEmpty, List.isEmpty_iff] at nonempty
      simp [filled, nonempty]

theorem toList_spelled (spec rest : String) :
    (s!"{spec}:{rest}").toList = spec.toList ++ ':' :: rest.toList := by
  simp [toString]

/-- A text that is read spells the id. -/
theorem spells_of_parse (isRead : parse text = .ok id) : Spells text id.spec id.params.entries := by
  unfold parse at isRead
  split at isRead
  · cases isRead
  · next spec rest isCut =>
    split at isRead
    · cases isRead
    · split at isRead
      · cases isRead
      · obtain ⟨params, arePairs, isNew⟩ := bind_eq_ok_iff.1 isRead
        obtain ⟨filled, nonempty, rfl⟩ := new_eq_ok_iff.1 isNew
        obtain ⟨pairs, arePieces, areNamed, entries⟩ := readPairs_eq_ok arePairs
        obtain rfl : params.entries = pairs := entries
        obtain ⟨isText, specFree⟩ := Text.cut?_eq_some_iff.1 isCut
        obtain ⟨_, whole, joined⟩ := Text.pieces_eq_iff.1 arePieces
        rw [List.forall_mem_map] at whole
        refine ⟨⟨specFree, fun pair listed => ?_⟩, filled, nonempty, params.keysNodup, ?_⟩
        · obtain ⟨nameWhole, valueWhole⟩ := comma_notMem_pairText_iff.1 (whole pair listed)
          obtain ⟨named, nameFree⟩ := areNamed pair listed
          exact ⟨named, ⟨nameFree, nameWhole⟩, valueWhole⟩
        · rw [← String.toList_inj, isText, toList_spelled, toList_pairsText, joined]

/-- A text that spells an id is read as it. -/
theorem parse_of_spells (spells : Spells text id.spec id.params.entries) : parse text = .ok id := by
  have isCut : Text.cut? ':' text = some (id.spec, pairsText id.params.entries) := by
    rw [Text.cut?_eq_some_iff, spells.isText, toList_spelled]
    exact ⟨rfl, spells.specFree⟩
  have specNamed : id.spec ≠ "" := by
    intro isEmpty
    have filled := spells.filled
    rw [isEmpty] at filled
    cases filled
  have isRead := @readPairs_map_pairText text .empty id.params.entries spells.arePairs
    spells.distinct
  have params : OrderedMap.empty.extend id.params.entries = id.params :=
    OrderedMap.ofList_entries id.params
  have accepted : new id.spec id.params = .ok id :=
    new_eq_ok_iff.2 ⟨spells.filled, spells.nonempty, rfl⟩
  rw [params] at isRead
  simp only [parse, isCut, pieces_pairsText spells.nonempty spells.arePairs, isRead]
  simpa [specNamed, pairsText_ne_empty spells.nonempty, bind, Except.bind] using accepted

/-- A text is read as an identity exactly when it spells the parts of the identity. -/
theorem parse_eq_ok_iff : parse text = .ok id ↔ Spells text id.spec id.params.entries :=
  ⟨spells_of_parse, parse_of_spells⟩

/-- A text is the text of what is read from it. -/
theorem text_of_parse (isRead : parse text = .ok id) : id.text = text :=
  (spells_of_parse isRead).isText.symm

/-- An identity with parts that can be told apart is read from its text when it is accepted. -/
theorem parse_text_iff (isPlain : IsPlain id.spec id.params.entries) :
    parse id.text = .ok id ↔ new id.spec id.params = .ok id := by
  rw [parse_eq_ok_iff, new_eq_ok_iff]
  constructor
  · exact fun spells => ⟨spells.filled, spells.nonempty, rfl⟩
  · rintro ⟨filled, nonempty, _⟩
    exact ⟨isPlain, filled, nonempty, id.params.keysNodup, rfl⟩

/-- A text is read as the identity of a feature exactly when it has the form
`spec:name=value(,name=value)*`, the text of what is read is the text itself, and an identity whose
parts can be told apart is read from its text, with its parameters in their order, exactly when it
is one that is accepted. -/
theorem text_format :
    (∀ text, Succeeds (parse text) ↔ ∃ spec pairs, Spells text spec pairs) ∧
      (∀ text id, parse text = .ok id → id.text = text) ∧
        ∀ id : FeatureId, IsPlain id.spec id.params.entries →
          (parse id.text = .ok id ↔ new id.spec id.params = .ok id) := by
  refine ⟨fun text => ⟨?_, ?_⟩, fun _ _ => text_of_parse, fun _ => parse_text_iff⟩
  · rintro ⟨id, isRead⟩
    exact ⟨id.spec, id.params.entries, spells_of_parse isRead⟩
  · rintro ⟨spec, pairs, spells⟩
    exact ⟨⟨spec, ⟨pairs, spells.distinct⟩⟩, parse_of_spells spells⟩

/-- Values may hold colons and signs of equality, and they may be empty. -/
example : parse "lamp:name=a:b=c,note=" =
    .ok ⟨"lamp", ⟨[("name", "a:b=c"), ("note", "")], by decide⟩⟩ := by rfl

end FeatureId

end Provisioning
