/-
This file orders the ways to choose one value from each of several lists.
-/

import Mathlib.Algebra.Group.Nat.Defs
import Mathlib.Data.List.Forall2
import Mathlib.Data.List.Sort
import Provisioning.Text.Split

namespace Provisioning.Capability

/-- The values at the given positions, one in each list. -/
inductive Picks : List (List String) → List Nat → List String → Prop where
  | done : Picks [] [] []
  | pick {values : List String} {rest : List (List String)} {position : Nat}
      {positions : List Nat} {value : String} {chosen : List String}
      (isValue : values[position]? = some value) (picks : Picks rest positions chosen) :
      Picks (values :: rest) (position :: positions) (value :: chosen)

/-- The texts are the choices of one value from each list with dots between the values, once for each
choice of positions and in the lexicographic order of the positions. -/
structure IsOrderedProduct (offered : List (List String)) (texts : List String) : Prop where
  ordered : ∃ places : List (List Nat), places.Pairwise (· < ·) ∧
    (∀ positions, positions ∈ places ↔ ∃ chosen, Picks offered positions chosen) ∧
      List.Forall₂ (fun positions text => ∃ chosen, Picks offered positions chosen ∧
        Text.join "." chosen = text) places texts
  length : texts.length = (offered.map List.length).prod

/-- The choices of one value from each list, with the first list varying slowest. -/
def choices : List (List String) → List (List String)
  | [] => [[]]
  | values :: rest => values.flatMap fun value => (choices rest).map (value :: ·)

/-- The positions of the choices. -/
def choicePlaces : List (List String) → List (List Nat)
  | [] => [[]]
  | values :: rest =>
      (List.range values.length).flatMap fun position =>
        (choicePlaces rest).map (position :: ·)

variable {offered : List (List String)} {positions : List Nat} {chosen other texts : List String}

/-- The positions determine the choice. -/
theorem Picks.unique (picks : Picks offered positions chosen)
    (also : Picks offered positions other) : chosen = other := by
  induction picks generalizing other with
  | done =>
      cases also
      rfl
  | pick isValue _ inductionHypothesis =>
      cases also with
      | pick isOther alsoPicks =>
          rw [isValue, Option.some.injEq] at isOther
          rw [isOther, inductionHypothesis alsoPicks]

/-- The places are those from which there is something to choose in every list. -/
theorem mem_choicePlaces_iff :
    positions ∈ choicePlaces offered ↔ ∃ chosen, Picks offered positions chosen := by
  induction offered generalizing positions with
  | nil =>
      rw [choicePlaces, List.mem_singleton]
      constructor
      · rintro rfl
        exact ⟨[], .done⟩
      · rintro ⟨chosen, picks⟩
        cases picks
        rfl
  | cons values rest inductionHypothesis =>
      simp only [choicePlaces, List.mem_flatMap, List.mem_range, List.mem_map, inductionHypothesis]
      constructor
      · rintro ⟨position, inside, others, ⟨chosen, picks⟩, rfl⟩
        exact ⟨_, .pick (List.getElem?_eq_getElem inside) picks⟩
      · rintro ⟨_, picks⟩
        cases picks with
        | pick isValue picks =>
            exact ⟨_, (List.getElem?_eq_some_iff.1 isValue).1, _, ⟨_, picks⟩, rfl⟩

/-- The places are in lexicographic order, so none of them is there twice. -/
theorem choicePlaces_pairwise (offered : List (List String)) :
    (choicePlaces offered).Pairwise (· < ·) := by
  induction offered with
  | nil => exact List.pairwise_singleton _ _
  | cons values rest inductionHypothesis =>
      rw [choicePlaces, List.pairwise_flatMap]
      constructor
      · intro position _
        rw [List.pairwise_map]
        exact inductionHypothesis.imp fun before => List.cons_lt_cons_iff.2 (Or.inr ⟨rfl, before⟩)
      · apply List.pairwise_lt_range.imp
        intro first second before firstPlaces isFirst secondPlaces isSecond
        obtain ⟨_, _, rfl⟩ := List.mem_map.1 isFirst
        obtain ⟨_, _, rfl⟩ := List.mem_map.1 isSecond
        exact List.cons_lt_cons_iff.2 (Or.inl before)

/-- The choices stand in the order of their positions. -/
theorem picks_choices (offered : List (List String)) :
    List.Forall₂ (fun positions chosen => Picks offered positions chosen)
      (choicePlaces offered) (choices offered) := by
  induction offered with
  | nil => exact .cons .done .nil
  | cons values rest inductionHypothesis =>
      have areValues : List.Forall₂ (fun position value => values[position]? = some value)
          (List.range values.length) values := by
        rw [List.forall₂_iff_get]
        simp
      refine List.rel_flatMap areValues fun position value isValue => ?_
      rw [List.forall₂_map_left_iff, List.forall₂_map_right_iff]
      exact inductionHypothesis.imp fun _ _ picks => .pick isValue picks

/-- There are as many choices as the sizes of the lists have as their product. -/
theorem length_choices (offered : List (List String)) :
    (choices offered).length = (offered.map List.length).prod := by
  induction offered with
  | nil => rfl
  | cons values rest inductionHypothesis =>
      simp [choices, List.length_flatMap, inductionHypothesis]

/-- The choices, with the first list varying slowest, are the ordered product. -/
theorem isOrderedProduct_choices (offered : List (List String)) :
    IsOrderedProduct offered ((choices offered).map (Text.join ".")) where
  ordered := by
    refine ⟨choicePlaces offered, choicePlaces_pairwise offered,
      fun _ => mem_choicePlaces_iff, ?_⟩
    rw [List.forall₂_map_right_iff]
    exact (picks_choices offered).imp fun _ chosen picks => ⟨chosen, picks, rfl⟩
  length := by rw [List.length_map, length_choices]

/-- The last list varies fastest. -/
example : (choices [["a", "b"], ["c"], ["d", "e"]]).map (Text.join ".") =
    ["a.c.d", "a.c.e", "b.c.d", "b.c.e"] := by rfl

/-- The order leaves no choice of what stands where. -/
theorem IsOrderedProduct.unique (product : IsOrderedProduct offered texts)
    (also : IsOrderedProduct offered other) : texts = other := by
  obtain ⟨places, sorted, mem_iff, areTexts⟩ := product.ordered
  obtain ⟨otherPlaces, otherSorted, otherMem_iff, areOthers⟩ := also.ordered
  have samePlaces : places = otherPlaces :=
    sorted.eq_of_mem_iff otherSorted fun positions => (mem_iff positions).trans
      (otherMem_iff positions).symm
  subst samePlaces
  refine List.right_unique_forall₂' ?_ areTexts areOthers
  rintro positions first second ⟨chosen, picks, rfl⟩ ⟨alsoChosen, alsoPicks, rfl⟩
  rw [picks.unique alsoPicks]

end Provisioning.Capability
