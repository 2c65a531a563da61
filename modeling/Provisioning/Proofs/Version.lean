/-
This file says where the order of versions can be relied on, and proves that versions are sorted
there.
-/

import Mathlib.Data.List.Basic
import Provisioning.Version

namespace Provisioning.Version

/-- Two segments compare in one direction as they do in the other. -/
theorem compareSegments_swap (first second : List Char) :
    (compareSegments first second).swap = compareSegments second first := by
  unfold compareSegments
  cases Text.word? first <;> cases Text.word? second <;> exact Std.OrientedOrd.eq_swap.symm

/-- Two lists of segments compare in one direction as they do in the other. -/
theorem compareAll_swap (first second : List (List Char)) :
    (compareAll first second).swap = compareAll second first := by
  induction first generalizing second with
  | nil => cases second <;> rfl
  | cons segment rest inductionHypothesis =>
      cases second with
      | nil => rfl
      | cons other others =>
          rw [compareAll, compareAll, Ordering.swap_then, compareSegments_swap,
            inductionHypothesis]

/-- Two versions compare in one direction as they do in the other. -/
theorem order_swap (first second : String) : (order first second).swap = order second first :=
  compareAll_swap _ _

/-- No version comes before itself. -/
theorem isLE_self (version : String) : (order version version).isLE = true := by
  have mirrored := order_swap version version
  cases compared : order version version with
  | lt => simp [compared] at mirrored
  | eq => rfl
  | gt => simp [compared] at mirrored

/-- Of two versions one comes first or they are equal. -/
theorem isLE_of_ne_lt {first second : String} (notBefore : order first second ≠ .lt) :
    (order second first).isLE = true := by
  rw [← order_swap, Ordering.isLE_swap]
  exact Ordering.isGE_iff_ne_lt.2 notBefore

abbrev IsNumber (segment : List Char) : Prop := (Text.word? segment).isSome = true

/-- Segments can be put in one order when all are numbers or none of them but a single one is. -/
def Uniform (column : List (List Char)) : Prop :=
  (∀ segment ∈ column, IsNumber segment) ∨
    ∀ first ∈ column, ∀ second ∈ column, IsNumber first → IsNumber second → first = second

/-- Segments are compared as texts unless both are numbers. -/
theorem compareSegments_of_notNumber {first second : List Char}
    (notBoth : ¬(IsNumber first ∧ IsNumber second)) :
    compareSegments first second = compare (String.ofList first) (String.ofList second) := by
  unfold compareSegments
  split
  · next number other isFirst isSecond =>
    exact absurd (by simp [IsNumber, isFirst, isSecond]) notBoth
  · rfl

theorem compareSegments_self (segment : List Char) : compareSegments segment segment = .eq := by
  unfold compareSegments
  split
  · next number other isFirst isSecond =>
    obtain rfl := Option.some.inj (isFirst.symm.trans isSecond)
    exact Std.compare_self
  · exact Std.compare_self

section

variable {column : List (List Char)} {first second third : List Char}

/-- Where the only numbers are the same, segments are compared by their characters. -/
theorem compareSegments_of_sameNumbers
    (same : ∀ first ∈ column, ∀ second ∈ column, IsNumber first → IsNumber second → first = second)
    (isFirst : first ∈ column) (isSecond : second ∈ column) :
    compareSegments first second = compare (String.ofList first) (String.ofList second) := by
  by_cases both : IsNumber first ∧ IsNumber second
  · obtain rfl := same first isFirst second isSecond both.1 both.2
    rw [compareSegments_self, Std.compare_self]
  · exact compareSegments_of_notNumber both

/-- In a uniform column the order of segments is transitive. -/
theorem isLE_trans_of_uniform (uniform : Uniform column) (isFirst : first ∈ column)
    (isSecond : second ∈ column) (isThird : third ∈ column)
    (le : (compareSegments first second).isLE = true)
    (next : (compareSegments second third).isLE = true) :
    (compareSegments first third).isLE = true := by
  rcases uniform with numbers | same
  · obtain ⟨low, isLow⟩ := Option.isSome_iff_exists.1 (numbers first isFirst)
    obtain ⟨middle, isMiddle⟩ := Option.isSome_iff_exists.1 (numbers second isSecond)
    obtain ⟨high, isHigh⟩ := Option.isSome_iff_exists.1 (numbers third isThird)
    simp only [compareSegments, isLow, isMiddle, isHigh] at le next ⊢
    exact Std.TransCmp.isLE_trans le next
  · rw [compareSegments_of_sameNumbers same isFirst isSecond] at le
    rw [compareSegments_of_sameNumbers same isSecond isThird] at next
    rw [compareSegments_of_sameNumbers same isFirst isThird]
    exact Std.TransCmp.isLE_trans le next

/-- Of two segments one comes first or they are equal. -/
theorem compareSegments_isLE_of_ne_lt (notBefore : compareSegments first second ≠ .lt) :
    (compareSegments second first).isLE = true := by
  rw [← compareSegments_swap, Ordering.isLE_swap]
  exact Ordering.isGE_iff_ne_lt.2 notBefore

/-- A step downwards is not made up for by the others. -/
theorem lt_of_lt_of_isLE (uniform : Uniform column) (isFirst : first ∈ column)
    (isSecond : second ∈ column) (isThird : third ∈ column)
    (lt : compareSegments first second = .lt)
    (next : (compareSegments second third).isLE = true) : compareSegments first third = .lt := by
  by_contra notLt
  have back := isLE_trans_of_uniform uniform isSecond isThird isFirst next
    (compareSegments_isLE_of_ne_lt notLt)
  rw [← compareSegments_swap, lt] at back
  cases back

/-- In a uniform column a segment that is no later than another comes before all that the other comes
before. -/
theorem lt_of_isLE_of_lt (uniform : Uniform column) (isFirst : first ∈ column)
    (isSecond : second ∈ column) (isThird : third ∈ column)
    (le : (compareSegments first second).isLE = true)
    (next : compareSegments second third = .lt) : compareSegments first third = .lt := by
  by_contra notLt
  have back := isLE_trans_of_uniform uniform isThird isFirst isSecond
    (compareSegments_isLE_of_ne_lt notLt) le
  rw [← compareSegments_swap, next] at back
  cases back

end

/-- Segments that stand at one position are compared with each other. -/
def Fits (columns : Nat → List (List Char)) (version : List (List Char)) : Prop :=
  ∀ position segment, version[position]? = some segment → segment ∈ columns position

theorem Fits.head {columns : Nat → List (List Char)} {segment : List Char}
    {rest : List (List Char)} (fits : Fits columns (segment :: rest)) : segment ∈ columns 0 :=
  fits 0 segment rfl

theorem Fits.tail {columns : Nat → List (List Char)} {segment : List Char}
    {rest : List (List Char)} (fits : Fits columns (segment :: rest)) :
    Fits (fun position => columns (position + 1)) rest :=
  fun position other isOther => fits (position + 1) other (by simpa using isOther)

/-- The order of lists of segments is transitive when each of their columns is uniform. -/
theorem compareAll_isLE_trans {columns : Nat → List (List Char)}
    (uniform : ∀ position, Uniform (columns position)) {first second third : List (List Char)}
    (fitsFirst : Fits columns first) (fitsSecond : Fits columns second)
    (fitsThird : Fits columns third) (le : (compareAll first second).isLE = true)
    (next : (compareAll second third).isLE = true) : (compareAll first third).isLE = true := by
  induction first generalizing columns second third with
  | nil => cases third <;> rfl
  | cons low lows inductionHypothesis =>
      cases second with
      | nil => cases le
      | cons middle middles =>
          cases third with
          | nil => cases next
          | cons high highs =>
              rw [compareAll, Ordering.isLE_then_iff_or] at le next ⊢
              rcases le with lt | ⟨eq, restLe⟩
              · refine Or.inl (lt_of_lt_of_isLE (uniform 0) fitsFirst.head fitsSecond.head
                  fitsThird.head lt ?_)
                rcases next with nextLt | ⟨nextEq, _⟩
                · rw [nextLt]; rfl
                · rw [nextEq]; rfl
              · rcases next with nextLt | ⟨nextEq, restNext⟩
                · refine Or.inl (lt_of_isLE_of_lt (uniform 0) fitsFirst.head fitsSecond.head
                    fitsThird.head ?_ nextLt)
                  rw [eq]; rfl
                · have up := isLE_trans_of_uniform (uniform 0) fitsFirst.head fitsSecond.head
                    fitsThird.head (by rw [eq]; rfl) (by rw [nextEq]; rfl)
                  rw [Ordering.isLE_iff_eq_lt_or_eq_eq] at up
                  refine up.imp id fun equal => ⟨equal, ?_⟩
                  exact inductionHypothesis (fun position => uniform (position + 1))
                    fitsFirst.tail fitsSecond.tail fitsThird.tail restLe restNext

/-- The segments that versions have at a position. -/
def column (versions : List String) (position : Nat) : List (List Char) :=
  versions.filterMap fun version => (segments version)[position]?

/-- At no position do different numbers stand beside something that is no number. -/
def Orderly (versions : List String) : Prop := ∀ position, Uniform (column versions position)

/-- Among these versions whatever comes after a later version comes after the earlier one too. -/
def TransitiveOn (versions : List String) : Prop :=
  ∀ first ∈ versions, ∀ second ∈ versions, ∀ third ∈ versions,
    (order first second).isLE = true → (order second third).isLE = true →
      (order first third).isLE = true

/-- The order of orderly versions is transitive. -/
theorem transitiveOn_of_orderly {versions : List String} (orderly : Orderly versions) :
    TransitiveOn versions := by
  have fits : ∀ version ∈ versions, Fits (column versions) (segments version) :=
    fun version listed position segment isSegment =>
      List.mem_filterMap.2 ⟨version, listed, isSegment⟩
  intro first isFirst second isSecond third isThird
  exact compareAll_isLE_trans orderly (fits first isFirst) (fits second isSecond)
    (fits third isThird)

theorem TransitiveOn.mono {versions more : List String} (transitive : TransitiveOn more)
    (subset : ∀ version ∈ versions, version ∈ more) : TransitiveOn versions :=
  fun first isFirst second isSecond third isThird =>
    transitive first (subset first isFirst) second (subset second isSecond) third
      (subset third isThird)

section

variable {Element : Type} {version : Element → String}

/-- Elements that have been placed are in order; the last comes first. -/
def Placed (version : Element → String) (placed : List Element) : Prop :=
  placed.Pairwise fun later earlier => (order (version earlier) (version later)).isLE = true

/-- A version is put in its place among sorted ones. -/
theorem placed_place {element : Element} {placed : List Element}
    (transitive : TransitiveOn ((element :: placed).map version)) (sorted : Placed version placed) :
    Placed version
      (place (fun first second => order (version first) (version second) == .lt) element placed) := by
  induction placed with
  | nil => exact List.pairwise_singleton _ element
  | cons last earlier inductionHypothesis =>
      obtain ⟨below, restSorted⟩ := List.pairwise_cons.1 sorted
      unfold place
      split
      · next before =>
        rw [beq_iff_eq] at before
        have restPlaced := inductionHypothesis (transitive.mono (by simp; tauto)) restSorted
        refine List.pairwise_cons.2 ⟨fun other isPlaced => ?_, restPlaced⟩
        rcases List.mem_cons.1 ((place_perm _ element earlier).mem_iff.1 isPlaced) with rfl | isEarlier
        · rw [before]; rfl
        · exact below other isEarlier
      · next notBefore =>
        rw [beq_iff_eq] at notBefore
        have lastLe := isLE_of_ne_lt notBefore
        refine List.pairwise_cons.2 ⟨fun other isPlaced => ?_, sorted⟩
        rcases List.mem_cons.1 isPlaced with rfl | isEarlier
        · exact lastLe
        · exact transitive _ (by simp [List.mem_map_of_mem isEarlier]) _ (by simp) _ (by simp)
            (below other isEarlier) lastLe

/-- Versions that are put in their places one by one are sorted. -/
theorem placed_foldl {placed elements : List Element}
    (transitive : TransitiveOn ((elements ++ placed).map version)) (sorted : Placed version placed) :
    Placed version (elements.foldl (fun placed element =>
      place (fun first second => order (version first) (version second) == .lt) element placed)
      placed) := by
  induction elements generalizing placed with
  | nil => exact sorted
  | cons element rest inductionHypothesis =>
      rw [List.foldl_cons]
      have perm := place_perm
        (fun first second => order (version first) (version second) == .lt) element placed
      apply inductionHypothesis
      · refine transitive.mono fun other isOther => ?_
        have moved := ((perm.append_left rest).trans List.perm_middle).map version
        exact moved.mem_iff.1 isOther
      · refine placed_place (transitive.mono fun other isOther => ?_) sorted
        rw [List.map_cons, List.mem_cons] at isOther
        rw [List.cons_append, List.map_cons, List.mem_cons, List.map_append, List.mem_append]
        exact isOther.imp id Or.inr

/-- Sorted elements are in the order of their versions wherever that order is transitive. -/
theorem sort_pairwise {elements : List Element} (transitive : TransitiveOn (elements.map version)) :
    (sort version elements).Pairwise fun first second =>
      (order (version first) (version second)).isLE = true := by
  rw [sort, List.pairwise_reverse]
  exact placed_foldl (by simpa using transitive) List.Pairwise.nil

end

end Provisioning.Version
