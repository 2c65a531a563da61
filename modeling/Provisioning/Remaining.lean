/-
This file measures what a walk still has ahead of it.
-/

namespace Provisioning

variable {Element : Type}

/-- The sizes of all elements together. -/
def totalSize (size : Element → Nat) : List Element → Nat
  | [] => 0
  | element :: rest => size element + totalSize size rest

theorem totalSize_append (size : Element → Nat) (some others : List Element) :
    totalSize size (some ++ others) = totalSize size some + totalSize size others := by
  induction some with
  | nil => simp [totalSize]
  | cons element rest inductionHypothesis =>
      simp only [List.cons_append, totalSize, inductionHypothesis, Nat.add_assoc]

theorem size_le_totalSize (size : Element → Nat) {elements : List Element} {element : Element}
    (listed : element ∈ elements) : size element ≤ totalSize size elements := by
  induction elements with
  | nil => simp at listed
  | cons first rest inductionHypothesis =>
      rw [totalSize]
      rcases List.mem_cons.1 listed with rfl | inRest
      · omega
      · have bound := inductionHypothesis inRest
        omega

/-- Fewer elements are left when one more is settled. -/
theorem countP_lt_of_settled {before after : Element → Bool} {elements : List Element}
    {settled : Element} (listed : settled ∈ elements) (wasLeft : before settled = true)
    (isSettled : after settled = false) (kept : ∀ other, after other = true → before other = true) :
    elements.countP after < elements.countP before := by
  induction elements with
  | nil => simp at listed
  | cons element rest inductionHypothesis =>
      have tail : rest.countP after ≤ rest.countP before :=
        List.countP_mono_left fun other _ => kept other
      rw [List.countP_cons, List.countP_cons]
      rcases List.mem_cons.1 listed with rfl | inRest
      · rw [wasLeft, isSettled]
        simp only [Bool.false_eq_true, ↓reduceIte, Nat.add_zero]
        omega
      · have fewer := inductionHypothesis inRest
        have head : (if after element = true then 1 else 0) ≤
            (if before element = true then 1 else 0) := by
          by_cases left : after element = true
          · simp [left, kept element left]
          · simp [left]
        omega

/-- Distinct elements of a list are no more than the list has. -/
theorem length_le_of_nodup [DecidableEq Element] {some all : List Element} (nodup : some.Nodup)
    (listed : ∀ element ∈ some, element ∈ all) : some.length ≤ all.length := by
  induction some generalizing all with
  | nil => exact Nat.zero_le _
  | cons element rest inductionHypothesis =>
      rw [List.nodup_cons] at nodup
      have first : element ∈ all := listed element List.mem_cons_self
      have others : rest.length ≤ (all.erase element).length := by
        apply inductionHypothesis nodup.2
        intro other inRest
        have different : other ≠ element := fun same => nodup.1 (same ▸ inRest)
        exact (List.mem_erase_of_ne different).2 (listed other (List.mem_cons_of_mem _ inRest))
      rw [List.length_erase_of_mem first] at others
      have positive := List.length_pos_of_mem first
      rw [List.length_cons]
      omega

end Provisioning
