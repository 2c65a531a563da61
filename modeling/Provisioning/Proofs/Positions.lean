/-
This file relates what is kept of a list to the positions that it comes from.
-/

import Mathlib.Data.List.Forall2

namespace Provisioning

variable {Source Result : Type}

/-- What is kept of a list comes from the positions that are kept, in their order. -/
theorem exists_positions (keeps : Source × Nat → Bool) (result : Source → Result)
    (sources : List Source) :
    ∃ positions : List Nat, positions.Pairwise (· < ·) ∧
      (∀ position, position ∈ positions ↔
        ∃ source, sources[position]? = some source ∧ keeps (source, position) = true) ∧
      List.Forall₂ (fun position kept => ∃ source, sources[position]? = some source ∧
        result source = kept) positions
        ((sources.zipIdx.filter keeps).map fun place => result place.1) := by
  have mem_places : ∀ place, place ∈ sources.zipIdx.filter keeps ↔
      sources[place.2]? = some place.1 ∧ keeps place = true := by
    intro place
    rw [List.mem_filter, ← List.mk_mem_zipIdx_iff_getElem?]
  refine ⟨(sources.zipIdx.filter keeps).map Prod.snd, ?_, fun position => ?_, ?_⟩
  · have ascending : (sources.zipIdx.map Prod.snd).Pairwise (· < ·) := by
      rw [List.zipIdx_map_snd]
      exact List.pairwise_lt_range'
    exact ascending.sublist (List.filter_sublist.map Prod.snd)
  · simp only [List.mem_map, mem_places, Prod.exists, exists_eq_right]
  · rw [List.forall₂_map_left_iff, List.forall₂_map_right_iff, List.forall₂_same]
    exact fun place isPlace => ⟨place.1, ((mem_places place).1 isPlace).1, rfl⟩

/-- The results come from the positions whose elements are kept. -/
theorem filterMap_eq_map_filter_zipIdx (keeps : Source → Bool) (result : Source → Result)
    (sources : List Source) :
    (sources.filterMap fun source => if keeps source then some (result source) else none) =
      (sources.zipIdx.filter fun place => keeps place.1).map fun place => result place.1 := by
  conv_lhs => rw [← List.zipIdx_map_fst 0 sources, List.filterMap_map]
  rw [← List.filterMap_eq_map, List.filterMap_filter]
  rfl

end Provisioning
