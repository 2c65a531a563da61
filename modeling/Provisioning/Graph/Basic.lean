/-
This file defines finite directed graphs.
-/

import Provisioning.Remaining

namespace Provisioning

/-- The node at a position has the targets listed there. -/
abbrev Graph := List (List Nat)

namespace Graph

def successors (graph : Graph) (node : Nat) : List Nat := (graph[node]?).getD []

/-- The number of nodes that a walk has not seen yet. -/
def unseen (graph : Graph) (seen : List Nat) : Nat :=
  (List.range graph.length).countP fun node => !seen.contains node

theorem unseen_lt {graph : Graph} {seen after : List Nat} {node : Nat}
    (inside : node < graph.length) (isNew : node ∉ seen) (added : node ∈ after)
    (kept : ∀ other, other ∈ seen → other ∈ after) : graph.unseen after < graph.unseen seen := by
  apply countP_lt_of_settled (List.mem_range.2 inside)
  · simpa using isNew
  · simpa using added
  · intro other absent
    simp only [Bool.not_eq_true', List.contains_eq_mem, decide_eq_false_iff_not] at absent ⊢
    exact fun found => absent (kept other found)

end Graph

end Provisioning
