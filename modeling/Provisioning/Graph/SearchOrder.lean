/-
This file lists the nodes that are reachable from given roots in the order of a depth-first search.
-/

import Provisioning.Graph.Basic

namespace Provisioning.Graph

/-- The search takes the next node from the top of its stack and skips the nodes it has seen. -/
def searchFrom (graph : Graph) (seen : List Nat) : List Nat → List Nat
  | [] => seen
  | node :: stack =>
      if _isNew : node < graph.length ∧ node ∉ seen then
        searchFrom graph (seen ++ [node]) (graph.successors node ++ stack)
      else
        searchFrom graph seen stack
termination_by stack => (graph.unseen seen, stack.length)
decreasing_by
  · apply Prod.Lex.left
    exact unseen_lt _isNew.1 _isNew.2 (by simp) (fun _ found => by simp [found])
  · apply Prod.Lex.right
    simp

/-- Each reachable node comes once, before the nodes that are found through it. -/
def searchOrder (graph : Graph) (roots : List Nat) : List Nat := searchFrom graph [] roots

end Provisioning.Graph
