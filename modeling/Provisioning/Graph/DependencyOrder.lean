/-
This file orders the nodes of a graph so that targets come before the nodes that point at them.
-/

import Provisioning.Graph.Basic

namespace Provisioning.Graph

/-- A node on the stack waits for the rest of its targets. -/
structure Pending where
  node : Nat
  rest : List Nat

/-- The work that is left on the stack, pops included. -/
def work : List Pending → Nat
  | [] => 0
  | pending :: stack => pending.rest.length + 1 + work stack

/-- A node is done when all its targets have been started; roots are started in their order. -/
def orderFrom (graph : Graph) (started done : List Nat) (roots : List Nat) (stack : List Pending) :
    List Nat :=
  match stack with
  | [] =>
      match roots with
      | [] => done
      | root :: roots =>
          if _isNew : root < graph.length ∧ root ∉ started then
            orderFrom graph (root :: started) done roots [⟨root, graph.successors root⟩]
          else
            orderFrom graph started done roots []
  | ⟨node, []⟩ :: stack => orderFrom graph started (done ++ [node]) roots stack
  | ⟨node, target :: rest⟩ :: stack =>
      if _isNew : target < graph.length ∧ target ∉ started then
        orderFrom graph (target :: started) done roots
          (⟨target, graph.successors target⟩ :: ⟨node, rest⟩ :: stack)
      else
        orderFrom graph started done roots (⟨node, rest⟩ :: stack)
termination_by (graph.unseen started, roots.length + work stack)
decreasing_by
  · apply Prod.Lex.left
    exact unseen_lt _isNew.1 _isNew.2 (by simp) (fun _ found => by simp [found])
  · apply Prod.Lex.right
    simp [work]
  · apply Prod.Lex.right
    simp [work]
  · apply Prod.Lex.left
    exact unseen_lt _isNew.1 _isNew.2 (by simp) (fun _ found => by simp [found])
  · apply Prod.Lex.right
    simp [work]

/-- Every node comes once, and a cycle is entered at the node that is reached first. -/
def dependencyOrder (graph : Graph) : List Nat :=
  orderFrom graph [] [] (List.range graph.length) []

end Provisioning.Graph
