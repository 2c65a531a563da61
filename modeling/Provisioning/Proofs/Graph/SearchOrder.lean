/-
This file proves that the search with a stack lists the nodes in the order of a recursive search.
-/

import Mathlib.Data.List.Nodup
import Provisioning.Graph.SearchOrder
import Provisioning.Proofs.Graph.DependencyOrder

namespace Provisioning.Graph

/-- The recursive depth-first search: after what has been listed, each node that is new is listed and
then whatever is found through its targets, before the nodes behind it. -/
inductive Preorder (graph : Graph) : List Nat → List Nat → List Nat → Prop where
  | done {listed : List Nat} : Preorder graph listed [] listed
  | skip {listed rest order : List Nat} {node : Nat} (isListed : node ∈ listed)
      (behind : Preorder graph listed rest order) : Preorder graph listed (node :: rest) order
  | visit {listed below rest order : List Nat} {node : Nat} (isNew : node ∉ listed)
      (found : Preorder graph (listed ++ [node]) (graph.successors node) below)
      (behind : Preorder graph below rest order) : Preorder graph listed (node :: rest) order

variable {graph : Graph} {listed nodes rest between order other roots : List Nat} {node : Nat}

theorem preorder_append_iff :
    Preorder graph listed (nodes ++ rest) order ↔
      ∃ between, Preorder graph listed nodes between ∧ Preorder graph between rest order := by
  induction nodes generalizing listed with
  | nil =>
      constructor
      · exact fun behind => ⟨listed, .done, behind⟩
      · rintro ⟨_, nothing, behind⟩
        cases nothing
        exact behind
  | cons node others inductionHypothesis =>
      constructor
      · intro whole
        cases whole with
        | skip isListed behind =>
            obtain ⟨between, front, back⟩ := inductionHypothesis.1 behind
            exact ⟨between, .skip isListed front, back⟩
        | visit isNew found behind =>
            obtain ⟨between, front, back⟩ := inductionHypothesis.1 behind
            exact ⟨between, .visit isNew found front, back⟩
      · rintro ⟨between, front, back⟩
        cases front with
        | skip isListed behind =>
            exact .skip isListed (inductionHypothesis.2 ⟨between, behind, back⟩)
        | visit isNew found behind =>
            exact .visit isNew found (inductionHypothesis.2 ⟨between, behind, back⟩)

/-- The recursive search leaves nothing open. -/
theorem Preorder.unique (preorder : Preorder graph listed nodes order)
    (also : Preorder graph listed nodes other) : order = other := by
  induction preorder generalizing other with
  | done =>
      cases also
      rfl
  | skip isListed _ inductionHypothesis =>
      cases also with
      | skip _ behind => exact inductionHypothesis behind
      | visit isNew => exact absurd isListed isNew
  | visit isNew _ _ foundHypothesis behindHypothesis =>
      cases also with
      | skip isListed => exact absurd isListed isNew
      | visit _ found behind =>
          obtain rfl := foundHypothesis found
          exact behindHypothesis behind

/-- What has been listed stays in front. -/
theorem Preorder.isPrefix (preorder : Preorder graph listed nodes order) : listed <+: order := by
  induction preorder with
  | done => exact List.prefix_refl _
  | skip _ _ inductionHypothesis => exact inductionHypothesis
  | visit _ _ _ foundHypothesis behindHypothesis =>
      exact (List.prefix_append _ _).trans (foundHypothesis.trans behindHypothesis)

/-- The first of the given nodes is the first that is listed. -/
theorem Preorder.eq_cons (preorder : Preorder graph [] (node :: nodes) order) :
    ∃ others, order = node :: others := by
  cases preorder with
  | skip isListed => exact absurd isListed List.not_mem_nil
  | visit _ found behind =>
      obtain ⟨others, rfl⟩ := found.isPrefix.trans behind.isPrefix
      exact ⟨others, rfl⟩

theorem Preorder.nodup (preorder : Preorder graph listed nodes order) (nodup : listed.Nodup) :
    order.Nodup := by
  induction preorder with
  | done => exact nodup
  | skip _ _ inductionHypothesis => exact inductionHypothesis nodup
  | visit isNew _ _ foundHypothesis behindHypothesis =>
      have withNode := List.Nodup.concat isNew nodup
      rw [List.concat_eq_append] at withNode
      exact behindHypothesis (foundHypothesis withNode)

/-- Nothing is found but through the given nodes. -/
theorem Preorder.reaches (preorder : Preorder graph listed nodes order) (isIn : node ∈ order) :
    node ∈ listed ∨ ∃ root ∈ nodes, graph.Reaches root node := by
  induction preorder with
  | done => exact Or.inl isIn
  | skip _ _ inductionHypothesis =>
      rcases inductionHypothesis isIn with isListed | ⟨root, isRoot, reaches⟩
      · exact Or.inl isListed
      · exact Or.inr ⟨root, List.mem_cons_of_mem _ isRoot, reaches⟩
  | visit _ _ _ foundHypothesis behindHypothesis =>
      rcases behindHypothesis isIn with isBelow | ⟨root, isRoot, reaches⟩
      · rcases foundHypothesis isBelow with isBefore | ⟨target, edge, reaches⟩
        · rcases List.mem_append.1 isBefore with isListed | isNode
          · exact Or.inl isListed
          · exact Or.inr ⟨_, List.mem_cons_self, List.mem_singleton.1 isNode ▸ .refl⟩
        · exact Or.inr ⟨_, List.mem_cons_self, .head edge reaches⟩
      · exact Or.inr ⟨root, List.mem_cons_of_mem _ isRoot, reaches⟩

/-- The given nodes are found and, with every new node, its targets. -/
theorem Preorder.finds (preorder : Preorder graph listed nodes order) :
    (∀ root ∈ nodes, root ∈ order) ∧
      ∀ node ∈ order, node ∈ listed ∨ ∀ target, graph.Edge node target → target ∈ order := by
  induction preorder with
  | done => exact ⟨by simp, fun _ isListed => Or.inl isListed⟩
  | skip isListed behind inductionHypothesis =>
      rw [List.forall_mem_cons]
      exact ⟨⟨behind.isPrefix.subset isListed, inductionHypothesis.1⟩, inductionHypothesis.2⟩
  | @visit listed below rest order node isNew found behind foundHypothesis behindHypothesis =>
      have isBelow : node ∈ below := found.isPrefix.subset (by simp)
      rw [List.forall_mem_cons]
      refine ⟨⟨behind.isPrefix.subset isBelow, behindHypothesis.1⟩, fun other isOther => ?_⟩
      rcases behindHypothesis.2 other isOther with known | targets
      · rcases foundHypothesis.2 other known with before | targets
        · rcases List.mem_append.1 before with isListed | isNode
          · exact Or.inl isListed
          · obtain rfl := List.mem_singleton.1 isNode
            exact Or.inr fun target edge =>
              behind.isPrefix.subset (foundHypothesis.1 target edge)
        · exact Or.inr fun target edge => behind.isPrefix.subset (targets target edge)
      · exact Or.inr targets

theorem Preorder.mem_iff (preorder : Preorder graph [] roots order) :
    node ∈ order ↔ ∃ root ∈ roots, graph.Reaches root node := by
  constructor
  · intro isIn
    exact (preorder.reaches isIn).resolve_left List.not_mem_nil
  · rintro ⟨root, isRoot, reaches⟩
    induction reaches with
    | refl => exact preorder.finds.1 root isRoot
    | tail _ edge inductionHypothesis =>
        exact (preorder.finds.2 _ inductionHypothesis).resolve_left List.not_mem_nil _ edge

/-- The stack holds what the recursive search still has before it. -/
theorem preorder_searchFrom (closed : graph.Closed) (inside : ∀ node ∈ nodes, node < graph.length) :
    Preorder graph listed nodes (searchFrom graph listed nodes) := by
  fun_induction searchFrom graph listed nodes with
  | case1 listed => exact .done
  | case2 listed node stack isNew inductionHypothesis =>
      rw [List.forall_mem_cons] at inside
      have targetsInside : ∀ target ∈ graph.successors node, target < graph.length :=
        fun _ edge => closed.edge_lt edge
      obtain ⟨below, found, behind⟩ := preorder_append_iff.1
        (inductionHypothesis (List.forall_mem_append.2 ⟨targetsInside, inside.2⟩))
      exact .visit isNew.2 found behind
  | case3 listed node stack notNew inductionHypothesis =>
      rw [List.forall_mem_cons] at inside
      have isListed : node ∈ listed := by
        by_contra isNew
        exact notNew ⟨inside.1, isNew⟩
      exact .skip isListed (inductionHypothesis inside.2)

theorem searchOrder_eq_iff (closed : graph.Closed) (inside : ∀ root ∈ roots, root < graph.length) :
    graph.searchOrder roots = order ↔ Preorder graph [] roots order := by
  constructor
  · rintro rfl
    exact preorder_searchFrom closed inside
  · exact (preorder_searchFrom closed inside).unique

end Provisioning.Graph
