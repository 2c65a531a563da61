/-
This file proves that the dependency order lists every node once, targets first, and that it departs
from the given order only for the sake of a dependency.
-/

import Mathlib.Data.List.Basic
import Mathlib.Logic.Relation
import Provisioning.Graph.DependencyOrder

namespace Provisioning.Graph

/-- A node points at its targets. -/
def Edge (graph : Graph) (node target : Nat) : Prop := target ∈ graph.successors node

/-- Every target is a node of the graph. -/
def Closed (graph : Graph) : Prop := ∀ targets ∈ graph, ∀ target ∈ targets, target < graph.length

instance (graph : Graph) : Decidable graph.Closed :=
  inferInstanceAs (Decidable (∀ targets ∈ graph, ∀ target ∈ targets, target < graph.length))

/-- A node depends on what it points at, directly or through other nodes. -/
abbrev DependsOn (graph : Graph) : Nat → Nat → Prop := Relation.TransGen graph.Edge

/-- A node reaches itself and everything that it depends on. -/
abbrev Reaches (graph : Graph) : Nat → Nat → Prop := Relation.ReflTransGen graph.Edge

/-- One node stands before another in a list. -/
def Precedes (order : List Nat) (first second : Nat) : Prop :=
  ∃ before after, order = before ++ second :: after ∧ first ∈ before

theorem Closed.edge_lt {graph : Graph} (closed : graph.Closed) {node target : Nat}
    (edge : graph.Edge node target) : target < graph.length := by
  unfold Edge successors at edge
  cases found : graph[node]? with
  | none => simp [found] at edge
  | some targets =>
      rw [found, Option.getD_some] at edge
      exact closed targets (List.mem_of_getElem? found) target edge

/-- Each node of a list comes after its targets, except for those that lead back to it, and it
overtakes a smaller node only as a dependency of a node that is not greater. -/
structure Ordered (graph : Graph) (order : List Nat) : Prop where
  targets : ∀ before node after, order = before ++ node :: after →
    ∀ target, graph.Edge node target → target ∈ before ∨ graph.Reaches target node
  overtaking : ∀ before node after, order = before ++ node :: after →
    ∀ other < node, other ∉ before → ∃ first ≤ other, graph.DependsOn first node

theorem ordered_nil (graph : Graph) : Ordered graph [] :=
  ⟨fun before node after empty => by simp at empty, fun before node after empty => by simp at empty⟩

/-- A position in a list with one more element is a position before it or the last one. -/
theorem split_snoc {order before after : List Nat} {last node : Nat}
    (equal : order ++ [last] = before ++ node :: after) :
    (before = order ∧ node = last) ∨ ∃ rest, order = before ++ node :: rest := by
  rcases List.eq_nil_or_concat after with rfl | ⟨rest, final, rfl⟩
  · obtain ⟨same, lasts⟩ := List.append_inj' equal rfl
    exact Or.inl ⟨same.symm, (List.cons.inj lasts).1.symm⟩
  · rw [List.concat_eq_append, ← List.cons_append, ← List.append_assoc] at equal
    exact Or.inr ⟨rest, (List.append_inj' equal rfl).1⟩

/-- A list stays ordered when a node is added whose targets are listed or lead back to it. -/
theorem Ordered.snoc {graph : Graph} {order : List Nat} {node : Nat} (ordered : Ordered graph order)
    (targets : ∀ target, graph.Edge node target → target ∈ order ∨ graph.Reaches target node)
    (overtaking : ∀ other < node, other ∉ order → ∃ first ≤ other, graph.DependsOn first node) :
    Ordered graph (order ++ [node]) := by
  constructor
  · intro before next after equal
    rcases split_snoc equal with ⟨rfl, rfl⟩ | ⟨rest, earlier⟩
    · exact targets
    · exact ordered.targets before next rest earlier
  · intro before next after equal
    rcases split_snoc equal with ⟨rfl, rfl⟩ | ⟨rest, earlier⟩
    · exact overtaking
    · exact ordered.overtaking before next rest earlier

/-- What holds while nodes are being ordered: the stack is a path from the current root, and every
node on it has started the targets that it no longer waits for. -/
structure Underway (graph : Graph) (started done roots : List Nat) (stack : List Pending) :
    Prop where
  nodup : (done ++ stack.map Pending.node).Nodup
  started_iff : ∀ node, node ∈ started ↔ node ∈ done ++ stack.map Pending.node
  inside : ∀ node ∈ started, node < graph.length
  covered : ∀ node < graph.length, node ∈ started ∨ node ∈ roots
  sorted : roots.Pairwise (· < ·)
  path : (stack.map Pending.node).Pairwise fun inner outer => graph.Reaches outer inner
  rooted : ∀ node ∈ stack.map Pending.node,
    ∃ root, graph.Reaches root node ∧ ∀ earlier < root, earlier ∈ done
  listed : ∀ pending ∈ stack, ∀ target ∈ pending.rest, graph.Edge pending.node target
  followed : ∀ pending ∈ stack, ∀ target, graph.Edge pending.node target →
    target ∈ pending.rest ∨ target ∈ started
  ordered : Ordered graph done

theorem underway_initial (graph : Graph) :
    Underway graph [] [] (List.range graph.length) [] where
  nodup := List.nodup_nil
  started_iff := by simp
  inside := by simp
  covered := fun node isNode => Or.inr (List.mem_range.2 isNode)
  sorted := List.pairwise_lt_range
  path := List.Pairwise.nil
  rooted := by simp
  listed := by simp
  followed := by simp
  ordered := ordered_nil graph

/-- A new root has all smaller nodes behind it. -/
theorem Underway.start {graph : Graph} {started done roots : List Nat} {root : Nat}
    (underway : Underway graph started done (root :: roots) [])
    (isNew : root < graph.length ∧ root ∉ started) :
    Underway graph (root :: started) done roots [⟨root, graph.successors root⟩] where
  nodup := by
    have absent : root ∉ done := fun isDone =>
      isNew.2 ((underway.started_iff root).2 (by simp [isDone]))
    have nodup := underway.nodup
    rw [List.map_nil, List.append_nil] at nodup
    simpa [List.nodup_append] using ⟨nodup, fun node isDone same => absent (same ▸ isDone)⟩
  started_iff := by
    intro node
    have known := underway.started_iff node
    rw [List.map_nil, List.append_nil] at known
    simp [known, or_comm]
  inside := by
    intro node isStarted
    rcases List.mem_cons.1 isStarted with rfl | wasStarted
    · exact isNew.1
    · exact underway.inside node wasStarted
  covered := by
    intro node isNode
    rcases underway.covered node isNode with isStarted | isRoot
    · exact Or.inl (List.mem_cons_of_mem _ isStarted)
    · rcases List.mem_cons.1 isRoot with rfl | isLater
      · exact Or.inl List.mem_cons_self
      · exact Or.inr isLater
  sorted := (List.pairwise_cons.1 underway.sorted).2
  path := List.pairwise_singleton _ root
  rooted := by
    intro node isPending
    rw [List.map_singleton, List.mem_singleton] at isPending
    refine ⟨root, isPending ▸ Relation.ReflTransGen.refl, fun earlier before => ?_⟩
    -- A smaller node is not among the roots any more, so it has been started.
    have isStarted : earlier ∈ started := by
      rcases underway.covered earlier (Nat.lt_trans before isNew.1) with isStarted | isRoot
      · exact isStarted
      · rcases List.mem_cons.1 isRoot with rfl | isLater
        · exact absurd before (Nat.lt_irrefl _)
        · have later := (List.pairwise_cons.1 underway.sorted).1 earlier isLater
          omega
    simpa using (underway.started_iff earlier).1 isStarted
  listed := by
    intro pending isPending target isTarget
    rw [List.mem_singleton.1 isPending] at isTarget ⊢
    exact isTarget
  followed := by
    intro pending isPending target edge
    rw [List.mem_singleton.1 isPending] at edge ⊢
    exact Or.inl edge
  ordered := underway.ordered

/-- A root that has been started already is passed over. -/
theorem Underway.skip {graph : Graph} {started done roots : List Nat} {root : Nat}
    (underway : Underway graph started done (root :: roots) [])
    (isOld : ¬(root < graph.length ∧ root ∉ started)) : Underway graph started done roots [] where
  nodup := underway.nodup
  started_iff := underway.started_iff
  inside := underway.inside
  covered := by
    intro node isNode
    rcases underway.covered node isNode with isStarted | isRoot
    · exact Or.inl isStarted
    · rcases List.mem_cons.1 isRoot with rfl | isLater
      · exact Or.inl (by_contra fun isNew => isOld ⟨isNode, isNew⟩)
      · exact Or.inr isLater
  sorted := (List.pairwise_cons.1 underway.sorted).2
  path := underway.path
  rooted := underway.rooted
  listed := underway.listed
  followed := underway.followed
  ordered := underway.ordered

/-- A node is done once every target is done or waits for it. -/
theorem Underway.finish {graph : Graph} {started done roots : List Nat} {node : Nat}
    {stack : List Pending} (underway : Underway graph started done roots (⟨node, []⟩ :: stack)) :
    Underway graph started (done ++ [node]) roots stack where
  nodup := by simpa using underway.nodup
  started_iff := by simpa using underway.started_iff
  inside := underway.inside
  covered := underway.covered
  sorted := underway.sorted
  path := (List.pairwise_cons.1 underway.path).2
  rooted := by
    intro other isPending
    obtain ⟨root, reaches, allDone⟩ := underway.rooted other (List.mem_cons_of_mem _ isPending)
    exact ⟨root, reaches, fun earlier before => List.mem_append_left _ (allDone earlier before)⟩
  listed := fun pending isPending => underway.listed pending (List.mem_cons_of_mem _ isPending)
  followed := fun pending isPending => underway.followed pending (List.mem_cons_of_mem _ isPending)
  ordered := by
    apply underway.ordered.snoc
    · intro target edge
      rcases underway.followed ⟨node, []⟩ List.mem_cons_self target edge with left | isStarted
      · exact absurd left List.not_mem_nil
      · -- A target that still waits lies below on the stack, from where the node is reached.
        rcases List.mem_append.1 ((underway.started_iff target).1 isStarted) with isDone | waits
        · exact Or.inl isDone
        · rcases List.mem_cons.1 waits with rfl | below
          · exact Or.inr Relation.ReflTransGen.refl
          · exact Or.inr ((List.pairwise_cons.1 underway.path).1 target below)
    · intro other smaller notDone
      obtain ⟨root, reaches, allDone⟩ := underway.rooted node List.mem_cons_self
      -- All nodes before the root are done.
      have least : root ≤ other := by
        by_contra greater
        exact notDone (allDone other (by omega))
      refine ⟨root, least, ?_⟩
      rcases Relation.reflTransGen_iff_eq_or_transGen.1 reaches with same | depends
      · omega
      · exact depends

/-- A new target is put on top of the node that points at it. -/
theorem Underway.descend {graph : Graph} {started done roots rest : List Nat} {node target : Nat}
    {stack : List Pending}
    (underway : Underway graph started done roots (⟨node, target :: rest⟩ :: stack))
    (isNew : target < graph.length ∧ target ∉ started) :
    Underway graph (target :: started) done roots
      (⟨target, graph.successors target⟩ :: ⟨node, rest⟩ :: stack) where
  nodup := by
    have absent : target ∉ done ++ node :: stack.map Pending.node := fun isKnown =>
      isNew.2 ((underway.started_iff target).2 isKnown)
    have nodup : (target :: (done ++ node :: stack.map Pending.node)).Nodup :=
      List.nodup_cons.2 ⟨absent, underway.nodup⟩
    exact (List.perm_middle.nodup_iff).2 nodup
  started_iff := by
    intro other
    have known := underway.started_iff other
    simp only [List.map_cons, List.mem_append, List.mem_cons] at known ⊢
    rw [known]
    exact or_left_comm
  inside := by
    intro other isStarted
    rcases List.mem_cons.1 isStarted with rfl | wasStarted
    · exact isNew.1
    · exact underway.inside other wasStarted
  covered := by
    intro other isNode
    rcases underway.covered other isNode with isStarted | isRoot
    · exact Or.inl (List.mem_cons_of_mem _ isStarted)
    · exact Or.inr isRoot
  sorted := underway.sorted
  path := by
    have edge : graph.Edge node target :=
      underway.listed ⟨node, target :: rest⟩ List.mem_cons_self target List.mem_cons_self
    refine List.pairwise_cons.2 ⟨fun other below => ?_, underway.path⟩
    rcases List.mem_cons.1 below with rfl | deeper
    · exact Relation.ReflTransGen.single edge
    · exact ((List.pairwise_cons.1 underway.path).1 other deeper).tail edge
  rooted := by
    intro other isPending
    rcases List.mem_cons.1 isPending with rfl | below
    · obtain ⟨root, reaches, allDone⟩ := underway.rooted node List.mem_cons_self
      exact ⟨root, reaches.tail (underway.listed _ List.mem_cons_self _ List.mem_cons_self), allDone⟩
    · exact underway.rooted other below
  listed := by
    intro pending isPending other isTarget
    rcases List.mem_cons.1 isPending with rfl | below
    · exact isTarget
    · rcases List.mem_cons.1 below with rfl | deeper
      · exact underway.listed ⟨node, target :: rest⟩ List.mem_cons_self other
          (List.mem_cons_of_mem _ isTarget)
      · exact underway.listed pending (List.mem_cons_of_mem _ deeper) other isTarget
  followed := by
    intro pending isPending other edge
    rcases List.mem_cons.1 isPending with rfl | below
    · exact Or.inl edge
    · rcases List.mem_cons.1 below with rfl | deeper
      · rcases underway.followed ⟨node, target :: rest⟩ List.mem_cons_self other edge with left | isStarted
        · rcases List.mem_cons.1 left with rfl | later
          · exact Or.inr List.mem_cons_self
          · exact Or.inl later
        · exact Or.inr (List.mem_cons_of_mem _ isStarted)
      · rcases underway.followed pending (List.mem_cons_of_mem _ deeper) other edge with left | isStarted
        · exact Or.inl left
        · exact Or.inr (List.mem_cons_of_mem _ isStarted)
  ordered := underway.ordered

/-- A target that has been started already is passed over. -/
theorem Underway.pass {graph : Graph} (closed : graph.Closed) {started done roots rest : List Nat}
    {node target : Nat} {stack : List Pending}
    (underway : Underway graph started done roots (⟨node, target :: rest⟩ :: stack))
    (isOld : ¬(target < graph.length ∧ target ∉ started)) :
    Underway graph started done roots (⟨node, rest⟩ :: stack) where
  nodup := underway.nodup
  started_iff := underway.started_iff
  inside := underway.inside
  covered := underway.covered
  sorted := underway.sorted
  path := underway.path
  rooted := underway.rooted
  listed := by
    intro pending isPending other isTarget
    rcases List.mem_cons.1 isPending with rfl | below
    · exact underway.listed ⟨node, target :: rest⟩ List.mem_cons_self other
        (List.mem_cons_of_mem _ isTarget)
    · exact underway.listed pending (List.mem_cons_of_mem _ below) other isTarget
  followed := by
    intro pending isPending other edge
    rcases List.mem_cons.1 isPending with rfl | below
    · rcases underway.followed ⟨node, target :: rest⟩ List.mem_cons_self other edge with left | isStarted
      · rcases List.mem_cons.1 left with rfl | later
        · exact Or.inr (by_contra fun isNew => isOld ⟨closed.edge_lt edge, isNew⟩)
        · exact Or.inl later
      · exact Or.inr isStarted
    · exact underway.followed pending (List.mem_cons_of_mem _ below) other edge
  ordered := underway.ordered

/-- Every step keeps what holds underway, and in the end all nodes are done. -/
theorem orderFrom_ordered {graph : Graph} (closed : graph.Closed) (started done roots : List Nat)
    (stack : List Pending) (underway : Underway graph started done roots stack) :
    (orderFrom graph started done roots stack).Perm (List.range graph.length) ∧
      Ordered graph (orderFrom graph started done roots stack) := by
  fun_induction orderFrom graph started done roots stack with
  | case1 started done =>
      refine ⟨(List.perm_ext_iff_of_nodup ?_ List.nodup_range).2 fun node => ?_, underway.ordered⟩
      · simpa using underway.nodup
      · have known := underway.started_iff node
        rw [List.map_nil, List.append_nil] at known
        rw [List.mem_range, ← known]
        constructor
        · exact underway.inside node
        · intro isNode
          exact (underway.covered node isNode).resolve_right List.not_mem_nil
  | case2 started done root roots isNew inductionHypothesis =>
      exact inductionHypothesis (underway.start isNew)
  | case3 started done root roots isOld inductionHypothesis =>
      exact inductionHypothesis (underway.skip isOld)
  | case4 started done roots node stack inductionHypothesis =>
      exact inductionHypothesis underway.finish
  | case5 started done roots node target rest stack isNew inductionHypothesis =>
      exact inductionHypothesis (underway.descend isNew)
  | case6 started done roots node target rest stack isOld inductionHypothesis =>
      exact inductionHypothesis (underway.pass closed isOld)

theorem dependencyOrder_ordered {graph : Graph} (closed : graph.Closed) :
    graph.dependencyOrder.Perm (List.range graph.length) ∧ Ordered graph graph.dependencyOrder :=
  orderFrom_ordered closed [] [] _ [] (underway_initial graph)

/-- What an order of the nodes of a graph owes to its edges and to the given order. -/
structure StableOrder (graph : Graph) (order : List Nat) : Prop where
  /-- Every node is listed once. -/
  perm : order.Perm (List.range graph.length)
  /-- A target comes first unless it leads back to the node that points at it. -/
  targetsFirst : ∀ node target, graph.Edge node target → ¬graph.Reaches target node →
    Precedes order target node
  /-- A node is overtaken only by what it or a smaller node depends on. -/
  overtaken : ∀ node other, node < other → Precedes order other node →
    ∃ first ≤ node, graph.DependsOn first other
  /-- Nodes that come after their targets already stay where they are. -/
  unchanged : (∀ node target, graph.Edge node target → target ≤ node) →
    order = List.range graph.length

/-- Where edges lead downwards, so do dependencies. -/
theorem DependsOn.le {graph : Graph}
    (downwards : ∀ node target, graph.Edge node target → target ≤ node) {node target : Nat}
    (depends : graph.DependsOn node target) : target ≤ node := by
  induction depends with
  | single edge => exact downwards _ _ edge
  | tail _ edge inductionHypothesis => exact Nat.le_trans (downwards _ _ edge) inductionHypothesis

theorem stableOrder_of_ordered {graph : Graph} {order : List Nat}
    (perm : order.Perm (List.range graph.length)) (ordered : Ordered graph order) :
    StableOrder graph order := by
  have nodup : order.Nodup := perm.nodup_iff.2 List.nodup_range
  have overtaken : ∀ node other, node < other → Precedes order other node →
      ∃ first ≤ node, graph.DependsOn first other := by
    rintro node other smaller ⟨before, after, rfl, precedes⟩
    obtain ⟨early, late, rfl⟩ := List.append_of_mem precedes
    refine ordered.overtaking early other (late ++ node :: after) (by simp) node smaller ?_
    intro isEarly
    exact (List.nodup_append.1 nodup).2.2 node (List.mem_append_left _ isEarly) node
      List.mem_cons_self rfl
  refine ⟨perm, ?_, overtaken, ?_⟩
  · intro node target edge apart
    have listed : node ∈ order := by
      rw [perm.mem_iff, List.mem_range]
      by_contra outside
      simp [Edge, successors, List.getElem?_eq_none (Nat.le_of_not_lt outside)] at edge
    obtain ⟨before, after, split⟩ := List.append_of_mem listed
    exact ⟨before, after, split,
      (ordered.targets before node after split target edge).resolve_right apart⟩
  · intro downwards
    have sorted : order.Pairwise (· ≤ ·) := by
      rw [List.pairwise_iff_getElem]
      intro low high _ inside before
      by_contra greater
      have split : order = order.take high ++ order[high] :: order.drop (high + 1) := by
        rw [← List.drop_eq_getElem_cons inside, List.take_append_drop]
      obtain ⟨first, least, depends⟩ := overtaken order[high] order[low] (Nat.lt_of_not_le greater)
        ⟨_, _, split, List.mem_take_iff_getElem.2 ⟨low, by omega, rfl⟩⟩
      have below := DependsOn.le downwards depends
      omega
    exact perm.eq_of_pairwise (fun _ _ _ _ => Nat.le_antisymm) sorted List.pairwise_le_range

theorem stableOrder_dependencyOrder {graph : Graph} (closed : graph.Closed) :
    StableOrder graph graph.dependencyOrder := by
  obtain ⟨perm, ordered⟩ := dependencyOrder_ordered closed
  exact stableOrder_of_ordered perm ordered

-- A cycle is entered at the first of its nodes, which then comes last.
example : dependencyOrder [[1], [0], [1]] = [1, 0, 2] := by cbv

theorem Precedes.idxOf_lt {order : List Nat} {first second : Nat} (nodup : order.Nodup)
    (precedes : Precedes order first second) : order.idxOf first < order.idxOf second := by
  obtain ⟨before, after, rfl, isBefore⟩ := precedes
  have absent : second ∉ before := fun alsoBefore =>
    (List.nodup_append.1 nodup).2.2 second alsoBefore second List.mem_cons_self rfl
  rw [List.idxOf_append_of_mem isBefore, List.idxOf_append_of_notMem absent,
    List.idxOf_cons_self, Nat.add_zero]
  exact List.idxOf_lt_length_of_mem isBefore

/-- Nothing depends on itself where every target comes first. -/
theorem acyclic_of_precedes {graph : Graph} {order : List Nat} (nodup : order.Nodup)
    (targetsFirst : ∀ node target, graph.Edge node target → Precedes order target node)
    (node : Nat) : ¬graph.DependsOn node node := by
  have earlier : ∀ target, graph.DependsOn node target → order.idxOf target < order.idxOf node := by
    intro target depends
    induction depends with
    | single edge => exact (targetsFirst _ _ edge).idxOf_lt nodup
    | tail _ edge inductionHypothesis =>
        exact Nat.lt_trans ((targetsFirst _ _ edge).idxOf_lt nodup) inductionHypothesis
  exact fun depends => Nat.lt_irrefl _ (earlier node depends)

end Provisioning.Graph
