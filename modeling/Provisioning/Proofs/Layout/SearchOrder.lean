/-
This file proves that names are looked up in the order in which the walk places the feature-packs.
-/

import Provisioning.Proofs.Graph.SearchOrder
import Provisioning.Proofs.Layout.Chain

namespace Provisioning.Layout

/-- The indices of the placements that dependencies lead to. -/
def targets (placed : List Placement) (dependencies : List PackDependency) : List Nat :=
  dependencies.filterMap fun dependency => indexIn? placed dependency.gav

section

variable {sources : Sources} {walked final : Walked} {path : List Visit} {placed : List Placement}
  {next placement : Placement} {index : Nat} {gav : Gav} {known : Placement × Nat}

/-- An artifact that was not placed before is located where it is placed. -/
theorem locate?_push (absent : locate? placed gav = none)
    (same : next.gav.sameArtifact gav = true) :
    locate? (placed ++ [next]) gav = some (next, placed.length) := by
  unfold locate? at absent ⊢
  rw [List.zipIdx_append, List.find?_append, absent, Option.none_or]
  simp [same]

/-- What is located stays at its index. -/
theorem indexIn?_of_prefix {before : List Placement} (isPrefix : before <+: placed)
    (located : locate? before gav = some known) : indexIn? placed gav = some known.2 := by
  obtain ⟨more, rfl⟩ := isPrefix
  rw [indexIn?, locate?_append located more]
  rfl

/-- The successors of an entry are the targets of its dependencies. -/
theorem successors_link (isPlaced : placed[index]? = some placement) :
    (graphOf (placed.map (link placed))).successors index =
      targets placed placement.pack.dependencies := by
  simp [Graph.successors, graphOf, isPlaced, link, targets, List.map_filterMap, Function.comp_def]

/-- What has been placed before is passed over. -/
theorem preorder_of_located {graph : Graph} {before : List Placement} {rest order : List Nat}
    (located : locate? before gav = some known)
    (behind : graph.Preorder (List.range before.length) rest order) :
    graph.Preorder (List.range before.length) (known.2 :: rest) order := by
  have isListed := (List.getElem?_eq_some_iff.1 (getElem?_of_locate? located).1).1
  exact .skip (List.mem_range.2 isListed) behind

/-- A placement is listed when it is made and followed by whatever is found through it. -/
theorem preorder_of_push {before : List Placement} {below rest order : List Nat}
    (pushed : before ++ [next] <+: placed)
    (found : Graph.Preorder (graphOf (placed.map (link placed)))
      (List.range (before ++ [next]).length) (targets placed next.pack.dependencies) below)
    (behind : Graph.Preorder (graphOf (placed.map (link placed))) below rest order) :
    Graph.Preorder (graphOf (placed.map (link placed))) (List.range before.length)
      (before.length :: rest) order := by
  have isPlaced : placed[before.length]? = some next := by
    simpa using List.prefix_iff_getElem?.1 pushed before.length (by simp)
  rw [List.length_append, List.length_singleton, List.range_succ,
    ← successors_link isPlaced] at found
  exact .visit (by simp) found behind

/-- A walk goes through the dependencies that its path still has to follow as a recursive search goes
through their targets. -/
theorem preorder_of_walk (isFinal : walk sources walked path = .ok final)
    (isPrefix : final.placed <+: placed) :
    Graph.Preorder (graphOf (placed.map (link placed))) (List.range walked.placed.length)
      (targets placed (path.flatMap Visit.remaining)) (List.range final.placed.length) := by
  fun_induction walk sources walked path with
  | case1 walked =>
      cases isFinal
      exact .done
  | case2 walked index _ outer inductionHypothesis => exact inductionHypothesis isFinal
  | case3 walked index placement dependency rest outer known located problem isProblem =>
      rw [isProblem] at isFinal
      cases isFinal
  | case4 walked index placement dependency rest outer known located noProblem
      inductionHypothesis =>
      rw [noProblem] at isFinal
      have isTarget := indexIn?_of_prefix ((placed_prefix_of_walk isFinal).trans isPrefix) located
      simp only [targets, List.flatMap_cons, List.cons_append, List.filterMap_cons, isTarget]
      exact preorder_of_located located (inductionHypothesis isFinal)
  | case5 => cases isFinal
  | case6 walked index placement dependency rest outer absent next found inductionHypothesis =>
      have pushed : walked.placed ++ [next] <+: placed :=
        (placed_prefix_of_walk isFinal).trans isPrefix
      have located := locate?_push absent (Sources.placementFor?_eq_some found).2
      have isTarget := indexIn?_of_prefix pushed located
      -- What the walk does from here splits into the new visit and the path below it.
      have whole := inductionHypothesis isFinal
      rw [List.flatMap_cons, targets, List.filterMap_append, Graph.preorder_append_iff] at whole
      obtain ⟨below, through, behind⟩ := whole
      simp only [targets, List.flatMap_cons, List.cons_append, List.filterMap_cons, isTarget]
      exact preorder_of_push pushed through behind

/-- A walk keeps what is placed. -/
theorem placed_prefix_of_walkRoots {roots : List Root}
    (isFinal : walkRoots sources walked roots = .ok final) : walked.placed <+: final.placed := by
  induction roots generalizing walked with
  | nil =>
      cases isFinal
      exact List.prefix_refl _
  | cons root rest inductionHypothesis =>
      rw [walkRoots] at isFinal
      split at isFinal
      · exact inductionHypothesis isFinal
      · obtain ⟨next, isNext, isRest⟩ := bind_eq_ok_iff.1 isFinal
        have pushed := placed_prefix_of_walk isNext
        exact (List.prefix_append _ _).trans (pushed.trans (inductionHypothesis isRest))

/-- The walk from the requested feature-packs is the recursive search from them. -/
theorem preorder_of_walkRoots {roots : List Root}
    (isFinal : walkRoots sources walked roots = .ok final) (isPrefix : final.placed <+: placed) :
    Graph.Preorder (graphOf (placed.map (link placed))) (List.range walked.placed.length)
      (roots.filterMap fun root => indexIn? placed root.pack.gav)
      (List.range final.placed.length) := by
  induction roots generalizing walked with
  | nil =>
      cases isFinal
      exact .done
  | cons root rest inductionHypothesis =>
      rw [walkRoots] at isFinal
      split at isFinal
      · next known located =>
        have isRoot := indexIn?_of_prefix ((placed_prefix_of_walkRoots isFinal).trans isPrefix)
          located
        simp only [List.filterMap_cons, isRoot]
        exact preorder_of_located located (inductionHypothesis isFinal)
      · next absent =>
        obtain ⟨next, isNext, isRest⟩ := bind_eq_ok_iff.1 isFinal
        have nextPrefix := (placed_prefix_of_walkRoots isRest).trans isPrefix
        have pushed := (placed_prefix_of_walk isNext).trans nextPrefix
        have isRoot := indexIn?_of_prefix pushed (locate?_push absent (Gav.sameArtifact_self _))
        have through := preorder_of_walk isNext nextPrefix
        simp only [List.flatMap_cons, List.flatMap_nil, List.append_nil] at through
        simp only [List.filterMap_cons, isRoot]
        exact preorder_of_push pushed through (inductionHypothesis isRest)

/-- All versions of an artifact have one index. -/
theorem indexIn?_of_sameArtifact {other : Gav} (same : gav.sameArtifact other = true) :
    indexIn? placed gav = indexIn? placed other := by
  simp only [Gav.sameArtifact, Bool.and_eq_true, beq_iff_eq] at same
  simp only [indexIn?, locate?, Gav.sameArtifact, same.1, same.2]

end

theorem length_graphOf (entries : List LayoutEntry) : (graphOf entries).length = entries.length :=
  List.length_map _

section

variable {repository : Repository} {request : Request} {layout : Layout} {nodes order : List Nat}
  (built : build repository request = .ok layout)
include built

/-- The recursive search from the requested feature-packs goes through the entries as they stand. -/
theorem preorder_of_build :
    Graph.Preorder (graphOf layout.entries) [] layout.requested
      (List.range layout.entries.length) := by
  simp only [build, bind_eq_ok_iff, pure_eq_ok_iff] at built
  obtain ⟨requested, isRequested, walked, isWalked, rfl⟩ := built
  have sound := sound_of_roots isRequested
  have sameRoots : (ofWalked request walked).requested =
      requested.filterMap fun root => indexIn? walked.placed root.pack.gav := by
    rw [ofWalked, ← (roots_eq_ok isRequested).1, List.filterMap_map]
    apply List.filterMap_congr
    intro root isRoot
    exact (indexIn?_of_sameArtifact (sound.sameArtifact isRoot)).symm
  rw [sameRoots, entries_ofWalked, List.length_map]
  exact preorder_of_walkRoots isWalked (List.prefix_refl _)

/-- The dependencies of a layout stay inside it. -/
theorem closed_of_build : (graphOf layout.entries).Closed := by
  have contract := contract_of_build built
  intro targets isTargets target isTarget
  obtain ⟨entry, isEntry, rfl⟩ := List.mem_map.1 isTargets
  obtain ⟨link, isLink, rfl⟩ := List.mem_map.1 isTarget
  obtain ⟨known, isKnown, _⟩ := contract.dependenciesPlaced entry isEntry link isLink
  rw [length_graphOf]
  exact (List.getElem?_eq_some_iff.1 isKnown).1

/-- The search order is the preorder of the dependencies. -/
theorem searchOrder_eq_iff_of_build (inside : ∀ node ∈ nodes, node < layout.entries.length) :
    (graphOf layout.entries).searchOrder nodes = order ↔
      (graphOf layout.entries).Preorder [] nodes order := by
  rw [← length_graphOf] at inside
  exact Graph.searchOrder_eq_iff (closed_of_build built) inside

end

end Provisioning.Layout
