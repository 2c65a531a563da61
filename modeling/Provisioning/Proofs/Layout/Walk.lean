/-
This file proves what the walk through the dependencies keeps up at every step.
-/

import Mathlib.Data.List.Chain
import Mathlib.Data.List.Nodup
import Provisioning.Proofs.Graph.DependencyOrder
import Provisioning.Proofs.Layout.Placement

namespace Provisioning.Layout

/-- A feature-pack of the repository depends on some version of an artifact. -/
def DependsOnArtifact (repository : Repository) (dependent target : Gav) : Prop :=
  ∃ pack ∈ repository.packs, pack.gav = dependent ∧
    ∃ dependency ∈ pack.dependencies, dependency.gav.sameArtifact target = true

/-- A path leads from a feature-pack back to itself over different feature-packs, each of which
depends on the artifact of the next. -/
def IsDependencyCycle (repository : Repository) (path : List Gav) : Prop :=
  ∃ first rest, path = first :: rest ++ [first] ∧ (first :: rest).Nodup ∧
    path.IsChain (DependsOnArtifact repository)

/-- What holds between the steps of a walk. The path lists the innermost visit first. -/
structure Walking (sources : Sources) (walked : Walked) (path : List Visit) : Prop where
  distinct : ArtifactsDistinct Placement.gav walked.placed
  justified : ∀ placement ∈ walked.placed, Justified sources placement
  needed : ∀ placement ∈ walked.placed,
    Needed (sources.requested.map fun root => root.config.gav)
      (walked.placed.map Placement.pack) placement.gav
  /-- Every placed feature-pack is on the path or has been left, and never both. -/
  visited : (path.map Visit.index ++ walked.postOrder).Perm (List.range walked.placed.length)
  onPath : ∀ visit ∈ path, walked.placed[visit.index]? = some visit.placement
  declared : ∀ visit ∈ path, ∀ dependency ∈ visit.remaining,
    dependency ∈ visit.placement.pack.dependencies
  /-- Whatever lies further inside was placed later. -/
  descending : (path.map Visit.index).Pairwise fun inner outer => outer < inner
  linked : (path.map Visit.placement).IsChain fun inner outer =>
    ∃ dependency ∈ outer.pack.dependencies, dependency.gav.sameArtifact inner.gav = true
  /-- A dependency that has been followed is settled further inside or in a visit that ended. -/
  followed : ∀ visit ∈ path, ∀ dependency ∈ visit.placement.pack.dependencies,
    dependency ∈ visit.remaining ∨ ∃ target, Settled walked.placed dependency target ∧
      (target ∈ walked.postOrder ∨ (target ∈ path.map Visit.index ∧ visit.index < target))
  /-- A visit ends after the visits of its dependencies. -/
  finished : ∀ before index after, walked.postOrder = before ++ index :: after →
    ∀ placement, walked.placed[index]? = some placement →
      ∀ dependency ∈ placement.pack.dependencies,
        ∃ target, Settled walked.placed dependency target ∧ target ∈ before

theorem walking_initial (sources : Sources) : Walking sources ⟨[], []⟩ [] where
  distinct := List.Pairwise.nil
  justified := by simp
  needed := by simp
  visited := .refl _
  onPath := by simp
  declared := by simp
  descending := List.Pairwise.nil
  linked := .nil
  followed := by simp
  finished := by simp

variable {sources : Sources} {walked : Walked} {path inner outer : List Visit} {index : Nat}
  {placement next : Placement} {dependency : PackDependency} {rest : List PackDependency}

theorem Walking.mem_iff (walking : Walking sources walked path) :
    index ∈ path.map Visit.index ∨ index ∈ walked.postOrder ↔ index < walked.placed.length := by
  rw [← List.mem_append, walking.visited.mem_iff, List.mem_range]

/-- A visit without remaining dependencies ends. -/
theorem Walking.finish (walking : Walking sources walked (⟨index, placement, []⟩ :: outer)) :
    Walking sources { walked with postOrder := walked.postOrder ++ [index] } outer where
  distinct := walking.distinct
  justified := walking.justified
  needed := walking.needed
  visited := by
    refine List.Perm.trans ?_ walking.visited
    rw [← List.append_assoc]
    exact List.perm_append_singleton index _
  onPath := fun visit listed => walking.onPath visit (List.mem_cons_of_mem _ listed)
  declared := fun visit listed => walking.declared visit (List.mem_cons_of_mem _ listed)
  descending := walking.descending.tail
  linked := walking.linked.tail
  followed := by
    intro visit listed dependency declares
    refine (walking.followed visit (List.mem_cons_of_mem _ listed) dependency declares).imp_right ?_
    rintro ⟨target, settled, ended | ⟨isInner, later⟩⟩
    · exact ⟨target, settled, Or.inl (List.mem_append_left _ ended)⟩
    · refine ⟨target, settled, ?_⟩
      rcases List.mem_cons.1 isInner with rfl | isInner
      · exact Or.inl (List.mem_append_right _ List.mem_cons_self)
      · exact Or.inr ⟨isInner, later⟩
  finished := by
    intro before other after equal known isKnown dependency declares
    rcases Graph.split_snoc equal with ⟨rfl, rfl⟩ | ⟨rest, earlier⟩
    · have isTop := walking.onPath _ List.mem_cons_self
      rw [isKnown, Option.some.injEq] at isTop
      subst isTop
      rcases walking.followed _ List.mem_cons_self dependency declares with
        isLeft | ⟨target, settled, ended | ⟨isInner, later⟩⟩
      · exact absurd isLeft List.not_mem_nil
      · exact ⟨target, settled, ended⟩
      · -- Nothing on the path lies further inside than the visit that ends.
        rcases List.mem_cons.1 isInner with rfl | isOuter
        · exact absurd later (Nat.lt_irrefl _)
        · exact absurd later (Nat.lt_asymm ((List.pairwise_cons.1 walking.descending).1 _ isOuter))
    · exact walking.finished before other rest earlier known isKnown dependency declares

/-- A visit moves on from a dependency that is settled. -/
theorem Walking.advance
    (walking : Walking sources walked (inner ++ ⟨index, placement, dependency :: rest⟩ :: outer))
    {target : Nat} (settled : Settled walked.placed dependency target)
    (ended : target ∈ walked.postOrder ∨ (target ∈ inner.map Visit.index ∧ index < target)) :
    Walking sources walked (inner ++ ⟨index, placement, rest⟩ :: outer) where
  distinct := walking.distinct
  justified := walking.justified
  needed := walking.needed
  visited := by simpa using walking.visited
  onPath := by
    have onPath := walking.onPath
    simp only [List.forall_mem_append, List.forall_mem_cons] at onPath ⊢
    exact onPath
  declared := by
    have declared := walking.declared
    simp only [List.forall_mem_append, List.forall_mem_cons] at declared ⊢
    exact ⟨declared.1, declared.2.1.2, declared.2.2⟩
  descending := by simpa using walking.descending
  linked := by simpa using walking.linked
  followed := by
    have followed := walking.followed
    simp only [List.map_append, List.map_cons] at followed ⊢
    simp only [List.forall_mem_append, List.forall_mem_cons] at followed ⊢
    refine ⟨followed.1, fun other declares => ?_, followed.2.2⟩
    rcases followed.2.1 other declares with isLeft | settledBefore
    · rcases List.mem_cons.1 isLeft with rfl | isLeft
      · exact Or.inr ⟨target, settled, ended.imp_right fun further =>
          ⟨List.mem_append_left _ further.1, further.2⟩⟩
      · exact Or.inl isLeft
    · exact Or.inr settledBefore
  finished := walking.finished

/-- A feature-pack of a new artifact is placed and its visit begins. -/
theorem Walking.push (walking : Walking sources walked path)
    (isNew : isOpen walked.placed next.gav = true) (justified : Justified sources next)
    (needed : Needed (sources.requested.map fun root => root.config.gav)
      (walked.placed.map Placement.pack) next.gav)
    (linked : ∀ visit ∈ path.head?, ∃ dependency ∈ visit.placement.pack.dependencies,
      dependency.gav.sameArtifact next.gav = true) :
    Walking sources { walked with placed := walked.placed ++ [next] }
      (⟨walked.placed.length, next, next.pack.dependencies⟩ :: path) where
  distinct := by
    rw [ArtifactsDistinct, List.pairwise_append]
    refine ⟨walking.distinct, List.pairwise_singleton _ _, fun known isKnown other isOther => ?_⟩
    rw [List.mem_singleton.1 isOther]
    simpa using List.all_eq_true.1 isNew known isKnown
  justified := by
    rw [List.forall_mem_append]
    exact ⟨walking.justified, by simpa using justified⟩
  needed := by
    have kept : ∀ pack ∈ walked.placed.map Placement.pack,
        pack ∈ (walked.placed ++ [next]).map Placement.pack := by
      intro pack isKnown
      rw [List.map_append]
      exact List.mem_append_left _ isKnown
    rw [List.forall_mem_append]
    refine ⟨fun known isKnown => (walking.needed known isKnown).mono kept, ?_⟩
    simpa using needed.mono kept
  visited := by
    rw [List.length_append, List.length_singleton, List.range_succ]
    exact (walking.visited.cons _).trans (List.perm_append_singleton _ _).symm
  onPath := by
    rw [List.forall_mem_cons]
    refine ⟨by simp, fun visit listed => ?_⟩
    have isPlaced := walking.onPath visit listed
    rwa [List.getElem?_append_left (List.getElem?_eq_some_iff.1 isPlaced).1]
  declared := by
    rw [List.forall_mem_cons]
    exact ⟨fun _ isLeft => isLeft, walking.declared⟩
  descending := by
    rw [List.map_cons, List.pairwise_cons]
    exact ⟨fun index listed => walking.mem_iff.1 (Or.inl listed), walking.descending⟩
  linked := by
    rw [List.map_cons, List.isChain_cons]
    refine ⟨fun outer isOuter => ?_, walking.linked⟩
    rw [List.head?_map] at isOuter
    obtain ⟨visit, isHead, rfl⟩ := Option.map_eq_some_iff.1 isOuter
    exact linked visit isHead
  followed := by
    rw [List.forall_mem_cons]
    refine ⟨fun dependency declares => Or.inl declares, fun visit listed dependency declares => ?_⟩
    refine (walking.followed visit listed dependency declares).imp_right ?_
    rintro ⟨target, settled, ended⟩
    exact ⟨target, settled.append _,
      ended.imp_right fun further => ⟨List.mem_cons_of_mem _ further.1, further.2⟩⟩
  finished := by
    intro before index after equal known isKnown dependency declares
    -- Only earlier placements have ended, and they keep their index.
    have isEnded : index ∈ walked.postOrder := by
      rw [show walked.postOrder = _ from equal]
      exact List.mem_append_right _ List.mem_cons_self
    rw [List.getElem?_append_left (walking.mem_iff.1 (Or.inr isEnded))] at isKnown
    obtain ⟨target, settled, ended⟩ :=
      walking.finished before index after equal known isKnown dependency declares
    exact ⟨target, settled.append _, ended⟩

/-- A dependency on an artifact that is not placed yet is followed into its feature-pack. -/
theorem Walking.descend (sound : sources.Sound)
    (walking : Walking sources walked (⟨index, placement, dependency :: rest⟩ :: outer))
    (absent : locate? walked.placed dependency.gav = none)
    (found : sources.placementFor? ⟨index, placement, rest⟩ dependency = some next) :
    Walking sources { walked with placed := walked.placed ++ [next] }
      (⟨walked.placed.length, next, next.pack.dependencies⟩ ::
        ⟨index, placement, rest⟩ :: outer) := by
  have same := (Sources.placementFor?_eq_some found).2
  have isDeclared := walking.declared _ List.mem_cons_self dependency List.mem_cons_self
  have isPlaced := walking.onPath _ List.mem_cons_self
  have isNew : isOpen walked.placed next.gav = true :=
    (isOpen_congr same).trans (isOpen_of_locate? absent)
  have needed : Needed (sources.requested.map fun root => root.config.gav)
      (walked.placed.map Placement.pack) next.gav :=
    .dependency (List.mem_map_of_mem (List.mem_of_getElem? isPlaced))
      (walking.needed placement (List.mem_of_getElem? isPlaced)) isDeclared
      (Gav.sameArtifact_symm same)
  have pushed : Walking sources { walked with placed := walked.placed ++ [next] }
      ([⟨walked.placed.length, next, next.pack.dependencies⟩] ++
        ⟨index, placement, dependency :: rest⟩ :: outer) :=
    walking.push isNew (justified_of_placementFor? sound found) needed (by
      simpa using ⟨dependency, isDeclared, Gav.sameArtifact_symm same⟩)
  have settled : Settled (walked.placed ++ [next]) dependency walked.placed.length :=
    ⟨next, (locate?_eq_some_iff pushed.distinct).2 ⟨by simp, same⟩, agrees_of_placementFor? found⟩
  have earlier : index < walked.placed.length := (List.getElem?_eq_some_iff.1 isPlaced).1
  exact pushed.advance settled (Or.inr ⟨List.mem_cons_self, earlier⟩)

/-- The coordinates on the path are all different. -/
theorem Walking.nodup_gavs (walking : Walking sources walked path) :
    (path.map fun visit => visit.placement.gav).Nodup := by
  have descending := walking.descending
  rw [List.pairwise_map] at descending
  rw [List.Nodup, List.pairwise_map]
  refine List.Pairwise.imp_of_mem (fun {inner outer} isInner isOuter later same => ?_) descending
  -- One coordinate is located at one index only.
  have located : ∀ visit ∈ path,
      locate? walked.placed visit.placement.gav = some (visit.placement, visit.index) :=
    fun visit listed => (locate?_eq_some_iff walking.distinct).2
      ⟨walking.onPath visit listed, Gav.sameArtifact_self _⟩
  have atInner := located inner isInner
  have atOuter := located outer isOuter
  rw [same, atOuter, Option.some.injEq, Prod.mk.injEq] at atInner
  exact absurd atInner.2 (Nat.ne_of_lt later)

theorem cycle?_eq_some {path : List Visit} {index : Nat} {gavs : List Gav}
    (isCycle : cycle? path index = some gavs) :
    ∃ inner visit outer, path = inner ++ visit :: outer ∧ visit.index = index ∧
      gavs = ((inner ++ [visit]).map fun visit => visit.placement.gav).reverse ++
        [visit.placement.gav] := by
  unfold cycle? at isCycle
  split at isCycle
  · cases isCycle
  · next depth isDepth =>
    obtain ⟨inside, same, _⟩ := List.findIdx?_eq_some_iff_getElem.1 isDepth
    refine ⟨path.take depth, path[depth], path.drop (depth + 1), ?_, by simpa using same, ?_⟩
    · rw [← List.drop_eq_getElem_cons inside, List.take_append_drop]
    · rw [← List.take_append_getElem inside] at isCycle
      simp only [List.map_append, List.map_cons, List.map_nil, List.reverse_append,
        List.reverse_cons, List.reverse_nil, List.nil_append, List.cons_append] at isCycle ⊢
      exact (Option.some.inj isCycle).symm

theorem not_mem_of_cycle? {path : List Visit} {index : Nat} (noCycle : cycle? path index = none) :
    index ∉ path.map Visit.index := by
  rw [List.mem_map]
  rintro ⟨visit, listed, same⟩
  unfold cycle? at noCycle
  split at noCycle
  · next absent =>
    have different := List.findIdx?_eq_none_iff.1 absent visit listed
    simp [same] at different
  · next depth isDepth =>
    obtain ⟨inside, _⟩ := List.findIdx?_eq_some_iff_getElem.1 isDepth
    rw [← List.take_append_getElem inside] at noCycle
    simp only [List.map_append, List.map_cons, List.map_nil, List.reverse_append,
      List.reverse_cons, List.reverse_nil, List.nil_append, List.cons_append] at noCycle
    cases noCycle

/-- Every feature-pack on the path depends on the one visited from it. -/
theorem Walking.dependsOnArtifact (walking : Walking sources walked path) :
    (path.map fun visit => visit.placement.gav).IsChain fun inner outer =>
      DependsOnArtifact sources.repository outer inner := by
  have linked := walking.linked
  rw [List.isChain_map] at linked ⊢
  refine linked.imp_of_mem_imp fun inner outer _ isOuter depends => ?_
  have isPlaced := List.mem_of_getElem? (walking.onPath outer isOuter)
  exact ⟨outer.placement.pack, (walking.justified _ isPlaced).known, rfl, depends⟩

/-- A dependency that leads back to the path closes a cycle. -/
theorem Walking.isDependencyCycle
    (walking : Walking sources walked (⟨index, placement, dependency :: rest⟩ :: outer))
    {known : Placement × Nat} (located : locate? walked.placed dependency.gav = some known)
    {gavs : List Gav}
    (isCycle : cycle? (⟨index, placement, dependency :: rest⟩ :: outer) known.2 = some gavs) :
    IsDependencyCycle sources.repository gavs := by
  have nodup := walking.nodup_gavs
  have chain := walking.dependsOnArtifact
  have isTop := walking.onPath _ List.mem_cons_self
  obtain ⟨isKnown, same⟩ := getElem?_of_locate? located
  obtain ⟨inner, visit, beyond, split, isIndex, rfl⟩ := cycle?_eq_some isCycle
  have isVisit := walking.onPath visit (by simp [split])
  rw [isIndex, isKnown, Option.some.injEq] at isVisit
  -- The innermost visit follows the dependency that leads back to the outermost of the cycle.
  have closing : DependsOnArtifact sources.repository placement.gav visit.placement.gav :=
    ⟨placement.pack, (walking.justified _ (List.mem_of_getElem? isTop)).known, rfl, dependency,
      walking.declared _ List.mem_cons_self dependency List.mem_cons_self,
      isVisit ▸ Gav.sameArtifact_symm same⟩
  have head : ((inner ++ [visit]).map fun visit => visit.placement.gav).head? =
      some placement.gav := by
    cases inner with
    | nil => simp [← (List.cons.inj split).1]
    | cons first others => simp [← (List.cons.inj split).1]
  rw [split, ← List.singleton_append, ← List.append_assoc, List.map_append] at nodup chain
  refine ⟨visit.placement.gav, (inner.map fun visit => visit.placement.gav).reverse, by simp, ?_, ?_⟩
  · have distinct := List.nodup_reverse.2 (List.nodup_append.1 nodup).1
    simpa using distinct
  · refine (List.isChain_reverse.2 chain.left_of_append).append (List.isChain_singleton _) ?_
    rw [List.getLast?_reverse, head]
    simpa using closing

/-- What a walk results in. -/
def Fulfilled (sources : Sources) : Provisioned Walked → Prop
  | .ok walked => Walking sources walked []
  | .error (.cyclicPackDependency gavs) => IsDependencyCycle sources.repository gavs
  | .error _ => True

theorem Fulfilled.bind {attempt : Provisioned Walked} {next : Walked → Provisioned Walked}
    (fulfilled : Fulfilled sources attempt)
    (continues : ∀ walked, Walking sources walked [] → Fulfilled sources (next walked)) :
    Fulfilled sources (attempt >>= next) := by
  cases attempt with
  | error problem => exact fulfilled
  | ok walked => exact continues walked fulfilled

/-- A dependency on a placed artifact is settled if it leads neither back to the path nor to a
version other than the one it asks for. -/
theorem Walking.revisit
    (walking : Walking sources walked (⟨index, placement, dependency :: rest⟩ :: outer))
    {known : Placement × Nat} (located : locate? walked.placed dependency.gav = some known)
    (noProblem : revisitProblem? (⟨index, placement, dependency :: rest⟩ :: outer) known dependency =
      none) : Walking sources walked (⟨index, placement, rest⟩ :: outer) := by
  obtain ⟨isKnown, same⟩ := getElem?_of_locate? located
  unfold revisitProblem? at noProblem
  split at noProblem
  · cases noProblem
  · next noCycle =>
    split at noProblem
    · cases noProblem
    · next agrees =>
      have settled : Settled walked.placed dependency known.2 := by
        refine ⟨known.1, located, ?_⟩
        simpa [imp_iff_not_or, or_assoc] using agrees
      have ended : known.2 ∈ walked.postOrder := by
        refine (walking.mem_iff.2 (List.getElem?_eq_some_iff.1 isKnown).1).resolve_left ?_
        exact not_mem_of_cycle? noCycle
      have follows : Walking sources walked
          ([] ++ ⟨index, placement, dependency :: rest⟩ :: outer) := walking
      exact follows.advance settled (Or.inl ended)

/-- A walk keeps its invariant up to the end, or fails on a cycle that there is. -/
theorem walk_fulfilled (sound : sources.Sound) (walking : Walking sources walked path) :
    Fulfilled sources (walk sources walked path) := by
  fun_induction walk sources walked path with
  | case1 walked => exact walking
  | case2 walked index _ outer inductionHypothesis => exact inductionHypothesis walking.finish
  | case3 walked index placement dependency rest outer known located problem isProblem =>
      rw [isProblem]
      unfold revisitProblem? at isProblem
      split at isProblem
      · next gavs isCycle =>
        cases isProblem
        exact walking.isDependencyCycle located isCycle
      · split at isProblem <;> cases isProblem
        trivial
  | case4 walked index placement dependency rest outer known located noProblem
      inductionHypothesis =>
      rw [noProblem]
      exact inductionHypothesis (walking.revisit located noProblem)
  | case5 => trivial
  | case6 walked index placement dependency rest outer absent next found inductionHypothesis =>
      exact inductionHypothesis (walking.descend sound absent found)

/-- A walk places more and forgets nothing. -/
theorem placed_prefix_of_walk {final : Walked} (isFinal : walk sources walked path = .ok final) :
    walked.placed <+: final.placed := by
  fun_induction walk sources walked path with
  | case1 walked =>
      cases isFinal
      exact List.prefix_refl _
  | case2 walked index _ outer inductionHypothesis => exact inductionHypothesis isFinal
  | case3 walked index placement dependency rest outer known located problem isProblem =>
      rw [isProblem] at isFinal
      cases isFinal
  | case4 walked index placement dependency rest outer known located noProblem
      inductionHypothesis =>
      rw [noProblem] at isFinal
      exact inductionHypothesis isFinal
  | case5 => cases isFinal
  | case6 walked index placement dependency rest outer absent next found inductionHypothesis =>
      exact (List.prefix_append _ _).trans (inductionHypothesis isFinal)

/-- A requested feature-pack is placed as such when the walk begins with it. -/
theorem Walking.start (sound : sources.Sound) (walking : Walking sources walked []) {root : Root}
    (isRoot : root ∈ sources.requested) (absent : locate? walked.placed root.pack.gav = none) :
    Walking sources
      { walked with placed := walked.placed ++ [⟨root.pack, [root.config], none⟩] }
      [⟨walked.placed.length, ⟨root.pack, [root.config], none⟩, root.pack.dependencies⟩] :=
  walking.push (isOpen_of_locate? absent) (justified_of_root sound isRoot _)
    (.requested (List.mem_map_of_mem isRoot) (Gav.sameArtifact_symm (sound.sameArtifact isRoot)))
    (by simp)

theorem walkRoots_fulfilled (sound : sources.Sound) (walking : Walking sources walked [])
    {roots : List Root} (areRoots : ∀ root ∈ roots, root ∈ sources.requested) :
    Fulfilled sources (walkRoots sources walked roots) := by
  induction roots generalizing walked with
  | nil => exact walking
  | cons root rest inductionHypothesis =>
      rw [List.forall_mem_cons] at areRoots
      rw [walkRoots]
      split
      · exact inductionHypothesis walking areRoots.2
      · next absent =>
        exact (walk_fulfilled sound (walking.start sound areRoots.1 absent)).bind
          fun next walking => inductionHypothesis walking areRoots.2

/-- Every requested artifact is placed, and what is placed stays placed. -/
theorem placed_of_walkRoots {final : Walked} {roots : List Root}
    (isFinal : walkRoots sources walked roots = .ok final) :
    (∀ placement ∈ walked.placed, placement ∈ final.placed) ∧ ∀ root ∈ roots,
      ∃ placement ∈ final.placed, placement.gav.sameArtifact root.pack.gav = true := by
  induction roots generalizing walked with
  | nil =>
      cases isFinal
      exact ⟨fun _ listed => listed, fun root listed => absurd listed List.not_mem_nil⟩
  | cons root rest inductionHypothesis =>
      rw [List.forall_mem_cons]
      rw [walkRoots] at isFinal
      split at isFinal
      · next known located =>
        obtain ⟨kept, placesRest⟩ := inductionHypothesis isFinal
        obtain ⟨isPlaced, same⟩ := getElem?_of_locate? located
        exact ⟨kept, ⟨known.1, kept _ (List.mem_of_getElem? isPlaced), same⟩, placesRest⟩
      · obtain ⟨next, isNext, isRest⟩ := bind_eq_ok_iff.1 isFinal
        obtain ⟨kept, placesRest⟩ := inductionHypothesis isRest
        have starts := (placed_prefix_of_walk isNext).subset
        refine ⟨fun placement listed => kept _ (starts (List.mem_append_left _ listed)),
          ⟨_, kept _ (starts (List.mem_append_right _ List.mem_cons_self)), ?_⟩, placesRest⟩
        exact Gav.sameArtifact_self root.pack.gav

end Provisioning.Layout
