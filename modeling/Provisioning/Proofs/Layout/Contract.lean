/-
This file proves what a layout owes to the request and to the repository.
-/

import Provisioning.Proofs.Layout.Walk

namespace Provisioning.Layout

/-- What holds of every layout that is built for a request. -/
structure Contract (repository : Repository) (request : Request) (layout : Layout) : Prop where
  /-- There is one entry for each artifact. -/
  distinct : ArtifactsDistinct (fun entry => entry.gav) layout.entries
  /-- The artifacts are the requested ones and what the chosen feature-packs depend on. -/
  present_iff : ∀ gav, (∃ entry ∈ layout.entries, entry.gav.sameArtifact gav = true) ↔
    Needed (request.packs.map PackConfig.gav) (layout.entries.map fun entry => entry.pack) gav
  requested_iff : ∀ entry ∈ layout.entries, entry.isRequested = true ↔
    ∃ config ∈ request.packs, config.gav.sameArtifact entry.gav = true
  /-- A requested feature-pack is the one that the repository has for the request. -/
  requestedPack : ∀ entry ∈ layout.entries, ∀ config ∈ request.packs,
    config.gav.sameArtifact entry.gav = true → repository.find? config.gav = some entry.pack
  /-- All feature-packs that ask for a version of what is not requested ask for the same. -/
  versionsAgree : ∀ entry ∈ layout.entries, entry.isRequested = false →
    ∀ other ∈ layout.entries, ∀ dependency ∈ other.pack.dependencies,
      dependency.gav.sameArtifact entry.gav = true → dependency.gav.isLatest = false →
        dependency.gav = entry.gav
  dependenciesListed : ∀ entry ∈ layout.entries,
    entry.dependencies.map Prod.snd = entry.pack.dependencies
  dependenciesPlaced : ∀ entry ∈ layout.entries, ∀ link ∈ entry.dependencies,
    ∃ target, layout.entries[link.1]? = some target ∧
      target.gav.sameArtifact link.2.gav = true
  postOrderPerm : layout.postOrder.Perm (List.range layout.entries.length)
  dependenciesFirst : ∀ node target, (graphOf layout.entries).Edge node target →
    Graph.Precedes layout.postOrder target node
  acyclic : ∀ node, ¬(graphOf layout.entries).DependsOn node node

/-- The requested feature-packs are found one by one. -/
theorem roots_eq_ok {repository : Repository} {configs : List PackConfig} {requested : List Root}
    (isRequested : roots repository configs = .ok requested) :
    requested.map Root.config = configs ∧
      ∀ root ∈ requested, repository.find? root.config.gav = some root.pack := by
  induction configs generalizing requested with
  | nil =>
      cases isRequested
      simp
  | cons config rest inductionHypothesis =>
      rw [roots] at isRequested
      split at isRequested
      · cases isRequested
      · next pack found =>
        simp only [bind_eq_ok_iff, pure_eq_ok_iff] at isRequested
        obtain ⟨others, isRest, rfl⟩ := isRequested
        obtain ⟨sameConfigs, foundRest⟩ := inductionHypothesis isRest
        rw [List.map_cons, sameConfigs, List.forall_mem_cons]
        exact ⟨rfl, found, foundRest⟩

/-- A requested feature-pack that the repository lacks is no cycle. -/
theorem roots_ne_cyclic (repository : Repository) (configs : List PackConfig) (path : List Gav) :
    roots repository configs ≠ .error (.cyclicPackDependency path) := by
  induction configs with
  | nil => simp [roots]
  | cons config rest inductionHypothesis =>
      rw [roots]
      split
      · simp
      · intro failed
        cases isRest : roots repository rest with
        | error problem =>
            rw [isRest] at failed inductionHypothesis
            exact inductionHypothesis failed
        | ok others =>
            rw [isRest] at failed
            cases failed

/-- The requested feature-packs come from the repository, each artifact once. -/
theorem sound_of_roots {repository : Repository} {request : Request} {requested : List Root}
    (isRequested : roots repository request.packs = .ok requested) :
    Sources.Sound ⟨repository, requested⟩ := by
  obtain ⟨sameConfigs, found⟩ := roots_eq_ok isRequested
  refine ⟨?_, found⟩
  have distinct := request.artifactsDistinct
  rw [← sameConfigs, List.pairwise_map] at distinct
  refine List.Pairwise.imp_of_mem (fun {first second} isFirst isSecond apart => ?_) distinct
  rw [← Bool.not_eq_true] at apart ⊢
  intro same
  have firstSame := (Repository.find?_eq_some (found first isFirst)).2
  have secondSame := (Repository.find?_eq_some (found second isSecond)).2
  exact apart (Gav.sameArtifact_trans (Gav.sameArtifact_symm firstSame)
    (Gav.sameArtifact_trans same secondSame))

/-- After the walk every dependency is settled by a visit that ended earlier. -/
theorem Walking.settled {sources : Sources} {walked : Walked} (walking : Walking sources walked [])
    {index : Nat} {placement : Placement} (isPlaced : walked.placed[index]? = some placement)
    {dependency : PackDependency} (declares : dependency ∈ placement.pack.dependencies) :
    ∃ target, Settled walked.placed dependency target ∧
      Graph.Precedes walked.postOrder target index := by
  have isEnded : index ∈ walked.postOrder :=
    (walking.mem_iff.2 (List.getElem?_eq_some_iff.1 isPlaced).1).resolve_left List.not_mem_nil
  obtain ⟨before, after, split⟩ := List.append_of_mem isEnded
  obtain ⟨target, settled, earlier⟩ :=
    walking.finished before index after split placement isPlaced dependency declares
  exact ⟨target, settled, before, after, split, earlier⟩

theorem entries_ofWalked (request : Request) (walked : Walked) :
    (ofWalked request walked).entries = walked.placed.map (link walked.placed) := rfl

/-- Every declared dependency is linked when all are placed. -/
theorem map_snd_dependencies_link {placed : List Placement} {placement : Placement}
    (located : ∀ dependency ∈ placement.pack.dependencies,
      ∃ known, locate? placed dependency.gav = some known) :
    (link placed placement).dependencies.map Prod.snd = placement.pack.dependencies := by
  unfold link
  revert located
  generalize placement.pack.dependencies = dependencies
  induction dependencies with
  | nil => simp
  | cons dependency rest inductionHypothesis =>
      intro located
      rw [List.forall_mem_cons] at located
      obtain ⟨⟨known, isKnown⟩, restLocated⟩ := located
      simpa [indexIn?, isKnown] using inductionHypothesis restLocated

/-- A link leads to where the artifact of its dependency is placed. -/
theorem mem_dependencies_link {placed : List Placement} {placement : Placement}
    {linked : Nat × PackDependency} (isLink : linked ∈ (link placed placement).dependencies) :
    linked.2 ∈ placement.pack.dependencies ∧
      ∃ target, locate? placed linked.2.gav = some (target, linked.1) := by
  obtain ⟨dependency, declared, isIndex⟩ := List.mem_filterMap.1 isLink
  simp only [indexIn?, Option.map_map, Option.map_eq_some_iff] at isIndex
  obtain ⟨known, located, rfl⟩ := isIndex
  exact ⟨declared, known.1, located⟩

/-- The edges of the graph are the linked dependencies. -/
theorem edge_graphOf_iff {entries : List LayoutEntry} {node target : Nat} :
    (graphOf entries).Edge node target ↔
      ∃ entry, entries[node]? = some entry ∧ ∃ linked ∈ entry.dependencies, linked.1 = target := by
  unfold Graph.Edge Graph.successors graphOf
  rw [List.getElem?_map]
  cases entries[node]? with
  | none => simp
  | some entry => simp

section

variable {repository : Repository} {request : Request} {requested : List Root} {walked : Walked}

/-- An artifact is requested under its config or under the feature-pack that was found for it. -/
theorem exists_root_iff (isRequested : roots repository request.packs = .ok requested)
    {gav : Gav} :
    (∃ root ∈ requested, root.pack.gav.sameArtifact gav = true) ↔
      ∃ config ∈ request.packs, config.gav.sameArtifact gav = true := by
  obtain ⟨sameConfigs, found⟩ := roots_eq_ok isRequested
  rw [← sameConfigs]
  simp only [List.mem_map, exists_exists_and_eq_and]
  refine exists_congr fun root => and_congr_right fun isRoot => ?_
  have same := (Repository.find?_eq_some (found root isRoot)).2
  exact ⟨Gav.sameArtifact_trans (Gav.sameArtifact_symm same), Gav.sameArtifact_trans same⟩

/-- What is needed is placed. -/
theorem placed_of_needed (walking : Walking ⟨repository, requested⟩ walked [])
    (isRequested : roots repository request.packs = .ok requested)
    (rootsPlaced : ∀ root ∈ requested,
      ∃ placement ∈ walked.placed, placement.gav.sameArtifact root.pack.gav = true)
    {gav : Gav}
    (needed : Needed (request.packs.map PackConfig.gav) (walked.placed.map Placement.pack) gav) :
    ∃ placement ∈ walked.placed, placement.gav.sameArtifact gav = true := by
  cases needed with
  | requested listed same =>
      obtain ⟨config, isConfig, rfl⟩ := List.mem_map.1 listed
      obtain ⟨root, isRoot, also⟩ := (exists_root_iff isRequested).2 ⟨config, isConfig, same⟩
      obtain ⟨placement, isPlaced, isArtifact⟩ := rootsPlaced root isRoot
      exact ⟨placement, isPlaced, Gav.sameArtifact_trans isArtifact also⟩
  | dependency isChosen _ declared same =>
      obtain ⟨dependent, isDependent, rfl⟩ := List.mem_map.1 isChosen
      obtain ⟨index, isIndex⟩ := List.getElem?_of_mem isDependent
      obtain ⟨target, ⟨placement, located, _⟩, _⟩ := walking.settled isIndex declared
      obtain ⟨isPlaced, also⟩ := getElem?_of_locate? located
      exact ⟨placement, List.mem_of_getElem? isPlaced, Gav.sameArtifact_trans also same⟩

/-- A version that is not requested is the one that all dependencies with a version name. -/
theorem Walking.versionsAgree {sources : Sources} (walking : Walking sources walked [])
    {placement other : Placement} (isPlaced : placement ∈ walked.placed)
    (unrequested : placement.isRequested = false) (isOther : other ∈ walked.placed)
    {dependency : PackDependency} (declares : dependency ∈ other.pack.dependencies)
    (same : dependency.gav.sameArtifact placement.gav = true)
    (concrete : dependency.gav.isLatest = false) : dependency.gav = placement.gav := by
  obtain ⟨index, isIndex⟩ := List.getElem?_of_mem isOther
  obtain ⟨target, ⟨known, located, agrees⟩, _⟩ := walking.settled isIndex declares
  obtain ⟨isKnown, also⟩ := getElem?_of_locate? located
  have equal : known = placement := walking.distinct.eq (List.mem_of_getElem? isKnown) isPlaced
    (Gav.sameArtifact_trans also same)
  subst equal
  simpa [concrete, unrequested] using agrees

/-- What a dependency leads to has ended before the feature-pack that declares it. -/
theorem Walking.precedes_of_edge {sources : Sources} (walking : Walking sources walked [])
    {node target : Nat}
    (edge : (graphOf (walked.placed.map (link walked.placed))).Edge node target) :
    Graph.Precedes walked.postOrder target node := by
  obtain ⟨entry, isEntry, linked, isLink, rfl⟩ := edge_graphOf_iff.1 edge
  rw [List.getElem?_map] at isEntry
  obtain ⟨placement, isPlaced, rfl⟩ := Option.map_eq_some_iff.1 isEntry
  obtain ⟨declares, known, isKnown⟩ := mem_dependencies_link isLink
  obtain ⟨target, ⟨other, isOther, _⟩, precedes⟩ := walking.settled isPlaced declares
  rw [isOther, Option.some.injEq, Prod.mk.injEq] at isKnown
  exact isKnown.2 ▸ precedes

/-- A walk that has ended keeps the contract. -/
theorem contract_of_walking (walking : Walking ⟨repository, requested⟩ walked [])
    (isRequested : roots repository request.packs = .ok requested)
    (rootsPlaced : ∀ root ∈ requested,
      ∃ placement ∈ walked.placed, placement.gav.sameArtifact root.pack.gav = true) :
    Contract repository request (ofWalked request walked) := by
  obtain ⟨sameConfigs, found⟩ := roots_eq_ok isRequested
  have gavs : (requested.map fun root => root.config.gav) = request.packs.map PackConfig.gav := by
    rw [← sameConfigs, List.map_map]
    rfl
  have packs : ((walked.placed.map (link walked.placed)).map fun entry => entry.pack) =
      walked.placed.map Placement.pack := by
    rw [List.map_map]
    rfl
  constructor
  case distinct => exact List.pairwise_map.2 walking.distinct
  case present_iff =>
    intro gav
    rw [entries_ofWalked, packs]
    constructor
    · rintro ⟨entry, isEntry, same⟩
      obtain ⟨placement, isPlaced, rfl⟩ := List.mem_map.1 isEntry
      have needed := walking.needed placement isPlaced
      rw [gavs] at needed
      exact needed.sameArtifact same
    · intro needed
      obtain ⟨placement, isPlaced, same⟩ :=
        placed_of_needed walking isRequested rootsPlaced needed
      exact ⟨_, List.mem_map_of_mem isPlaced, same⟩
  case requested_iff =>
    refine List.forall_mem_map.2 fun placement isPlaced => ?_
    rw [← exists_root_iff isRequested]
    exact (walking.justified placement isPlaced).requested_iff
  case requestedPack =>
    refine List.forall_mem_map.2 fun placement isPlaced config isConfig same => ?_
    rw [← sameConfigs] at isConfig
    obtain ⟨root, isRoot, rfl⟩ := List.mem_map.1 isConfig
    have isFound := found root isRoot
    have isChosen := (walking.justified placement isPlaced).chosen root isRoot
      (Gav.sameArtifact_trans (Repository.find?_eq_some isFound).2 same)
    rw [isFound, isChosen]
    rfl
  case versionsAgree =>
    refine List.forall_mem_map.2 fun placement isPlaced unrequested => ?_
    refine List.forall_mem_map.2 fun other isOther dependency declares same concrete => ?_
    exact walking.versionsAgree isPlaced unrequested isOther declares same concrete
  case dependenciesListed =>
    refine List.forall_mem_map.2 fun placement isPlaced => ?_
    refine map_snd_dependencies_link fun dependency declares => ?_
    obtain ⟨index, isIndex⟩ := List.getElem?_of_mem isPlaced
    obtain ⟨target, ⟨known, isKnown, _⟩, _⟩ := walking.settled isIndex declares
    exact ⟨_, isKnown⟩
  case dependenciesPlaced =>
    refine List.forall_mem_map.2 fun placement isPlaced linked isLink => ?_
    obtain ⟨_, known, located⟩ := mem_dependencies_link isLink
    obtain ⟨isKnown, same⟩ := getElem?_of_locate? located
    refine ⟨link walked.placed known, ?_, same⟩
    rw [entries_ofWalked, List.getElem?_map, isKnown]
    rfl
  case postOrderPerm => simpa [ofWalked] using walking.visited
  case dependenciesFirst => exact fun _ _ edge => walking.precedes_of_edge edge
  case acyclic =>
    exact Graph.acyclic_of_precedes (walking.visited.nodup_iff.2 List.nodup_range)
      fun _ _ edge => walking.precedes_of_edge edge

end

/-- A layout keeps its contract, and a cycle that stands in its way is one. -/
theorem build_contract (repository : Repository) (request : Request) :
    (∀ layout, build repository request = .ok layout → Contract repository request layout) ∧
    ∀ path, build repository request = .error (.cyclicPackDependency path) →
      IsDependencyCycle repository path := by
  have fulfilled : ∀ requested, roots repository request.packs = .ok requested →
      Fulfilled ⟨repository, requested⟩
        (walkRoots ⟨repository, requested⟩ ⟨[], []⟩ requested) :=
    fun requested isRequested => walkRoots_fulfilled (sound_of_roots isRequested)
      (walking_initial _) fun _ isRoot => isRoot
  constructor
  · intro layout built
    simp only [build, bind_eq_ok_iff, pure_eq_ok_iff] at built
    obtain ⟨requested, isRequested, walked, isWalked, rfl⟩ := built
    have walking := fulfilled requested isRequested
    rw [isWalked] at walking
    exact contract_of_walking walking isRequested (placed_of_walkRoots isWalked).2
  · intro path failed
    cases isRequested : roots repository request.packs with
    | error problem =>
        simp only [build, isRequested, bind, Except.bind] at failed
        cases failed
        exact absurd isRequested (roots_ne_cyclic _ _ _)
    | ok requested =>
        have cycle := fulfilled requested isRequested
        simp only [build, isRequested, bind, Except.bind] at failed
        split at failed
        · next problem isProblem =>
          cases failed
          rw [isProblem] at cycle
          exact cycle
        · cases failed

end Provisioning.Layout
