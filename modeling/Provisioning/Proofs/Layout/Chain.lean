/-
This file proves where the pack configs that lead to an entry come from.
-/

import Provisioning.Proofs.Layout.Contract

namespace Provisioning.Layout

/-- A placement has its chain from the request or from the dependency that brought it in. -/
inductive Introduced (requested : List Root) (placed : List Placement) (index : Nat) :
    Placement → Prop where
  | byRequest {root : Root} (isRoot : root ∈ requested) :
      Introduced requested placed index ⟨root.pack, [root.config], none⟩
  | byDependency {parent : Nat} {declaring : Placement} {dependency : PackDependency}
      {pack : FeaturePack} (isPlaced : placed[parent]? = some declaring) (earlier : parent < index)
      (declares : dependency ∈ declaring.pack.dependencies)
      (same : pack.gav.sameArtifact dependency.gav = true) :
      Introduced requested placed index
        ⟨pack, declaring.chain ++ [dependency.config], some parent⟩

/-- Every placement was introduced by an earlier one or by the request. -/
def AllIntroduced (requested : List Root) (placed : List Placement) : Prop :=
  ∀ index placement, placed[index]? = some placement → Introduced requested placed index placement

variable {sources : Sources} {walked final : Walked} {path : List Visit} {placed : List Placement}
  {requested : List Root} {next placement : Placement} {index : Nat} {visit : Visit}
  {dependency : PackDependency} {repository : Repository} {request : Request} {layout : Layout}

/-- A placement stays introduced when more are placed. -/
theorem Introduced.append (introduced : Introduced requested placed index placement)
    (more : List Placement) : Introduced requested (placed ++ more) index placement := by
  cases introduced with
  | byRequest isRoot => exact .byRequest isRoot
  | byDependency isPlaced earlier declares same =>
      refine .byDependency ?_ earlier declares same
      rwa [List.getElem?_append_left (List.getElem?_eq_some_iff.1 isPlaced).1]

/-- One more introduced placement keeps all of them introduced. -/
theorem AllIntroduced.push (all : AllIntroduced requested placed)
    (introduced : Introduced requested placed placed.length next) :
    AllIntroduced requested (placed ++ [next]) := by
  intro index placement isPlaced
  rcases Nat.lt_or_ge index placed.length with known | beyond
  · rw [List.getElem?_append_left known] at isPlaced
    exact (all index placement isPlaced).append _
  · rw [List.getElem?_append_right beyond, List.getElem?_singleton] at isPlaced
    split at isPlaced
    · next first =>
      obtain rfl := Option.some.inj isPlaced
      obtain rfl : index = placed.length := by omega
      exact introduced.append _
    · cases isPlaced

/-- The placement for a dependency is introduced by the visit that follows the dependency. -/
theorem introduced_of_placementFor? (isPlaced : placed[visit.index]? = some visit.placement)
    (declares : dependency ∈ visit.placement.pack.dependencies)
    (found : sources.placementFor? visit dependency = some next) :
    Introduced sources.requested placed placed.length next := by
  have same := (Sources.placementFor?_eq_some found).2
  unfold Sources.placementFor? at found
  split at found
  · next root isRoot =>
    cases found
    exact .byRequest (List.mem_of_find?_eq_some isRoot)
  · obtain ⟨pack, _, rfl⟩ := Option.map_eq_some_iff.1 found
    exact .byDependency isPlaced (List.getElem?_eq_some_iff.1 isPlaced).1 declares same

/-- A walk introduces all that it places. -/
theorem allIntroduced_of_walk (sound : sources.Sound) (walking : Walking sources walked path)
    (all : AllIntroduced sources.requested walked.placed)
    (isFinal : walk sources walked path = .ok final) :
    AllIntroduced sources.requested final.placed := by
  fun_induction walk sources walked path with
  | case1 walked =>
      cases isFinal
      exact all
  | case2 walked index placement outer inductionHypothesis =>
      exact inductionHypothesis walking.finish all isFinal
  | case3 walked index placement dependency rest outer known located problem isProblem =>
      rw [isProblem] at isFinal
      cases isFinal
  | case4 walked index placement dependency rest outer known located noProblem
      inductionHypothesis =>
      rw [noProblem] at isFinal
      exact inductionHypothesis (walking.revisit located noProblem) all isFinal
  | case5 => cases isFinal
  | case6 walked index placement dependency rest outer absent next found inductionHypothesis =>
      have isPlaced := walking.onPath _ List.mem_cons_self
      have declares := walking.declared _ List.mem_cons_self dependency List.mem_cons_self
      have introduced := introduced_of_placementFor? isPlaced declares found
      exact inductionHypothesis (walking.descend sound absent found) (all.push introduced) isFinal

/-- A walk introduces whatever it places. -/
theorem allIntroduced_of_walkRoots (sound : sources.Sound) (walking : Walking sources walked [])
    (all : AllIntroduced sources.requested walked.placed) {roots : List Root}
    (areRoots : ∀ root ∈ roots, root ∈ sources.requested)
    (isFinal : walkRoots sources walked roots = .ok final) :
    AllIntroduced sources.requested final.placed := by
  induction roots generalizing walked with
  | nil =>
      cases isFinal
      exact all
  | cons root rest inductionHypothesis =>
      rw [List.forall_mem_cons] at areRoots
      rw [walkRoots] at isFinal
      split at isFinal
      · exact inductionHypothesis walking all areRoots.2 isFinal
      · next absent =>
        obtain ⟨next, isNext, isRest⟩ := bind_eq_ok_iff.1 isFinal
        have started := walking.start sound areRoots.1 absent
        have fulfilled := walk_fulfilled sound started
        rw [isNext] at fulfilled
        have introduced := allIntroduced_of_walk sound started
          (all.push (.byRequest areRoots.1)) isNext
        exact inductionHypothesis fulfilled introduced areRoots.2 isRest

/-- A layout that is built lists what a walk for the request has placed. -/
structure BuiltBy (repository : Repository) (request : Request) (requested : List Root)
    (walked : Walked) : Prop where
  isRequested : roots repository request.packs = .ok requested
  walking : Walking ⟨repository, requested⟩ walked []
  introduced : AllIntroduced requested walked.placed
  rootsPlaced : ∀ root ∈ requested,
    ∃ placement ∈ walked.placed, placement.gav.sameArtifact root.pack.gav = true

/-- A layout is built by a walk from the requested feature-packs. -/
theorem builtBy_of_build (built : build repository request = .ok layout) :
    ∃ requested walked, layout = ofWalked request walked ∧
      BuiltBy repository request requested walked := by
  simp only [build, bind_eq_ok_iff, pure_eq_ok_iff] at built
  obtain ⟨requested, isRequested, walked, isWalked, rfl⟩ := built
  have sound := sound_of_roots isRequested
  have initial := walking_initial ⟨repository, requested⟩
  have fulfilled := walkRoots_fulfilled sound initial fun _ isRoot => isRoot
  rw [isWalked] at fulfilled
  have introduced := allIntroduced_of_walkRoots sound initial (by simp [AllIntroduced])
    (fun _ isRoot => isRoot) isWalked
  exact ⟨requested, walked, rfl, isRequested, fulfilled, introduced,
    (placed_of_walkRoots isWalked).2⟩

/-- Every layout that is built keeps the contract. -/
theorem contract_of_build (built : build repository request = .ok layout) :
    Contract repository request layout := by
  obtain ⟨requested, walked, rfl, builtBy⟩ := builtBy_of_build built
  exact contract_of_walking builtBy.walking builtBy.isRequested builtBy.rootsPlaced

/-- An entry was brought in by the request or by a dependency of an earlier entry, which it
follows in its chain. -/
inductive BroughtIn (layout : Layout) (index : Nat) (entry : LayoutEntry) : Prop where
  | byRequest (config : PackConfig) (isRequested : config ∈ layout.request.packs)
      (same : config.gav.sameArtifact entry.gav = true) (hasNoParent : entry.parent = none)
      (isChain : entry.chain = [config])
  | byDependency (parent : Nat) (declaring : LayoutEntry) (dependency : PackDependency)
      (isEntry : layout.entries[parent]? = some declaring) (earlier : parent < index)
      (isLink : (index, dependency) ∈ declaring.dependencies)
      (hasParent : entry.parent = some parent)
      (isChain : entry.chain = declaring.chain ++ [dependency.config])

/-- A layout keeps its request. -/
theorem request_of_build (built : build repository request = .ok layout) :
    layout.request = request := by
  obtain ⟨requested, walked, rfl, _⟩ := builtBy_of_build built
  rfl

/-- The entries are the placements, linked in their order. -/
theorem getElem?_entries_ofWalked (request : Request) {entry : LayoutEntry} :
    (ofWalked request walked).entries[index]? = some entry ↔
      ∃ placement, walked.placed[index]? = some placement ∧ link walked.placed placement = entry := by
  rw [entries_ofWalked, List.getElem?_map, Option.map_eq_some_iff]

/-- Every declared dependency on a placed artifact is linked to it. -/
theorem mem_dependencies_link_of_placed (distinct : ArtifactsDistinct Placement.gav placed)
    {declaring : Placement} (declares : dependency ∈ declaring.pack.dependencies)
    (isPlaced : placed[index]? = some placement)
    (same : placement.gav.sameArtifact dependency.gav = true) :
    (index, dependency) ∈ (link placed declaring).dependencies := by
  have located : locate? placed dependency.gav = some (placement, index) :=
    (locate?_eq_some_iff distinct).2 ⟨isPlaced, same⟩
  refine List.mem_filterMap.2 ⟨dependency, declares, ?_⟩
  rw [indexIn?, located]
  rfl

/-- Every entry of a layout that is built was brought in. -/
theorem broughtIn_of_build (built : build repository request = .ok layout) {entry : LayoutEntry}
    (isEntry : layout.entries[index]? = some entry) : BroughtIn layout index entry := by
  obtain ⟨requested, walked, rfl, builtBy⟩ := builtBy_of_build built
  obtain ⟨placement, isPlaced, rfl⟩ := (getElem?_entries_ofWalked request).1 isEntry
  cases builtBy.introduced index placement isPlaced with
  | @byRequest root isRoot =>
      obtain ⟨sameConfigs, _⟩ := roots_eq_ok builtBy.isRequested
      have isConfig : root.config ∈ request.packs := sameConfigs ▸ List.mem_map_of_mem isRoot
      have same := (sound_of_roots builtBy.isRequested).sameArtifact isRoot
      exact .byRequest root.config isConfig (Gav.sameArtifact_symm same) rfl rfl
  | @byDependency parent declaring dependency pack isDeclaring earlier declares same =>
      have isLink := mem_dependencies_link_of_placed builtBy.walking.distinct declares isPlaced same
      exact .byDependency parent (link walked.placed declaring) dependency
        ((getElem?_entries_ofWalked request).2 ⟨declaring, isDeclaring, rfl⟩) earlier isLink rfl rfl

/-- An entry is requested when the request lists its artifact. -/
theorem isRequested_iff_listed (built : build repository request = .ok layout) {entry : LayoutEntry}
    (isEntry : layout.entries[index]? = some entry) : entry.isRequested = true ↔
      ∃ config ∈ layout.request.packs, config.gav.sameArtifact entry.gav = true := by
  rw [request_of_build built]
  exact (contract_of_build built).requested_iff entry (List.mem_of_getElem? isEntry)

/-- What a dependency brings in is not listed by the request. -/
theorem unlisted_of_parent (built : build repository request = .ok layout) {entry : LayoutEntry}
    (isEntry : layout.entries[index]? = some entry) {parent : Nat}
    (hasParent : entry.parent = some parent) :
    ∀ config ∈ layout.request.packs, config.gav.sameArtifact entry.gav = false := by
  have notRequested : ¬entry.isRequested = true := by simp [Placement.isRequested, hasParent]
  rw [isRequested_iff_listed built isEntry] at notRequested
  intro config listed
  rw [← Bool.not_eq_true]
  exact fun same => notRequested ⟨config, listed, same⟩

/-- The indices of the requested feature-packs are those of the entries without a parent. -/
theorem mem_requested_iff (built : build repository request = .ok layout) :
    index ∈ layout.requested ↔
      ∃ entry, layout.entries[index]? = some entry ∧ entry.isRequested = true := by
  have requested_iff := (contract_of_build built).requested_iff
  obtain ⟨requested, walked, rfl, builtBy⟩ := builtBy_of_build built
  simp only [ofWalked, List.mem_filterMap, indexIn?, Option.map_eq_some_iff]
  constructor
  · rintro ⟨config, isConfig, ⟨placement, _⟩, located, rfl⟩
    obtain ⟨isPlaced, same⟩ := getElem?_of_locate? located
    have isEntry := (getElem?_entries_ofWalked request).2 ⟨placement, isPlaced, rfl⟩
    exact ⟨_, isEntry, (requested_iff _ (List.mem_of_getElem? isEntry)).2
      ⟨config, isConfig, Gav.sameArtifact_symm same⟩⟩
  · rintro ⟨entry, isEntry, isRequested⟩
    obtain ⟨config, isConfig, same⟩ :=
      (requested_iff entry (List.mem_of_getElem? isEntry)).1 isRequested
    obtain ⟨placement, isPlaced, rfl⟩ := (getElem?_entries_ofWalked request).1 isEntry
    have located : locate? walked.placed config.gav = some (placement, index) :=
      (locate?_eq_some_iff builtBy.walking.distinct).2 ⟨isPlaced, Gav.sameArtifact_symm same⟩
    exact ⟨config, isConfig, _, located, rfl⟩

end Provisioning.Layout
