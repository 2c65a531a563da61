/-
This file says what the placements of a layout owe to the request and to the repository.
-/

import Provisioning.Layout.Basic
import Provisioning.Proofs.Success

namespace Provisioning.Layout

/-- No two elements have coordinates of one artifact. -/
def ArtifactsDistinct {Element : Type} (gav : Element → Gav) (elements : List Element) : Prop :=
  elements.Pairwise fun first second => (gav first).sameArtifact (gav second) = false

/-- Elements with coordinates of one artifact are the same element. -/
theorem ArtifactsDistinct.eq {Element : Type} {gav : Element → Gav} {elements : List Element}
    (distinct : ArtifactsDistinct gav elements) {first second : Element}
    (isFirst : first ∈ elements) (isSecond : second ∈ elements)
    (same : (gav first).sameArtifact (gav second) = true) : first = second := by
  induction distinct with
  | nil => exact absurd isFirst List.not_mem_nil
  | @cons head rest apart _ inductionHypothesis =>
      rcases List.mem_cons.1 isFirst with rfl | inFirst
      · rcases List.mem_cons.1 isSecond with rfl | inSecond
        · rfl
        · simp [apart second inSecond] at same
      · rcases List.mem_cons.1 isSecond with rfl | inSecond
        · exact absurd (Gav.sameArtifact_symm same) (by simpa using apart first inFirst)
        · exact inductionHypothesis inFirst inSecond

/-- Coordinates of one artifact stand at one position. -/
theorem ArtifactsDistinct.position_eq {Element : Type} {gav : Element → Gav}
    {elements : List Element} (distinct : ArtifactsDistinct gav elements) {position other : Nat}
    {first second : Element} (isFirst : elements[position]? = some first)
    (isSecond : elements[other]? = some second)
    (same : (gav first).sameArtifact (gav second) = true) : position = other := by
  obtain ⟨inside, rfl⟩ := List.getElem?_eq_some_iff.1 isFirst
  obtain ⟨otherInside, rfl⟩ := List.getElem?_eq_some_iff.1 isSecond
  rw [ArtifactsDistinct, List.pairwise_iff_getElem] at distinct
  rcases Nat.lt_trichotomy position other with before | equal | after
  · simp [distinct position other inside otherInside before] at same
  · exact equal
  · have apart := distinct other position otherInside inside after
    rw [Gav.sameArtifact_symm same] at apart
    cases apart

/-- What is located stands at its position. -/
theorem getElem?_of_locate? {placed : List Placement} {gav : Gav} {known : Placement × Nat}
    (located : locate? placed gav = some known) :
    placed[known.2]? = some known.1 ∧ known.1.gav.sameArtifact gav = true := by
  have same := List.find?_some located
  exact ⟨List.mk_mem_zipIdx_iff_getElem?.1 (List.mem_of_find?_eq_some located), same⟩

/-- Where no artifact is placed twice, each is located wherever it is placed. -/
theorem locate?_eq_some_iff {placed : List Placement}
    (distinct : ArtifactsDistinct Placement.gav placed) {gav : Gav} {known : Placement × Nat} :
    locate? placed gav = some known ↔
      placed[known.2]? = some known.1 ∧ known.1.gav.sameArtifact gav = true := by
  refine ⟨getElem?_of_locate?, ?_⟩
  rintro ⟨isPlaced, same⟩
  refine Checks.find?_of_distinct ?_ (List.mk_mem_zipIdx_iff_getElem?.2 isPlaced) same
  rw [← List.zipIdx_map_fst 0 placed, ArtifactsDistinct, List.pairwise_map] at distinct
  refine distinct.imp fun {first second} apart both => ?_
  rw [Gav.sameArtifact_trans both.1 (Gav.sameArtifact_symm both.2)] at apart
  cases apart

/-- A placement keeps its index when others follow. -/
theorem locate?_append {placed : List Placement} {gav : Gav} {known : Placement × Nat}
    (located : locate? placed gav = some known) (more : List Placement) :
    locate? (placed ++ more) gav = some known := by
  unfold locate? at located ⊢
  rw [List.zipIdx_append, List.find?_append, located, Option.some_or]

/-- A dependency is settled at an index when its artifact is placed there and the version agrees
with what the dependency asks for, unless the request decides. -/
def Settled (placed : List Placement) (dependency : PackDependency) (index : Nat) : Prop :=
  ∃ placement, locate? placed dependency.gav = some (placement, index) ∧
    (dependency.gav.isLatest = true ∨ dependency.gav = placement.gav ∨
      placement.isRequested = true)

/-- A settled dependency stays settled when more are placed. -/
theorem Settled.append {placed : List Placement} {dependency : PackDependency} {index : Nat}
    (settled : Settled placed dependency index) (more : List Placement) :
    Settled (placed ++ more) dependency index := by
  obtain ⟨placement, located, agrees⟩ := settled
  exact ⟨placement, locate?_append located more, agrees⟩

/-- An artifact is needed if it is requested or if a needed feature-pack depends on it. -/
inductive Needed (requested : List Gav) (chosen : List FeaturePack) : Gav → Prop where
  | requested {root gav : Gav} (listed : root ∈ requested) (same : root.sameArtifact gav = true) :
      Needed requested chosen gav
  | dependency {pack : FeaturePack} {dependency : PackDependency} {gav : Gav}
      (isChosen : pack ∈ chosen) (needed : Needed requested chosen pack.gav)
      (declared : dependency ∈ pack.dependencies)
      (same : dependency.gav.sameArtifact gav = true) : Needed requested chosen gav

/-- What is needed stays needed when more is chosen. -/
theorem Needed.mono {requested : List Gav} {chosen more : List FeaturePack} {gav : Gav}
    (needed : Needed requested chosen gav) (kept : ∀ pack ∈ chosen, pack ∈ more) :
    Needed requested more gav := by
  induction needed with
  | requested listed same => exact .requested listed same
  | dependency isChosen _ declared same inductionHypothesis =>
      exact .dependency (kept _ isChosen) inductionHypothesis declared same

/-- All versions of an artifact are needed together. -/
theorem Needed.sameArtifact {requested : List Gav} {chosen : List FeaturePack} {first second : Gav}
    (needed : Needed requested chosen first) (same : first.sameArtifact second = true) :
    Needed requested chosen second := by
  cases needed with
  | requested listed also => exact .requested listed (Gav.sameArtifact_trans also same)
  | dependency isChosen needed declared also =>
      exact .dependency isChosen needed declared (Gav.sameArtifact_trans also same)

/-- The requested feature-packs come from the repository, each artifact once. -/
structure Sources.Sound (sources : Sources) : Prop where
  distinct : ArtifactsDistinct (fun root => root.pack.gav) sources.requested
  found : ∀ root ∈ sources.requested,
    sources.repository.find? root.config.gav = some root.pack

/-- A requested feature-pack has the artifact that the request lists. -/
theorem Sources.Sound.sameArtifact {sources : Sources} (sound : sources.Sound) {root : Root}
    (isRoot : root ∈ sources.requested) :
    root.pack.gav.sameArtifact root.config.gav = true :=
  (Repository.find?_eq_some (sound.found root isRoot)).2

/-- A placed feature-pack is the requested one of its artifact if there is one. -/
structure Justified (sources : Sources) (placement : Placement) : Prop where
  known : placement.pack ∈ sources.repository.packs
  requested_iff : placement.isRequested = true ↔
    ∃ root ∈ sources.requested, root.pack.gav.sameArtifact placement.gav = true
  chosen : ∀ root ∈ sources.requested, root.pack.gav.sameArtifact placement.gav = true →
    root.pack = placement.pack

/-- A requested feature-pack is justified by the request. -/
theorem justified_of_root {sources : Sources} (sound : sources.Sound) {root : Root}
    (isRoot : root ∈ sources.requested) (chain : List PackConfig) :
    Justified sources ⟨root.pack, chain, none⟩ where
  known := (Repository.find?_eq_some (sound.found root isRoot)).1
  requested_iff := by
    constructor
    · intro _
      exact ⟨root, isRoot, Gav.sameArtifact_self _⟩
    · intro _
      rfl
  chosen := by
    intro other isOther same
    rw [sound.distinct.eq isOther isRoot same]

/-- A dependency is met by the request or else by the repository. -/
theorem justified_of_placementFor? {sources : Sources} (sound : sources.Sound) {visit : Visit}
    {dependency : PackDependency} {placement : Placement}
    (found : sources.placementFor? visit dependency = some placement) :
    Justified sources placement := by
  have same := (Sources.placementFor?_eq_some found).2
  unfold Sources.placementFor? at found
  split at found
  · next root isRoot =>
    cases found
    exact justified_of_root sound (List.mem_of_find?_eq_some isRoot) _
  · next noRoot =>
    obtain ⟨pack, inRepository, rfl⟩ := Option.map_eq_some_iff.1 found
    have unrequested : ∀ root ∈ sources.requested, ¬root.pack.gav.sameArtifact pack.gav = true := by
      intro root isRoot also
      exact List.find?_eq_none.1 noRoot root isRoot (Gav.sameArtifact_trans also same)
    refine ⟨(Repository.find?_eq_some inRepository).1, ?_, ?_⟩
    · constructor
      · intro requested
        cases requested
      · rintro ⟨root, isRoot, also⟩
        exact absurd also (unrequested root isRoot)
    · intro root isRoot also
      exact absurd also (unrequested root isRoot)

/-- The feature-pack that is placed for a dependency settles it. -/
theorem agrees_of_placementFor? {sources : Sources} {visit : Visit} {dependency : PackDependency}
    {placement : Placement}
    (found : sources.placementFor? visit dependency = some placement) :
    dependency.gav.isLatest = true ∨ dependency.gav = placement.gav ∨
      placement.isRequested = true := by
  unfold Sources.placementFor? at found
  split at found
  · cases found
    exact Or.inr (Or.inr rfl)
  · obtain ⟨pack, inRepository, rfl⟩ := Option.map_eq_some_iff.1 found
    rw [Repository.find?] at inRepository
    split at inRepository
    · next latest => exact Or.inl latest
    · have same : pack.gav = dependency.gav := by simpa using List.find?_some inRepository
      exact Or.inr (Or.inl same.symm)

end Provisioning.Layout
