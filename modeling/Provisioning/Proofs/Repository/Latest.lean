/-
This file proves which version of an artifact a loaded repository considers current.
-/

import Provisioning.Proofs.Success
import Provisioning.Proofs.Version
import Provisioning.Storage.Manifests

namespace Provisioning.Repository

theorem put_of_new {pack : FeaturePack} {packs : List FeaturePack}
    (isNew : pack.gav ∉ packs.map (·.gav)) : put pack packs = packs ++ [pack] := by
  induction packs with
  | nil => rfl
  | cons known rest inductionHypothesis =>
      rw [List.map_cons, List.mem_cons, not_or] at isNew
      rw [put, if_neg (Ne.symm isNew.1), inductionHypothesis isNew.2, List.cons_append]

theorem packs_foldl_insert (repository : Repository) (packs : List FeaturePack)
    (nodup : ((repository.packs ++ packs).map (·.gav)).Nodup) :
    (packs.foldl insert repository).packs = repository.packs ++ packs := by
  induction packs generalizing repository with
  | nil => simp
  | cons pack rest inductionHypothesis =>
      have isNew : pack.gav ∉ repository.packs.map (·.gav) := by
        rw [List.map_append, List.nodup_append] at nodup
        exact fun known => nodup.2.2 _ known _ List.mem_cons_self rfl
      have inserted : (repository.insert pack).packs = repository.packs ++ [pack] :=
        put_of_new isNew
      rw [List.foldl_cons, inductionHypothesis _ (by rw [inserted]; simpa using nodup), inserted]
      simp

/-- Feature-packs with different coordinates are kept as they come. -/
theorem packs_ofList {packs : List FeaturePack} (nodup : (packs.map (·.gav)).Nodup) :
    (ofList packs).packs = packs :=
  packs_foldl_insert empty packs nodup

/-- A loaded repository holds what was loaded, in the order of the versions. -/
theorem packs_ofLoaded {packs : List FeaturePack} (nodup : (packs.map (·.gav)).Nodup) :
    (ofLoaded packs).packs = Version.sort (fun (pack : FeaturePack) => pack.gav.version) packs :=
  packs_ofList (((Version.sort_perm _ packs).map (·.gav)).nodup_iff.2 nodup)

/-- The current version of every artifact compares as high as each of its loaded versions. -/
def LatestIsHighest (packs : List FeaturePack) : Prop :=
  ∀ gav : Gav, gav.isLatest = true → ∀ pack ∈ packs, pack.gav.sameArtifact gav = true →
    ∃ latest ∈ packs, (ofLoaded packs).find? gav = some latest ∧
      latest.gav.sameArtifact gav = true ∧
        (Version.order pack.gav.version latest.gav.version).isLE = true

/-- The last element that a search accepts comes after all others that it accepts. -/
theorem find?_reverse_of_pairwise {Element : Type} {Relates : Element → Element → Prop}
    {elements : List Element} (accepts : Element → Bool) (sorted : elements.Pairwise Relates)
    (reflexive : ∀ element, Relates element element) {element : Element}
    (listed : element ∈ elements) (accepted : accepts element = true) :
    ∃ last ∈ elements, elements.reverse.find? accepts = some last ∧ accepts last = true ∧
      Relates element last := by
  obtain ⟨last, isLast⟩ : ∃ last, elements.reverse.find? accepts = some last :=
    Option.isSome_iff_exists.1 (List.find?_isSome.2 ⟨element, List.mem_reverse.2 listed, accepted⟩)
  obtain ⟨alsoAccepted, before, after, split, passed⟩ := List.find?_eq_some_iff_append.1 isLast
  have inOrder : elements = after.reverse ++ last :: before.reverse := by
    rw [← List.reverse_reverse elements, split]
    simp
  subst inOrder
  refine ⟨last, by simp, isLast, alsoAccepted, ?_⟩
  rcases List.mem_append.1 listed with isEarlier | isLater
  · exact (List.pairwise_append.1 sorted).2.2 element isEarlier last List.mem_cons_self
  · rcases List.mem_cons.1 isLater with rfl | isAfter
    · exact reflexive element
    · have notAccepted := passed element (List.mem_reverse.1 isAfter)
      simp [accepted] at notAccepted

theorem latestIsHighest_of_transitiveOn {packs : List FeaturePack}
    (nodup : (packs.map (·.gav)).Nodup)
    (transitive : Version.TransitiveOn (packs.map fun pack => pack.gav.version)) :
    LatestIsHighest packs := by
  intro gav isLatest pack listed same
  have sorted := Version.sort_pairwise transitive
  have perm := Version.sort_perm (fun (pack : FeaturePack) => pack.gav.version) packs
  rw [← packs_ofLoaded nodup] at sorted perm
  obtain ⟨latest, isListed, isFound, isArtifact, highest⟩ :=
    find?_reverse_of_pairwise (fun pack => pack.gav.sameArtifact gav) sorted
      (fun pack => Version.isLE_self pack.gav.version) (perm.mem_iff.2 listed) same
  refine ⟨latest, perm.mem_iff.1 isListed, ?_, isArtifact, highest⟩
  rw [find?, if_pos isLatest]
  exact isFound

/-- A description keeps the coordinate of its manifest. -/
theorem gav_of_describe {manifest : Manifest.FeaturePack} {pack : FeaturePack}
    (described : manifest.describe = .ok pack) : pack.gav = manifest.gav := by
  simp only [Manifest.FeaturePack.describe, bind_eq_ok_iff] at described
  obtain ⟨dependencies, _, packages, _, specs, _, groups, _, configs, _, built⟩ := described
  rw [FeaturePack.build] at built
  split at built
  · cases built
  · cases built
    rfl

section

variable {State Result Final : Type}

/-- A computation on a disk gets through two steps one after the other. -/
theorem run_bind_eq_ok {first : Stored (StateM State) Result}
    {next : Result → Stored (StateM State) Final} {before after : State} {result : Final}
    (isResult : (first >>= next).run.run before = (.ok result, after)) :
    ∃ value between, first.run.run before = (.ok value, between) ∧
      (next value).run.run between = (.ok result, after) := by
  simp only [ExceptT.run_bind, StateT.run_bind] at isResult
  cases isFirst : first.run.run before with
  | mk attempt between =>
      rw [isFirst] at isResult
      cases attempt with
      | error problem => cases isResult
      | ok value => exact ⟨value, between, rfl, isResult⟩

end

/-- Feature-packs that are loaded have different coordinates, and none has one that is known. -/
theorem nodup_of_loadAll {State : Type} {disk : Disk (StateM State)} {root : String}
    {sources : List (Gav × String)} {found : List (Except Fault String)}
    {packs : List FeaturePack} {before after : State}
    (loaded : (loadAll disk root sources found).run.run before = (.ok packs, after)) :
    (packs.map (·.gav)).Nodup ∧ ∀ pack ∈ packs, pack.gav ∉ sources.map Prod.fst := by
  induction found generalizing sources packs before with
  | nil =>
      cases loaded
      simp
  | cons path rest inductionHypothesis =>
      cases path with
      | error fault => cases loaded
      | ok path =>
          rw [loadAll] at loaded
          obtain ⟨manifest, between, _, loaded⟩ := run_bind_eq_ok loaded
          split at loaded
          · cases loaded
          · next isNew =>
            obtain ⟨pack, next, isDescribed, loaded⟩ := run_bind_eq_ok loaded
            obtain ⟨others, last, isRest, isPacks⟩ := run_bind_eq_ok loaded
            cases isPacks
            cases described : manifest.describe with
            | error problem =>
                rw [described] at isDescribed
                cases isDescribed
            | ok pack =>
                rw [described] at isDescribed
                cases isDescribed
                -- The rest is loaded with the new coordinates among the known ones.
                obtain ⟨restDistinct, restNew⟩ := inductionHypothesis isRest
                simp only [List.map_cons, List.mem_cons, not_or] at restNew
                have same := gav_of_describe described
                refine ⟨List.nodup_cons.2 ⟨fun again => ?_, restDistinct⟩, ?_⟩
                · obtain ⟨other, isOther, equal⟩ := List.mem_map.1 again
                  exact (restNew other isOther).1 (equal.trans same)
                · rw [List.forall_mem_cons, same]
                  refine ⟨fun known => ?_, fun other isOther => (restNew other isOther).2⟩
                  obtain ⟨source, isSource, equal⟩ := List.mem_map.1 known
                  simpa [equal] using List.find?_eq_none.1 isNew source isSource

/-- Whatever is on a disk, a repository that is loaded from it holds each coordinate once. -/
theorem exists_of_load {State : Type} {disk : Disk (StateM State)} {root : String}
    {repository : Repository} {before after : State}
    (loaded : (load disk root).run.run before = (.ok repository, after)) :
    ∃ packs : List FeaturePack, (packs.map (·.gav)).Nodup ∧ repository = ofLoaded packs := by
  rw [load] at loaded
  obtain ⟨isDirectory, between, _, loaded⟩ := run_bind_eq_ok loaded
  split at loaded
  · obtain ⟨_, _, thrown, _⟩ := run_bind_eq_ok loaded
    cases thrown
  · obtain ⟨found, next, _, loaded⟩ := run_bind_eq_ok loaded
    obtain ⟨packs, last, isPacks, isRepository⟩ := run_bind_eq_ok loaded
    cases isRepository
    exact ⟨packs, (nodup_of_loadAll isPacks).1, rfl⟩

/-- The current version of every artifact is its highest where the order of the loaded versions is
transitive, which it is unless different numbers stand beside something that is no number. Whatever
is loaded from a disk are feature-packs with different coordinates. -/
theorem latest_is_highest (packs : List FeaturePack) (nodup : (packs.map (·.gav)).Nodup) :
    (∀ first second, (Version.order first second).swap = Version.order second first) ∧
    (Version.Orderly (packs.map fun pack => pack.gav.version) →
      Version.TransitiveOn (packs.map fun pack => pack.gav.version)) ∧
    (Version.TransitiveOn (packs.map fun pack => pack.gav.version) → LatestIsHighest packs) ∧
    ∀ (State : Type) (disk : Disk (StateM State)) (root : String) (repository : Repository)
      (before after : State), (load disk root).run.run before = (.ok repository, after) →
        ∃ loaded : List FeaturePack, (loaded.map (·.gav)).Nodup ∧ repository = ofLoaded loaded := by
  refine ⟨Version.order_swap, Version.transitiveOn_of_orderly, ?_, ?_⟩
  · intro transitive
    exact latestIsHighest_of_transitiveOn nodup transitive
  · intro State disk root repository before after loaded
    exact exists_of_load loaded

/-! Three feature-packs ship nothing: two versions of one artifact and one of another between them. -/

namespace Mixture

def pack (artifact version : String) : FeaturePack where
  gav := ⟨"g", artifact, version⟩
  dependencies := []
  packages := []
  markedDefaults := []
  specs := []
  groups := []
  configs := []
  accepted := by rfl

def packs (other : String) : List FeaturePack := [pack "x" "10", pack "y" other, pack "x" "2"]

def latest : Gav := ⟨"g", "x", Gav.latestVersion⟩

theorem nodup_gavs (other : String) : ((packs other).map (·.gav)).Nodup := by
  simp [packs, pack]

theorem orderly : Version.Orderly ["10", "1", "2"] := by
  intro position
  refine Or.inl ?_
  cases position with
  | zero => decide
  | succ position =>
      -- No version has a second segment.
      have short : ∀ version ∈ ["10", "1", "2"], (Version.segments version).length ≤ 1 := by decide
      intro segment listed
      obtain ⟨version, isVersion, isSegment⟩ := List.mem_filterMap.1 listed
      have inside := (List.getElem?_eq_some_iff.1 isSegment).1
      have bound := short version isVersion
      omega

end Mixture

/-- Numbers alone are ordered by their values, and the highest of an artifact is current. -/
theorem latestIsHighest_numbers :
    LatestIsHighest (Mixture.packs "1") ∧
      (ofLoaded (Mixture.packs "1")).find? Mixture.latest = some (Mixture.pack "x" "10") := by
  obtain ⟨_, ordered, highest, _⟩ :=
    latest_is_highest (Mixture.packs "1") (Mixture.nodup_gavs "1")
  exact ⟨highest (ordered Mixture.orderly), by rfl⟩

/-- A version of the other artifact that is no number makes the order a circle, and then a lower
version is current. -/
theorem not_latestIsHighest_mixture :
    (Version.order "2" "10" = .lt ∧ Version.order "10" "1a" = .lt ∧ Version.order "1a" "2" = .lt) ∧
      (ofLoaded (Mixture.packs "1a")).find? Mixture.latest = some (Mixture.pack "x" "2") ∧
      ¬LatestIsHighest (Mixture.packs "1a") := by
  have found : (ofLoaded (Mixture.packs "1a")).find? Mixture.latest =
      some (Mixture.pack "x" "2") := by rfl
  refine ⟨by decide, found, fun highest => ?_⟩
  obtain ⟨latest, _, isLatest, _, isLE⟩ :=
    highest Mixture.latest rfl (Mixture.pack "x" "10") List.mem_cons_self rfl
  obtain rfl := Option.some.inj (isLatest.symm.trans found)
  revert isLE
  decide

end Provisioning.Repository
