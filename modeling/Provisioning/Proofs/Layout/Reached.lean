/-
This file says which feature-packs a request leads to when every coordinate is looked up on its own.
-/

import Mathlib.Data.List.Find
import Provisioning.Proofs.Layout.Chain
import Provisioning.Proofs.Related

namespace Provisioning.Layout

/-- The request decides on the version of what it lists. -/
def lookedUp (request : Request) (gav : Gav) : Gav :=
  match request.packForArtifact? gav with
  | some config => config.gav
  | none => gav

/-- The feature-pack that a coordinate stands for, whatever else is laid out. -/
def chosen? (repository : Repository) (request : Request) (gav : Gav) : Option FeaturePack :=
  repository.find? (lookedUp request gav)

/-- A feature-pack is reached from the request or from a feature-pack that depends on it. -/
inductive Reached (repository : Repository) (request : Request) : FeaturePack → Prop where
  | requested {config : PackConfig} {pack : FeaturePack} (listed : config ∈ request.packs)
      (found : repository.find? config.gav = some pack) : Reached repository request pack
  | dependency {dependent target : FeaturePack} {dependency : PackDependency}
      (reached : Reached repository request dependent)
      (declared : dependency ∈ dependent.dependencies)
      (found : chosen? repository request dependency.gav = some target) :
      Reached repository request target

variable {repository : Repository} {request : Request} {requested : List Root} {gav : Gav}
  {pack : FeaturePack}

/-- The listed version of an artifact is looked up. -/
theorem lookedUp_of_listed {config : PackConfig} (listed : config ∈ request.packs)
    (same : config.gav.sameArtifact gav = true) : lookedUp request gav = config.gav := by
  have found : request.packForArtifact? gav = some config := by
    refine Checks.find?_of_distinct ?_ listed same
    refine request.artifactsDistinct.imp fun {first second} apart both => ?_
    rw [Gav.sameArtifact_trans both.1 (Gav.sameArtifact_symm both.2)] at apart
    cases apart
  rw [lookedUp, found]

/-- An artifact that is not listed is looked up as the dependency names it. -/
theorem lookedUp_of_unlisted
    (unlisted : ∀ config ∈ request.packs, config.gav.sameArtifact gav = false) :
    lookedUp request gav = gav := by
  have notFound : request.packForArtifact? gav = none :=
    List.find?_eq_none.2 fun config listed => by simp [unlisted config listed]
  rw [lookedUp, notFound]

/-- The artifact that is looked up stays the same. -/
theorem sameArtifact_lookedUp (request : Request) (gav : Gav) :
    (lookedUp request gav).sameArtifact gav = true := by
  rw [lookedUp]
  split
  · next config isListed =>
    exact List.find?_some (p := fun config : PackConfig => config.gav.sameArtifact gav) isListed
  · exact Gav.sameArtifact_self gav

/-- A coordinate stands for a feature-pack of the repository with the same artifact. -/
theorem chosen?_eq_some (found : chosen? repository request gav = some pack) :
    pack ∈ repository.packs ∧ pack.gav.sameArtifact gav = true := by
  obtain ⟨known, same⟩ := Repository.find?_eq_some found
  exact ⟨known, Gav.sameArtifact_trans same (sameArtifact_lookedUp request gav)⟩

/-- What is reached is in the repository. -/
theorem Reached.mem_packs (reached : Reached repository request pack) :
    pack ∈ repository.packs := by
  cases reached with
  | requested _ found => exact (Repository.find?_eq_some found).1
  | dependency _ _ found => exact (chosen?_eq_some found).1

/-- Repositories with corresponding feature-packs find corresponding ones. -/
theorem rel_find?_of_packs {Alike : FeaturePack → FeaturePack → Prop} {first second : Repository}
    (alike : List.Forall₂ Alike first.packs second.packs)
    (gavs : ∀ pack other, Alike pack other → pack.gav = other.gav) (gav : Gav) :
    Option.Rel Alike (first.find? gav) (second.find? gav) := by
  unfold Repository.find?
  split
  · exact rel_find? (List.rel_reverse alike) fun pack other same => by rw [gavs pack other same]
  · exact rel_find? alike fun pack other same => by rw [gavs pack other same]

/-- A repository has one feature-pack under a coordinate. -/
theorem eq_of_gav {first second : FeaturePack} (isFirst : first ∈ repository.packs)
    (isSecond : second ∈ repository.packs) (same : first.gav = second.gav) : first = second :=
  List.inj_on_of_nodup_map repository.gavsNodup isFirst isSecond same

/-- A version that is asked for by its name is the one that is found. -/
theorem find?_eq_some_iff_of_concrete (concrete : gav.isLatest = false) :
    repository.find? gav = some pack ↔ pack ∈ repository.packs ∧ pack.gav = gav := by
  rw [Repository.find?, if_neg (by simp [concrete])]
  exact Checks.find?_key_eq_some_iff repository.gavsNodup

/-- The feature-pack that is found among the requested ones is the one that is looked up for its
artifact. -/
theorem chosen?_of_root (isRequested : roots repository request.packs = .ok requested) {root : Root}
    (isRoot : root ∈ requested) (same : root.pack.gav.sameArtifact gav = true) :
    chosen? repository request gav = some root.pack := by
  obtain ⟨sameConfigs, found⟩ := roots_eq_ok isRequested
  have listed : root.config ∈ request.packs := sameConfigs ▸ List.mem_map_of_mem isRoot
  have sameConfig := Gav.sameArtifact_symm (Repository.find?_eq_some (found root isRoot)).2
  rw [chosen?, lookedUp_of_listed listed (Gav.sameArtifact_trans sameConfig same)]
  exact found root isRoot

/-- An artifact that is not requested is chosen by the repository. -/
theorem chosen?_of_unrequested (isRequested : roots repository request.packs = .ok requested)
    (unrequested : ∀ root ∈ requested, ¬root.pack.gav.sameArtifact gav = true) :
    chosen? repository request gav = repository.find? gav := by
  rw [chosen?, lookedUp_of_unlisted]
  intro config listed
  rw [← Bool.not_eq_true]
  intro same
  obtain ⟨root, isRoot, also⟩ := (exists_root_iff isRequested).2 ⟨config, listed, same⟩
  exact unrequested root isRoot also

/-- A walk that has not met an artifact before places what its coordinate stands for. -/
theorem map_pack_placementFor? (isRequested : roots repository request.packs = .ok requested)
    (visit : Visit) (dependency : PackDependency) :
    (Sources.placementFor? ⟨repository, requested⟩ visit dependency).map Placement.pack =
      chosen? repository request dependency.gav := by
  unfold Sources.placementFor?
  split
  · next root isRoot =>
    have same := List.find?_some isRoot
    rw [chosen?_of_root isRequested (List.mem_of_find?_eq_some isRoot) same]
    rfl
  · next noRoot =>
    rw [chosen?_of_unrequested isRequested (List.find?_eq_none.1 noRoot), Option.map_map]
    exact Option.map_id'

end Provisioning.Layout
