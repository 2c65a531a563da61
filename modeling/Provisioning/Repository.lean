/-
This file defines where a run looks feature-packs up.
-/

import Provisioning.Pack.FeaturePack

namespace Provisioning

namespace Repository

/-- A feature-pack with a known coordinate takes the place of the known one. -/
def put (pack : FeaturePack) : List FeaturePack → List FeaturePack
  | [] => [pack]
  | known :: rest => if known.gav = pack.gav then pack :: rest else known :: put pack rest

theorem mem_gavs_put {pack : FeaturePack} {packs : List FeaturePack} {gav : Gav} :
    gav ∈ (put pack packs).map (·.gav) ↔ gav = pack.gav ∨ gav ∈ packs.map (·.gav) := by
  induction packs with
  | nil => simp [put]
  | cons known rest inductionHypothesis =>
      unfold put
      split
      · next same => simp [same]
      · rw [List.map_cons, List.mem_cons, inductionHypothesis, List.map_cons, List.mem_cons]
        exact or_left_comm

theorem nodup_put (pack : FeaturePack) {packs : List FeaturePack}
    (nodup : (packs.map (·.gav)).Nodup) : ((put pack packs).map (·.gav)).Nodup := by
  induction packs with
  | nil => simp [put]
  | cons known rest inductionHypothesis =>
      unfold put
      rw [List.map_cons, List.nodup_cons] at nodup
      split
      · next same => simpa [← same] using nodup
      · next different =>
        rw [List.map_cons, List.nodup_cons, mem_gavs_put]
        exact ⟨fun found => found.elim different nodup.1, inductionHypothesis nodup.2⟩

end Repository

/-- A repository lists feature-packs in the order in which their coordinates first arrived. -/
structure Repository where
  packs : List FeaturePack
  gavsNodup : (packs.map (·.gav)).Nodup

namespace Repository

def empty : Repository := ⟨[], List.nodup_nil⟩

def insert (repository : Repository) (pack : FeaturePack) : Repository :=
  ⟨put pack repository.packs, nodup_put pack repository.gavsNodup⟩

def ofList (packs : List FeaturePack) : Repository := packs.foldl insert empty

def size (repository : Repository) : Nat := repository.packs.length

def isEmpty (repository : Repository) : Bool := repository.packs.isEmpty

/-- The current version of an artifact is the one that comes last. -/
def find? (repository : Repository) (gav : Gav) : Option FeaturePack :=
  if gav.isLatest then
    repository.packs.reverse.find? fun pack => pack.gav.sameArtifact gav
  else
    repository.packs.find? fun pack => pack.gav == gav

/-- Whatever is found belongs to the repository and has the artifact that was asked for. -/
theorem find?_eq_some {repository : Repository} {gav : Gav} {pack : FeaturePack}
    (found : repository.find? gav = some pack) :
    pack ∈ repository.packs ∧ pack.gav.sameArtifact gav = true := by
  unfold find? at found
  split at found
  · refine ⟨List.mem_reverse.1 (List.mem_of_find?_eq_some found), ?_⟩
    simpa using List.find?_some found
  · have same : pack.gav = gav := by simpa using List.find?_some found
    exact ⟨List.mem_of_find?_eq_some found, by simp [same, Gav.sameArtifact]⟩

end Repository

end Provisioning
