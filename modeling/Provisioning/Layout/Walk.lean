/-
This file places the requested feature-packs and everything they depend on.
-/

import Provisioning.ProvisioningError
import Provisioning.Remaining
import Provisioning.Repository
import Provisioning.Request

namespace Provisioning

/-- Unqualified names are looked up from the installation or from one feature-pack. -/
inductive Scope where
  /-- All requested feature-packs are in reach, under the aliases of the request. -/
  | installation
  /-- The feature-pack at this index is in reach, and its dependencies after it. -/
  | pack (index : Nat)
deriving DecidableEq, Repr

/-- A feature-pack is placed together with the pack configs that lead to it, outermost first. -/
structure Placement where
  pack : FeaturePack
  chain : List PackConfig
  /-- The feature-pack that brought this one in; a requested one has none. -/
  parent : Option Nat

namespace Placement

def gav (placement : Placement) : Gav := placement.pack.gav

def isRequested (placement : Placement) : Bool := placement.parent == none

end Placement

namespace Layout

/-- A feature-pack is asked for with the config that the request gives it. -/
structure Root where
  config : PackConfig
  pack : FeaturePack

/-- The walk knows what was requested and where everything else comes from. -/
structure Sources where
  repository : Repository
  requested : List Root

/-- A feature-pack on the path still has to follow some of its dependencies. -/
structure Visit where
  index : Nat
  placement : Placement
  remaining : List PackDependency

namespace Sources

/-- A requested feature-pack is governed by the request, any other by the pack that wants it. -/
def placementFor? (sources : Sources) (visit : Visit) (dependency : PackDependency) :
    Option Placement :=
  match sources.requested.find? fun root => root.pack.gav.sameArtifact dependency.gav with
  | some root => some ⟨root.pack, [root.config], none⟩
  | none =>
      (sources.repository.find? dependency.gav).map fun pack =>
        ⟨pack, visit.placement.chain ++ [dependency.config], some visit.index⟩

/-- Every feature-pack that the walk can place. -/
def packs (sources : Sources) : List FeaturePack :=
  sources.repository.packs ++ sources.requested.map Root.pack

theorem placementFor?_eq_some {sources : Sources} {visit : Visit} {dependency : PackDependency}
    {placement : Placement} (found : sources.placementFor? visit dependency = some placement) :
    placement.pack ∈ sources.packs ∧ placement.gav.sameArtifact dependency.gav = true := by
  unfold placementFor? at found
  split at found
  · next root isRoot =>
    cases found
    have same := List.find?_some isRoot
    refine ⟨?_, same⟩
    exact List.mem_append_right _ (List.mem_map_of_mem (List.mem_of_find?_eq_some isRoot))
  · obtain ⟨pack, inRepository, rfl⟩ := Option.map_eq_some_iff.1 found
    have known := Repository.find?_eq_some inRepository
    exact ⟨List.mem_append_left _ known.1, known.2⟩

end Sources

/-- Whichever version of the artifact has been placed, with its index. -/
def locate? (placed : List Placement) (gav : Gav) : Option (Placement × Nat) :=
  placed.zipIdx.find? fun place => place.1.gav.sameArtifact gav

/-- No version of the artifact has been placed. -/
def isOpen (placed : List Placement) (gav : Gav) : Bool :=
  placed.all fun place => !place.gav.sameArtifact gav

theorem isOpen_of_locate? {placed : List Placement} {gav : Gav}
    (absent : locate? placed gav = none) : isOpen placed gav = true := by
  rw [isOpen, List.all_eq_true]
  intro place inPlaced
  obtain ⟨index, inside, rfl⟩ := List.getElem_of_mem inPlaced
  have all := List.find?_eq_none.1 absent (placed[index], index)
    (List.mk_mem_zipIdx_iff_getElem?.2 (List.getElem?_eq_getElem inside))
  simpa using all

theorem isOpen_congr {placed : List Placement} {first second : Gav}
    (same : first.sameArtifact second = true) : isOpen placed first = isOpen placed second := by
  simp only [Gav.sameArtifact, Bool.and_eq_true, beq_iff_eq] at same
  simp only [isOpen, Gav.sameArtifact, same.1, same.2]

/-- The number of feature-packs that may still be placed. -/
def openCount (sources : Sources) (placed : List Placement) : Nat :=
  sources.packs.countP fun pack => isOpen placed pack.gav

theorem openCount_lt {sources : Sources} {placed : List Placement} {visit : Visit}
    {dependency : PackDependency} {placement : Placement}
    (absent : locate? placed dependency.gav = none)
    (found : sources.placementFor? visit dependency = some placement) :
    openCount sources (placed ++ [placement]) < openCount sources placed := by
  obtain ⟨listed, same⟩ := Sources.placementFor?_eq_some found
  apply countP_lt_of_settled listed
  · exact (isOpen_congr same).trans (isOpen_of_locate? absent)
  · simp [isOpen, Gav.sameArtifact, Placement.gav]
  · intro other stillOpen
    rw [isOpen, List.all_append, Bool.and_eq_true] at stillOpen
    exact stillOpen.1

/-- The dependencies that the path still has to follow, and one step for each end of a visit. -/
def visitsLeft : List Visit → Nat
  | [] => 0
  | visit :: outer => visit.remaining.length + 1 + visitsLeft outer

/-- The path from a feature-pack back to itself. -/
def cycle? (path : List Visit) (index : Nat) : Option (List Gav) :=
  match path.findIdx? fun visit => visit.index == index with
  | none => none
  | some depth =>
      match ((path.take (depth + 1)).map fun visit => visit.placement.gav).reverse with
      | [] => none
      | first :: rest => some (first :: rest ++ [first])

/-- An artifact is met again in vain if it is on the path or chosen in another version. -/
def revisitProblem? (path : List Visit) (known : Placement × Nat) (dependency : PackDependency) :
    Option ProvisioningError :=
  match cycle? path known.2 with
  | some gavs => some (.cyclicPackDependency gavs)
  | none =>
      if !dependency.gav.isLatest && dependency.gav != known.1.gav && !known.1.isRequested then
        some (.versionConflict dependency.gav.artifactText known.1.gav.version
          dependency.gav.version)
      else
        none

/-- A walk results in the placements and the order in which their visits ended. -/
structure Walked where
  placed : List Placement
  postOrder : List Nat

/-- The innermost visit follows its next dependency, or ends when it has none left. -/
def walk (sources : Sources) (walked : Walked) (path : List Visit) : Provisioned Walked :=
  match path with
  | [] => .ok walked
  | ⟨index, _, []⟩ :: outer =>
      walk sources { walked with postOrder := walked.postOrder ++ [index] } outer
  | ⟨index, placement, dependency :: rest⟩ :: outer =>
      match _located : locate? walked.placed dependency.gav with
      | some known =>
          match revisitProblem? path known dependency with
          | some problem => .error problem
          | none => walk sources walked (⟨index, placement, rest⟩ :: outer)
      | none =>
          match _found : sources.placementFor? ⟨index, placement, rest⟩ dependency with
          | none => .error (.packNotFound dependency.gav)
          | some next =>
              walk sources { walked with placed := walked.placed ++ [next] }
                (⟨walked.placed.length, next, next.pack.dependencies⟩ ::
                  ⟨index, placement, rest⟩ :: outer)
termination_by (openCount sources walked.placed, visitsLeft path)
decreasing_by
  · apply Prod.Lex.right
    simp [visitsLeft]
  · apply Prod.Lex.right
    simp [visitsLeft]
  · apply Prod.Lex.left
    exact openCount_lt _located _found

/-- Requested feature-packs are visited in turn unless a dependency has led to them before. -/
def walkRoots (sources : Sources) (walked : Walked) : List Root → Provisioned Walked
  | [] => .ok walked
  | root :: rest =>
      match locate? walked.placed root.pack.gav with
      | some _ => walkRoots sources walked rest
      | none => do
          let placement : Placement := ⟨root.pack, [root.config], none⟩
          let next ← walk sources { walked with placed := walked.placed ++ [placement] }
            [⟨walked.placed.length, placement, root.pack.dependencies⟩]
          walkRoots sources next rest

/-- The repository has every requested feature-pack. -/
def roots (repository : Repository) : List PackConfig → Provisioned (List Root)
  | [] => .ok []
  | config :: rest =>
      match repository.find? config.gav with
      | none => .error (.packNotFound config.gav)
      | some pack => do
          return ⟨config, pack⟩ :: (← roots repository rest)

end Layout

end Provisioning
