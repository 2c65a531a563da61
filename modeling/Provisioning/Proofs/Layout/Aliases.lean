/-
This file proves that the aliases in an accepted feature-pack lead to entries of the layout.
-/

import Provisioning.Proofs.Layout.Chain

namespace Provisioning

namespace FeaturePack

/-- A feature-pack goes by an alias where one of its packages depends on packages of another
feature-pack, or where a reference of one of its specs leads to a spec of another. -/
inductive GoesBy (pack : FeaturePack) : String → Prop where
  | package {package : Package} {origin : String} (shipped : package ∈ pack.packages)
      (used : origin ∈ package.externals.keys) : GoesBy pack origin
  | reference {spec : FeatureSpec} {reference : FeatureReference} {origin : String}
      (declared : spec ∈ pack.specs) (listed : reference ∈ spec.references)
      (isOrigin : reference.origin = some origin) : GoesBy pack origin

variable {pack : FeaturePack}

/-- The packages of a feature-pack depend on each other and on what it has an alias for. -/
theorem packages_accepted {package : Package} (shipped : package ∈ pack.packages) :
    (∀ dependency ∈ package.locals, pack.hasPackage dependency.name = true) ∧
      ∀ origin ∈ package.externals.keys, pack.hasAlias origin = true := by
  have accepted := pack.accepted
  simp only [Declaration.problem?, Option.or_eq_none_iff, List.findSome?_eq_none_iff] at accepted
  have known := accepted.2.2.1 package shipped
  simp only [Declaration.packageDependencyProblem?, Option.or_eq_none_iff,
    List.findSome?_eq_none_iff] at known
  simpa using known

/-- The references of specs use aliases of the feature-pack. -/
theorem specs_accepted {spec : FeatureSpec} (declared : spec ∈ pack.specs)
    {reference : FeatureReference} (listed : reference ∈ spec.references) {origin : String}
    (isOrigin : reference.origin = some origin) : pack.hasAlias origin = true := by
  have accepted := pack.accepted
  simp only [Declaration.problem?, Option.or_eq_none_iff] at accepted
  obtain ⟨before, after, split⟩ := List.append_of_mem declared
  have known := (Checks.first_eq_none_iff _ _).1 accepted.2.2.2.2.1 before spec after split
  simp only [Declaration.specProblem?, Option.or_eq_none_iff, List.findSome?_eq_none_iff] at known
  have noProblem := known.1 reference listed
  simpa [isOrigin] using noProblem

theorem GoesBy.hasAlias {origin : String} (goesBy : pack.GoesBy origin) :
    pack.hasAlias origin = true := by
  cases goesBy with
  | package shipped used => exact (packages_accepted shipped).2 origin used
  | reference declared listed isOrigin => exact specs_accepted declared listed isOrigin

/-- No two dependencies of a feature-pack share an alias. -/
theorem aliasesDistinct (pack : FeaturePack) :
    pack.dependencies.Pairwise fun first second =>
      ¬∃ origin, first.origin = some origin ∧ second.origin = some origin := by
  have accepted := pack.accepted
  rw [Declaration.problem?, Option.or_eq_none_iff] at accepted
  refine Checks.pairwise_of_first ?_ accepted.1
  rintro earlier dependency noProblem known isEarlier ⟨origin, isKnown, isOrigin⟩
  simp only [Declaration.dependencyProblem?, isOrigin] at noProblem
  split at noProblem
  · cases noProblem
  split at noProblem
  · cases noProblem
  split at noProblem
  · cases noProblem
  · next unused => exact unused (List.any_eq_true.2 ⟨known, isEarlier, by simp [isKnown]⟩)

/-- An alias stands for the one dependency that is declared under it. -/
theorem dependency?_eq_some_iff {origin : String} {dependency : PackDependency} :
    pack.dependency? origin = some dependency ↔
      dependency ∈ pack.dependencies ∧ dependency.origin = some origin := by
  constructor
  · intro isFound
    exact ⟨List.mem_of_find?_eq_some isFound, by simpa using List.find?_some isFound⟩
  · rintro ⟨declared, isOrigin⟩
    refine Checks.find?_of_distinct ?_ declared (by simpa using isOrigin)
    refine pack.aliasesDistinct.imp fun apart same => apart ⟨origin, ?_⟩
    simpa using same

end FeaturePack

namespace Layout

theorem resolveOrigin_eq_ok_iff {layout : Layout} {scope : Scope} {origin : String} {target : Nat} :
    layout.resolveOrigin scope origin = .ok target ↔
      layout.originIndex? scope origin = some target := by
  unfold resolveOrigin
  split
  · next index isIndex => simp [isIndex]
  · next absent => simp [absent]

/-- An alias of the feature-pack at an index belongs to one dependency, and it leads to the entry of
the artifact that this dependency names. -/
structure AliasLeads (layout : Layout) (index : Nat) (pack : FeaturePack) (origin : String)
    (dependency : PackDependency) (target : Nat) : Prop where
  declared : ∀ other, (other ∈ pack.dependencies ∧ other.origin = some origin) ↔ other = dependency
  resolves : layout.resolveOrigin (.pack index) origin = .ok target
  isArtifact : ∀ other, (∃ entry, layout.entries[other]? = some entry ∧
    entry.gav.sameArtifact dependency.gav = true) ↔ other = target

section

variable {layout : Layout} {repository : Repository} {request : Request} {index : Nat}
  {entry : LayoutEntry} {origin : String}
  (built : Layout.build repository request = .ok layout)
  (isEntry : layout.entries[index]? = some entry)
include built isEntry

/-- Every alias that an accepted feature-pack has leads to an entry. -/
theorem aliasLeads_of_hasAlias (hasAlias : entry.pack.hasAlias origin = true) :
    ∃ dependency target, AliasLeads layout index entry.pack origin dependency target := by
  have contract := contract_of_build built
  have listed := contract.dependenciesListed entry (List.mem_of_getElem? isEntry)
  rw [FeaturePack.Declaration.hasAlias, ← listed, List.any_map, List.any_eq_true] at hasAlias
  obtain ⟨link, isLink, isAlias⟩ := hasAlias
  obtain ⟨found, isFound⟩ := Option.isSome_iff_exists.1
    (List.find?_isSome.2 ⟨link, isLink, isAlias⟩)
  have inEntry := List.mem_of_find?_eq_some isFound
  have isOrigin : found.2.origin = some origin := by simpa using List.find?_some isFound
  obtain ⟨target, isTarget, sameArtifact⟩ :=
    contract.dependenciesPlaced entry (List.mem_of_getElem? isEntry) found inEntry
  refine ⟨found.2, found.1, ?_, ?_, ?_⟩
  · intro other
    have declared : found.2 ∈ entry.pack.dependencies := listed ▸ List.mem_map_of_mem inEntry
    rw [← FeaturePack.dependency?_eq_some_iff,
      FeaturePack.dependency?_eq_some_iff.2 ⟨declared, isOrigin⟩, Option.some.injEq, eq_comm]
  · have leads : layout.originIndex? (.pack index) origin = some found.1 := by
      simp only [originIndex?, isEntry, Option.bind_some]
      exact Option.map_eq_some_iff.2 ⟨found, isFound, rfl⟩
    exact resolveOrigin_eq_ok_iff.2 leads
  · intro other
    constructor
    · rintro ⟨known, isKnown, same⟩
      exact contract.distinct.position_eq isKnown isTarget
        (Gav.sameArtifact_trans same (Gav.sameArtifact_symm sameArtifact))
    · rintro rfl
      exact ⟨target, isTarget, sameArtifact⟩

theorem aliasLeads_of_goesBy (goesBy : entry.pack.GoesBy origin) :
    ∃ dependency target, AliasLeads layout index entry.pack origin dependency target :=
  aliasLeads_of_hasAlias built isEntry goesBy.hasAlias

end

end Layout

end Provisioning
