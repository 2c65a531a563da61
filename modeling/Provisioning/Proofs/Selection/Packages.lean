/-
This file proves that exactly the reachable packages are selected and provisioned.
-/

import Mathlib.Data.List.Permutation
import Provisioning.Proofs.Positions
import Provisioning.Proofs.Selection.Demands
import Provisioning.Provision

namespace Provisioning.PackageSelection

section

variable {layout : Layout} {index target : Nat} {name : String} {package : Package}
  {dependency : PackageDependency} {repository : Repository} {request : Request}
  {final : Selected} {packages : List (OrderedSet String)}

/-- What a settled package depends on is met. -/
theorem Settled.dependencyMet (settled : Settled layout final (index, name))
    (isDefined : Defines layout index name package)
    (depends : DependsOn layout index package target dependency) :
    DependencyMet layout final target dependency := by
  obtain ⟨gav, found, isFound, met⟩ := settled
  obtain ⟨_, known⟩ := exists_define? isDefined
  rw [isFound, Option.some.injEq, Prod.mk.injEq] at known
  obtain ⟨_, rfl⟩ := known
  rw [forall_mem_demandsOf_iff] at met
  cases depends with
  | inside declared => exact met.1 _ declared
  | outside isGroup declared leads =>
      obtain ⟨other, alsoLeads, dependenciesMet⟩ := met.2 _ isGroup
      rw [leads, Option.some.injEq] at alsoLeads
      exact alsoLeads ▸ dependenciesMet _ declared

section

variable (built : Layout.build repository request = .ok layout)
include built

/-- A selection that meets the initial demands has all reachable packages. -/
theorem Completes.mem_of_reachable
    (completes : Completes layout [] (initialDemands layout) final)
    (reachable : Reachable layout index name) : (index, name) ∈ final := by
  induction reachable with
  | @seed index name isSeed =>
      obtain ⟨entry, config, isEntry, governs, isPicked, kept⟩ := isSeed
      obtain ⟨overExclusion, isPick⟩ := exists_mem_picks isPicked index entry.isRequested
      have isInitial := (mem_initialDemands_iff built).2
        ⟨index, entry, config, isEntry, governs, isPick⟩
      exact completes.met _ isInitial kept
  | dependency _ isDefined depends kept inductionHypothesis =>
      have settled := (completes.settled _ inductionHypothesis).resolve_left List.not_mem_nil
      exact (settled.dependencyMet isDefined depends).2 kept

/-- A selection that completes was selectable. -/
theorem Completes.selectable (completes : Completes layout [] (initialDemands layout) final) :
    Selectable layout where
  isDefined := by
    intro index name reachable
    have selected := completes.mem_of_reachable built reachable
    obtain ⟨gav, package, found, _⟩ :=
      (completes.settled _ selected).resolve_left List.not_mem_nil
    exact ⟨package, defines_of_define? found⟩
  requirementsKept := by
    intro index name package reachable isDefined target dependency depends required excluded
    have selected := completes.mem_of_reachable built reachable
    have settled := (completes.settled _ selected).resolve_left List.not_mem_nil
    have optional := (settled.dependencyMet isDefined depends).1 excluded
    rw [required] at optional
    cases optional

/-- The selected packages are the reachable ones. -/
theorem mem_iff_reachable (ended : meet layout [] (initialDemands layout) = .ok final) :
    (index, name) ∈ final ↔ Reachable layout index name := by
  constructor
  · intro selected
    have sound := meet_sound built (selecting_initial built)
    rw [ended] at sound
    exact sound.reachable _ selected
  · exact (completes_of_meet built ended).mem_of_reachable built

/-- The selection succeeds exactly when it is selectable. -/
theorem succeeds_selectPackages_iff : Succeeds layout.selectPackages ↔ Selectable layout := by
  simp only [Layout.selectPackages, succeeds_bind_iff, succeeds_pure, and_true]
  constructor
  · rintro ⟨final, ended⟩
    exact (completes_of_meet built ended).selectable built
  · intro selectable
    have sound := meet_sound built (selecting_initial built)
    cases ended : meet layout [] (initialDemands layout) with
    | ok final => exact ⟨final, rfl⟩
    | error problem =>
        rw [ended] at sound
        exact absurd selectable sound

/-- The set of an entry has its reachable packages, each once and none of them excluded. -/
structure SelectsReachable (layout : Layout) (index : Nat) (set : OrderedSet String) : Prop where
  mem_iff : ∀ package, package ∈ set.elements ↔ Reachable layout index package
  once : set.elements.Nodup
  noneExcluded : ∀ package ∈ set.elements, ¬IsExcluded layout index package

/-- Each feature-pack has its reachable packages selected. -/
theorem selectsReachable_of_selectPackages (selected : layout.selectPackages = .ok packages) :
    packages.length = layout.entries.length ∧ ∀ index set, packages[index]? = some set →
      SelectsReachable layout index set := by
  simp only [Layout.selectPackages, bind_eq_ok_iff, pure_eq_ok_iff] at selected
  obtain ⟨final, ended, rfl⟩ := selected
  refine ⟨by simp, fun index set isSet => ?_⟩
  rw [List.getElem?_map, Option.map_eq_some_iff] at isSet
  obtain ⟨other, isOther, rfl⟩ := isSet
  obtain ⟨_, isIndex⟩ := List.getElem?_eq_some_iff.1 isOther
  rw [List.getElem_range] at isIndex
  subst isIndex
  have mem_iff : ∀ package, package ∈ (OrderedSet.ofList
      ((final.filter fun selected => selected.1 == index).map Prod.snd)).elements ↔
        Reachable layout index package := by
    intro package
    rw [OrderedSet.mem_ofList, ← mem_iff_reachable built ended]
    simp
  exact ⟨mem_iff, OrderedSet.nodup _, fun package listed =>
    ((mem_iff package).1 listed).not_isExcluded⟩

/-- A feature-pack is provisioned if it is requested or if a package of it is reachable. -/
def IsProvisioned (layout : Layout) (index : Nat) : Prop :=
  ∃ entry, layout.entries[index]? = some entry ∧
    ((∃ config ∈ layout.request.packs, config.gav.sameArtifact entry.gav = true) ∨
      ∃ package, Reachable layout index package)

/-- A provisioned feature-pack is the entry at an index with its reachable packages. -/
def Provisions (layout : Layout) (index : Nat) (pack : ProvisionedPack) : Prop :=
  ∃ entry, layout.entries[index]? = some entry ∧ pack.gav = entry.gav ∧
    SelectsReachable layout index pack.packages

/-- A feature-pack is kept when it is requested or has a reachable package. -/
theorem isKept_iff {entry : LayoutEntry} (isEntry : layout.entries[index]? = some entry)
    {set : OrderedSet String} (reachable : SelectsReachable layout index set) :
    (entry.isRequested || !set.isEmpty) = true ↔ IsProvisioned layout index := by
  simp only [IsProvisioned, isEntry, Option.some.injEq, exists_eq_left', Bool.or_eq_true,
    Bool.not_eq_true', Layout.isRequested_iff_listed built isEntry,
    OrderedSet.isEmpty_eq_false_iff, reachable.mem_iff]

/-- The provisioned feature-packs are in the order of the layout, with their reachable packages. -/
theorem provisions_reachable {state : ProvisionedState}
    (provisioned : provision repository request = .ok state) :
    ∃ indices : List Nat, indices.Pairwise (· < ·) ∧
      (∀ index, index ∈ indices ↔ IsProvisioned layout index) ∧
      List.Forall₂ (Provisions layout) indices state.packs := by
  simp only [provision, built, bind_eq_ok_iff, ofDescription_eq_ok_iff, Except.ok.injEq,
    exists_eq_left'] at provisioned
  obtain ⟨packages, selected, configs, _, provisioned⟩ := provisioned
  rw [ProvisionedState.build] at provisioned
  split at provisioned
  · cases provisioned
  cases provisioned
  obtain ⟨sameLength, reachable⟩ := selectsReachable_of_selectPackages built selected
  obtain ⟨positions, ascending, mem_iff, listed⟩ := exists_positions
    (fun place : (LayoutEntry × OrderedSet String) × Nat =>
      place.1.1.isRequested || !place.1.2.isEmpty)
    (fun entry => (⟨entry.1.gav, entry.2⟩ : ProvisionedPack)) (layout.entries.zip packages)
  refine ⟨positions, ascending, fun index => ?_, ?_⟩
  · simp only [mem_iff, Prod.exists, List.getElem?_zip_eq_some]
    constructor
    · rintro ⟨entry, set, ⟨isEntry, isSet⟩, isKept⟩
      exact (isKept_iff built isEntry (reachable index set isSet)).1 isKept
    · intro isProvisioned
      obtain ⟨entry, isEntry, _⟩ := id isProvisioned
      have inside : index < packages.length := by
        rw [sameLength]
        exact (List.getElem?_eq_some_iff.1 isEntry).1
      have isSet : packages[index]? = some packages[index] := List.getElem?_eq_getElem inside
      exact ⟨entry, packages[index], ⟨isEntry, isSet⟩,
        (isKept_iff built isEntry (reachable index _ isSet)).2 isProvisioned⟩
  · rw [provisionedPacks, filterMap_eq_map_filter_zipIdx]
    refine listed.imp ?_
    rintro index _ ⟨⟨entry, set⟩, isEntry, rfl⟩
    rw [List.getElem?_zip_eq_some] at isEntry
    exact ⟨entry, isEntry.1, rfl, reachable index set isEntry.2⟩

end

/-- The selection is the least one that has what is picked and all that it depends on. -/
structure LeastSelection (repository : Repository) (request : Request) (layout : Layout) :
    Prop where
  succeeds_iff : Succeeds layout.selectPackages ↔ Selectable layout
  selects : ∀ packages, layout.selectPackages = .ok packages →
    packages.length = layout.entries.length ∧ ∀ index set, packages[index]? = some set →
      SelectsReachable layout index set
  /-- The feature-packs are provisioned in the order of the layout. -/
  provisions : ∀ state, provision repository request = .ok state →
    ∃ indices : List Nat, indices.Pairwise (· < ·) ∧
      (∀ index, index ∈ indices ↔ IsProvisioned layout index) ∧
      List.Forall₂ (Provisions layout) indices state.packs

/-- Packages are selected exactly when they are reachable. -/
theorem leastSelection_of_build (built : Layout.build repository request = .ok layout) :
    LeastSelection repository request layout where
  succeeds_iff := succeeds_selectPackages_iff built
  selects := fun _ selected => selectsReachable_of_selectPackages built selected
  provisions := fun _ provisioned => provisions_reachable built provisioned

end

/-! A bench whose packages need each other and a tool that its feature-pack gets from another. -/

namespace Workshop

def gav (artifact : String) : Gav :=
  ⟨"g", artifact, "1"⟩

def benchConfig : PackConfig :=
  .ofGav (gav "bench")

def toolsConfig : PackConfig :=
  { PackConfig.ofGav (gav "tools") with
    includedPackages := ["saw"]
    excludedPackages := ["drill"]
    consistent := by decide }

def bench : FeaturePack where
  gav := gav "bench"
  dependencies := [⟨some "tools", toolsConfig⟩]
  packages :=
    [⟨"top", [⟨"vise", false⟩],
      ⟨[("tools", [⟨"hammer", false⟩, ⟨"drill", true⟩])], by decide⟩, []⟩,
     ⟨"vise", [⟨"top", false⟩], .empty, []⟩]
  markedDefaults := ["top"]
  specs := []
  groups := []
  configs := []
  accepted := by rfl

def tools : FeaturePack where
  gav := gav "tools"
  dependencies := []
  packages := [⟨"hammer", [], .empty, []⟩, ⟨"drill", [], .empty, []⟩, ⟨"saw", [], .empty, []⟩]
  markedDefaults := ["drill"]
  specs := []
  groups := []
  configs := []
  accepted := by rfl

def repository : Repository :=
  ⟨[bench, tools], by decide⟩

def request : Request :=
  ⟨[benchConfig], .empty, .inheritAll, by simp⟩

def layout : Layout :=
  .ofWalked request
    ⟨[⟨bench, [benchConfig], none⟩, ⟨tools, [benchConfig, toolsConfig], some 0⟩], [1, 0]⟩

theorem build_eq : Layout.build repository request = .ok layout := by
  cbv

end Workshop

/-- The cycle at the bench ends, the hammer comes along, and the excluded drill stays out. -/
theorem leastSelection_workshop :
    Layout.build Workshop.repository Workshop.request = .ok Workshop.layout ∧
      LeastSelection Workshop.repository Workshop.request Workshop.layout ∧
      Workshop.layout.selectPackages =
        .ok [.ofList ["top", "vise"], .ofList ["hammer", "saw"]] :=
  ⟨Workshop.build_eq, leastSelection_of_build Workshop.build_eq, by cbv⟩

end Provisioning.PackageSelection
