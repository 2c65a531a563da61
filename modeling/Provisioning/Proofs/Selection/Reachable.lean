/-
This file says which packages a layout calls for, apart from how they are selected.
-/

import Provisioning.Proofs.Layout.Aliases
import Provisioning.Selection.Packages

namespace Provisioning.PackageSelection

/-- The pack configs that pick and exclude packages of an entry: the one of the request if it
lists the artifact, and otherwise those of all dependencies on it. -/
inductive Governs (layout : Layout) (index : Nat) : PackConfig → Prop where
  | request {entry : LayoutEntry} {config : PackConfig}
      (isEntry : layout.entries[index]? = some entry) (listed : config ∈ layout.request.packs)
      (same : config.gav.sameArtifact entry.gav = true) : Governs layout index config
  | declaration {entry declaring : LayoutEntry} {dependency : PackDependency}
      (isEntry : layout.entries[index]? = some entry)
      (unlisted : ∀ config ∈ layout.request.packs, config.gav.sameArtifact entry.gav = false)
      (isDeclaring : declaring ∈ layout.entries)
      (isLink : (index, dependency) ∈ declaring.dependencies) :
      Governs layout index dependency.config

/-- A package is excluded by any config that governs its feature-pack. -/
def IsExcluded (layout : Layout) (index : Nat) (package : String) : Prop :=
  ∃ config, Governs layout index config ∧ package ∈ config.excludedPackages

/-- A config picks the default packages, if it inherits them, and the packages that it includes. -/
def Picks (pack : FeaturePack) (config : PackConfig) (package : String) : Prop :=
  (config.inheritPackages = true ∧ package ∈ pack.defaultPackages) ∨
    package ∈ config.includedPackages

/-- The selection starts from the packages that are picked and not excluded. -/
def IsSeed (layout : Layout) (index : Nat) (package : String) : Prop :=
  ∃ entry config, layout.entries[index]? = some entry ∧ Governs layout index config ∧
    Picks entry.pack config package ∧ ¬IsExcluded layout index package

/-- The feature-pack at an index defines a package. -/
def Defines (layout : Layout) (index : Nat) (name : String) (package : Package) : Prop :=
  ∃ entry, layout.entries[index]? = some entry ∧ entry.pack.package? name = some package

/-- A package at an index depends on a package at the same or at another index. -/
inductive DependsOn (layout : Layout) (index : Nat) (package : Package) :
    Nat → PackageDependency → Prop where
  | inside {dependency : PackageDependency} (declared : dependency ∈ package.locals) :
      DependsOn layout index package index dependency
  | outside {origin : String} {dependencies : List PackageDependency} {target : Nat}
      {dependency : PackageDependency} (isGroup : (origin, dependencies) ∈ package.externals.entries)
      (declared : dependency ∈ dependencies)
      (leads : layout.originIndex? (.pack index) origin = some target) :
      DependsOn layout index package target dependency

/-- A package is reachable from the seeds over dependencies that are not excluded. -/
inductive Reachable (layout : Layout) : Nat → String → Prop where
  | seed {index : Nat} {package : String} (isSeed : IsSeed layout index package) :
      Reachable layout index package
  | dependency {index target : Nat} {name : String} {package : Package}
      {dependency : PackageDependency} (reachable : Reachable layout index name)
      (isDefined : Defines layout index name package)
      (depends : DependsOn layout index package target dependency)
      (kept : ¬IsExcluded layout target dependency.name) :
      Reachable layout target dependency.name

/-- Every reachable package is there, with everything that it requires. -/
structure Selectable (layout : Layout) : Prop where
  isDefined : ∀ index name, Reachable layout index name →
    ∃ package, Defines layout index name package
  requirementsKept : ∀ index name package, Reachable layout index name →
    Defines layout index name package → ∀ target dependency,
      DependsOn layout index package target dependency → dependency.optional = false →
        ¬IsExcluded layout target dependency.name

variable {layout : Layout} {index : Nat} {name : String} {package : Package} {gav : Gav}

/-- A reachable package is not excluded. -/
theorem Reachable.not_isExcluded (reachable : Reachable layout index name) :
    ¬IsExcluded layout index name := by
  cases reachable with
  | seed isSeed =>
      obtain ⟨_, _, _, _, _, kept⟩ := isSeed
      exact kept
  | dependency _ _ _ kept => exact kept

/-- A package is defined by the entry at its index. -/
theorem define?_eq_some_iff {defined : Gav × Package} :
    define? layout index name = some defined ↔ ∃ entry, layout.entries[index]? = some entry ∧
      entry.pack.package? name = some defined.2 ∧ entry.gav = defined.1 := by
  simp only [define?, Option.bind_eq_some_iff, Option.map_eq_some_iff]
  refine exists_congr fun entry => and_congr_right fun _ => ?_
  constructor
  · rintro ⟨package, isPackage, rfl⟩
    exact ⟨isPackage, rfl⟩
  · rintro ⟨isPackage, isGav⟩
    exact ⟨defined.2, isPackage, by rw [isGav]⟩

/-- A definition that is found is the definition. -/
theorem defines_of_define? (found : define? layout index name = some (gav, package)) :
    Defines layout index name package := by
  obtain ⟨entry, isEntry, isPackage, _⟩ := define?_eq_some_iff.1 found
  exact ⟨entry, isEntry, isPackage⟩

/-- A package that is defined is found. -/
theorem exists_define? (isDefined : Defines layout index name package) :
    ∃ gav, define? layout index name = some (gav, package) := by
  obtain ⟨entry, isEntry, isPackage⟩ := isDefined
  exact ⟨entry.gav, define?_eq_some_iff.2 ⟨entry, isEntry, isPackage, rfl⟩⟩

section

variable {repository : Repository} {request : Request}
  (built : Layout.build repository request = .ok layout)
include built

/-- The aliases that packages use lead to entries of the layout. -/
theorem exists_originIndex? (isDefined : Defines layout index name package) {origin : String}
    (used : origin ∈ package.externals.keys) :
    ∃ target, layout.originIndex? (.pack index) origin = some target := by
  obtain ⟨entry, isEntry, isPackage⟩ := isDefined
  have goesBy : entry.pack.GoesBy origin := .package (List.mem_of_find?_eq_some isPackage) used
  obtain ⟨_, target, leads⟩ := Layout.aliasLeads_of_goesBy built isEntry goesBy
  exact ⟨target, Layout.resolveOrigin_eq_ok_iff.1 leads.resolves⟩

omit built in
/-- The packages that a package needs of its own feature-pack are defined. -/
theorem exists_defines_local (isDefined : Defines layout index name package)
    {dependency : PackageDependency} (declared : dependency ∈ package.locals) :
    ∃ other, Defines layout index dependency.name other := by
  obtain ⟨entry, isEntry, isPackage⟩ := isDefined
  have shipped := List.mem_of_find?_eq_some isPackage
  have known := (FeaturePack.packages_accepted shipped).1 dependency declared
  obtain ⟨other, isOther⟩ := Option.isSome_iff_exists.1
    (List.find?_isSome.2 (List.any_eq_true.1 known))
  exact ⟨other, entry, isEntry, isOther⟩

/-- The config that the request gives to an entry is the one that it lists for the artifact. -/
theorem requestedConfig?_eq_some_iff {entry : LayoutEntry} {config : PackConfig}
    (isEntry : layout.entries[index]? = some entry) :
    layout.requestedConfig? index = some config ↔
      config ∈ layout.request.packs ∧ config.gav.sameArtifact entry.gav = true := by
  simp only [Layout.requestedConfig?, isEntry, Option.bind_some]
  cases Layout.broughtIn_of_build built isEntry with
  | byRequest given isRequested same hasNoParent isChain =>
      have isRoot : entry.isRequested = true := by simp [Placement.isRequested, hasNoParent]
      simp only [isRoot, isChain, if_true, List.head?_cons, Option.some.injEq]
      constructor
      · rintro rfl
        exact ⟨isRequested, same⟩
      · rintro ⟨listed, also⟩
        have distinct : Layout.ArtifactsDistinct PackConfig.gav layout.request.packs :=
          layout.request.artifactsDistinct
        exact distinct.eq isRequested listed (Gav.sameArtifact_trans same (Gav.sameArtifact_symm also))
  | byDependency parent declaring dependency _ _ _ hasParent _ =>
      have notRoot : entry.isRequested = false := by
        simp [Placement.isRequested, hasParent]
      simp only [notRoot, Bool.false_eq_true, if_false, reduceCtorEq, false_iff, not_and,
        Bool.not_eq_true]
      exact Layout.unlisted_of_parent built isEntry hasParent config

/-- The request gives an entry no configuration when it lists no version of its artifact. -/
theorem requestedConfig?_eq_none_iff {entry : LayoutEntry}
    (isEntry : layout.entries[index]? = some entry) :
    layout.requestedConfig? index = none ↔
      ∀ config ∈ layout.request.packs, config.gav.sameArtifact entry.gav = false := by
  rw [Option.eq_none_iff_forall_ne_some]
  simp only [ne_eq, requestedConfig?_eq_some_iff built isEntry, not_and, Bool.not_eq_true]

omit built in
/-- The declarations of an entry are the configurations of the dependencies on it. -/
theorem mem_declarationsOf_iff {config : PackConfig} :
    config ∈ layout.declarationsOf index ↔ ∃ declaring ∈ layout.entries, ∃ dependency,
      (index, dependency) ∈ declaring.dependencies ∧ dependency.config = config := by
  simp only [Layout.declarationsOf, List.mem_flatMap, List.mem_filterMap, Prod.exists]
  refine exists_congr fun declaring => and_congr_right fun _ => ?_
  constructor
  · rintro ⟨target, dependency, isLink, isConfig⟩
    split at isConfig
    · next same =>
      obtain rfl : target = index := by simpa using same
      exact ⟨dependency, isLink, Option.some.inj isConfig⟩
    · cases isConfig
  · rintro ⟨dependency, isLink, rfl⟩
    exact ⟨index, dependency, isLink, by simp⟩

/-- The config of the request governs alone, and the declarations do where it has none. -/
theorem governs_iff {config : PackConfig} :
    Governs layout index config ↔
      match layout.requestedConfig? index with
      | some given => config = given
      | none => config ∈ layout.declarationsOf index := by
  constructor
  · intro governs
    cases governs with
    | request isEntry listed same =>
        rw [(requestedConfig?_eq_some_iff built isEntry).2 ⟨listed, same⟩]
    | declaration isEntry unlisted isDeclaring isLink =>
        rw [(requestedConfig?_eq_none_iff built isEntry).2 unlisted]
        exact mem_declarationsOf_iff.2 ⟨_, isDeclaring, _, isLink, rfl⟩
  · split
    · next given isGiven =>
      rintro rfl
      obtain ⟨entry, isEntry, _⟩ := Option.bind_eq_some_iff.1 isGiven
      obtain ⟨listed, same⟩ := (requestedConfig?_eq_some_iff built isEntry).1 isGiven
      exact .request isEntry listed same
    · next notGiven =>
      intro declared
      obtain ⟨declaring, isDeclaring, dependency, isLink, rfl⟩ := mem_declarationsOf_iff.1 declared
      obtain ⟨entry, isEntry, _⟩ :=
        (Layout.contract_of_build built).dependenciesPlaced declaring isDeclaring _ isLink
      exact .declaration isEntry ((requestedConfig?_eq_none_iff built isEntry).1 notGiven)
        isDeclaring isLink

/-- A package is left out when a config that governs its feature-pack excludes it. -/
theorem isPackageExcluded_iff :
    layout.isPackageExcluded index name = true ↔ IsExcluded layout index name := by
  simp only [Layout.isPackageExcluded, IsExcluded, governs_iff built]
  cases layout.requestedConfig? index with
  | some given =>
      -- What the request includes it does not exclude, so its inclusions overrule nothing.
      have consistent := given.consistent name
      simp only [PackConfig.excludes, PackConfig.includes, Bool.and_eq_true, Bool.not_eq_true',
        List.contains_eq_mem, decide_eq_true_eq, decide_eq_false_iff_not, exists_eq_left]
      exact ⟨And.left, fun excluded => ⟨excluded, fun included => consistent included excluded⟩⟩
  | none =>
      simp only [List.any_eq_true, PackConfig.excludes, List.contains_eq_mem, decide_eq_true_eq]

end

end Provisioning.PackageSelection
