/-
This file proves which of the configs that customizations define are contributed.
-/

import Provisioning.Proofs.Selection.Levels
import Provisioning.Provision

namespace Provisioning.Layout

/-- A dependency of the feature-pack at one index leads to another index, whose feature-pack the
request does not list. -/
structure DependsOnUnlisted (layout : Layout) (parent index : Nat) (declaring entry : LayoutEntry)
    (dependency : PackDependency) : Prop where
  isDeclaring : layout.entries[parent]? = some declaring
  isLink : (index, dependency) ∈ declaring.dependencies
  isEntry : layout.entries[index]? = some entry
  unlisted : ∀ config ∈ layout.request.packs, config.gav.sameArtifact entry.gav = false

/-- The installation or a config that leads to a feature-pack excludes a config by its exact id. -/
def ExcludedAround (layout : Layout) (declaring : LayoutEntry) (id : ConfigId) : Prop :=
  id ∈ layout.request.configs.excludedConfigs.elements ∨
    ∃ config ∈ declaring.chain, id ∈ config.configs.excludedConfigs.elements

/-- Configs are declared by feature-packs, and they are defined by the dependencies that brought
feature-packs in, by the request for a feature-pack and by the installation. -/
inductive Contributed (layout : Layout) : ConfigPart → Prop where
  | declared {index : Nat} {entry : LayoutEntry} {config : ConfigSpec} {filter : Option ScopedFilter}
      (isEntry : layout.entries[index]? = some entry) (listed : config ∈ entry.pack.configs)
      (taken : Takes (layout.levels index entry) config.id filter) :
      Contributed layout ⟨config, .pack index, filter⟩
  | definedByDependency {parent index : Nat} {declaring entry : LayoutEntry}
      {dependency : PackDependency} {config : ConfigSpec}
      (depends : DependsOnUnlisted layout parent index declaring entry dependency)
      (broughtIn : entry.parent = some parent)
      (listed : config ∈ dependency.config.configs.definedConfigs)
      (kept : ¬ExcludedAround layout declaring config.id) :
      Contributed layout ⟨config, if config.resetOrigin then .pack index else .pack parent, none⟩
  | definedByRequest {index : Nat} {entry : LayoutEntry} {requested : PackConfig}
      {config : ConfigSpec} (isEntry : layout.entries[index]? = some entry)
      (isRequested : requested ∈ layout.request.packs)
      (same : requested.gav.sameArtifact entry.gav = true)
      (listed : config ∈ requested.configs.definedConfigs)
      (kept : config.id ∉ layout.request.configs.excludedConfigs.elements) :
      Contributed layout ⟨config, if config.resetOrigin then .pack index else .installation, none⟩
  | definedByInstallation {config : ConfigSpec}
      (listed : config ∈ layout.request.configs.definedConfigs) :
      Contributed layout ⟨config, .installation, none⟩

section

variable {repository : Repository} {request : Request} {layout : Layout} {index parent : Nat}
  {entry declaring : LayoutEntry} {config : PackConfig} {dependency : PackDependency}
  {part : ConfigPart}

/-- A declared part is a config that the levels of its feature-pack take, with their filter. -/
theorem mem_declaredParts_iff : part ∈ layout.declaredParts index entry ↔
    ∃ config ∈ entry.pack.configs, ∃ filter,
      Takes (layout.levels index entry) config.id filter ∧ part = ⟨config, .pack index, filter⟩ := by
  rw [declaredParts, List.mem_filterMap]
  exact exists_congr fun config => and_congr_right fun _ => contribution_eq_some_iff

/-- The innermost level defines configs, and the levels around it may exclude them. -/
theorem mem_definedParts_iff {outer : List CustomizationLevel} {innermost : CustomizationLevel}
    (isInnermost : layout.levels index entry = outer ++ [innermost]) :
    part ∈ layout.definedParts index entry ↔
      ∃ config ∈ innermost.customizations.definedConfigs,
        (∀ level ∈ outer, config.id ∉ level.customizations.excludedConfigs.elements) ∧
        part = ⟨config, if config.resetOrigin then .pack index
          else definedParts.declaringScope entry, none⟩ := by
  rw [definedParts, isInnermost, List.reverse_append, List.reverse_singleton, List.singleton_append,
    List.mem_filterMap]
  refine exists_congr fun config => and_congr_right fun _ => ?_
  simp only [List.any_reverse, List.any_eq_true, ConfigCustomizations.isConfigExcluded_iff]
  split
  · next excluded =>
    obtain ⟨level, isOuter, excludes⟩ := excluded
    simp only [reduceCtorEq, false_iff]
    exact fun kept => kept.1 level isOuter excludes
  · next kept =>
    simp only [not_exists, not_and] at kept
    rw [Option.some.injEq]
    exact ⟨fun isPart => ⟨kept, isPart.symm⟩, fun isPart => isPart.2.symm⟩

/-- A feature-pack depends on an artifact once. -/
theorem dependenciesDistinct (pack : FeaturePack) :
    ArtifactsDistinct PackDependency.gav pack.dependencies := by
  have accepted := pack.accepted
  rw [FeaturePack.Declaration.problem?, Option.or_eq_none_iff] at accepted
  refine Checks.pairwise_of_first ?_ accepted.1
  intro earlier dependency noProblem known isEarlier
  simp only [FeaturePack.Declaration.dependencyProblem?] at noProblem
  split at noProblem
  · cases noProblem
  split at noProblem
  · cases noProblem
  · next distinct =>
    rw [Bool.not_eq_true, List.any_eq_false] at distinct
    simpa using distinct known isEarlier

variable (built : build repository request = .ok layout)
include built

/-- A feature-pack depends on another through one dependency only. -/
theorem dependency_eq_of_isLink (isDeclaring : layout.entries[parent]? = some declaring)
    {first second : PackDependency} (isFirst : (index, first) ∈ declaring.dependencies)
    (isSecond : (index, second) ∈ declaring.dependencies) : first = second := by
  have contract := contract_of_build built
  have inLayout := List.mem_of_getElem? isDeclaring
  have listed := contract.dependenciesListed declaring inLayout
  obtain ⟨target, isTarget, sameFirst⟩ := contract.dependenciesPlaced declaring inLayout _ isFirst
  obtain ⟨other, isOther, sameSecond⟩ := contract.dependenciesPlaced declaring inLayout _ isSecond
  obtain rfl : target = other := Option.some.inj (isTarget.symm.trans isOther)
  have sameArtifact := Gav.sameArtifact_trans (Gav.sameArtifact_symm sameFirst) sameSecond
  exact (dependenciesDistinct declaring.pack).eq (listed ▸ List.mem_map_of_mem isFirst)
    (listed ▸ List.mem_map_of_mem isSecond) sameArtifact

/-- The levels of a feature-pack are around its dependencies. -/
theorem excludedAround_iff (isDeclaring : layout.entries[parent]? = some declaring) {id : ConfigId} :
    ExcludedAround layout declaring id ↔
      ∃ level ∈ layout.levels parent declaring, id ∈ level.customizations.excludedConfigs.elements := by
  obtain ⟨written, _, configs, scopes⟩ := writtenChain_of_build built isDeclaring
  rw [levels_of_writtenChain configs scopes, ExcludedAround, ← configs]
  simp

/-- The dependency that brought a feature-pack in defines its configs. -/
theorem mem_definedParts_of_parent
    (depends : DependsOnUnlisted layout parent index declaring entry dependency)
    (broughtIn : entry.parent = some parent) :
    part ∈ layout.definedParts index entry ↔
      ∃ config ∈ dependency.config.configs.definedConfigs,
        ¬ExcludedAround layout declaring config.id ∧
        part = ⟨config, if config.resetOrigin then .pack index else .pack parent, none⟩ := by
  obtain ⟨isDeclaring, isLink, isEntry, _⟩ := depends
  cases broughtIn_of_build built isEntry with
  | byRequest _ _ _ hasNoParent _ =>
      rw [hasNoParent] at broughtIn
      cases broughtIn
  | byDependency other bringing through isBringing earlier isThrough hasParent isChain =>
      obtain rfl : other = parent := Option.some.inj (hasParent.symm.trans broughtIn)
      obtain rfl : bringing = declaring := Option.some.inj (isBringing.symm.trans isDeclaring)
      obtain rfl := dependency_eq_of_isLink built isDeclaring isThrough isLink
      have isInnermost := levels_of_parent built isDeclaring isEntry hasParent earlier isChain
      rw [mem_definedParts_iff isInnermost]
      simp only [excludedAround_iff built isDeclaring, not_exists, not_and,
        definedParts.declaringScope, hasParent]

/-- The request defines configs for the feature-packs that it lists. -/
theorem mem_definedParts_of_request (isEntry : layout.entries[index]? = some entry)
    (isRequested : config ∈ layout.request.packs)
    (same : config.gav.sameArtifact entry.gav = true) :
    part ∈ layout.definedParts index entry ↔
      ∃ defined ∈ config.configs.definedConfigs,
        defined.id ∉ layout.request.configs.excludedConfigs.elements ∧
        part = ⟨defined, if defined.resetOrigin then .pack index else .installation, none⟩ := by
  cases broughtIn_of_build built isEntry with
  | byRequest other alsoRequested alsoSame hasNoParent isChain =>
      have distinct : ArtifactsDistinct PackConfig.gav layout.request.packs :=
        layout.request.artifactsDistinct
      obtain rfl := distinct.eq alsoRequested isRequested
        (Gav.sameArtifact_trans alsoSame (Gav.sameArtifact_symm same))
      rw [mem_definedParts_iff (levels_of_request isEntry hasNoParent isChain)]
      simp only [List.forall_mem_singleton, definedParts.declaringScope, hasNoParent]
  | byDependency _ _ _ _ _ _ hasParent _ =>
      rw [unlisted_of_parent built isEntry hasParent config isRequested] at same
      cases same

/-- A contribution is a part of a feature-pack or a config of the installation. -/
theorem mem_contributions_iff_mem_parts : part ∈ layout.contributions ↔
    (∃ index entry, layout.entries[index]? = some entry ∧
      (part ∈ layout.declaredParts index entry ∨ part ∈ layout.definedParts index entry)) ∨
    ∃ config ∈ layout.request.configs.definedConfigs, ⟨config, .installation, none⟩ = part := by
  rw [contributions, List.mem_append, List.mem_flatMap, List.mem_map]
  refine or_congr ?_ Iff.rfl
  constructor
  · rintro ⟨index, _, isPart⟩
    split at isPart
    · next entry isEntry => exact ⟨index, entry, isEntry, List.mem_append.1 isPart⟩
    · cases isPart
  · rintro ⟨index, entry, isEntry, isPart⟩
    refine ⟨index, (mem_postOrder_iff built).2 ⟨entry, isEntry⟩, ?_⟩
    rw [isEntry]
    exact List.mem_append.2 isPart

/-- There is no other way for a config to be contributed. -/
theorem mem_contributions_iff : part ∈ layout.contributions ↔ Contributed layout part := by
  rw [mem_contributions_iff_mem_parts built]
  constructor
  · rintro (⟨index, entry, isEntry, isDeclared | isDefined⟩ | ⟨config, listed, rfl⟩)
    · obtain ⟨config, listed, filter, taken, rfl⟩ := mem_declaredParts_iff.1 isDeclared
      exact .declared isEntry listed taken
    · cases broughtIn_of_build built isEntry with
      | byRequest requested isRequested same _ _ =>
          obtain ⟨config, listed, kept, rfl⟩ :=
            (mem_definedParts_of_request built isEntry isRequested same).1 isDefined
          exact .definedByRequest isEntry isRequested same listed kept
      | byDependency parent declaring dependency isDeclaring _ isLink hasParent _ =>
          have depends : DependsOnUnlisted layout parent index declaring entry dependency :=
            ⟨isDeclaring, isLink, isEntry, unlisted_of_parent built isEntry hasParent⟩
          obtain ⟨config, listed, kept, rfl⟩ :=
            (mem_definedParts_of_parent built depends hasParent).1 isDefined
          exact .definedByDependency depends hasParent listed kept
    · exact .definedByInstallation listed
  · intro contributed
    cases contributed with
    | declared isEntry listed taken =>
        exact .inl ⟨_, _, isEntry, .inl (mem_declaredParts_iff.2 ⟨_, listed, _, taken, rfl⟩)⟩
    | definedByDependency depends broughtIn listed kept =>
        have isDefined := (mem_definedParts_of_parent built depends broughtIn).2
          ⟨_, listed, kept, rfl⟩
        exact .inl ⟨_, _, depends.isEntry, .inr isDefined⟩
    | definedByRequest isEntry isRequested same listed kept =>
        have isDefined := (mem_definedParts_of_request built isEntry isRequested same).2
          ⟨_, listed, kept, rfl⟩
        exact .inl ⟨_, _, isEntry, .inr isDefined⟩
    | definedByInstallation listed => exact .inr ⟨_, listed, rfl⟩

end

/-- What a dependency defines is contributed unless something around it excludes it. -/
def ContributesDefinitions (layout : Layout) (declaring : LayoutEntry)
    (dependency : PackDependency) : Prop :=
  ∀ config ∈ dependency.config.configs.definedConfigs,
    ¬ExcludedAround layout declaring config.id → ∃ part ∈ layout.contributions, part.spec = config

/-- No dependency on an unlisted feature-pack defines a config in vain. -/
def ContributesAll (layout : Layout) : Prop :=
  ∀ parent index declaring entry dependency,
    DependsOnUnlisted layout parent index declaring entry dependency →
      ContributesDefinitions layout declaring dependency

/-- An unlisted feature-pack has the definitions of the one dependency that brought it in. -/
structure DefinedOnce (layout : Layout) : Prop where
  mem_iff : ∀ part, part ∈ layout.contributions ↔ Contributed layout part
  broughtIn : ∀ index entry, layout.entries[index]? = some entry →
    (∀ config ∈ layout.request.packs, config.gav.sameArtifact entry.gav = false) →
      ∃ parent declaring dependency,
        DependsOnUnlisted layout parent index declaring entry dependency ∧
          entry.parent = some parent
  definitions : ∀ parent index declaring entry dependency,
    DependsOnUnlisted layout parent index declaring entry dependency →
      entry.parent = some parent → ContributesDefinitions layout declaring dependency
  /-- The definitions of any other dependency get in only if they are contributed anyhow. -/
  contributesAll_iff : ContributesAll layout ↔ ∀ parent index declaring entry dependency,
    DependsOnUnlisted layout parent index declaring entry dependency →
      entry.parent ≠ some parent → ∀ config ∈ dependency.config.configs.definedConfigs,
        ¬ExcludedAround layout declaring config.id →
          ∃ part, Contributed layout part ∧ part.spec = config

/-- What is defined by the dependency that brings a feature-pack in is contributed. -/
theorem definedOnce_of_build {repository : Repository} {request : Request} {layout : Layout}
    (built : build repository request = .ok layout) : DefinedOnce layout := by
  have definitions : ∀ parent index declaring entry dependency,
      DependsOnUnlisted layout parent index declaring entry dependency →
        entry.parent = some parent → ContributesDefinitions layout declaring dependency := by
    intro parent index declaring entry dependency depends broughtIn config listed kept
    exact ⟨_, (mem_contributions_iff built).2
      (.definedByDependency depends broughtIn listed kept), rfl⟩
  refine ⟨fun part => mem_contributions_iff built, ?_, definitions, ?_⟩
  · intro index entry isEntry unlisted
    cases broughtIn_of_build built isEntry with
    | byRequest config isRequested same _ _ =>
        rw [unlisted config isRequested] at same
        cases same
    | byDependency parent declaring dependency isDeclaring _ isLink hasParent _ =>
        exact ⟨parent, declaring, dependency, ⟨isDeclaring, isLink, isEntry, unlisted⟩, hasParent⟩
  · simp only [ContributesAll, ContributesDefinitions, mem_contributions_iff built] at definitions ⊢
    constructor
    · intro all parent index declaring entry dependency depends _
      exact all parent index declaring entry dependency depends
    · intro others parent index declaring entry dependency depends
      by_cases broughtIn : entry.parent = some parent
      · exact definitions parent index declaring entry dependency depends broughtIn
      · exact others parent index declaring entry dependency depends broughtIn

/-! Two feature-packs depend on a third, and the request lists the one that depends on both. -/

namespace Diamond

def gav (artifact : String) : Gav :=
  ⟨"g", artifact, "1"⟩

def packConfig (artifact : String) (definitions : List ConfigSpec) : PackConfig :=
  { PackConfig.ofGav (gav artifact) with
    configs := { ConfigCustomizations.inheritAll with definedConfigs := definitions } }

def declaration (artifact : String) (dependencies : List PackConfig) :
    FeaturePack.Declaration where
  gav := gav artifact
  dependencies := dependencies.map fun config => ⟨none, config⟩
  packages := []
  markedDefaults := []
  specs := []
  groups := []
  configs := []

def top : FeaturePack :=
  ⟨declaration "fp1" [packConfig "fp2" [], packConfig "fp3" []], by rfl⟩

def left (definitions : List ConfigSpec) : FeaturePack :=
  ⟨declaration "fp2" [packConfig "fp4" definitions], by rfl⟩

def right (definitions : List ConfigSpec) : FeaturePack :=
  ⟨declaration "fp3" [packConfig "fp4" definitions], by rfl⟩

def bottom : FeaturePack :=
  ⟨declaration "fp4" [], by rfl⟩

def repository (onLeft onRight : List ConfigSpec) : Repository :=
  ⟨[top, left onLeft, right onRight, bottom], by simp [top, left, right, bottom, declaration, gav]⟩

def request : Request :=
  ⟨[packConfig "fp1" []], .empty, .inheritAll, by simp⟩

/-- The left one comes first and brings the third feature-pack in. -/
def layout (onLeft onRight : List ConfigSpec) : Layout :=
  .ofWalked request
    ⟨[⟨top, [packConfig "fp1" []], none⟩,
      ⟨left onLeft, [packConfig "fp1" [], packConfig "fp2" []], some 0⟩,
      ⟨bottom, [packConfig "fp1" [], packConfig "fp2" [], packConfig "fp4" onLeft], some 1⟩,
      ⟨right onRight, [packConfig "fp1" [], packConfig "fp3" []], some 0⟩],
     [2, 1, 3, 0]⟩

theorem build_eq (onLeft onRight : List ConfigSpec) :
    build (repository onLeft onRight) request = .ok (layout onLeft onRight) := by
  cbv

def named : ConfigSpec :=
  ⟨⟨none, some "c"⟩, .empty, [], false⟩

def bottomEntry : LayoutEntry :=
  ⟨⟨bottom, [packConfig "fp1" [], packConfig "fp2" [], packConfig "fp4" []], some 1⟩, []⟩

def rightEntry : LayoutEntry :=
  ⟨⟨right [named], [packConfig "fp1" [], packConfig "fp3" []], some 0⟩,
    [(2, ⟨none, packConfig "fp4" [named]⟩)]⟩

/-- The right feature-pack depends on the bottom one, which the request does not list. -/
theorem rightDepends : DependsOnUnlisted (layout [] [named]) 3 2 rightEntry bottomEntry
    ⟨none, packConfig "fp4" [named]⟩ where
  isDeclaring := by rfl
  isLink := List.mem_singleton_self _
  isEntry := by rfl
  unlisted := by
    intro config listed
    rw [List.mem_singleton.1 listed]
    rfl

theorem not_excludedAround (id : ConfigId) : ¬ExcludedAround (layout [] [named]) rightEntry id := by
  simp [ExcludedAround, layout, ofWalked, request, rightEntry, packConfig,
    PackConfig.ofGav, ConfigCustomizations.inheritAll, OrderedSet.empty]

end Diamond

/-- What the left one defines for the third feature-pack is contributed. -/
theorem definedOnce_diamond :
    build (Diamond.repository [Diamond.named] []) Diamond.request =
        .ok (Diamond.layout [Diamond.named] []) ∧
      DefinedOnce (Diamond.layout [Diamond.named] []) ∧
      (Diamond.layout [Diamond.named] []).contributions = [⟨Diamond.named, .pack 1, none⟩] :=
  ⟨Diamond.build_eq _ _, definedOnce_of_build (Diamond.build_eq _ _), by cbv⟩

/-- The same definition on the right is lost, although nothing excludes it. -/
theorem not_contributesAll_diamond :
    build (Diamond.repository [] [Diamond.named]) Diamond.request =
        .ok (Diamond.layout [] [Diamond.named]) ∧
      ¬ContributesAll (Diamond.layout [] [Diamond.named]) ∧
      provision (Diamond.repository [] [Diamond.named]) Diamond.request =
        .ok ⟨[⟨Diamond.gav "fp1", .empty⟩], []⟩ := by
  refine ⟨Diamond.build_eq _ _, fun all => ?_, by cbv⟩
  obtain ⟨part, isPart, _⟩ := all 3 2 _ _ _ Diamond.rightDepends Diamond.named
    (List.mem_singleton_self _) (Diamond.not_excludedAround _)
  have nothing : (Diamond.layout [] [Diamond.named]).contributions = [] := by cbv
  rw [nothing] at isPart
  cases isPart

end Provisioning.Layout
