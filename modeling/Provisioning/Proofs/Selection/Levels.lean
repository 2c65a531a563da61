/-
This file proves which customizations govern a feature-pack and which of its configs they take.
-/

import Mathlib.Data.List.Permutation
import Provisioning.Proofs.Layout.Chain
import Provisioning.Proofs.Selection.Contributions
import Provisioning.Proofs.Selection.Decision

namespace Provisioning.Layout

/-- The pack configs that lead to an entry come with the scopes that they were written in. The
first one is written in the request, and every other in the feature-pack that it comes from. -/
inductive WrittenChain (layout : Layout) : Nat → List (PackConfig × Scope) → Prop where
  | request {index : Nat} {entry : LayoutEntry} {config : PackConfig}
      (isEntry : layout.entries[index]? = some entry) (listed : config ∈ layout.request.packs)
      (same : config.gav.sameArtifact entry.gav = true) :
      WrittenChain layout index [(config, .installation)]
  | declaration {index parent : Nat} {entry declaring : LayoutEntry} {dependency : PackDependency}
      {written : List (PackConfig × Scope)} (outer : WrittenChain layout parent written)
      (isEntry : layout.entries[index]? = some entry) (hasParent : entry.parent = some parent)
      (isDeclaring : layout.entries[parent]? = some declaring)
      (isLink : (index, dependency) ∈ declaring.dependencies) :
      WrittenChain layout index (written ++ [(dependency.config, .pack parent)])

/-- A config is contributed with the filter of the level that includes it, or with none if all
levels inherit it. -/
def Takes (levels : List CustomizationLevel) (id : ConfigId) (filter : Option ScopedFilter) : Prop :=
  IncludedBy levels id filter ∨ (InheritedBy levels id ∧ filter = none)

section

variable {repository : Repository} {request : Request} {layout : Layout} {index parent : Nat}
  {entry declaring : LayoutEntry} {config : PackConfig} {dependency : PackDependency}

/-- A config is selected exactly when the levels take it, with the same filter. -/
theorem selectConfig_eq_included_iff_takes {levels : List CustomizationLevel} {id : ConfigId}
    {filter : Option ScopedFilter} :
    selectConfig id true levels = .included filter ↔ Takes levels id filter := by
  simp only [selectConfig_eq_included_iff, Takes, true_and]

/-- A config that the levels take becomes a part in the scope of its feature-pack. -/
theorem contribution_eq_some_iff {levels : List CustomizationLevel} {config : ConfigSpec}
    {part : ConfigPart} :
    (match selectConfig config.id true levels with
      | .excluded => none
      | .included filter => some (⟨config, .pack index, filter⟩ : ConfigPart)) = some part ↔
      ∃ filter, Takes levels config.id filter ∧ part = ⟨config, .pack index, filter⟩ := by
  simp only [← selectConfig_eq_included_iff_takes]
  cases selectConfig config.id true levels with
  | excluded => simp
  | included filter => simp [eq_comm]

/-- A requested feature-pack is declared in the installation. -/
theorem declaredIn_of_request (isEntry : layout.entries[index]? = some entry)
    (hasNoParent : entry.parent = none) : layout.declaredIn index = [.installation] := by
  rw [declaredIn, ancestors, isEntry, Option.bind_some, hasNoParent]
  rfl

/-- Any other one is declared where its parent is and in its parent. -/
theorem declaredIn_of_parent (isEntry : layout.entries[index]? = some entry)
    (hasParent : entry.parent = some parent) (earlier : parent < index) :
    layout.declaredIn index = layout.declaredIn parent ++ [.pack parent] := by
  rw [declaredIn, ancestors, isEntry, Option.bind_some, hasParent]
  simp only [earlier, if_true, List.map_cons, List.cons_append, List.reverse_cons]
  rw [declaredIn]

/-- A requested feature-pack is governed by the installation and its own configuration. -/
theorem levels_of_request (isEntry : layout.entries[index]? = some entry)
    (hasNoParent : entry.parent = none) (isChain : entry.chain = [config]) :
    layout.levels index entry =
      [⟨layout.request.configs, .installation⟩] ++ [⟨config.configs, .installation⟩] := by
  rw [levels, isChain, declaredIn_of_request isEntry hasNoParent]
  rfl

section

variable (built : build repository request = .ok layout)
include built

/-- No config of a chain is without the scope that it was written in. -/
theorem writtenChain_of_build (isEntry : layout.entries[index]? = some entry) :
    ∃ written, WrittenChain layout index written ∧ written.map Prod.fst = entry.chain ∧
      written.map Prod.snd = layout.declaredIn index := by
  -- A parent comes before what it brings in, so the induction is on the index.
  induction index using Nat.strong_induction_on generalizing entry with
  | h index inductionHypothesis =>
      cases broughtIn_of_build built isEntry with
      | byRequest config isRequested same hasNoParent isChain =>
          exact ⟨[(config, .installation)], .request isEntry isRequested same, isChain.symm,
            (declaredIn_of_request isEntry hasNoParent).symm⟩
      | byDependency parent declaring dependency isDeclaring earlier isLink hasParent isChain =>
          obtain ⟨written, isWritten, configs, scopes⟩ :=
            inductionHypothesis parent earlier isDeclaring
          refine ⟨written ++ [(dependency.config, .pack parent)],
            .declaration isWritten isEntry hasParent isDeclaring isLink, ?_, ?_⟩
          · rw [List.map_append, configs, isChain]
            rfl
          · rw [List.map_append, scopes, declaredIn_of_parent isEntry hasParent earlier]
            rfl

omit built in
/-- Every configuration of a chain is a level in the scope where it is written. -/
theorem levels_of_writtenChain {written : List (PackConfig × Scope)}
    (configs : written.map Prod.fst = entry.chain)
    (scopes : written.map Prod.snd = layout.declaredIn index) :
    layout.levels index entry = ⟨layout.request.configs, .installation⟩ ::
      written.map fun level => ⟨level.1.configs, level.2⟩ := by
  rw [levels, ← configs, ← scopes, List.zipWith_map, List.zipWith_self]

/-- An entry that a dependency brings in has a level more than the feature-pack that declares
the dependency. -/
theorem levels_of_parent (isDeclaring : layout.entries[parent]? = some declaring)
    (isEntry : layout.entries[index]? = some entry) (hasParent : entry.parent = some parent)
    (earlier : parent < index) (isChain : entry.chain = declaring.chain ++ [dependency.config]) :
    layout.levels index entry =
      layout.levels parent declaring ++ [⟨dependency.config.configs, .pack parent⟩] := by
  obtain ⟨written, _, configs, scopes⟩ := writtenChain_of_build built isDeclaring
  have sameLength : declaring.chain.length = (layout.declaredIn parent).length := by
    rw [← configs, ← scopes, List.length_map, List.length_map]
  rw [levels, isChain, declaredIn_of_parent isEntry hasParent earlier, List.zipWith_append sameLength]
  rfl

end

/-- The levels of an entry are those of the whole chain, and they take its configs. -/
structure SelectsByLevels (layout : Layout) (index : Nat) (entry : LayoutEntry) : Prop where
  /-- The installation comes first. -/
  levels : ∃ written, WrittenChain layout index written ∧ written.map Prod.fst = entry.chain ∧
    layout.levels index entry = ⟨layout.request.configs, .installation⟩ ::
      written.map fun level => ⟨level.1.configs, level.2⟩
  takes : ∃ contribution : ConfigSpec → Option ConfigPart,
    layout.declaredParts index entry = entry.pack.configs.filterMap contribution ∧
    ∀ config part, contribution config = some part ↔
      ∃ filter, Takes (layout.levels index entry) config.id filter ∧
        part = ⟨config, .pack index, filter⟩
  contributed : layout.declaredParts index entry <:+: layout.contributions

/-- The configs of a feature-pack are selected by the customizations that lead to it. -/
theorem selectsByLevels_of_build (built : build repository request = .ok layout)
    (isEntry : layout.entries[index]? = some entry) : SelectsByLevels layout index entry where
  levels := by
    obtain ⟨written, isWritten, configs, scopes⟩ := writtenChain_of_build built isEntry
    exact ⟨written, isWritten, configs, levels_of_writtenChain configs scopes⟩
  takes := ⟨_, rfl, fun _ _ => contribution_eq_some_iff⟩
  contributed := (List.prefix_append _ _).isInfix.trans (isInfix_contributions built isEntry)

end

/-! A gallery takes only the large one of the configs that its frames come with. -/

namespace Gallery

def gav (artifact : String) : Gav :=
  ⟨"g", artifact, "1"⟩

def filter : FeatureFilter :=
  ⟨true, [.excludeSpec ⟨none, "gilded"⟩]⟩

def galleryConfig : PackConfig :=
  { PackConfig.ofGav (gav "gallery") with
    configs := { ConfigCustomizations.inheritAll with inheritConfigs := false } }

def framesConfig : PackConfig :=
  { PackConfig.ofGav (gav "frames") with
    configs :=
      { ConfigCustomizations.inheritAll with
        includedConfigs := [⟨⟨none, some "large"⟩, filter⟩] } }

def large : ConfigSpec :=
  ⟨⟨none, some "large"⟩, .empty, [], false⟩

def small : ConfigSpec :=
  ⟨⟨none, some "small"⟩, .empty, [], false⟩

def gallery : FeaturePack where
  gav := gav "gallery"
  dependencies := [⟨none, framesConfig⟩]
  packages := []
  markedDefaults := []
  specs := []
  groups := []
  configs := []
  accepted := by rfl

def frames : FeaturePack where
  gav := gav "frames"
  dependencies := []
  packages := []
  markedDefaults := []
  specs := []
  groups := []
  configs := [large, small]
  accepted := by rfl

def repository : Repository :=
  ⟨[gallery, frames], by decide⟩

def request : Request :=
  ⟨[galleryConfig], .empty, .inheritAll, by simp⟩

def framesEntry : LayoutEntry :=
  ⟨⟨frames, [galleryConfig, framesConfig], some 0⟩, []⟩

def layout : Layout :=
  .ofWalked request ⟨[⟨gallery, [galleryConfig], none⟩, framesEntry.toPlacement], [1, 0]⟩

theorem build_eq : build repository request = .ok layout := by
  cbv

theorem isEntry : layout.entries[1]? = some framesEntry := by
  rfl

end Gallery

/-- The request inherits no config, so the large one is there by its name and the small one is
left out. -/
theorem selectsByLevels_gallery :
    build Gallery.repository Gallery.request = .ok Gallery.layout ∧
      Gallery.layout.entries[1]? = some Gallery.framesEntry ∧
      SelectsByLevels Gallery.layout 1 Gallery.framesEntry ∧
      Gallery.layout.declaredParts 1 Gallery.framesEntry =
        [⟨Gallery.large, .pack 1, some ⟨Gallery.filter, .pack 0⟩⟩] :=
  ⟨Gallery.build_eq, Gallery.isEntry, selectsByLevels_of_build Gallery.build_eq Gallery.isEntry,
    by cbv⟩

end Provisioning.Layout
