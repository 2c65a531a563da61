/-
This file proves that the request alone governs the feature-packs that it lists.
-/

import Mathlib.Data.List.Permutation
import Provisioning.Proofs.Layout.Redeclaration
import Provisioning.Proofs.Selection.Demands
import Provisioning.Provision

namespace Provisioning

section

variable {repository : Repository} {request : Request} {first second : Layout}
  {entry other : LayoutEntry} {index : Nat}

namespace Layout

/-- The request gives the same configs in layouts that are the same. -/
theorem requestedConfig?_congr (same : SameLayout first second) :
    first.requestedConfig? = second.requestedConfig? := by
  funext index
  exact bind_eq_bind_of_rel (rel_getElem? same.entries index) fun _ _ sameEntry => by
    rw [sameEntry.isRequested_eq, sameEntry.chain]

/-- What is declared for an entry matters as long as the request gives it no config. -/
theorem declarationsOf_congr (built : build repository request = .ok first)
    (same : SameLayout first second) (notGiven : first.requestedConfig? index = none) :
    first.declarationsOf index = second.declarationsOf index := by
  refine flatMap_eq_flatMap_of_related same.entries fun entry other sameEntry => ?_
  refine filterMap_eq_filterMap_of_related sameEntry.dependencies fun link another sameLink => ?_
  rw [← sameLink.index]
  split
  · next isTarget =>
    rw [beq_iff_eq] at isTarget
    rcases sameLink.config with sameConfig | ⟨target, isEntry, isRequested⟩
    · rw [sameConfig]
    · rw [PackageSelection.isRequested_iff built isEntry, isTarget, notGiven] at isRequested
      simp at isRequested
  · rfl

/-- The same packages are excluded. -/
theorem isPackageExcluded_congr (built : build repository request = .ok first)
    (same : SameLayout first second) : first.isPackageExcluded = second.isPackageExcluded := by
  funext index package
  unfold isPackageExcluded
  rw [← requestedConfig?_congr same]
  cases isGiven : first.requestedConfig? index with
  | some config => rfl
  | none => rw [declarationsOf_congr built same isGiven]

end Layout

namespace PackageSelection

open Layout

/-- The same packages are defined. -/
theorem define?_congr (same : SameLayout first second) : define? first = define? second := by
  funext index package
  refine bind_eq_bind_of_rel (rel_getElem? same.entries index) fun entry other sameEntry => ?_
  rw [FeaturePack.package?, FeaturePack.package?, sameEntry.shipped, sameEntry.gav_eq]

/-- A demand is answered in the same way. -/
theorem answer_congr (built : build repository request = .ok first)
    (same : SameLayout first second) : answer first = answer second := by
  have sameGav : answer.gavAt first = answer.gavAt second := by
    funext index
    unfold answer.gavAt
    refine rel_cases (rel_getElem? same.entries index) rfl fun _ _ sameEntry => ?_
    exact sameEntry.gav_eq
  funext demand
  unfold answer
  rw [isPackageExcluded_congr built same, same.sameNames.resolveOrigin, sameGav]

theorem packageNotFound_congr (same : SameLayout first second) :
    packageNotFound first = packageNotFound second := by
  funext index package
  unfold packageNotFound
  refine rel_cases (rel_getElem? same.entries index) rfl fun _ _ sameEntry => ?_
  simp only [sameEntry.gav_eq]

/-- How the selection goes on with the first of its demands. -/
theorem meet_cons (layout : Layout) (selected : Selected) (demand : Demand) (rest : List Demand) :
    meet layout selected (demand :: rest) = (do
      match ← answer layout demand with
      | .demand demands => meet layout selected (demands ++ rest)
      | .select index package =>
          if selected.contains (index, package) = false then
            match define? layout index package with
            | none => .error (packageNotFound layout index package)
            | some (gav, definition) =>
                meet layout (selected ++ [(index, package)])
                  (demandsOf index gav definition ++ rest)
          else
            meet layout selected rest) := by
  rw [meet]
  split
  · next failed =>
    rw [failed]
    rfl
  · next answered =>
    rw [answered]
    rfl
  · next index package answered =>
    rw [answered]
    split
    · next isNew =>
      simp only [bind, Except.bind, isNew, ↓reduceIte]
      split
      · next notFound => rw [notFound]
      · next found => rw [found]
    · next isKnown => exact (if_neg isKnown).symm

/-- Demands are met with the same packages, or the same one cannot be met. -/
theorem meet_congr (built : build repository request = .ok first)
    (same : SameLayout first second) (selected : Selected) (demands : List Demand) :
    meet first selected demands = meet second selected demands := by
  fun_induction meet first selected demands with
  | case1 => rw [meet]
  | case2 selected demand rest problem failed =>
      rw [answer_congr built same] at failed
      rw [meet_cons, failed]
      rfl
  | case3 selected demand rest demands answered inductionHypothesis =>
      rw [answer_congr built same] at answered
      rw [inductionHypothesis, meet_cons, answered]
      rfl
  | case4 selected demand rest index package answered isNew notFound =>
      rw [answer_congr built same] at answered
      rw [define?_congr same] at notFound
      rw [meet_cons, answered]
      simp only [bind, Except.bind, isNew, notFound, ↓reduceIte, packageNotFound_congr same]
  | case5 selected demand rest index package answered isNew gav definition found
      inductionHypothesis =>
      rw [answer_congr built same] at answered
      rw [define?_congr same] at found
      rw [inductionHypothesis, meet_cons, answered]
      simp only [bind, Except.bind, isNew, found, ↓reduceIte]
  | case6 selected demand rest index package answered isKnown inductionHypothesis =>
      rw [answer_congr built same] at answered
      rw [inductionHypothesis, meet_cons, answered]
      exact (if_neg isKnown).symm

/-- A feature-pack picks the same packages. -/
theorem picks_congr (sameEntry : SameEntry first entry other) (index : Nat) (config : PackConfig)
    (byRequest : Bool) : picks index entry.pack config byRequest =
      picks index other.pack config byRequest := by
  have sameDefaults : entry.pack.defaultPackages = other.pack.defaultPackages := by
    rw [FeaturePack.defaultPackages, FeaturePack.defaultPackages, sameEntry.shipped]
  rw [picks, picks, sameDefaults]

/-- The packages that are asked for first are the same. -/
theorem initialDemands_congr (same : SameLayout first second) :
    initialDemands first = initialDemands second := by
  unfold initialDemands
  congr 1
  · rw [same.requested, requestedConfig?_congr same]
    congr 1
    funext index
    refine rel_cases (rel_getElem? same.entries index) rfl fun _ _ sameEntry => ?_
    cases second.requestedConfig? index with
    | none => rfl
    | some config => exact picks_congr sameEntry index config true
  · refine flatMap_eq_flatMap_of_related same.entries fun entry other sameEntry => ?_
    refine flatMap_eq_flatMap_of_related sameEntry.dependencies fun link another sameLink => ?_
    have sameTarget := rel_getElem? same.entries link.1
    rw [← sameLink.index]
    cases isTarget : first.entries[link.1]? with
    | none =>
        rw [isTarget] at sameTarget
        rw [eq_none_of_rel sameTarget]
    | some target =>
        rw [isTarget] at sameTarget
        obtain ⟨otherTarget, isOther, isSame⟩ := eq_some_of_rel sameTarget
        rw [isOther]
        dsimp only
        rw [← isSame.isRequested_eq]
        split
        · rfl
        · next notRequested =>
          rcases sameLink.config with sameConfig | ⟨known, isKnown, isRequested⟩
          · rw [picks_congr isSame, sameConfig]
          · obtain rfl := Option.some.inj (isTarget.symm.trans isKnown)
            exact absurd isRequested notRequested

/-- The same packages are selected. -/
theorem selectPackages_congr (built : build repository request = .ok first)
    (same : SameLayout first second) : first.selectPackages = second.selectPackages := by
  unfold Layout.selectPackages
  rw [initialDemands_congr same, same.entries.length_eq]
  simp only [meet_congr built same]

end PackageSelection

namespace Layout

/-- A feature-pack is reached through the same ones. -/
theorem ancestors_congr (same : SameLayout first second) (index : Nat) :
    first.ancestors index = second.ancestors index := by
  have sameParent (index : Nat) : (first.entries[index]?.bind fun entry => entry.parent) =
      second.entries[index]?.bind fun entry => entry.parent :=
    bind_eq_bind_of_rel (rel_getElem? same.entries index) fun _ _ sameEntry => sameEntry.parent
  fun_induction first.ancestors index with
  | case1 index isTop =>
      rw [sameParent] at isTop
      rw [ancestors, isTop]
  | case2 index parent isParent earlier inductionHypothesis =>
      rw [sameParent] at isParent
      rw [inductionHypothesis, ancestors.eq_def second index, isParent]
      exact (if_pos earlier).symm
  | case3 index parent isParent later =>
      rw [sameParent] at isParent
      rw [ancestors, isParent]
      exact (if_neg later).symm

/-- The same customizations apply on the way to a feature-pack. -/
theorem levels_congr (same : SameLayout first second) (index : Nat)
    (sameEntry : SameEntry first entry other) :
    first.levels index entry = second.levels index other := by
  rw [levels, levels, declaredIn, declaredIn, same.request, sameEntry.chain, ancestors_congr same]

/-- An entry contributes the same configs in both layouts. -/
theorem parts_congr (same : SameLayout first second) (index : Nat)
    (sameEntry : SameEntry first entry other) :
    first.declaredParts index entry ++ first.definedParts index entry =
      second.declaredParts index other ++ second.definedParts index other := by
  have sameLevels := levels_congr same index sameEntry
  have sameScope : definedParts.declaringScope entry = definedParts.declaringScope other := by
    rw [definedParts.declaringScope, definedParts.declaringScope, sameEntry.parent]
  rw [declaredParts, declaredParts, definedParts, definedParts, sameLevels, sameScope,
    sameEntry.shipped]

/-- The same configs are assembled. -/
theorem assembleConfigs_congr (same : SameLayout first second) :
    first.assembleConfigs = second.assembleConfigs := by
  have sameContributions : first.contributions = second.contributions := by
    unfold contributions
    rw [same.postOrder, same.request]
    congr 2
    funext index
    refine rel_cases (rel_getElem? same.entries index) rfl fun _ _ sameEntry => ?_
    exact parts_congr same index sameEntry
  rw [assembleConfigs, assembleConfigs, sameContributions]

end Layout

/-- The same feature-packs are provisioned. -/
theorem provisionedPacks_congr (same : Layout.SameLayout first second) :
    provisionedPacks first = provisionedPacks second := by
  funext packages
  refine filterMap_eq_filterMap_of_related (rel_zip same.entries packages) ?_
  rintro ⟨entry, names⟩ ⟨other, otherNames⟩ ⟨sameEntry, sameNames⟩
  obtain rfl : names = otherNames := sameNames
  rw [sameEntry.isRequested_eq, sameEntry.gav_eq]

/-- The same configs are built. -/
theorem buildConfigs_congr (same : SameNames first second) (assemblies : List ConfigAssembly) :
    buildConfigs first assemblies = buildConfigs second assemblies := by
  have sameConfig : buildConfig first = buildConfig second := by
    funext assembly
    rw [buildConfig, buildConfig, Expansion.expandParts_congr same, resolveFeatures_congr same]
  induction assemblies with
  | nil => rfl
  | cons assembly rest inductionHypothesis =>
      rw [buildConfigs, buildConfigs, sameConfig, inductionHypothesis]

end

/-- What feature-packs declare for an artifact that the request lists changes nothing about the
run, be it the state that it results in or the problem that it ends with. -/
theorem request_alone_governs {first second : Repository} {request : Request}
    (redeclared : Redeclared request first second) :
    provision second request = provision first request := by
  symm
  refine endAlike_eq_iff.1 ((Layout.build_of_redeclared redeclared).bind ?_)
  intro layout other built same
  rw [endAlike_eq_iff, PackageSelection.selectPackages_congr built same,
    Layout.assembleConfigs_congr same, buildConfigs_congr same.sameNames,
    provisionedPacks_congr same]

/-! A hall needs a stage, which comes with lamps. The request lists both. -/

namespace Theatre

def declaration (artifact : String) (dependencies : List PackDependency) (packages : List String) :
    FeaturePack.Declaration where
  gav := ⟨"g", artifact, "1"⟩
  dependencies := dependencies
  packages := packages.map fun name => ⟨name, [], .empty, []⟩
  markedDefaults := packages
  specs := []
  groups := []
  configs := []

def stage : FeaturePack :=
  ⟨declaration "stage" [] ["lamp"], by rfl⟩

def plainHall : FeaturePack :=
  ⟨declaration "hall" [⟨some "s", .ofGav stage.gav⟩] [], by rfl⟩

/-- The hall wants a stage that nobody has, and without lamps. -/
def darkHall : FeaturePack :=
  ⟨declaration "hall" [⟨some "s", {
    gav := ⟨"g", "stage", "9"⟩
    configs := { ConfigCustomizations.inheritAll with inheritConfigs := false }
    inheritPackages := false
    includedPackages := []
    excludedPackages := ["lamp"]
    consistent := by simp }⟩] [], by rfl⟩

def repository (hall : FeaturePack) (named : hall.gav = ⟨"g", "hall", "1"⟩) : Repository :=
  ⟨[hall, stage], by simp [named, stage, declaration]⟩

def request : Request where
  packs := [.ofGav plainHall.gav, .ofGav stage.gav]
  origins := .empty
  configs := .inheritAll
  artifactsDistinct := by decide

def state : ProvisionedState :=
  ⟨[⟨plainHall.gav, .empty⟩, ⟨stage.gav, .ofList ["lamp"]⟩], []⟩

/-- The two declarations of the hall differ in the configuration of its requested dependency. -/
theorem redeclares_hall : Redeclares request plainHall darkHall where
  dependencies := .cons ⟨rfl, by decide, .inr ⟨.ofGav stage.gav, by simp [request], by decide⟩⟩ .nil
  others := rfl

theorem redeclared : Redeclared request (repository plainHall rfl) (repository darkHall rfl) :=
  .cons redeclares_hall (.cons ⟨.nil, rfl⟩ .nil)

end Theatre

/-- The stage is provisioned in the requested version and with lamps, whatever the hall wants. -/
theorem theatre_is_governed_by_request :
    provision (Theatre.repository Theatre.darkHall rfl) Theatre.request =
      provision (Theatre.repository Theatre.plainHall rfl) Theatre.request ∧
    provision (Theatre.repository Theatre.plainHall rfl) Theatre.request = .ok Theatre.state :=
  ⟨request_alone_governs Theatre.redeclared, by cbv⟩

end Provisioning
