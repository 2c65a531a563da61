/-
This file proves what the selection of packages keeps up from one demand to the next.
-/

import Provisioning.Proofs.Selection.Reachable

namespace Provisioning.PackageSelection

variable {layout : Layout} {index : Nat} {name : String} {repository : Repository}
  {request : Request} {demand : Demand} {demands rest : List Demand} {selected final : Selected}

theorem mem_picks_iff {pack : FeaturePack} {config : PackConfig} {byRequest : Bool} :
    demand ∈ picks index pack config byRequest ↔
      ∃ package overExclusion, demand = .pick index package overExclusion ∧
        ((config.inheritPackages = true ∧ package ∈ pack.defaultPackages ∧ overExclusion = false) ∨
          (package ∈ config.includedPackages ∧ overExclusion = byRequest)) := by
  rw [picks, List.mem_append, List.mem_map]
  constructor
  · rintro (isDefault | ⟨package, included, rfl⟩)
    · split at isDefault
      · next inherits =>
        obtain ⟨package, listed, rfl⟩ := List.mem_map.1 isDefault
        exact ⟨package, false, rfl, .inl ⟨inherits, listed, rfl⟩⟩
      · exact absurd isDefault List.not_mem_nil
    · exact ⟨package, byRequest, rfl, .inr ⟨included, rfl⟩⟩
  · rintro ⟨package, overExclusion, rfl, ⟨inherits, listed, rfl⟩ | ⟨included, rfl⟩⟩
    · left
      rw [if_pos inherits]
      exact List.mem_map_of_mem listed
    · exact .inr ⟨package, included, rfl⟩

theorem exists_mem_picks {pack : FeaturePack} {config : PackConfig} (isPicked : Picks pack config name)
    (index : Nat) (byRequest : Bool) :
    ∃ overExclusion, Demand.pick index name overExclusion ∈ picks index pack config byRequest := by
  rcases isPicked with ⟨inherits, listed⟩ | included
  · exact ⟨false, mem_picks_iff.2 ⟨name, false, rfl, .inl ⟨inherits, listed, rfl⟩⟩⟩
  · exact ⟨byRequest, mem_picks_iff.2 ⟨name, byRequest, rfl, .inr ⟨included, rfl⟩⟩⟩

/-- All that an answer can be, and when. -/
inductive Answers (layout : Layout) : Demand → Provisioned Answer → Prop where
  | picked {index : Nat} {package : String} {overExclusion : Bool}
      (mayPick : overExclusion = true ∨ ¬IsExcluded layout index package) :
      Answers layout (.pick index package overExclusion) (.ok (.select index package))
  | dropped {index : Nat} {package : String} {overExclusion : Bool}
      (excluded : IsExcluded layout index package) :
      Answers layout (.pick index package overExclusion) (.ok (.demand []))
  | followed {target : Nat} {dependency : PackageDependency} {requiredBy : String}
      (kept : ¬IsExcluded layout target dependency.name) :
      Answers layout (.dependency target dependency requiredBy) (.ok (.select target dependency.name))
  | skipped {target : Nat} {dependency : PackageDependency} {requiredBy : String}
      (excluded : IsExcluded layout target dependency.name)
      (optional : dependency.optional = true) :
      Answers layout (.dependency target dependency requiredBy) (.ok (.demand []))
  | refused {target : Nat} {dependency : PackageDependency} {requiredBy : String}
      {problem : ProvisioningError} (excluded : IsExcluded layout target dependency.name)
      (required : dependency.optional = false) :
      Answers layout (.dependency target dependency requiredBy) (.error problem)
  | opened {index target : Nat} {origin : String} {dependencies : List PackageDependency}
      {requiredBy : String} (leads : layout.originIndex? (.pack index) origin = some target) :
      Answers layout (.externals index origin dependencies requiredBy)
        (.ok (.demand (dependencies.map fun dependency => .dependency target dependency requiredBy)))
  | unknown {index : Nat} {origin : String} {dependencies : List PackageDependency}
      {requiredBy : String} {problem : ProvisioningError}
      (leadsNowhere : layout.originIndex? (.pack index) origin = none) :
      Answers layout (.externals index origin dependencies requiredBy) (.error problem)

/-- What a demand asks for is called for by the layout. -/
def Justified (layout : Layout) : Demand → Prop
  | .pick index package overExclusion => (overExclusion = true → ¬IsExcluded layout index package) ∧
      (¬IsExcluded layout index package → Reachable layout index package)
  | .dependency target dependency _ => ∃ index name package, Reachable layout index name ∧
      Defines layout index name package ∧ DependsOn layout index package target dependency
  | .externals index origin dependencies _ => ∃ name package, Reachable layout index name ∧
      Defines layout index name package ∧ (origin, dependencies) ∈ package.externals.entries

/-- A dependency is met by the selection of its package unless it may be left out. -/
def DependencyMet (layout : Layout) (final : Selected) (target : Nat)
    (dependency : PackageDependency) : Prop :=
  (IsExcluded layout target dependency.name → dependency.optional = true) ∧
    (¬IsExcluded layout target dependency.name → (target, dependency.name) ∈ final)

/-- A demand is met by the packages that are selected in the end. -/
def Met (layout : Layout) (final : Selected) : Demand → Prop
  | .pick index package _ => ¬IsExcluded layout index package → (index, package) ∈ final
  | .dependency target dependency _ => DependencyMet layout final target dependency
  | .externals index origin dependencies _ => ∃ target,
      layout.originIndex? (.pack index) origin = some target ∧
        ∀ dependency ∈ dependencies, DependencyMet layout final target dependency

/-- What holds between the steps of a selection. -/
structure Selecting (layout : Layout) (selected : Selected) (demands : List Demand) : Prop where
  reachable : ∀ package ∈ selected, Reachable layout package.1 package.2
  nodup : selected.Nodup
  justified : ∀ demand ∈ demands, Justified layout demand

/-- A selected package is defined and what it depends on is met. -/
def Settled (layout : Layout) (final : Selected) (selected : Nat × String) : Prop :=
  ∃ gav package, define? layout selected.1 selected.2 = some (gav, package) ∧
    ∀ demand ∈ demandsOf selected.1 gav package, Met layout final demand

/-- What a selection adds to meet its demands. -/
structure Completes (layout : Layout) (selected : Selected) (demands : List Demand)
    (final : Selected) : Prop where
  kept : ∀ package ∈ selected, package ∈ final
  met : ∀ demand ∈ demands, Met layout final demand
  settled : ∀ package ∈ final, package ∈ selected ∨ Settled layout final package

/-- The demands of a package stand for its dependencies. -/
theorem forall_mem_demandsOf_iff {gav : Gav} {package : Package} {P : Demand → Prop} :
    (∀ demand ∈ demandsOf index gav package, P demand) ↔
      (∀ dependency ∈ package.locals,
        P (.dependency index dependency s!"{gav.text}#{package.name}")) ∧
      ∀ group ∈ package.externals.entries,
        P (.externals index group.1 group.2 s!"{gav.text}#{package.name}") := by
  simp only [demandsOf, List.forall_mem_append, List.forall_mem_map]

section

variable (built : Layout.build repository request = .ok layout)
include built

theorem isRequested_iff {entry : LayoutEntry} (isEntry : layout.entries[index]? = some entry) :
    entry.isRequested = true ↔ ∃ config, layout.requestedConfig? index = some config := by
  simp only [Layout.isRequested_iff_listed built isEntry, requestedConfig?_eq_some_iff built isEntry]

/-- The selection starts with what the governing configs pick. -/
theorem mem_initialDemands_iff :
    demand ∈ initialDemands layout ↔ ∃ index entry config,
      layout.entries[index]? = some entry ∧ Governs layout index config ∧
        demand ∈ picks index entry.pack config entry.isRequested := by
  simp only [initialDemands, List.mem_append, List.mem_flatMap]
  constructor
  · rintro (⟨index, isRequested, isDemand⟩ | ⟨declaring, isDeclaring, link, isLink, isDemand⟩)
    · split at isDemand
      · next entry config isEntry isConfig =>
        have governs : Governs layout index config := (governs_iff built).2 (by rw [isConfig])
        have isRoot := (isRequested_iff built isEntry).2 ⟨config, isConfig⟩
        exact ⟨index, entry, config, isEntry, governs, isRoot ▸ isDemand⟩
      · exact absurd isDemand List.not_mem_nil
    · split at isDemand
      · next entry isEntry =>
        split at isDemand
        · exact absurd isDemand List.not_mem_nil
        · next notRequested =>
          -- A feature-pack that is not requested is governed by what is declared for it.
          have isNone : layout.requestedConfig? link.1 = none := by
            rw [Option.eq_none_iff_forall_ne_some]
            exact fun config isConfig =>
              notRequested ((isRequested_iff built isEntry).2 ⟨config, isConfig⟩)
          have governs : Governs layout link.1 link.2.config := (governs_iff built).2 (by
            rw [isNone]
            exact mem_declarationsOf_iff.2 ⟨declaring, isDeclaring, link.2, isLink, rfl⟩)
          rw [Bool.not_eq_true] at notRequested
          exact ⟨link.1, entry, link.2.config, isEntry, governs, notRequested ▸ isDemand⟩
      · exact absurd isDemand List.not_mem_nil
  · rintro ⟨index, entry, config, isEntry, governs, isDemand⟩
    rw [governs_iff built] at governs
    split at governs
    · next given isGiven =>
      subst governs
      have isRoot := (isRequested_iff built isEntry).2 ⟨config, isGiven⟩
      refine .inl ⟨index, (Layout.mem_requested_iff built).2 ⟨entry, isEntry, isRoot⟩, ?_⟩
      simpa only [isEntry, isGiven, isRoot] using isDemand
    · next notGiven =>
      obtain ⟨declaring, isDeclaring, dependency, isLink, rfl⟩ := mem_declarationsOf_iff.1 governs
      have notRoot : entry.isRequested = false := by
        rw [← Bool.not_eq_true, isRequested_iff built isEntry, notGiven]
        simp
      refine .inr ⟨declaring, isDeclaring, (index, dependency), isLink, ?_⟩
      simpa [isEntry, notRoot] using isDemand

/-- Every initial demand is justified by the config that makes it. -/
theorem selecting_initial : Selecting layout [] (initialDemands layout) where
  reachable := by simp
  nodup := List.nodup_nil
  justified := by
    intro demand isDemand
    obtain ⟨index, entry, config, isEntry, governs, isPick⟩ :=
      (mem_initialDemands_iff built).1 isDemand
    obtain ⟨package, overExclusion, rfl, isPicked⟩ := mem_picks_iff.1 isPick
    have picks : Picks entry.pack config package :=
      isPicked.imp (fun isDefault => ⟨isDefault.1, isDefault.2.1⟩) And.left
    refine ⟨?_, fun kept => .seed ⟨entry, config, isEntry, governs, picks, kept⟩⟩
    rintro rfl ⟨other, alsoGoverns, excluded⟩
    rcases isPicked with ⟨_, _, impossible⟩ | ⟨included, byRequest⟩
    · cases impossible
    · obtain ⟨given, isGiven⟩ := (isRequested_iff built isEntry).1 byRequest.symm
      rw [governs_iff built, isGiven] at governs alsoGoverns
      exact config.consistent package included (governs ▸ alsoGoverns ▸ excluded)

theorem answers_answer (demand : Demand) : Answers layout demand (answer layout demand) := by
  cases demand with
  | pick index package overExclusion =>
      rw [answer]
      split
      · next isDropped =>
        rw [Bool.and_eq_true, isPackageExcluded_iff built] at isDropped
        exact .dropped isDropped.2
      · next mayPick =>
        rw [Bool.and_eq_true, isPackageExcluded_iff built, not_and_or, Bool.not_eq_true',
          Bool.not_eq_false] at mayPick
        exact .picked mayPick
  | dependency target dependency requiredBy =>
      rw [answer]
      split
      · next excluded =>
        rw [isPackageExcluded_iff built] at excluded
        split
        · next optional => exact .skipped excluded optional
        · next required => exact .refused excluded (by simpa using required)
      · next kept =>
        rw [isPackageExcluded_iff built] at kept
        exact .followed kept
  | externals index origin dependencies requiredBy =>
      simp only [answer, Layout.resolveOrigin]
      cases leads : layout.originIndex? (.pack index) origin with
      | none => exact .unknown leads
      | some target => exact .opened leads

/-- A justified demand is answered by justified demands. -/
theorem justified_of_answer (justified : Justified layout demand)
    (answered : answer layout demand = .ok (.demand demands)) :
    ∀ other ∈ demands, Justified layout other := by
  have answers := answers_answer built demand
  rw [answered] at answers
  cases answers with
  | dropped => exact fun other listed => absurd listed List.not_mem_nil
  | skipped => exact fun other listed => absurd listed List.not_mem_nil
  | opened leads =>
      obtain ⟨name, package, reachable, isDefined, isGroup⟩ := justified
      rw [List.forall_mem_map]
      intro dependency declared
      exact ⟨_, name, package, reachable, isDefined, .outside isGroup declared leads⟩

/-- What a justified demand selects is reachable. -/
theorem reachable_of_answer (justified : Justified layout demand)
    (answered : answer layout demand = .ok (.select index name)) :
    Reachable layout index name := by
  have answers := answers_answer built demand
  rw [answered] at answers
  cases answers with
  | picked mayPick => exact justified.2 (mayPick.elim justified.1 id)
  | followed kept =>
      obtain ⟨_, _, _, reachable, isDefined, depends⟩ := justified
      exact .dependency reachable isDefined depends kept

/-- Only a requirement that is excluded cannot be answered. -/
theorem not_selectable_of_answer (justified : Justified layout demand) {problem : ProvisioningError}
    (answered : answer layout demand = .error problem) : ¬Selectable layout := by
  have answers := answers_answer built demand
  rw [answered] at answers
  intro selectable
  cases answers with
  | refused excluded required =>
      obtain ⟨_, _, _, reachable, isDefined, depends⟩ := justified
      exact selectable.requirementsKept _ _ _ reachable isDefined _ _ depends required excluded
  | unknown leadsNowhere =>
      obtain ⟨_, _, _, isDefined, isGroup⟩ := justified
      obtain ⟨target, leads⟩ := exists_originIndex? built isDefined (List.mem_map_of_mem isGroup)
      rw [leadsNowhere] at leads
      cases leads

/-- A demand is met when the demands that answer it are. -/
theorem met_of_answer (answered : answer layout demand = .ok (.demand demands))
    (met : ∀ other ∈ demands, Met layout final other) : Met layout final demand := by
  have answers := answers_answer built demand
  rw [answered] at answers
  cases answers with
  | dropped excluded => exact fun kept => absurd excluded kept
  | skipped excluded optional => exact ⟨fun _ => optional, fun kept => absurd excluded kept⟩
  | opened leads =>
      rw [List.forall_mem_map] at met
      exact ⟨_, leads, met⟩

/-- A demand is met when what it selects is selected in the end. -/
theorem met_of_select (answered : answer layout demand = .ok (.select index name))
    (selected : (index, name) ∈ final) : Met layout final demand := by
  have answers := answers_answer built demand
  rw [answered] at answers
  cases answers with
  | picked => exact fun _ => selected
  | followed kept => exact ⟨fun excluded => absurd excluded kept, fun _ => selected⟩

omit built in
/-- The demands of a reachable package are justified by its dependencies. -/
theorem justified_demandsOf {gav : Gav} {package : Package}
    (reachable : Reachable layout index name)
    (found : define? layout index name = some (gav, package)) :
    ∀ demand ∈ demandsOf index gav package, Justified layout demand := by
  have isDefined := defines_of_define? found
  rw [forall_mem_demandsOf_iff]
  constructor
  · intro dependency declared
    exact ⟨index, name, package, reachable, isDefined, .inside declared⟩
  · intro group isGroup
    exact ⟨name, package, reachable, isDefined, isGroup⟩

/-- A demand gives way to the demands that answer it. -/
theorem Selecting.answer (selecting : Selecting layout selected (demand :: rest))
    (answered : PackageSelection.answer layout demand = .ok (.demand demands)) :
    Selecting layout selected (demands ++ rest) where
  reachable := selecting.reachable
  nodup := selecting.nodup
  justified := by
    have justified := List.forall_mem_cons.1 selecting.justified
    rw [List.forall_mem_append]
    exact ⟨justified_of_answer built justified.1 answered, justified.2⟩

/-- A package is selected and its demands come before the others. -/
theorem Selecting.select (selecting : Selecting layout selected (demand :: rest))
    (answered : PackageSelection.answer layout demand = .ok (.select index name))
    (isNew : selected.contains (index, name) = false) {gav : Gav} {package : Package}
    (found : define? layout index name = some (gav, package)) :
    Selecting layout (selected ++ [(index, name)]) (demandsOf index gav package ++ rest) := by
  have justified := List.forall_mem_cons.1 selecting.justified
  have reachable := reachable_of_answer built justified.1 answered
  constructor
  case reachable =>
    rw [List.forall_mem_append]
    exact ⟨selecting.reachable, by simpa using reachable⟩
  case nodup =>
    have fresh : (index, name) ∉ selected := by simpa using isNew
    rw [← List.concat_eq_append]
    exact selecting.nodup.concat fresh
  case justified =>
    rw [List.forall_mem_append]
    exact ⟨justified_demandsOf reachable found, justified.2⟩

omit built in
theorem Selecting.skip (selecting : Selecting layout selected (demand :: rest)) :
    Selecting layout selected rest where
  reachable := selecting.reachable
  nodup := selecting.nodup
  justified := (List.forall_mem_cons.1 selecting.justified).2

/-- A run of the selection ends with reachable packages, or with an error where there is no
selection. -/
theorem meet_sound (selecting : Selecting layout selected demands) :
    match meet layout selected demands with
    | .ok final => Selecting layout final []
    | .error _ => ¬Selectable layout := by
  fun_induction meet layout selected demands with
  | case1 selected => exact selecting
  | case2 selected demand rest problem answered =>
      have justified := List.forall_mem_cons.1 selecting.justified
      exact not_selectable_of_answer built justified.1 answered
  | case3 selected demand rest demands answered inductionHypothesis =>
      exact inductionHypothesis (selecting.answer built answered)
  | case4 selected demand rest index name answered isNew notFound =>
      have justified := List.forall_mem_cons.1 selecting.justified
      have reachable := reachable_of_answer built justified.1 answered
      intro selectable
      obtain ⟨package, isDefined⟩ := selectable.isDefined _ _ reachable
      obtain ⟨gav, found⟩ := exists_define? isDefined
      rw [notFound] at found
      cases found
  | case5 selected demand rest index name answered isNew gav package found
      inductionHypothesis =>
      exact inductionHypothesis (selecting.select built answered isNew found)
  | case6 selected demand rest index name answered known inductionHypothesis =>
      exact inductionHypothesis selecting.skip

/-- A selection that ends has met all its demands. -/
theorem completes_of_meet (ended : meet layout selected demands = .ok final) :
    Completes layout selected demands final := by
  fun_induction meet layout selected demands with
  | case1 selected =>
      cases ended
      exact ⟨fun _ listed => listed, by simp, fun _ listed => .inl listed⟩
  | case2 => cases ended
  | case3 selected demand rest demands answered inductionHypothesis =>
      obtain ⟨kept, met, settled⟩ := inductionHypothesis ended
      rw [List.forall_mem_append] at met
      refine ⟨kept, ?_, settled⟩
      exact List.forall_mem_cons.2 ⟨met_of_answer built answered met.1, met.2⟩
  | case4 => cases ended
  | case5 selected demand rest index name answered isNew gav package found
      inductionHypothesis =>
      obtain ⟨kept, met, settled⟩ := inductionHypothesis ended
      rw [List.forall_mem_append] at kept met
      -- A selected package stays selected, so its demand is met in the end.
      have isSelected : (index, name) ∈ final := kept.2 _ (List.mem_singleton_self _)
      refine ⟨kept.1, ?_, fun other listed => ?_⟩
      · exact List.forall_mem_cons.2 ⟨met_of_select built answered isSelected, met.2⟩
      · rcases settled other listed with before | isSettled
        · rcases List.mem_append.1 before with before | isThis
          · exact .inl before
          · obtain rfl := List.mem_singleton.1 isThis
            exact .inr ⟨gav, package, found, met.1⟩
        · exact .inr isSettled
  | case6 selected demand rest index name answered known inductionHypothesis =>
      obtain ⟨kept, met, settled⟩ := inductionHypothesis ended
      rw [Bool.not_eq_false, List.contains_iff_mem] at known
      refine ⟨kept, ?_, settled⟩
      exact List.forall_mem_cons.2 ⟨met_of_select built answered (kept _ known), met⟩

end

end Provisioning.PackageSelection
