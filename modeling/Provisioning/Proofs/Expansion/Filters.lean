/-
This file proves that an active filter never fails: a filter becomes active once its aliases are
known, and the stacks of an expansion hold no other filters.
-/

import Mathlib.Data.List.Permutation
import Provisioning.Proofs.Expansion.Activation
import Provisioning.Proofs.Expansion.Failures
import Provisioning.Proofs.Expansion.Lexical

namespace Provisioning

namespace Expansion

variable {layout : Layout} {filters : List ScopedFilter} {groups : List OpenGroup}
  {state next : State} {frame : Frame} {outer : List Frame}

/-- Every filter of a stack has aliases that its own scope knows. -/
def Resolvable (layout : Layout) (filters : List ScopedFilter) : Prop :=
  ∀ level ∈ filters, level.IsResolvable layout

/-- What is left of a stack when its innermost filter is dropped still has known aliases. -/
theorem Resolvable.pop (resolvable : Resolvable layout filters) :
    Resolvable layout (filters.drop 1) :=
  fun level isActive => resolvable level (List.mem_of_mem_drop isActive)

/-- Whatever comes out of an activation can be put on the stack. -/
theorem Resolvable.push {filter : FeatureFilter} {scope : Scope} {active : Option ScopedFilter}
    (resolvable : Resolvable layout filters)
    (activated : layout.activate filter scope = .ok active) :
    Resolvable layout (active.toList ++ filters) := by
  intro level isActive
  rcases List.mem_append.1 isActive with isNew | isOld
  · rw [Option.mem_toList.1 isNew] at activated
    exact (Layout.activate_eq_some_iff.1 activated).2.1
  · exact resolvable level isOld

/-- The filter on an opened group has been activated in the scope of the reference. -/
theorem activate_of_openGroup {scope : Scope} {config : GroupConfig} {opening : Opening}
    (opened : openGroup layout filters groups scope config = .ok (some opening)) :
    layout.activate config.filter scope = .ok opening.filter := by
  obtain ⟨found, _, opened⟩ := bind_eq_ok_iff.1 opened
  obtain ⟨isExcluded, _, opened⟩ := bind_eq_ok_iff.1 opened
  split at opened
  · cases opened
  · dsimp only at opened
    split at opened
    · cases opened
    · obtain ⟨filter, isFilter, opened⟩ := bind_eq_ok_iff.1 opened
      cases opened
      exact wrapWith_eq_ok_iff.1 isFilter

/-- A step pushes only filters whose aliases are known. -/
theorem resolvable_of_step (resolvable : Resolvable layout state.filters)
    (stepped : step layout state frame outer = .ok next) : Resolvable layout next.filters := by
  cases moves_of_step stepped with
  | leaves items =>
      unfold leave
      split
      · exact resolvable
      · dsimp only
        split
        · exact resolvable.pop
        · exact resolvable
  | collects items isCollected => exact resolvable
  | nests items isCollected isScope => exact resolvable
  | passes items closed => exact resolvable
  | enters items opened => exact resolvable.push (activate_of_openGroup opened)

/-- However far an expansion comes, its filters have known aliases. -/
theorem resolvable_of_reaches (resolvable : Resolvable layout state.filters)
    (comes : Reaches layout state next) : Resolvable layout next.filters := by
  induction comes with
  | refl => exact resolvable
  | tail _ stepped inductionHypothesis =>
      obtain ⟨frame, outer, _, isNext⟩ := stepped
      exact resolvable_of_step inductionHypothesis isNext

/-- The stacks that an expander has when no part is being expanded. It starts without a filter and
without a group, and each part, whether it fails or not, leaves its stacks to the next. -/
inductive Rests (layout : Layout) : List ScopedFilter → List OpenGroup → Prop where
  | new : Rests layout [] []
  | after {filters : List ScopedFilter} {groups : List OpenGroup} (rests : Rests layout filters groups)
      (collected : Collected) (part : ConfigPart) :
      Rests layout (expandPart layout collected filters groups part).filters
        (expandPart layout collected filters groups part).groups

/-- Nothing is left on the stacks between two parts. -/
theorem Rests.eq_nil (rests : Rests layout filters groups) : filters = [] ∧ groups = [] := by
  induction rests with
  | new => exact ⟨rfl, rfl⟩
  | after _ collected part inductionHypothesis =>
      rw [expandPart_eq_evaluatePart]
      exact inductionHypothesis

/-- The filter of a part as it becomes active. -/
def partFilter (layout : Layout) (part : ConfigPart) : Provisioned (Option ScopedFilter) :=
  match part.filter with
  | none => .ok none
  | some level => layout.activate level.filter level.scope

/-- The state in which the items of a part are about to be expanded. -/
def partStart (collected : Collected) (filters : List ScopedFilter) (groups : List OpenGroup)
    (part : ConfigPart) (active : Option ScopedFilter) : State :=
  ⟨collected, active.toList ++ filters, groups, [⟨part.scope, part.spec.items, none, none⟩]⟩

/-- An expander comes to a state while it expands a part. -/
inductive Visits (layout : Layout) (state : State) : Prop where
  | during {filters : List ScopedFilter} {groups : List OpenGroup} (rests : Rests layout filters groups)
      (collected : Collected) {part : ConfigPart} {active : Option ScopedFilter}
      (activated : partFilter layout part = .ok active)
      (comes : Reaches layout (partStart collected filters groups part active) state)

/-- All filters of a state that is visited are resolvable. -/
theorem Visits.resolvable (visits : Visits layout state) : Resolvable layout state.filters := by
  obtain ⟨rests, collected, activated, comes⟩ := visits
  obtain ⟨rfl, rfl⟩ := rests.eq_nil
  refine resolvable_of_reaches ?_ comes
  have empty : Resolvable layout [] := fun _ isActive => nomatch isActive
  unfold partFilter at activated
  split at activated
  · cases activated
    exact empty
  · exact empty.push activated

/-- A filter is refused for the alias of one of its rules. -/
inductive RefusesFilter (layout : Layout) (filter : FeatureFilter) (scope : Scope) :
    ProvisioningError → Prop where
  | unknown {rule : FeatureFilter.Rule} {origin : String} (inRules : rule ∈ filter.rules)
      (isOrigin : rule.origin? = some origin)
      (fails : ¬Succeeds (layout.resolveOrigin scope origin)) :
      RefusesFilter layout filter scope (.unknownOrigin origin (layout.describe scope))

/-- A filter that is not activated has an unknown alias. -/
theorem refusesFilter_of_activate {filter : FeatureFilter} {scope : Scope}
    {problem : ProvisioningError} (failed : layout.activate filter scope = .error problem) :
    RefusesFilter layout filter scope problem := by
  obtain ⟨rule, inRules, origin, isOrigin, isProblem⟩ := Layout.exists_of_activate_error failed
  rw [Layout.resolveOrigin_error isProblem]
  refine .unknown inRules isOrigin ?_
  rw [isProblem]
  exact not_succeeds_error problem

/-- A part ends with the refusal of its filter, or it is expanded once the filter is active. -/
inductive PartEnds (layout : Layout) (collected : Collected) (filters : List ScopedFilter)
    (groups : List OpenGroup) (part : ConfigPart) : Provisioned Collected → Prop where
  | refused {level : ScopedFilter} {problem : ProvisioningError} (isLevel : part.filter = some level)
      (refuses : RefusesFilter layout level.filter level.scope problem) :
      PartEnds layout collected filters groups part (.error problem)
  | expanded {active : Option ScopedFilter} {result : Provisioned Collected}
      (activated : partFilter layout part = .ok active)
      (ends : Ends layout (partStart collected filters groups part active) result) :
      PartEnds layout collected filters groups part result

/-- A part is expanded to an end once its filter is active. -/
theorem partEnds_expandPart (layout : Layout) (collected : Collected) (filters : List ScopedFilter)
    (groups : List OpenGroup) (part : ConfigPart) :
    PartEnds layout collected filters groups part
      (expandPart layout collected filters groups part).result := by
  unfold expandPart
  split
  · next noFilter =>
    have activated : partFilter layout part = .ok none := by rw [partFilter, noFilter]
    exact .expanded activated (run_ends layout filters groups _)
  · next level isLevel =>
    have activation : partFilter layout part = layout.activate level.filter level.scope := by
      rw [partFilter, isLevel]
    split
    · next problem failed => exact .refused isLevel (refusesFilter_of_activate failed)
    · next activated =>
      exact .expanded (activation.trans activated) (run_ends layout filters groups _)
    · next active activated =>
      exact .expanded (activation.trans activated) (run_ends layout (active :: filters) groups _)

/-- The alias behind a failure is that of the next item itself, that of the reference to the feature
around it, or one in the filter on a group that is being opened. None of them comes from a filter
that is active. -/
inductive MissesAlias (layout : Layout) (frame : Frame) : ProvisioningError → Prop where
  | feature {config : FeatureConfig} {children rest : List Item} {problem : ProvisioningError}
      (items : frame.items = .feature config children :: rest)
      (failed : identify layout frame.scope config frame.parent = .error problem) :
      MissesAlias layout frame (.featureProcessing config.text problem)
  | group {config : GroupConfig} {rest : List Item} {problem : ProvisioningError}
      (items : frame.items = .group config :: rest)
      (failed : layout.findGroup frame.scope config.group = .error problem) :
      MissesAlias layout frame problem
  | filter {config : GroupConfig} {rest : List Item} {found : Found FeatureGroup}
      {problem : ProvisioningError} (items : frame.items = .group config :: rest)
      (isFound : layout.findGroup frame.scope config.group = .ok found)
      (refuses : RefusesFilter layout config.filter frame.scope problem) :
      MissesAlias layout frame (.groupProcessing ⟨found.gav, found.definition.name⟩ problem)

end Expansion

section

open ProvisioningError

/-- A problem beyond the aliases is no unknown origin. -/
theorem IsBeyondAliases.not_unknownOrigin {problem : ProvisioningError}
    (beyond : problem.IsBeyondAliases) : ¬problem.rootCause.IsUnknownOrigin := by
  rw [beyond.1.rootCause_eq]
  exact beyond.2

/-- When the active filters do not fail, a feature misses an alias before they are asked. -/
theorem identify_of_collectOccurrence_error {layout : Layout} {filters : List ScopedFilter}
    {scope : Scope} {config : FeatureConfig} {parent : Option ResolvedId} {collected : Collected}
    {problem : ProvisioningError} (admits : ∀ id, Succeeds (layout.admission id filters))
    (failed : collectOccurrence layout filters scope config parent collected = .error problem)
    (isUnknown : problem.rootCause.IsUnknownOrigin) :
    identify layout scope config parent = .error problem := by
  rcases bind_eq_error_iff.1 failed with failed | ⟨feature, _, failed⟩
  · exact failed
  refine absurd isUnknown (IsBeyondAliases.not_unknownOrigin ?_)
  refine FailsWithin.bind (.of_succeeds (admits feature.id)) ?_ problem failed
  rintro (_ | rule) _
  · exact .pure _
  · refine (failsWithin_applyOverrides _ _ _ _).bind fun params _ => ?_
    exact (failsWithin_merge _ _).bind fun _ _ => .pure _

end

namespace Expansion

/-- With filters that cannot fail, a step misses an alias of its own item or pushes a filter that
is refused. -/
theorem missesAlias_of_step {layout : Layout} {state : State} {frame : Frame} {outer : List Frame}
    {problem : ProvisioningError}
    (resolvable : Resolvable layout state.filters)
    (failed : step layout state frame outer = .error problem)
    (isUnknown : problem.rootCause.IsUnknownOrigin) : MissesAlias layout frame problem := by
  obtain ⟨opened, cause, itemFails, rfl⟩ := itemFails_of_step failed
  rw [ProvisioningError.rootCause_inGroups] at isUnknown
  cases itemFails with
  | feature items isCause =>
      have admits := Layout.succeeds_admission resolvable
      exact .feature items (identify_of_collectOccurrence_error admits isCause isUnknown)
  | search items isCause => exact .group items isCause
  | exclusion items isFound isCause =>
      obtain ⟨_, isExcluded⟩ := Layout.succeeds_isGroupExcluded resolvable _ _
      rw [isExcluded] at isCause
      cases isCause
  | cycle => exact isUnknown.elim
  | filter items isFound notExcluded isNew isCause =>
      exact .filter items isFound (refusesFilter_of_activate isCause)

/-- The filters of a state have known aliases, so nothing that asks them fails. -/
structure FiltersHold (layout : Layout) (state : State) : Prop where
  resolvable : ∀ level ∈ state.filters, level.IsResolvable layout
  admits : ∀ id, Succeeds (layout.admission id state.filters)
  excludes : ∀ index name, Succeeds (layout.isGroupExcluded index name state.filters)
  /-- The items below a feature that is collected have a scope. -/
  nests : ∀ {scope : Scope} {config : FeatureConfig} {parent : Option ResolvedId}
    {collected : Collected} {id : ResolvedId},
    collectOccurrence layout state.filters scope config parent state.collected =
      .ok (collected, some id) → Succeeds (layout.qualify scope config.spec.origin)
  /-- An alias in a filter is missed when the filter is pushed, and at no other time. -/
  misses : ∀ {frame : Frame} {outer : List Frame} {problem : ProvisioningError},
    step layout state frame outer = .error problem → problem.rootCause.IsUnknownOrigin →
      MissesAlias layout frame problem

/-- The filters of a layout are checked when they become active, and then they cannot fail. -/
structure FiltersNeverFail (layout : Layout) : Prop where
  /-- A filter becomes active exactly when all its aliases are known. -/
  activates : ∀ filter scope,
    Succeeds (layout.activate filter scope) ↔ ScopedFilter.IsResolvable layout ⟨filter, scope⟩
  /-- The filter of a part is pushed before the first of its items is expanded. -/
  parts : ∀ collected filters groups part, PartEnds layout collected filters groups part
    (expandPart layout collected filters groups part).result
  /-- Whatever state an expander comes to, the filters on its stack hold. -/
  states : ∀ state, Visits layout state → FiltersHold layout state

/-- In no state that an expander comes to does an active filter fail. -/
theorem active_filters_never_fail (layout : Layout) : FiltersNeverFail layout where
  activates _ _ := Layout.succeeds_activate_iff
  parts := partEnds_expandPart layout
  states _ visits := {
    resolvable := visits.resolvable
    admits := Layout.succeeds_admission visits.resolvable
    excludes := Layout.succeeds_isGroupExcluded visits.resolvable
    nests := qualify_of_collectOccurrence
    misses := missesAlias_of_step visits.resolvable }

/-! A palette from another feature-pack is used without its washes. -/

namespace Atelier

def gav (artifact : String) : Gav :=
  ⟨"g", artifact, "1"⟩

def dyes : FeaturePack where
  gav := gav "dyes"
  dependencies := []
  packages := []
  markedDefaults := []
  specs := []
  groups := [⟨"palette", []⟩, ⟨"washes", []⟩]
  configs := []
  accepted := by rfl

def atelier : FeaturePack where
  gav := gav "atelier"
  dependencies := [⟨some "dyes", .ofGav (gav "dyes")⟩]
  packages := []
  markedDefaults := []
  specs := []
  groups := []
  configs := []
  accepted := by rfl

def layout : Layout :=
  .ofWalked ⟨[.ofGav (gav "atelier")], .empty, .inheritAll, by simp⟩
    ⟨[⟨atelier, [.ofGav (gav "atelier")], none⟩,
      ⟨dyes, [.ofGav (gav "atelier"), .ofGav (gav "dyes")], some 0⟩], [1, 0]⟩

/-- The second rule names a group that the dyes do not have. -/
def filter : FeatureFilter :=
  ⟨true, [.excludeGroup ⟨some "dyes", "washes"⟩, .excludeGroup ⟨some "dyes", "glazes"⟩]⟩

def part : ConfigPart :=
  ⟨⟨⟨none, some "studio"⟩, .empty, [.group ⟨⟨some "dyes", "palette"⟩, filter⟩], false⟩, .pack 0, none⟩

/-- The palette is open, and its filter is active. -/
def inside : State :=
  ⟨[], [⟨filter, .pack 0⟩], [⟨1, ⟨gav "dyes", "palette"⟩⟩],
    [⟨.pack 1, [], none, some (⟨gav "dyes", "palette"⟩, true)⟩, ⟨.pack 0, [], none, none⟩]⟩

theorem visits_inside : Visits layout inside := by
  have stepped : step layout (partStart [] [] [] part none) ⟨.pack 0, part.spec.items, none, none⟩ [] =
      .ok inside := by
    cbv
  exact .during .new [] rfl (.single ⟨_, _, rfl, stepped⟩)

end Atelier

/-- The filter on the palette has aliases, and neither the washes, which it excludes, nor the
glazes, which do not exist, make it fail. -/
theorem filtersHold_atelier : Visits Atelier.layout Atelier.inside ∧
    FiltersHold Atelier.layout Atelier.inside ∧
    Atelier.layout.isGroupExcluded 1 "washes" Atelier.inside.filters = .ok true ∧
    Atelier.layout.isGroupExcluded 1 "glazes" Atelier.inside.filters = .ok false :=
  ⟨Atelier.visits_inside,
    (active_filters_never_fail Atelier.layout).states _ Atelier.visits_inside, by cbv, by cbv⟩

end Expansion

end Provisioning
