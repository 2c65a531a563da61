/-
This file describes an expansion by the steps it takes.
-/

import Mathlib.Data.List.Chain
import Mathlib.Logic.Relation
import Provisioning.Expansion.Frames
import Provisioning.Proofs.Success

namespace Provisioning

namespace ProvisioningError

/-- An error inside groups names them from the outermost inwards. -/
def inGroups (groups : List GroupId) (problem : ProvisioningError) : ProvisioningError :=
  groups.foldr groupProcessing problem

theorem inGroups_append (outer inner : List GroupId) (problem : ProvisioningError) :
    inGroups (outer ++ inner) problem = inGroups outer (inGroups inner problem) :=
  List.foldr_append

/-- The groups around an error are not its cause. -/
theorem rootCause_inGroups (groups : List GroupId) (problem : ProvisioningError) :
    (inGroups groups problem).rootCause = problem.rootCause := by
  induction groups with
  | nil => rfl
  | cons group rest inductionHypothesis => exact inductionHypothesis

end ProvisioningError

namespace Expansion

variable {layout : Layout} {filters : List ScopedFilter} {groups : List OpenGroup}
  {state next : State} {frame : Frame} {outer : List Frame}

/-- One step of an expansion leads from a state to the next. -/
def Steps (layout : Layout) (state next : State) : Prop :=
  ∃ frame outer, state.frames = frame :: outer ∧ step layout state frame outer = .ok next

/-- An expansion comes from one state to another. -/
abbrev Reaches (layout : Layout) : State → State → Prop :=
  Relation.ReflTransGen (Steps layout)

theorem Steps.potential_lt (stepped : Steps layout state next) :
    potential layout next.groups next.frames < potential layout state.groups state.frames := by
  obtain ⟨frame, outer, frames, isNext⟩ := stepped
  exact potential_step frames isNext

/-- No expansion takes more steps than the state at its start allows. -/
theorem length_le_potential {states : List State}
    (chain : List.IsChain (Steps layout) (state :: states)) :
    states.length ≤ potential layout state.groups state.frames := by
  induction states generalizing state with
  | nil => exact Nat.zero_le _
  | cons next rest inductionHypothesis =>
      obtain ⟨stepped, remaining⟩ := List.isChain_cons_cons.1 chain
      exact Nat.lt_of_le_of_lt (inductionHypothesis remaining) stepped.potential_lt

/-- A step takes the next item of the innermost frame, or it leaves the frame. -/
inductive Moves (layout : Layout) (state : State) (frame : Frame) (outer : List Frame) :
    State → Prop where
  | leaves (items : frame.items = []) : Moves layout state frame outer (leave state frame outer)
  /-- A feature is collected, and nothing below it is expanded. -/
  | collects {config : FeatureConfig} {children rest : List Item} {collected : Collected}
      {id : Option ResolvedId} (items : frame.items = .feature config children :: rest)
      (isCollected : collectOccurrence layout state.filters frame.scope config frame.parent
        state.collected = .ok (collected, id)) :
      Moves layout state frame outer
        { state with collected, frames := { frame with items := rest } :: outer }
  /-- A feature is collected, and its children come next, in the scope of its alias. -/
  | nests {config : FeatureConfig} {children rest : List Item} {collected : Collected}
      {id : ResolvedId} {scope : Scope} (items : frame.items = .feature config children :: rest)
      (isCollected : collectOccurrence layout state.filters frame.scope config frame.parent
        state.collected = .ok (collected, some id))
      (isScope : layout.qualify frame.scope config.spec.origin = .ok scope) :
      Moves layout state frame outer { state with
        collected
        frames := ⟨scope, children, some id, none⟩ :: { frame with items := rest } :: outer }
  /-- An excluded group stays closed. -/
  | passes {config : GroupConfig} {rest : List Item} (items : frame.items = .group config :: rest)
      (closed : openGroup layout state.filters state.groups frame.scope config = .ok none) :
      Moves layout state frame outer
        { state with frames := { frame with items := rest } :: outer }
  | enters {config : GroupConfig} {rest : List Item} {opening : Opening}
      (items : frame.items = .group config :: rest)
      (opened : openGroup layout state.filters state.groups frame.scope config =
        .ok (some opening)) :
      Moves layout state frame outer
        (enter state opening frame.parent ({ frame with items := rest } :: outer))

theorem moves_of_step (stepped : step layout state frame outer = .ok next) :
    Moves layout state frame outer next := by
  unfold step at stepped
  split at stepped
  · next items =>
    cases stepped
    exact .leaves items
  · next config children rest items =>
    obtain ⟨⟨collected, id⟩, collects, stepped⟩ := bind_eq_ok_iff.1 stepped
    have isCollected := wrapWith_eq_ok_iff.1 collects
    obtain ⟨child, isChild, stepped⟩ := bind_eq_ok_iff.1 stepped
    cases stepped
    cases id with
    | none =>
        cases isChild
        exact .collects items isCollected
    | some id =>
        rw [childFrame] at isChild
        split at isChild
        · cases isChild
          exact .collects items isCollected
        · obtain ⟨scope, isScope, isChild⟩ := bind_eq_ok_iff.1 isChild
          cases isChild
          exact .nests items isCollected isScope
  · next config rest items =>
    obtain ⟨opening, opened, stepped⟩ := bind_eq_ok_iff.1 stepped
    cases opening with
    | none =>
        cases stepped
        exact .passes items opened
    | some opening =>
        cases stepped
        exact .enters items opened

/-- The group that a definition is opened as. -/
def OpenGroup.ofFound (found : Found FeatureGroup) : OpenGroup :=
  ⟨found.index, ⟨found.gav, found.definition.name⟩⟩

/-- A group that is opened has been found from the scope of its reference. -/
theorem found_of_openGroup {scope : Scope} {config : GroupConfig} {opening : Opening}
    (opened : openGroup layout filters groups scope config = .ok (some opening)) :
    ∃ found, layout.findGroup scope config.group = .ok found ∧
      opening.group = .ofFound found ∧ opening.items = found.definition.items := by
  obtain ⟨found, isFound, opened⟩ := bind_eq_ok_iff.1 opened
  obtain ⟨isExcluded, _, opened⟩ := bind_eq_ok_iff.1 opened
  split at opened
  · cases opened
  · dsimp only at opened
    split at opened
    · cases opened
    · obtain ⟨filter, _, opened⟩ := bind_eq_ok_iff.1 opened
      cases opened
      exact ⟨found, isFound, rfl, rfl⟩

/-- The next item of a frame cannot be expanded. A group that is found and not excluded is being
opened when its filter is refused or when it is open already. -/
inductive ItemFails (layout : Layout) (state : State) (frame : Frame) :
    Option OpenGroup → ProvisioningError → Prop where
  | feature {config : FeatureConfig} {children rest : List Item} {problem : ProvisioningError}
      (items : frame.items = .feature config children :: rest)
      (failed : collectOccurrence layout state.filters frame.scope config frame.parent
        state.collected = .error problem) :
      ItemFails layout state frame none (.featureProcessing config.text problem)
  | search {config : GroupConfig} {rest : List Item} {problem : ProvisioningError}
      (items : frame.items = .group config :: rest)
      (failed : layout.findGroup frame.scope config.group = .error problem) :
      ItemFails layout state frame none problem
  | exclusion {config : GroupConfig} {rest : List Item} {found : Found FeatureGroup}
      {problem : ProvisioningError} (items : frame.items = .group config :: rest)
      (isFound : layout.findGroup frame.scope config.group = .ok found)
      (failed : layout.isGroupExcluded found.index found.definition.name state.filters =
        .error problem) :
      ItemFails layout state frame none problem
  | cycle {config : GroupConfig} {rest : List Item} {found : Found FeatureGroup}
      {path : List GroupId} (items : frame.items = .group config :: rest)
      (isFound : layout.findGroup frame.scope config.group = .ok found)
      (notExcluded : layout.isGroupExcluded found.index found.definition.name state.filters =
        .ok false)
      (closes : groupCycle? state.groups (.ofFound found) = some path) :
      ItemFails layout state frame (some (.ofFound found)) (.cyclicGroup path)
  | filter {config : GroupConfig} {rest : List Item} {found : Found FeatureGroup}
      {problem : ProvisioningError} (items : frame.items = .group config :: rest)
      (isFound : layout.findGroup frame.scope config.group = .ok found)
      (notExcluded : layout.isGroupExcluded found.index found.definition.name state.filters =
        .ok false)
      (isNew : OpenGroup.ofFound found ∉ state.groups)
      (failed : layout.activate config.filter frame.scope = .error problem) :
      ItemFails layout state frame (some (.ofFound found)) problem

/-- The alias of a feature that has been collected leads somewhere. -/
theorem qualify_of_collectOccurrence {scope : Scope} {config : FeatureConfig}
    {parent : Option ResolvedId} {collected : Collected} {result : Collected × Option ResolvedId}
    (isCollected : collectOccurrence layout filters scope config parent collected = .ok result) :
    Succeeds (layout.qualify scope config.spec.origin) := by
  obtain ⟨_, isIdentified, _⟩ := bind_eq_ok_iff.1 isCollected
  obtain ⟨_, isFound, _⟩ := bind_eq_ok_iff.1 isIdentified
  obtain ⟨start, isStart, _⟩ := bind_eq_ok_iff.1 isFound
  exact ⟨start, isStart⟩

/-- The children of a feature that has been collected have a scope. -/
theorem succeeds_childFrame {scope : Scope} {config : FeatureConfig} {parent : Option ResolvedId}
    {collected : Collected} {result : Collected × Option ResolvedId}
    (isCollected : collectOccurrence layout filters scope config parent collected = .ok result)
    (children : List Item) : Succeeds (childFrame layout scope config children result.2) := by
  obtain ⟨start, isStart⟩ := qualify_of_collectOccurrence isCollected
  unfold childFrame
  rw [isStart]
  split
  · exact ⟨_, rfl⟩
  · split <;> exact ⟨_, rfl⟩

/-- A reference fails while its group is looked up or while the group is being opened. -/
theorem itemFails_of_openGroup {config : GroupConfig} {rest : List Item}
    {problem : ProvisioningError} (items : frame.items = .group config :: rest)
    (failed : openGroup layout state.filters state.groups frame.scope config = .error problem) :
    ∃ opened cause, ItemFails layout state frame opened cause ∧
      problem = .inGroups (opened.toList.map OpenGroup.id) cause := by
  rcases bind_eq_error_iff.1 failed with failed | ⟨found, isFound, failed⟩
  · exact ⟨none, problem, .search items failed, rfl⟩
  rcases bind_eq_error_iff.1 failed with failed | ⟨isExcluded, excludes, failed⟩
  · exact ⟨none, problem, .exclusion items isFound failed, rfl⟩
  cases isExcluded with
  | true => cases failed
  | false =>
      rw [if_neg Bool.false_ne_true] at failed
      dsimp only at failed
      split at failed
      · next path closes =>
        cases failed
        exact ⟨_, _, .cycle items isFound excludes closes, rfl⟩
      · next isOpen =>
        rcases bind_eq_error_iff.1 failed with failed | ⟨_, _, failed⟩
        · obtain ⟨cause, isCause, rfl⟩ := wrapWith_eq_error_iff.1 failed
          have isNew := groupCycle?_eq_none_iff.1 isOpen
          exact ⟨_, _, .filter items isFound excludes isNew isCause, rfl⟩
        · cases failed

/-- A step fails with what is wrong with the next item, inside the group that is being opened. -/
theorem itemFails_of_step {problem : ProvisioningError}
    (failed : step layout state frame outer = .error problem) :
    ∃ opened cause, ItemFails layout state frame opened cause ∧
      problem = .inGroups (opened.toList.map OpenGroup.id) cause := by
  unfold step at failed
  split at failed
  · cases failed
  · next config children rest items =>
    rcases bind_eq_error_iff.1 failed with failed | ⟨⟨collected, id⟩, collects, failed⟩
    · obtain ⟨cause, isCause, rfl⟩ := wrapWith_eq_error_iff.1 failed
      exact ⟨none, _, .feature items isCause, rfl⟩
    · rcases bind_eq_error_iff.1 failed with failed | ⟨_, _, failed⟩
      · obtain ⟨child, isChild⟩ := succeeds_childFrame (wrapWith_eq_ok_iff.1 collects) children
        rw [isChild] at failed
        cases failed
      · cases failed
  · next config rest items =>
    rcases bind_eq_error_iff.1 failed with failed | ⟨_ | opening, _, failed⟩
    · exact itemFails_of_openGroup items failed
    · cases failed
    · cases failed

/-- A group is open for each frame that holds the items of one. -/
def labels (frames : List Frame) : List GroupId :=
  (frames.filterMap Frame.group).map Prod.fst

theorem wrapGroups_eq (frames : List Frame) (problem : ProvisioningError) :
    wrapGroups frames problem = .inGroups (labels frames).reverse problem := by
  rw [wrapGroups, ProvisioningError.inGroups, labels, List.foldr_reverse, List.foldl_map]

/-- An expansion comes to a state in which nothing is left to do or the next item fails. -/
inductive Ends (layout : Layout) (state : State) : Provisioned Collected → Prop where
  | done {last : State} (comes : Reaches layout state last) (frames : last.frames = []) :
      Ends layout state (.ok last.collected)
  | fails {last : State} {frame : Frame} {outer : List Frame} {opened : Option OpenGroup}
      {cause : ProvisioningError} (comes : Reaches layout state last)
      (frames : last.frames = frame :: outer) (failed : ItemFails layout last frame opened cause) :
      Ends layout state (.error
        (.inGroups ((labels last.frames).reverse ++ opened.toList.map OpenGroup.id) cause))

/-- The run of an expansion has the outcome of its steps. -/
theorem run_ends (layout : Layout) (filters : List ScopedFilter) (groups : List OpenGroup)
    (state : State) : Ends layout state (run layout filters groups state).result := by
  fun_induction run layout filters groups state with
  | case1 state frames => exact .done .refl frames
  | case2 state frame outer frames problem failed =>
      obtain ⟨opened, cause, itemFails, rfl⟩ := itemFails_of_step failed
      rw [wrapGroups_eq, ← ProvisioningError.inGroups_append, ← frames]
      exact .fails .refl frames itemFails
  | case3 state frame outer frames next stepped inductionHypothesis =>
      have isStep : Steps layout state next := ⟨frame, outer, frames, stepped⟩
      generalize (run layout filters groups next).result = result at inductionHypothesis
      cases inductionHypothesis with
      | done comes isEmpty => exact .done (.head isStep comes) isEmpty
      | fails comes isTop failed => exact .fails (.head isStep comes) isTop failed

end Expansion

end Provisioning
