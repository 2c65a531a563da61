/-
This file proves that the frames of an expansion evaluate every item in its lexical surroundings.
-/

import Provisioning.Expansion.Frames
import Provisioning.Proofs.Success

namespace Provisioning.Expansion

/-- What surrounds an item in the text of a config. -/
structure Surroundings where
  /-- Names are looked up from here. -/
  scope : Scope
  /-- The filters of the parts and groups around the item, the innermost first. -/
  filters : List ScopedFilter
  /-- The groups around the item, the innermost first. -/
  groups : List OpenGroup
  /-- The nearest feature around the item that the filters let in. -/
  parent : Option ResolvedId

namespace Surroundings

/-- The children of a feature see its alias as their scope and the feature as their parent. -/
def within (around : Surroundings) (scope : Scope) (parent : ResolvedId) : Surroundings :=
  { around with scope, parent := some parent }

/-- The items of a group see its feature-pack as their scope, and its filter before the others. -/
def inside (around : Surroundings) (opening : Opening) : Surroundings :=
  { around with
    scope := .pack opening.group.index
    filters := opening.filter.toList ++ around.filters
    groups := opening.group :: around.groups }

end Surroundings

theorem sizeAll_rest_lt (item : Item) (rest : List Item) :
    Item.sizeAll rest < Item.sizeAll (item :: rest) := by
  rw [Item.sizeAll]
  cases item with
  | feature config children => rw [Item.size]; omega
  | group config => rw [Item.size]; omega

theorem sizeAll_children_lt (config : FeatureConfig) (children rest : List Item) :
    Item.sizeAll children < Item.sizeAll (.feature config children :: rest) := by
  rw [Item.sizeAll, Item.size]
  omega

/-- Items are evaluated one after the other, each in its surroundings. Whatever stands below an
excluded feature or in an excluded group is left out. -/
def evaluate (layout : Layout) (around : Surroundings) (collected : Collected) :
    List Item → Provisioned Collected
  | [] => .ok collected
  | .feature config children :: rest => do
      let (collected, id) ← wrapWith (.featureProcessing config.text)
        (collectOccurrence layout around.filters around.scope config around.parent collected)
      match id with
      | none => evaluate layout around collected rest
      | some id =>
          if children.isEmpty then
            evaluate layout around collected rest
          else do
            let scope ← layout.qualify around.scope config.spec.origin
            let collected ← evaluate layout (around.within scope id) collected children
            evaluate layout around collected rest
  | .group config :: rest =>
      match _opened : openGroup layout around.filters around.groups around.scope config with
      | .error problem => .error problem
      | .ok none => evaluate layout around collected rest
      | .ok (some opening) => do
          let collected ← wrapWith (.groupProcessing opening.group.id)
            (evaluate layout (around.inside opening) collected opening.items)
          evaluate layout around collected rest
termination_by items => (room layout around.groups, Item.sizeAll items)
decreasing_by
  · exact .right _ (sizeAll_rest_lt _ rest)
  · exact .right _ (sizeAll_rest_lt _ rest)
  · exact .right _ (sizeAll_children_lt config children rest)
  · exact .right _ (sizeAll_rest_lt _ rest)
  · exact .right _ (sizeAll_rest_lt _ rest)
  · obtain ⟨isNew, isDefined, _⟩ := openGroup_ok _opened
    exact .left _ _ (room_lt isDefined isNew)
  · exact .right _ (sizeAll_rest_lt _ rest)

namespace Surroundings

/-- The frame of items in their surroundings. -/
def frame (around : Surroundings) (items : List Item) (group : Option (GroupId × Bool)) : Frame :=
  ⟨around.scope, items, around.parent, group⟩

/-- The state of an expansion that is about to evaluate items in their surroundings. -/
def state (around : Surroundings) (collected : Collected) (items : List Item)
    (group : Option (GroupId × Bool)) (outer : List Frame) : State :=
  ⟨collected, around.filters, around.groups, around.frame items group :: outer⟩

/-- The state of an expansion once the items of a frame are evaluated. -/
def left (around : Surroundings) (collected : Collected) (group : Option (GroupId × Bool))
    (outer : List Frame) : State :=
  leave (around.state collected [] group outer) (around.frame [] group) outer

/-- After the children of a feature its own surroundings are back. -/
theorem left_within (around : Surroundings) (scope : Scope) (parent : ResolvedId)
    (collected : Collected) (rest : List Item) (group : Option (GroupId × Bool))
    (outer : List Frame) :
    (around.within scope parent).left collected none (around.frame rest group :: outer) =
      around.state collected rest group outer := rfl

/-- After the items of a group its filter is dropped and the group is closed. -/
theorem left_inside (around : Surroundings) (opening : Opening) (collected : Collected)
    (rest : List Item) (group : Option (GroupId × Bool)) (outer : List Frame) :
    (around.inside opening).left collected (some (opening.group.id, opening.filter.isSome))
        (around.frame rest group :: outer) = around.state collected rest group outer := by
  obtain ⟨opened, items, filter⟩ := opening
  cases filter <;> rfl

end Surroundings

/-- A step collects the occurrence of a feature and puts its children on top of the rest. -/
theorem step_feature (layout : Layout) (around : Surroundings) (collected : Collected)
    (config : FeatureConfig) (children rest : List Item) (group : Option (GroupId × Bool))
    (outer : List Frame) :
    step layout (around.state collected (.feature config children :: rest) group outer)
        (around.frame (.feature config children :: rest) group) outer = do
      let (after, id) ← wrapWith (.featureProcessing config.text)
        (collectOccurrence layout around.filters around.scope config around.parent collected)
      let child ← childFrame layout around.scope config children id
      return ⟨after, around.filters, around.groups,
        child.toList ++ around.frame rest group :: outer⟩ := rfl

/-- A step over an occurrence that is collected goes on with its children. -/
theorem step_of_collected {layout : Layout} {around : Surroundings} {collected after : Collected}
    {config : FeatureConfig} {id : Option ResolvedId}
    (isCollected : collectOccurrence layout around.filters around.scope config around.parent
      collected = .ok (after, id))
    (children rest : List Item) (group : Option (GroupId × Bool)) (outer : List Frame) :
    step layout (around.state collected (.feature config children :: rest) group outer)
        (around.frame (.feature config children :: rest) group) outer = do
      let child ← childFrame layout around.scope config children id
      return ⟨after, around.filters, around.groups,
        child.toList ++ around.frame rest group :: outer⟩ := by
  rw [step_feature, isCollected]
  rfl

/-- A step opens a group and puts its items on top of the rest. -/
theorem step_group (layout : Layout) (around : Surroundings) (collected : Collected)
    (config : GroupConfig) (rest : List Item) (group : Option (GroupId × Bool))
    (outer : List Frame) :
    step layout (around.state collected (.group config :: rest) group outer)
        (around.frame (.group config :: rest) group) outer = do
      match ← openGroup layout around.filters around.groups around.scope config with
      | none => return around.state collected rest group outer
      | some opening =>
          return (around.inside opening).state collected opening.items
            (some (opening.group.id, opening.filter.isSome)) (around.frame rest group :: outer) :=
  rfl

section

variable {layout : Layout} {filters : List ScopedFilter} {groups : List OpenGroup}

/-- A run goes on from the state after its first step. -/
theorem run_of_step {state next : State} {frame : Frame} {outer : List Frame}
    (frames : state.frames = frame :: outer) (stepped : step layout state frame outer = .ok next) :
    run layout filters groups state = run layout filters groups next := by
  rw [run]
  split
  · next empty => simp [empty] at frames
  · next top below isTop =>
    rw [frames] at isTop
    cases isTop
    split
    · next failed => simp [stepped] at failed
    · next other isNext =>
      rw [stepped] at isNext
      cases isNext
      rfl

/-- A failure cuts the stacks back to what lay below everything that was added. -/
theorem run_of_error {state : State} {frame : Frame} {outer : List Frame}
    {problem : ProvisioningError} (frames : state.frames = frame :: outer)
    (failed : step layout state frame outer = .error problem)
    (filtersKept : filters <:+ state.filters) (groupsKept : groups <:+ state.groups) :
    run layout filters groups state =
      ⟨filters, groups, .error (wrapGroups (frame :: outer) problem)⟩ := by
  rw [run]
  split
  · next empty => simp [empty] at frames
  · next top below isTop =>
    rw [frames] at isTop
    cases isTop
    split
    · next other isProblem =>
      rw [failed] at isProblem
      cases isProblem
      rw [← List.suffix_iff_eq_drop.1 filtersKept, ← List.suffix_iff_eq_drop.1 groupsKept]
    · next isNext => simp [failed] at isNext

/-- The group of a frame is named around a failure in the frame. -/
def wrapGroup : Option (GroupId × Bool) → ProvisioningError → ProvisioningError
  | none, problem => problem
  | some (id, _), problem => .groupProcessing id problem

/-- A problem is wrapped by the innermost frame first. -/
theorem wrapGroups_cons (frame : Frame) (outer : List Frame) (problem : ProvisioningError) :
    wrapGroups (frame :: outer) problem = wrapGroups outer (wrapGroup frame.group problem) := by
  unfold wrapGroups
  cases isGroup : frame.group with
  | none => simp [isGroup, wrapGroup]
  | some group => simp [isGroup, wrapGroup]

/-- After the items of a frame the expansion goes on with the frames around it. -/
def Surroundings.resume (layout : Layout) (filters : List ScopedFilter) (groups : List OpenGroup)
    (around : Surroundings) (group : Option (GroupId × Bool)) (outer : List Frame) :
    Provisioned Collected → Outcome
  | .ok collected => run layout filters groups (around.left collected group outer)
  | .error problem => ⟨filters, groups, .error (wrapGroups outer (wrapGroup group problem))⟩

/-- A feature is expanded in its surroundings when its children and the items after it are. -/
theorem run_feature {around : Surroundings} (collected : Collected) (config : FeatureConfig)
    {children rest : List Item} {group : Option (GroupId × Bool)} {outer : List Frame}
    (filtersKept : filters <:+ around.filters) (groupsKept : groups <:+ around.groups)
    (restRun : ∀ after, run layout filters groups (around.state after rest group outer) =
      around.resume layout filters groups group outer (evaluate layout around after rest))
    (childrenRun : ∀ after id scope,
      run layout filters groups ((around.within scope id).state after children none
          (around.frame rest group :: outer)) =
        (around.within scope id).resume layout filters groups none
          (around.frame rest group :: outer)
          (evaluate layout (around.within scope id) after children)) :
    run layout filters groups
        (around.state collected (.feature config children :: rest) group outer) =
      around.resume layout filters groups group outer
        (evaluate layout around collected (.feature config children :: rest)) := by
  rw [evaluate]
  cases isCollected :
      collectOccurrence layout around.filters around.scope config around.parent collected with
  | error problem =>
      have failed := step_feature layout around collected config children rest group outer
      rw [isCollected] at failed
      rw [run_of_error rfl failed filtersKept groupsKept, wrapGroups_cons]
      rfl
  | ok result =>
      obtain ⟨after, id⟩ := result
      have stepped := step_of_collected isCollected children rest group outer
      cases id with
      | none =>
        rw [run_of_step rfl stepped]
        exact restRun after
      | some id =>
        rw [childFrame] at stepped
        split at stepped
        · next isEmpty =>
          simp only [wrapWith, bind, Except.bind, if_pos isEmpty]
          rw [run_of_step rfl stepped]
          exact restRun after
        · next filled =>
          cases qualified : layout.qualify around.scope config.spec.origin with
          | error problem =>
              rw [qualified] at stepped
              rw [run_of_error rfl stepped filtersKept groupsKept, wrapGroups_cons]
              simp only [wrapWith, bind, Except.bind, if_neg filled]
              rfl
          | ok scope =>
              rw [qualified] at stepped
              simp only [wrapWith, bind, Except.bind, if_neg filled]
              -- The children run to their end with the frame of this item still below them.
              refine (run_of_step rfl stepped).trans ((childrenRun after id scope).trans ?_)
              cases evaluate layout (around.within scope id) after children with
              | error problem =>
                  rw [Surroundings.resume, wrapGroups_cons]
                  rfl
              | ok settled =>
                  rw [Surroundings.resume, Surroundings.left_within]
                  exact restRun settled

/-- The items of the innermost frame are evaluated in their surroundings, and then the expansion
goes on around them. -/
theorem run_state (layout : Layout) (around : Surroundings) (collected : Collected) (items : List Item)
    (group : Option (GroupId × Bool)) (outer : List Frame)
    (filtersKept : filters <:+ around.filters) (groupsKept : groups <:+ around.groups) :
    run layout filters groups (around.state collected items group outer) =
      around.resume layout filters groups group outer (evaluate layout around collected items) := by
  fun_induction evaluate layout around collected items generalizing group outer with
  | case1 around collected => exact run_of_step rfl rfl
  | case2 around collected config children rest restHypothesis childrenHypothesis =>
      have evaluated := run_feature collected config filtersKept groupsKept
        (fun after => restHypothesis after group outer filtersKept groupsKept)
        (fun after id scope => childrenHypothesis after id scope none
          (around.frame rest group :: outer) filtersKept groupsKept)
      rwa [evaluate] at evaluated
  | case3 around collected config rest problem opened =>
      have failed := step_group layout around collected config rest group outer
      rw [opened] at failed
      rw [run_of_error rfl failed filtersKept groupsKept, wrapGroups_cons]
      rfl
  | case4 around collected config rest opened restHypothesis =>
      have stepped := step_group layout around collected config rest group outer
      rw [opened] at stepped
      rw [run_of_step rfl stepped]
      exact restHypothesis group outer filtersKept groupsKept
  | case5 around collected config rest opening opened itemsHypothesis restHypothesis =>
      have stepped := step_group layout around collected config rest group outer
      rw [opened] at stepped
      rw [run_of_step rfl stepped, itemsHypothesis _ _
        (filtersKept.trans (List.suffix_append _ _)) (groupsKept.trans (List.suffix_cons _ _))]
      cases evaluate layout (around.inside opening) collected opening.items with
      | error problem =>
          rw [Surroundings.resume, wrapGroups_cons]
          rfl
      | ok after =>
          rw [Surroundings.resume, Surroundings.left_inside]
          exact restHypothesis after group outer filtersKept groupsKept

end

/-- An expansion of items leaves the stacks as they were, whether it succeeds or fails. -/
theorem expandItems_eq_evaluate (layout : Layout) (collected : Collected)
    (filters : List ScopedFilter) (groups : List OpenGroup) (scope : Scope) (items : List Item) :
    expandItems layout collected filters groups scope items =
      ⟨filters, groups, evaluate layout ⟨scope, filters, groups, none⟩ collected items⟩ := by
  have evaluated := run_state layout ⟨scope, filters, groups, none⟩ collected items none
    [] (List.suffix_refl _) (List.suffix_refl _)
  refine evaluated.trans ?_
  cases evaluate layout ⟨scope, filters, groups, none⟩ collected items with
  | error problem => rfl
  | ok after =>
      rw [Surroundings.resume, run]
      rfl

/-- The items of a part are evaluated in the scope of the part and under its filter. -/
def evaluatePart (layout : Layout) (filters : List ScopedFilter) (groups : List OpenGroup)
    (collected : Collected) (part : ConfigPart) : Provisioned Collected :=
  match part.filter with
  | none => evaluate layout ⟨part.scope, filters, groups, none⟩ collected part.spec.items
  | some level => do
      let filter ← layout.activate level.filter level.scope
      evaluate layout ⟨part.scope, filter.toList ++ filters, groups, none⟩ collected
        part.spec.items

/-- A part is expanded as it is evaluated, and the filters and groups around it are kept. -/
theorem expandPart_eq_evaluatePart (layout : Layout) (collected : Collected)
    (filters : List ScopedFilter) (groups : List OpenGroup) (part : ConfigPart) :
    expandPart layout collected filters groups part =
      ⟨filters, groups, evaluatePart layout filters groups collected part⟩ := by
  unfold expandPart evaluatePart
  cases part.filter with
  | none => exact expandItems_eq_evaluate ..
  | some level =>
      dsimp only
      cases layout.activate level.filter level.scope with
      | error problem => rfl
      | ok filter =>
          cases filter with
          | none => exact expandItems_eq_evaluate ..
          | some active =>
              simp only [expandItems_eq_evaluate]
              rfl

/-- Parts are evaluated one after the other. -/
theorem expandParts_eq_foldlM (layout : Layout) (collected : Collected)
    (filters : List ScopedFilter) (groups : List OpenGroup) (parts : List ConfigPart) :
    expandParts layout collected filters groups parts =
      parts.foldlM (evaluatePart layout filters groups) collected := by
  induction parts generalizing collected with
  | nil => rfl
  | cons part rest inductionHypothesis =>
      rw [expandParts, expandPart_eq_evaluatePart, List.foldlM_cons]
      exact bind_congr fun after => inductionHypothesis after

/-- The stack of frames gives each item its lexical surroundings, and the stacks that a part is
expanded on are the same afterwards. -/
theorem expansion_is_lexical (layout : Layout) (filters : List ScopedFilter)
    (groups : List OpenGroup) (collected : Collected) :
    (∀ part, expandPart layout collected filters groups part =
      ⟨filters, groups, evaluatePart layout filters groups collected part⟩) ∧
    ∀ parts, expandParts layout collected filters groups parts =
      parts.foldlM (evaluatePart layout filters groups) collected := by
  constructor
  · intro part
    exact expandPart_eq_evaluatePart layout collected filters groups part
  · intro parts
    exact expandParts_eq_foldlM layout collected filters groups parts

end Provisioning.Expansion
