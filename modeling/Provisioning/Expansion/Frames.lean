/-
This file expands the items of a config with a stack of frames.
-/

import Provisioning.Expansion.Occurrence
import Provisioning.Remaining

namespace Provisioning

mutual

/-- The number of items in an item, itself included. -/
def Item.size : Item → Nat
  | .feature _ children => 1 + Item.sizeAll children
  | .group _ => 1

def Item.sizeAll : List Item → Nat
  | [] => 0
  | item :: rest => item.size + Item.sizeAll rest

end

namespace Expansion

/-- A group is open at an index of the layout. -/
structure OpenGroup where
  index : Nat
  id : GroupId
deriving DecidableEq, Repr

/-- A frame holds the items that are left at one level of nesting. -/
structure Frame where
  scope : Scope
  items : List Item
  /-- The nearest feature around the items that the filters let in. -/
  parent : Option ResolvedId
  /-- The group whose items these are, and whether a filter came with it. -/
  group : Option (GroupId × Bool)

/-- Filters, groups and frames are stacks with the innermost on top. -/
structure State where
  collected : Collected
  filters : List ScopedFilter
  groups : List OpenGroup
  frames : List Frame

/-- A group that has been opened comes with its items and the filter on them. -/
structure Opening where
  group : OpenGroup
  items : List Item
  filter : Option ScopedFilter

/-- The open groups from the first occurrence of a group on, and the group again. -/
def groupCycle? (groups : List OpenGroup) (group : OpenGroup) : Option (List GroupId) :=
  (groups.findIdx? fun known => known = group).map fun depth =>
    (group :: groups.take (depth + 1)).reverse.map OpenGroup.id

/-- An excluded group stays closed, and a group does not open inside itself. -/
def openGroup (layout : Layout) (filters : List ScopedFilter) (groups : List OpenGroup)
    (scope : Scope) (config : GroupConfig) : Provisioned (Option Opening) := do
  let found ← layout.findGroup scope config.group
  if ← layout.isGroupExcluded found.index found.definition.name filters then
    return none
  else
    let group : OpenGroup := ⟨found.index, ⟨found.gav, found.definition.name⟩⟩
    match groupCycle? groups group with
    | some path => .error (.groupProcessing group.id (.cyclicGroup path))
    | none =>
        let filter ← wrapWith (.groupProcessing group.id) (layout.activate config.filter scope)
        return some ⟨group, found.definition.items, filter⟩

/-- The children of a feature that was let in are looked up from the scope of its alias. -/
def childFrame (layout : Layout) (scope : Scope) (config : FeatureConfig) (children : List Item)
    (id : Option ResolvedId) : Provisioned (Option Frame) :=
  match id with
  | none => .ok none
  | some id =>
      if children.isEmpty then
        .ok none
      else do
        return some ⟨← layout.qualify scope config.spec.origin, children, some id, none⟩

/-- A frame without items is left, and its group and filter with it. -/
def leave (state : State) (frame : Frame) (outer : List Frame) : State :=
  match frame.group with
  | none => { state with frames := outer }
  | some (_, filtered) =>
      { state with
        filters := if filtered then state.filters.drop 1 else state.filters
        groups := state.groups.drop 1
        frames := outer }

/-- The items of an opened group are looked up from its feature-pack. -/
def enter (state : State) (opening : Opening) (parent : Option ResolvedId) (frames : List Frame) :
    State :=
  { state with
    filters := opening.filter.toList ++ state.filters
    groups := opening.group :: state.groups
    frames := {
      scope := .pack opening.group.index
      items := opening.items
      parent
      group := some (opening.group.id, opening.filter.isSome) } :: frames }

/-- The next item of the innermost frame is expanded. -/
def step (layout : Layout) (state : State) (frame : Frame) (outer : List Frame) :
    Provisioned State :=
  match frame.items with
  | [] => .ok (leave state frame outer)
  | .feature config children :: rest => do
      let (collected, id) ← wrapWith (.featureProcessing config.text)
        (collectOccurrence layout state.filters frame.scope config frame.parent state.collected)
      let child ← childFrame layout frame.scope config children id
      return { state with
        collected
        frames := child.toList ++ { frame with items := rest } :: outer }
  | .group config :: rest => do
      match ← openGroup layout state.filters state.groups frame.scope config with
      | none => return { state with frames := { frame with items := rest } :: outer }
      | some opening =>
          return enter state opening frame.parent ({ frame with items := rest } :: outer)

/-- Every group that an expansion can open. -/
def definedGroups (layout : Layout) : List OpenGroup :=
  layout.entries.zipIdx.flatMap fun entry =>
    entry.1.pack.groups.map fun group => ⟨entry.2, ⟨entry.1.gav, group.name⟩⟩

/-- No group has more items than all groups together. -/
def groupSize (layout : Layout) : Nat :=
  totalSize (fun entry => totalSize (fun group => Item.sizeAll group.items) entry.pack.groups)
    layout.entries

/-- The number of groups that may still be opened. -/
def room (layout : Layout) (groups : List OpenGroup) : Nat :=
  (definedGroups layout).countP fun group => !groups.contains group

/-- The steps that one item may take when so many groups may still be opened. -/
def itemCost (layout : Layout) : Nat → Nat
  | 0 => 2
  | room + 1 => 2 + groupSize layout * itemCost layout room

/-- The steps that a stack of frames may take; leaving a group's frame closes the group. -/
def potential (layout : Layout) (groups : List OpenGroup) : List Frame → Nat
  | [] => 0
  | frame :: outer =>
      1 + Item.sizeAll frame.items * itemCost layout (room layout groups) +
        potential layout (if frame.group.isSome then groups.drop 1 else groups) outer

theorem sizeAll_le_groupSize {layout : Layout} {entry : LayoutEntry} {group : FeatureGroup}
    (inLayout : entry ∈ layout.entries) (inPack : group ∈ entry.pack.groups) :
    Item.sizeAll group.items ≤ groupSize layout := by
  refine Nat.le_trans (size_le_totalSize (fun group => Item.sizeAll group.items) inPack) ?_
  exact size_le_totalSize
    (fun entry => totalSize (fun group => Item.sizeAll group.items) entry.pack.groups) inLayout

/-- A group that is found is one of the defined groups. -/
theorem mem_definedGroups {layout : Layout} {scope : Scope} {group : SpecRef}
    {found : Found FeatureGroup} (isFound : layout.findGroup scope group = .ok found) :
    ⟨found.index, ⟨found.gav, found.definition.name⟩⟩ ∈ definedGroups layout := by
  obtain ⟨entry, inLayout, sameGav, isDefined⟩ := Layout.findGroup_ok isFound
  refine List.mem_flatMap.2 ⟨(entry, found.index), List.mk_mem_zipIdx_iff_getElem?.2 inLayout, ?_⟩
  exact List.mem_map.2 ⟨found.definition, List.mem_of_find?_eq_some isDefined, by rw [sameGav]⟩

/-- Only a group that is already open leads to a cycle. -/
theorem groupCycle?_eq_none_iff {groups : List OpenGroup} {group : OpenGroup} :
    groupCycle? groups group = none ↔ group ∉ groups := by
  rw [groupCycle?, Option.map_eq_none_iff, List.findIdx?_eq_none_iff]
  constructor
  · intro different isOpen
    simpa using different group isOpen
  · intro notOpen known isOpen
    simpa using fun same : known = group => notOpen (same ▸ isOpen)

theorem room_lt {layout : Layout} {groups : List OpenGroup} {group : OpenGroup}
    (isDefined : group ∈ definedGroups layout) (isNew : group ∉ groups) :
    room layout (group :: groups) < room layout groups := by
  apply countP_lt_of_settled isDefined
  · simpa using isNew
  · simp
  · intro other stillClosed
    simp only [Bool.not_eq_true', List.contains_eq_mem, decide_eq_false_iff_not,
      List.mem_cons, not_or] at stillClosed ⊢
    exact stillClosed.2

/-- Only a defined group that is not open yet is opened. -/
theorem openGroup_ok {layout : Layout} {filters : List ScopedFilter} {groups : List OpenGroup}
    {scope : Scope} {config : GroupConfig} {opening : Opening}
    (opened : openGroup layout filters groups scope config = .ok (some opening)) :
    opening.group ∉ groups ∧ opening.group ∈ definedGroups layout ∧
      Item.sizeAll opening.items ≤ groupSize layout := by
  simp only [openGroup, bind, Except.bind] at opened
  split at opened
  · cases opened
  · next found isFound =>
    obtain ⟨entry, inLayout, _, isDefined⟩ := Layout.findGroup_ok isFound
    split at opened
    · cases opened
    · split at opened
      · cases opened
      · split at opened
        · cases opened
        · next noCycle =>
          split at opened
          · cases opened
          · cases opened
            exact ⟨groupCycle?_eq_none_iff.1 noCycle, mem_definedGroups isFound,
              sizeAll_le_groupSize (List.mem_of_getElem? inLayout)
                (List.mem_of_find?_eq_some isDefined)⟩

theorem itemCost_ge_two (layout : Layout) (room : Nat) : 2 ≤ itemCost layout room := by
  cases room with
  | zero => exact Nat.le_refl 2
  | succ room => exact Nat.le_add_right 2 _

theorem itemCost_mono (layout : Layout) {less more : Nat} (le : less ≤ more) :
    itemCost layout less ≤ itemCost layout more := by
  induction more generalizing less with
  | zero => exact Nat.le_of_eq (by rw [Nat.le_zero.1 le])
  | succ more inductionHypothesis =>
      cases less with
      | zero => exact itemCost_ge_two layout (more + 1)
      | succ less =>
          exact Nat.add_le_add_left
            (Nat.mul_le_mul_left _ (inductionHypothesis (Nat.le_of_succ_le_succ le))) 2

/-- The items of a group are paid for by the reference that opens it. -/
theorem groupCost_lt {layout : Layout} {groups : List OpenGroup} {opening : Opening}
    (isNew : opening.group ∉ groups) (isDefined : opening.group ∈ definedGroups layout)
    (size : Item.sizeAll opening.items ≤ groupSize layout) :
    1 + Item.sizeAll opening.items * itemCost layout (room layout (opening.group :: groups)) <
      itemCost layout (room layout groups) := by
  have smaller := room_lt isDefined isNew
  obtain ⟨left, roomLeft⟩ : ∃ left, room layout groups = left + 1 :=
    ⟨room layout groups - 1, by omega⟩
  have fewer : room layout (opening.group :: groups) ≤ left := by omega
  have product := Nat.mul_le_mul size (itemCost_mono layout fewer)
  rw [roomLeft, itemCost]
  omega

theorem potential_leave {layout : Layout} {state : State} {frame : Frame} {outer : List Frame}
    (frames : state.frames = frame :: outer) :
    potential layout (leave state frame outer).groups (leave state frame outer).frames <
      potential layout state.groups state.frames := by
  rw [frames, potential]
  unfold leave
  split
  · next closed =>
    simp only [closed, Option.isSome_none, Bool.false_eq_true, ↓reduceIte]
    omega
  · next id filtered isGroup =>
    simp only [isGroup, Option.isSome_some, ↓reduceIte]
    omega

/-- The frame of a feature's children is no frame of a group. -/
theorem childFrame_cost {layout : Layout} {scope : Scope} {config : FeatureConfig}
    {children : List Item} {id : Option ResolvedId} {child : Option Frame}
    (isChild : childFrame layout scope config children id = .ok child)
    (groups : List OpenGroup) (outer : List Frame) :
    potential layout groups (child.toList ++ outer) ≤
      1 + Item.sizeAll children * itemCost layout (room layout groups) +
        potential layout groups outer := by
  unfold childFrame at isChild
  split at isChild
  · cases isChild
    simp only [Option.toList_none, List.nil_append]
    omega
  · split at isChild
    · cases isChild
      simp only [Option.toList_none, List.nil_append]
      omega
    · simp only [bind, Except.bind, pure, Except.pure] at isChild
      split at isChild <;> cases isChild
      simp [potential]

/-- Every step uses up some of the steps that a state may take. -/
theorem potential_step {layout : Layout} {state next : State} {frame : Frame} {outer : List Frame}
    (frames : state.frames = frame :: outer)
    (stepped : step layout state frame outer = .ok next) :
    potential layout next.groups next.frames < potential layout state.groups state.frames := by
  have cost := itemCost_ge_two layout (room layout state.groups)
  unfold step at stepped
  split at stepped
  · cases stepped
    exact potential_leave frames
  · next config children rest items =>
    simp only [bind, Except.bind, pure, Except.pure] at stepped
    split at stepped
    · cases stepped
    · split at stepped
      · cases stepped
      · next child isChild =>
        cases stepped
        rw [frames, potential, items, Item.sizeAll, Item.size, Nat.add_mul, Nat.add_mul]
        have childCost := childFrame_cost isChild state.groups ({ frame with items := rest } :: outer)
        simp only [potential] at childCost ⊢
        omega
  · next config rest items =>
    simp only [bind, Except.bind, pure, Except.pure] at stepped
    split at stepped
    · cases stepped
    · split at stepped
      · cases stepped
        rw [frames, potential, potential, items, Item.sizeAll, Item.size, Nat.add_mul]
        dsimp only
        omega
      · next opening opened =>
        cases stepped
        obtain ⟨isNew, isDefined, size⟩ := openGroup_ok opened
        have groupCost := groupCost_lt isNew isDefined size
        simp only [enter]
        rw [frames, potential, potential, potential, items, Item.sizeAll, Item.size, Nat.add_mul]
        simp only [Option.isSome_some, ↓reduceIte, List.drop_succ_cons, List.drop_zero, Nat.one_mul]
        omega

/-- The groups around a failure are named from the innermost outwards. -/
def wrapGroups (frames : List Frame) (problem : ProvisioningError) : ProvisioningError :=
  (frames.filterMap Frame.group).foldl (fun error group => .groupProcessing group.1 error) problem

/-- An expansion ends with the stacks it leaves behind and with what it collected. -/
structure Outcome where
  filters : List ScopedFilter
  groups : List OpenGroup
  result : Provisioned Collected

/-- The expansion runs until its frames are empty; a failure cuts the stacks back to the height
that they had at the start. -/
def run (layout : Layout) (filters : List ScopedFilter) (groups : List OpenGroup) (state : State) :
    Outcome :=
  match _frames : state.frames with
  | [] => ⟨state.filters, state.groups, .ok state.collected⟩
  | frame :: outer =>
      match _stepped : step layout state frame outer with
      | .error problem =>
          ⟨state.filters.drop (state.filters.length - filters.length),
            state.groups.drop (state.groups.length - groups.length),
            .error (wrapGroups (frame :: outer) problem)⟩
      | .ok next => run layout filters groups next
termination_by potential layout state.groups state.frames
decreasing_by exact potential_step _frames _stepped

/-- An expansion of items starts with one frame on top of the given stacks. -/
def expandItems (layout : Layout) (collected : Collected) (filters : List ScopedFilter)
    (groups : List OpenGroup) (scope : Scope) (items : List Item) : Outcome :=
  run layout filters groups ⟨collected, filters, groups, [⟨scope, items, none, none⟩]⟩

/-- The filter of a part applies to all its items and is dropped after them. -/
def expandPart (layout : Layout) (collected : Collected) (filters : List ScopedFilter)
    (groups : List OpenGroup) (part : ConfigPart) : Outcome :=
  match part.filter with
  | none => expandItems layout collected filters groups part.scope part.spec.items
  | some level =>
      match layout.activate level.filter level.scope with
      | .error problem => ⟨filters, groups, .error problem⟩
      | .ok none => expandItems layout collected filters groups part.scope part.spec.items
      | .ok (some active) =>
          let outcome :=
            expandItems layout collected (active :: filters) groups part.scope part.spec.items
          { outcome with filters := outcome.filters.drop 1 }

/-- The parts of a config are expanded in turn into one collection, each on the stacks that the
one before it leaves behind. -/
def expandParts (layout : Layout) (collected : Collected) (filters : List ScopedFilter)
    (groups : List OpenGroup) : List ConfigPart → Provisioned Collected
  | [] => .ok collected
  | part :: rest => do
      let outcome := expandPart layout collected filters groups part
      expandParts layout (← outcome.result) outcome.filters outcome.groups rest

end Expansion

end Provisioning
