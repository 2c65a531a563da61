/-
This file proves that an expansion ends and that it reports the cycles of groups that there are.
-/

import Mathlib.Data.List.Nodup
import Provisioning.Proofs.Expansion.Failures

namespace Provisioning.Expansion

/-- Items refer to a group when a reference among them or below one of their features leads to it,
from the scope that the aliases of the features around it lead to. -/
inductive Refers (layout : Layout) : Scope → List Item → OpenGroup → Prop where
  | group {scope : Scope} {items : List Item} {config : GroupConfig} {found : Found FeatureGroup}
      (listed : .group config ∈ items) (isFound : layout.findGroup scope config.group = .ok found) :
      Refers layout scope items (.ofFound found)
  | feature {scope below : Scope} {items children : List Item} {config : FeatureConfig}
      {group : OpenGroup} (listed : .feature config children ∈ items)
      (isScope : layout.qualify scope config.spec.origin = .ok below)
      (refers : Refers layout below children group) : Refers layout scope items group

/-- An edge of the group graph leads from a group to what its items refer to from the
feature-pack of the group. -/
def Leads (layout : Layout) (first second : OpenGroup) : Prop :=
  ∃ entry definition, layout.entries[first.index]? = some entry ∧ entry.gav = first.id.gav ∧
    entry.pack.group? first.id.name = some definition ∧
      Refers layout (.pack first.index) definition.items second

/-- A group leads back to itself, and items lead to the group. -/
def ReachesCycle (layout : Layout) (scope : Scope) (items : List Item) : Prop :=
  ∃ first group, Refers layout scope items first ∧
    Relation.ReflTransGen (Leads layout) first group ∧ Relation.TransGen (Leads layout) group group

/-- A walk along edges of the group graph comes back to the group where it starts. -/
structure IsCycle (layout : Layout) (walk : List OpenGroup) : Prop where
  comesBack : ∃ group between, walk = group :: between ++ [group]
  edges : walk.IsChain (Leads layout)

section

variable {layout : Layout} {scope : Scope} {items : List Item} {group : OpenGroup}

/-- More items refer to more groups. -/
theorem Refers.mono {more : List Item} (refers : Refers layout scope items group)
    (listed : items ⊆ more) : Refers layout scope more group := by
  cases refers with
  | group isListed isFound => exact .group (listed isListed) isFound
  | feature isListed isScope refers => exact .feature (listed isListed) isScope refers

/-- A group that is found is defined under its own name in the entry at its index. -/
theorem defined_of_findGroup {config : GroupConfig} {found : Found FeatureGroup}
    (isFound : layout.findGroup scope config.group = .ok found) :
    ∃ entry, layout.entries[found.index]? = some entry ∧ entry.gav = found.gav ∧
      entry.pack.group? found.definition.name = some found.definition := by
  obtain ⟨entry, inLayout, sameGav, isDefined⟩ := Layout.findGroup_ok isFound
  have sameName : found.definition.name = config.group.name := by
    simpa using List.find?_some isDefined
  rw [← sameName] at isDefined
  exact ⟨entry, inLayout, sameGav, isDefined⟩

/-- Whatever items refer to has the GAV of the entry at its index. -/
theorem Refers.atEntry (refers : Refers layout scope items group) :
    ∃ entry, layout.entries[group.index]? = some entry ∧ entry.gav = group.id.gav := by
  induction refers with
  | group listed isFound =>
      obtain ⟨entry, inLayout, sameGav, _⟩ := defined_of_findGroup isFound
      exact ⟨entry, inLayout, sameGav⟩
  | feature _ _ _ inductionHypothesis => exact inductionHypothesis

/-- The edges of a group that is found start from its items. -/
theorem leads_of_findGroup {config : GroupConfig} {found : Found FeatureGroup}
    (isFound : layout.findGroup scope config.group = .ok found)
    (refers : Refers layout (.pack found.index) found.definition.items group) :
    Leads layout (.ofFound found) group := by
  obtain ⟨entry, inLayout, sameGav, isDefined⟩ := defined_of_findGroup isFound
  exact ⟨entry, found.definition, inLayout, sameGav, isDefined, refers⟩

end

/-- The innermost open group refers to a group, or, when none is open, the body does. -/
def Within (layout : Layout) (scope : Scope) (body : List Item) :
    List OpenGroup → OpenGroup → Prop
  | [], group => Refers layout scope body group
  | around :: _, group => Leads layout around group

/-- Open groups are distinct, and each is referred to by the one around it. -/
inductive Nested (layout : Layout) (scope : Scope) (body : List Item) : List OpenGroup → Prop where
  | outside : Nested layout scope body []
  | inside {groups : List OpenGroup} {group : OpenGroup} (isNew : group ∉ groups)
      (refers : Within layout scope body groups group) (outer : Nested layout scope body groups) :
      Nested layout scope body (group :: groups)

/-- There is a frame for each open group, and what the items of a frame refer to is within the
group of the frame or of the nearest such frame below it. -/
inductive Sited (layout : Layout) (scope : Scope) (body : List Item) :
    List OpenGroup → List Frame → Prop where
  | done : Sited layout scope body [] []
  | nested {groups : List OpenGroup} {frame : Frame} {outer : List Frame}
      (isGroup : frame.group = none)
      (refers : ∀ group, Refers layout frame.scope frame.items group →
        Within layout scope body groups group)
      (below : Sited layout scope body groups outer) :
      Sited layout scope body groups (frame :: outer)
  | group {groups : List OpenGroup} {group : OpenGroup} {filtered : Bool} {frame : Frame}
      {outer : List Frame} (isGroup : frame.group = some (group.id, filtered))
      (isNew : group ∉ groups) (isReferred : Within layout scope body groups group)
      (refers : ∀ other, Refers layout frame.scope frame.items other → Leads layout group other)
      (below : Sited layout scope body groups outer) :
      Sited layout scope body (group :: groups) (frame :: outer)

section

variable {layout : Layout} {scope : Scope} {body : List Item} {groups : List OpenGroup}
  {group : OpenGroup} {state next : State} {frame : Frame} {outer frames : List Frame}

/-- A group is at the entry that its id names. -/
theorem Within.atEntry (isWithin : Within layout scope body groups group) :
    ∃ entry, layout.entries[group.index]? = some entry ∧ entry.gav = group.id.gav := by
  cases groups with
  | nil => exact Refers.atEntry isWithin
  | cons around outer =>
      obtain ⟨_, _, _, _, _, refers⟩ := isWithin
      exact refers.atEntry

namespace Nested

/-- No group is open within itself. -/
theorem nodup (nested : Nested layout scope body groups) : groups.Nodup := by
  induction nested with
  | outside => exact List.nodup_nil
  | inside isNew _ _ inductionHypothesis => exact List.nodup_cons.2 ⟨isNew, inductionHypothesis⟩

/-- Every open group has the GAV of the entry at its index. -/
theorem atEntry (nested : Nested layout scope body groups) :
    ∀ group ∈ groups, ∃ entry, layout.entries[group.index]? = some entry ∧
      entry.gav = group.id.gav := by
  induction nested with
  | outside => simp
  | inside _ refers _ inductionHypothesis =>
      exact List.forall_mem_cons.2 ⟨refers.atEntry, inductionHypothesis⟩

/-- Open groups differ in their feature-packs or in their names. -/
theorem nodup_names (nested : Nested layout scope body groups) :
    (groups.map fun group => (group.index, group.id.name)).Nodup := by
  refine List.Nodup.map_on ?_ nested.nodup
  intro first isFirst second isSecond same
  obtain ⟨sameIndex, sameName⟩ := Prod.mk.inj same
  obtain ⟨firstEntry, inFirst, firstGav⟩ := nested.atEntry first isFirst
  obtain ⟨secondEntry, inSecond, secondGav⟩ := nested.atEntry second isSecond
  rw [sameIndex, inSecond, Option.some.injEq] at inFirst
  obtain ⟨index, gav, name⟩ := first
  obtain ⟨otherIndex, otherGav, otherName⟩ := second
  simp only at sameIndex sameName firstGav secondGav
  rw [sameIndex, sameName, ← firstGav, ← secondGav, inFirst]

/-- Open groups and what the innermost refers to form a walk on the group graph. -/
theorem isChain (nested : Nested layout scope body groups)
    (isWithin : Within layout scope body groups group) :
    (group :: groups).IsChain fun inner outer => Leads layout outer inner := by
  induction nested generalizing group with
  | outside => exact List.isChain_singleton group
  | inside _ refers _ inductionHypothesis =>
      exact List.isChain_cons_cons.2 ⟨isWithin, inductionHypothesis refers⟩

/-- Every open group leads to what the innermost refers to. -/
theorem leads (nested : Nested layout scope body groups)
    (isWithin : Within layout scope body groups group) :
    ∀ around ∈ groups, Relation.TransGen (Leads layout) around group := by
  induction nested generalizing group with
  | outside => simp
  | inside _ refers _ inductionHypothesis =>
      refine List.forall_mem_cons.2 ⟨.single isWithin, fun around isAround => ?_⟩
      exact (inductionHypothesis refers around isAround).tail isWithin

/-- The body leads to every group that is within the open groups. -/
theorem fromBody (nested : Nested layout scope body groups)
    (isWithin : Within layout scope body groups group) :
    ∃ first, Refers layout scope body first ∧
      Relation.ReflTransGen (Leads layout) first group := by
  induction nested generalizing group with
  | outside => exact ⟨group, isWithin, .refl⟩
  | inside _ refers _ inductionHypothesis =>
      obtain ⟨first, isFirst, leads⟩ := inductionHypothesis refers
      exact ⟨first, isFirst, leads.tail isWithin⟩

end Nested

namespace Sited

/-- The expansion of a body starts with no group open. -/
theorem start (layout : Layout) (scope : Scope) (body : List Item) :
    Sited layout scope body [] [⟨scope, body, none, none⟩] :=
  .nested rfl (fun _ refers => refers) .done

/-- The open groups are nested in each other. -/
theorem groups_nested (sited : Sited layout scope body groups frames) :
    Nested layout scope body groups := by
  induction sited with
  | done => exact .outside
  | nested _ _ _ inductionHypothesis => exact inductionHypothesis
  | group _ isNew isReferred _ _ inductionHypothesis =>
      exact .inside isNew isReferred inductionHypothesis

/-- The frames are labelled with the open groups. -/
theorem labels_eq (sited : Sited layout scope body groups frames) :
    labels frames = groups.map OpenGroup.id := by
  induction sited with
  | done => rfl
  | nested isGroup _ _ inductionHypothesis =>
      rwa [labels, List.filterMap_cons_none isGroup]
  | group isGroup _ _ _ _ inductionHypothesis =>
      rw [labels, List.filterMap_cons_some isGroup, List.map_cons, List.map_cons]
      exact congrArg _ inductionHypothesis

/-- The groups that the innermost items refer to are within the open ones. -/
theorem refers (sited : Sited layout scope body groups (frame :: outer))
    (isReferred : Refers layout frame.scope frame.items group) :
    Within layout scope body groups group := by
  cases sited with
  | nested _ refers _ => exact refers group isReferred
  | group _ _ _ refers _ => exact refers group isReferred

/-- Fewer items refer to fewer groups. -/
theorem shrink {rest : List Item} (sited : Sited layout scope body groups (frame :: outer))
    (fewer : rest ⊆ frame.items) :
    Sited layout scope body groups ({ frame with items := rest } :: outer) := by
  cases sited with
  | nested isGroup refers below =>
      exact .nested isGroup (fun other isReferred => refers other (isReferred.mono fewer)) below
  | group isGroup isNew isReferred refers below =>
      exact .group isGroup isNew isReferred
        (fun other isReferred => refers other (isReferred.mono fewer)) below

/-- A step keeps the frames and the open groups together. -/
theorem step (sited : Sited layout scope body state.groups state.frames)
    (stepped : Steps layout state next) : Sited layout scope body next.groups next.frames := by
  obtain ⟨frame, outer, frames, isNext⟩ := stepped
  rw [frames] at sited
  cases moves_of_step isNext with
  | leaves items =>
      obtain ⟨collected, filters, groups, all⟩ := state
      cases sited with
      | nested isGroup _ below =>
          rw [leave, isGroup]
          exact below
      | group isGroup _ _ _ below =>
          rw [leave, isGroup]
          exact below
  | @collects config children rest collected id items isCollected =>
      exact sited.shrink (items ▸ List.subset_cons_self _ rest)
  | @nests config children rest collected id below items isCollected isScope =>
      have shrunk := sited.shrink (items ▸ List.subset_cons_self _ rest)
      refine .nested rfl (fun group isReferred => ?_) shrunk
      exact sited.refers (.feature (items ▸ List.mem_cons_self) isScope isReferred)
  | @passes config rest items closed =>
      exact sited.shrink (items ▸ List.subset_cons_self _ rest)
  | @enters config rest opening items opened =>
      have shrunk := sited.shrink (items ▸ List.subset_cons_self _ rest)
      obtain ⟨found, isFound, isGroup, isItems⟩ := found_of_openGroup opened
      have isReferred : Refers layout frame.scope frame.items opening.group :=
        isGroup ▸ .group (items ▸ List.mem_cons_self) isFound
      -- The group is new on the stack, and its items lead on from it.
      refine .group rfl (openGroup_ok opened).1 (sited.refers isReferred) (fun other refers => ?_)
        shrunk
      rw [isGroup, isItems] at refers
      rw [isGroup]
      exact leads_of_findGroup isFound refers

/-- The frames of an expansion stay sited in the groups that are open. -/
theorem reaches (sited : Sited layout scope body state.groups state.frames)
    (comes : Reaches layout state next) : Sited layout scope body next.groups next.frames := by
  induction comes with
  | refl => exact sited
  | tail _ stepped inductionHypothesis => exact inductionHypothesis.step stepped

end Sited

/-- A group closes a cycle with the open groups from its own occurrence among them inwards. -/
theorem split_of_groupCycle? {path : List GroupId}
    (closes : groupCycle? groups group = some path) :
    ∃ inner outer, groups = inner ++ group :: outer ∧
      path = (group :: inner.reverse ++ [group]).map OpenGroup.id := by
  obtain ⟨depth, isDepth, rfl⟩ := Option.map_eq_some_iff.1 closes
  obtain ⟨inRange, isGroup, _⟩ := List.findIdx?_eq_some_iff_getElem.1 isDepth
  rw [decide_eq_true_eq] at isGroup
  refine ⟨groups.take depth, groups.drop (depth + 1), ?_, ?_⟩
  · rw [← isGroup, List.getElem_cons_drop, List.take_append_drop]
  · rw [← List.take_append_getElem inRange, isGroup]
    simp

/-- Only a group that is being opened inside itself is reported as a cycle. -/
theorem ItemFails.closes {opened : Option OpenGroup} {cause : ProvisioningError}
    {path : List GroupId} (failed : ItemFails layout state frame opened cause)
    (isCycle : cause.rootCause = .cyclicGroup path) :
    ∃ group, opened = some group ∧ cause = .cyclicGroup path ∧
      Refers layout frame.scope frame.items group ∧
        groupCycle? state.groups group = some path := by
  have noFinding {problem : ProvisioningError} (isFinding : problem.IsFinding)
      (isPath : problem.rootCause = .cyclicGroup path) : False := by
    rw [isFinding.rootCause_eq] at isPath
    rw [isPath] at isFinding
    exact isFinding
  cases failed with
  | feature items failed =>
      cases failsWithin_collectOccurrence _ _ _ _ _ _ _ failed with
      | finding isFinding => exact (noFinding isFinding isCycle).elim
      | fromParent isFinding => exact (noFinding isFinding isCycle).elim
  | search items failed =>
      exact (noFinding (layout.failsWithin_findGroup _ _ _ failed) isCycle).elim
  | exclusion items isFound failed =>
      exact (noFinding (layout.failsWithin_isGroupExcluded _ _ _ _ failed) isCycle).elim
  | cycle items isFound notExcluded closes =>
      cases isCycle
      exact ⟨_, rfl, rfl, .group (items ▸ List.mem_cons_self) isFound, closes⟩
  | filter items isFound notExcluded isNew failed =>
      have isUnknown := layout.failsWithin_activate _ _ _ failed
      exact (noFinding isUnknown.isFinding isCycle).elim

/-- The cycle that a group closes is one of the group graph. -/
theorem isCycle_of_groupCycle? {path : List GroupId}
    (nested : Nested layout scope body groups) (isWithin : Within layout scope body groups group)
    (closes : groupCycle? groups group = some path) :
    ∃ walk, IsCycle layout walk ∧ path = walk.map OpenGroup.id := by
  obtain ⟨inner, outer, rfl, rfl⟩ := split_of_groupCycle? closes
  refine ⟨group :: inner.reverse ++ [group], ⟨⟨group, inner.reverse, rfl⟩, ?_⟩, rfl⟩
  have chain := nested.isChain isWithin
  rw [← List.cons_append, List.append_cons] at chain
  have inwards : (group :: inner ++ [group]).IsChain fun inner outer => Leads layout outer inner :=
    chain.left_of_append
  simpa using List.isChain_reverse.2 inwards

end

/-- The state that an expansion of items starts with when no group is open. -/
def start (collected : Collected) (filters : List ScopedFilter) (scope : Scope)
    (items : List Item) : State :=
  ⟨collected, filters, [], [⟨scope, items, none, none⟩]⟩

/-- Every expansion of items ends. -/
theorem expandItems_ends (layout : Layout) (collected : Collected) (filters : List ScopedFilter)
    (scope : Scope) (items : List Item) :
    Ends layout (start collected filters scope items)
      (expandItems layout collected filters [] scope items).result :=
  run_ends layout filters [] (start collected filters scope items)

/-- Every state that is reached has its open groups nested. -/
theorem sited_of_reaches {layout : Layout} {collected : Collected} {filters : List ScopedFilter}
    {scope : Scope} {items : List Item} {state : State}
    (comes : Reaches layout (start collected filters scope items) state) :
    Sited layout scope items state.groups state.frames :=
  (Sited.start layout scope items).reaches comes

/-- An expansion comes to an end, and on the way it follows the group graph. -/
structure FollowsGroups (layout : Layout) (collected : Collected) (filters : List ScopedFilter)
    (scope : Scope) (items : List Item) : Prop where
  /-- However the expansion goes on, the size of the layout and of the items bounds its steps. -/
  bounded : ∀ states, List.IsChain (Steps layout) (start collected filters scope items :: states) →
    states.length ≤ 1 + Item.sizeAll items * itemCost layout (room layout [])
  /-- The outcome is that of a state with nothing left to do, or of one whose next item fails. -/
  ends : Ends layout (start collected filters scope items)
    (expandItems layout collected filters [] scope items).result
  /-- At every step the open groups are those of the frames, and they differ in their feature-packs
  or in their names. -/
  distinct : ∀ state, Reaches layout (start collected filters scope items) state →
    labels state.frames = state.groups.map OpenGroup.id ∧
      (state.groups.map fun group => (group.index, group.id.name)).Nodup
  /-- A reported cycle is one of the group graph. -/
  sound : ∀ problem path, (expandItems layout collected filters [] scope items).result =
      .error problem → problem.rootCause = .cyclicGroup path →
    ∃ walk, IsCycle layout walk ∧ path = walk.map OpenGroup.id
  /-- Without a cycle that the items lead to, none is reported. -/
  silent : ¬ReachesCycle layout scope items →
    ∀ problem path, (expandItems layout collected filters [] scope items).result =
      .error problem → problem.rootCause ≠ .cyclicGroup path

/-- Every expansion follows the groups down to its end. -/
theorem expansion_follows_groups (layout : Layout) (collected : Collected)
    (filters : List ScopedFilter) (scope : Scope) (items : List Item) :
    FollowsGroups layout collected filters scope items := by
  have ends := expandItems_ends layout collected filters scope items
  have closing {problem : ProvisioningError} {path : List GroupId}
      (failed : (expandItems layout collected filters [] scope items).result = .error problem)
      (isCycle : problem.rootCause = .cyclicGroup path) :
      ∃ groups group, Nested layout scope items groups ∧ Within layout scope items groups group ∧
        groupCycle? groups group = some path := by
    rw [failed] at ends
    cases ends with
    | @fails last frame outer opened cause comes frames itemFails =>
        rw [ProvisioningError.rootCause_inGroups] at isCycle
        obtain ⟨group, _, _, isReferred, closes⟩ := itemFails.closes isCycle
        have lastSited := sited_of_reaches comes
        rw [frames] at lastSited
        exact ⟨last.groups, group, lastSited.groups_nested, lastSited.refers isReferred, closes⟩
  refine ⟨fun states chain => ?_, ends, fun state comes => ?_, ?_, ?_⟩
  · simpa [start, potential] using length_le_potential chain
  · have sited := sited_of_reaches comes
    exact ⟨sited.labels_eq, sited.groups_nested.nodup_names⟩
  · intro problem path failed isCycle
    obtain ⟨groups, group, nested, isWithin, closes⟩ := closing failed isCycle
    exact isCycle_of_groupCycle? nested isWithin closes
  · intro acyclic problem path failed isCycle
    obtain ⟨groups, group, nested, isWithin, closes⟩ := closing failed isCycle
    obtain ⟨inner, outer, rfl, _⟩ := split_of_groupCycle? closes
    obtain ⟨first, isFirst, leads⟩ := nested.fromBody isWithin
    exact acyclic ⟨first, group, isFirst, leads, nested.leads isWithin group (by simp)⟩

end Provisioning.Expansion
