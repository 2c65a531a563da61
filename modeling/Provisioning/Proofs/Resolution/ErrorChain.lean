/-
This file describes the chain of errors that comes with a config that cannot be built.
-/

import Provisioning.Proofs.Expansion.Cycles
import Provisioning.Proofs.Resolution.Failures

namespace Provisioning

open Expansion

namespace ProvisioningError

/-- An error in a chain is a wrapper of some kind, or it ends the chain. -/
inductive Variant where
  | configBuild
  | groupProcessing (group : GroupId)
  | featureProcessing
  | foreignKeyInit
  | leaf
deriving DecidableEq, Repr

def variant : ProvisioningError → Variant
  | configBuild .. => .configBuild
  | groupProcessing group _ => .groupProcessing group
  | featureProcessing .. => .featureProcessing
  | foreignKeyInit .. => .foreignKeyInit
  | _ => .leaf

/-- The variants of an error and of everything wrapped in it, outermost first. -/
def variants (problem : ProvisioningError) : List Variant :=
  problem.levels.map variant

variable {problem : ProvisioningError}

/-- The groups stand before what they wrap. -/
theorem variants_inGroups (groups : List GroupId) (problem : ProvisioningError) :
    (inGroups groups problem).variants = groups.map Variant.groupProcessing ++ problem.variants := by
  induction groups with
  | nil => rfl
  | cons group rest inductionHypothesis => exact congrArg _ inductionHypothesis

theorem IsLeaf.variants_eq (isLeaf : problem.IsLeaf) : problem.variants = [.leaf] := by
  cases problem <;> first | rfl | cases isLeaf

/-- An error that wraps nothing is not about the building of a config. -/
theorem IsLeaf.category_ne (isLeaf : problem.IsLeaf) : problem.category ≠ .configBuild := by
  cases problem <;> first | exact Category.noConfusion | cases isLeaf

/-- Inside the groups around it, an error stands for itself, or it concerns a feature, which may be
taking over the id of the feature around it. -/
inductive Cause (leaf : ProvisioningError) : ProvisioningError → Prop where
  | itself : Cause leaf leaf
  | feature (config : String) : Cause leaf (.featureProcessing config leaf)
  | fromParent (config : String) : Cause leaf (.featureProcessing config (.foreignKeyInit config leaf))

/-- The variants that may stand between the groups around an error and its leaf. -/
def featureVariants : List (List Variant) :=
  [[], [.featureProcessing], [.featureProcessing, .foreignKeyInit]]

namespace Cause

variable {leaf : ProvisioningError}

/-- The root cause is the leaf. -/
theorem rootCause_eq (isCause : Cause leaf problem) (isLeaf : leaf.IsLeaf) :
    problem.rootCause = leaf := by
  cases isCause <;> exact isLeaf.rootCause_eq

/-- At most the feature and its parent stand between the groups and the leaf. -/
theorem variants_eq (isCause : Cause leaf problem) (isLeaf : leaf.IsLeaf) :
    ∃ inner ∈ featureVariants, problem.variants = inner ++ [.leaf] := by
  cases isCause with
  | itself => exact ⟨[], by decide, isLeaf.variants_eq⟩
  | feature config =>
      exact ⟨[.featureProcessing], by decide, congrArg _ isLeaf.variants_eq⟩
  | fromParent config =>
      exact ⟨[.featureProcessing, .foreignKeyInit], by decide,
        congrArg (fun inner => _ :: _ :: inner) isLeaf.variants_eq⟩

end Cause

/-- Whatever concerns an item has a leaf. -/
theorem ConcernsItem.cause {opening : Bool} (concerns : ConcernsItem opening problem) :
    ∃ leaf, IsLeaf leaf ∧ Cause leaf problem := by
  cases concerns with
  | search isFinding => exact ⟨_, isFinding.wrapped?_eq_none, .itself⟩
  | occurrence concerns =>
      cases concerns with
      | finding isFinding => exact ⟨_, isFinding.wrapped?_eq_none, .feature _⟩
      | fromParent isFinding => exact ⟨_, isFinding.wrapped?_eq_none, .fromParent _⟩
  | filter isUnknown => exact ⟨_, isUnknown.isFinding.wrapped?_eq_none, .itself⟩
  | cycle path => exact ⟨.cyclicGroup path, rfl, .itself⟩

/-- While a group is being opened, its filter is refused or it closes a cycle. -/
theorem ConcernsItem.opening (concerns : ConcernsItem true problem) :
    problem.rootCause.IsUnknownOrigin ∨ ∃ path, problem.rootCause = .cyclicGroup path := by
  cases concerns with
  | filter isUnknown =>
      rw [isUnknown.isFinding.rootCause_eq]
      exact .inl isUnknown
  | cycle path => exact .inr ⟨path, rfl⟩

/-- A finding is no cycle. -/
theorem IsFinding.ne_cyclicGroup (isFinding : problem.IsFinding) (path : List GroupId) :
    problem.rootCause ≠ .cyclicGroup path := by
  rw [isFinding.rootCause_eq]
  rintro rfl
  exact isFinding

end ProvisioningError

open ProvisioningError

section

variable {layout : Layout} {scope : Scope} {body : List Item} {groups : List OpenGroup}
  {group : OpenGroup}

/-- In a layout without two versions of an artifact, open groups differ in their ids. -/
theorem Expansion.Nested.nodup_ids
    (distinct : Layout.ArtifactsDistinct (fun entry => entry.gav) layout.entries)
    (nested : Nested layout scope body groups) : (groups.map OpenGroup.id).Nodup := by
  refine List.Nodup.map_on ?_ nested.nodup
  intro first isFirst second isSecond same
  obtain ⟨firstEntry, inFirst, firstGav⟩ := nested.atEntry first isFirst
  obtain ⟨secondEntry, inSecond, secondGav⟩ := nested.atEntry second isSecond
  have sameArtifact : firstEntry.gav.sameArtifact secondEntry.gav = true := by
    rw [firstGav, secondGav, same]
    exact Gav.sameArtifact_self _
  have sameIndex := distinct.position_eq inFirst inSecond sameArtifact
  obtain ⟨index, id⟩ := first
  obtain ⟨otherIndex, otherId⟩ := second
  cases same
  cases sameIndex
  rfl

/-- The path of a cycle is what is left of the labels from the first occurrence of the last one. -/
theorem path_eq_drop {path : List GroupId} (distinct : (groups.map OpenGroup.id).Nodup)
    (closes : groupCycle? groups group = some path) :
    path = ((groups.reverse ++ [group]).map OpenGroup.id).drop
      (((groups.reverse ++ [group]).map OpenGroup.id).idxOf group.id) := by
  obtain ⟨inner, outer, rfl, rfl⟩ := split_of_groupCycle? closes
  have absent : group.id ∉ outer.reverse.map OpenGroup.id := by
    rw [List.map_append, List.map_cons, List.nodup_append, List.nodup_cons] at distinct
    simpa using distinct.2.1.1
  have split : ((inner ++ group :: outer).reverse ++ [group]).map OpenGroup.id =
      outer.reverse.map OpenGroup.id ++ (group :: inner.reverse ++ [group]).map OpenGroup.id := by
    simp
  rw [split, List.idxOf_append_of_notMem absent, List.cons_append, List.map_cons,
    List.idxOf_cons_self, Nat.add_zero, List.drop_left]

/-- The items of a part are expanded in its scope, without an open group and without a parent. -/
theorem surroundings_ok {part : ConfigPart} {around : Surroundings}
    (isAround : surroundings layout part = .ok around) :
    around = ⟨part.scope, around.filters, [], none⟩ := by
  unfold surroundings at isAround
  split at isAround
  · cases isAround
    rfl
  · obtain ⟨filter, _, isAround⟩ := bind_eq_ok_iff.1 isAround
    cases isAround
    rfl

/-- The surroundings of a part fail only over its filter. -/
theorem surroundings_error {part : ConfigPart} {problem : ProvisioningError}
    (failed : surroundings layout part = .error problem) :
    ∃ level, part.filter = some level ∧
      layout.activate level.filter level.scope = .error problem := by
  unfold surroundings at failed
  split at failed
  · cases failed
  · next level isLevel =>
    rcases bind_eq_error_iff.1 failed with failed | ⟨_, _, failed⟩
    · exact ⟨level, isLevel, failed⟩
    · cases failed

end

/-- A failure arises when the filter of a part is refused, at an item that cannot be expanded, or
when the collected features are resolved. It comes with the groups that are open then, the outermost
first, and with the group that is being opened. -/
inductive Arises (layout : Layout) (parts : List ConfigPart) :
    List OpenGroup → Option OpenGroup → ProvisioningError → Prop where
  | filter {before after : List ConfigPart} {part : ConfigPart} {level : ScopedFilter}
      {collected : Collected} {problem : ProvisioningError} (split : parts = before ++ part :: after)
      (expanded : expandParts layout [] [] [] before = .ok collected)
      (isLevel : part.filter = some level)
      (failed : layout.activate level.filter level.scope = .error problem) :
      Arises layout parts [] none problem
  | item {before after : List ConfigPart} {part : ConfigPart} {around : Surroundings}
      {collected : Collected} {state : State} {frame : Frame} {outer : List Frame}
      {opened : Option OpenGroup} {cause : ProvisioningError}
      (split : parts = before ++ part :: after)
      (expanded : expandParts layout [] [] [] before = .ok collected)
      (isAround : surroundings layout part = .ok around)
      (comes : Reaches layout (start collected around.filters part.scope part.spec.items) state)
      (frames : state.frames = frame :: outer) (failed : ItemFails layout state frame opened cause) :
      Arises layout parts state.groups.reverse opened cause
  | features {collected : Collected} {problem : ProvisioningError}
      (expanded : expandParts layout [] [] [] parts = .ok collected)
      (failed : resolveFeatures layout collected = .error problem) :
      Arises layout parts [] none problem

/-- A fold stops at the first step that fails. -/
theorem exists_of_foldlM_error {Source Result Error : Type}
    {step : Result → Source → Except Error Result} {sources : List Source} {first : Result}
    {error : Error} (failed : sources.foldlM step first = .error error) :
    ∃ before source after last, sources = before ++ source :: after ∧
      before.foldlM step first = .ok last ∧ step last source = .error error := by
  induction sources generalizing first with
  | nil => cases failed
  | cons source rest inductionHypothesis =>
      rw [List.foldlM_cons] at failed
      rcases bind_eq_error_iff.1 failed with failed | ⟨next, stepped, failed⟩
      · exact ⟨[], source, rest, first, rfl, rfl, failed⟩
      · obtain ⟨before, other, after, last, rfl, folded, stops⟩ := inductionHypothesis failed
        refine ⟨source :: before, other, after, last, rfl, ?_, stops⟩
        rw [List.foldlM_cons, stepped]
        exact folded

section

variable {layout : Layout} {repository : Repository} {request : Request}
  {assembly : ConfigAssembly} {source : ProvisioningError}

/-- The groups around a failure are those of the failing state. -/
theorem arises_of_expandParts {parts : List ConfigPart}
    (failed : expandParts layout [] [] [] parts = .error source) :
    ∃ groups opened cause, Arises layout parts groups opened cause ∧
      source = inGroups ((groups ++ opened.toList).map OpenGroup.id) cause := by
  rw [expandParts_eq_foldlM] at failed
  obtain ⟨before, part, after, collected, split, expanded, stops⟩ := exists_of_foldlM_error failed
  rw [← expandParts_eq_foldlM] at expanded
  rw [evaluatePart_eq] at stops
  rcases bind_eq_error_iff.1 stops with refused | ⟨around, isAround, stops⟩
  · obtain ⟨level, isLevel, refused⟩ := surroundings_error refused
    exact ⟨[], none, source, .filter split expanded isLevel refused, rfl⟩
  · have ends := expandItems_ends layout collected around.filters part.scope part.spec.items
    rw [expandItems_eq_evaluate, ← surroundings_ok isAround, stops] at ends
    cases ends with
    | @fails state frame outer opened cause comes frames itemFails =>
        have arises : Arises layout parts state.groups.reverse opened cause :=
          .item split expanded isAround comes frames itemFails
        rw [(sited_of_reaches comes).labels_eq, ← List.map_reverse, ← List.map_append]
        exact ⟨state.groups.reverse, opened, cause, arises, rfl⟩

/-- Building a config fails with what arises in it, inside the groups around that. -/
theorem arises_of_buildConfig (failed : buildConfig layout assembly = .error source) :
    ∃ groups opened cause, Arises layout assembly.parts groups opened cause ∧
      source = inGroups ((groups ++ opened.toList).map OpenGroup.id) cause := by
  rcases bind_eq_error_iff.1 failed with failed | ⟨collected, expanded, failed⟩
  · exact arises_of_expandParts failed
  · rcases bind_eq_error_iff.1 failed with failed | ⟨features, resolved, failed⟩
    · exact ⟨[], none, source, .features expanded failed, rfl⟩
    · obtain ⟨config, isConfig⟩ := succeeds_build_of_resolved expanded resolved
      rw [isConfig] at failed
      cases failed

end

/-- What explains the failure of a config: the groups that are open where it arises, the outermost
first, the group that is being opened there, and the innermost error. -/
structure Explains (layout : Layout) (assembly : ConfigAssembly) (source : ProvisioningError)
    (groups : List OpenGroup) (opened : Option OpenGroup) (leaf : ProvisioningError) : Prop where
  /-- The chain names the open groups and the group that is being opened, and the rest of it is
  what arises inside them. -/
  arises : ∃ cause, Arises layout assembly.parts groups opened cause ∧
    source = inGroups ((groups ++ opened.toList).map OpenGroup.id) cause
  /-- Along the chain no other order of variants occurs. -/
  variants : ∃ inner ∈ featureVariants, (configBuild assembly.id.text source).variants =
    .configBuild :: (groups ++ opened.toList).map (fun group => .groupProcessing group.id) ++
      inner ++ [.leaf]
  /-- The chain ends with an error that wraps nothing. -/
  rootCause : (configBuild assembly.id.text source).rootCause = leaf
  wrapped : leaf.wrapped? = none
  category : leaf.category ≠ .configBuild
  /-- While a group is being opened, only its filter can be refused or a cycle be closed. -/
  opening : opened.isSome → leaf.IsUnknownOrigin ∨ ∃ path, leaf = .cyclicGroup path
  /-- A cycle is what is left of the labels from the first occurrence of the last one. -/
  cycle : ∀ path, leaf = .cyclicGroup path → ∃ last, opened = some last ∧
    path = ((groups ++ [last]).map OpenGroup.id).drop
      (((groups ++ [last]).map OpenGroup.id).idxOf last.id)

namespace Arises

variable {layout : Layout} {parts : List ConfigPart} {groups : List OpenGroup}
  {opened : Option OpenGroup} {cause : ProvisioningError}

/-- Whatever arises ends a chain or concerns a feature. -/
theorem exists_leaf (arises : Arises layout parts groups opened cause) :
    ∃ leaf, IsLeaf leaf ∧ Cause leaf cause := by
  cases arises with
  | filter split expanded isLevel failed =>
      have isUnknown := layout.failsWithin_activate _ _ _ failed
      exact ⟨cause, isUnknown.isFinding.wrapped?_eq_none, .itself⟩
  | item split expanded isAround comes frames failed => exact failed.concerns.cause
  | features expanded failed =>
      rcases Resolution.isFinding_of_resolveFeatures layout _ _ failed with
        isFinding | ⟨_, _, _, _, error, rfl, _⟩
      · exact ⟨cause, isFinding.wrapped?_eq_none, .itself⟩
      · exact ⟨.description error, rfl, .itself⟩

/-- A group that cannot be opened has an unknown origin or is open already. -/
theorem opening (arises : Arises layout parts groups opened cause) (opens : opened.isSome) :
    cause.rootCause.IsUnknownOrigin ∨ ∃ path, cause.rootCause = .cyclicGroup path := by
  cases arises with
  | filter => cases opens
  | item split expanded isAround comes frames failed =>
      have concerns := failed.concerns
      rw [opens] at concerns
      exact concerns.opening
  | features => cases opens

/-- The group that closes a cycle is the last of the labels. -/
theorem cycle (distinct : Layout.ArtifactsDistinct (fun entry => entry.gav) layout.entries)
    (arises : Arises layout parts groups opened cause) {path : List GroupId}
    (isCycle : cause.rootCause = .cyclicGroup path) :
    ∃ last, opened = some last ∧ path = ((groups ++ [last]).map OpenGroup.id).drop
      (((groups ++ [last]).map OpenGroup.id).idxOf last.id) := by
  cases arises with
  | filter split expanded isLevel failed =>
      have isUnknown := layout.failsWithin_activate _ _ _ failed
      exact (isUnknown.isFinding.ne_cyclicGroup path isCycle).elim
  | item split expanded isAround comes frames failed =>
      obtain ⟨last, isLast, _, _, closes⟩ := failed.closes isCycle
      have nested := (sited_of_reaches comes).groups_nested
      exact ⟨last, isLast, path_eq_drop (nested.nodup_ids distinct) closes⟩
  | features expanded failed =>
      rcases Resolution.isFinding_of_resolveFeatures layout _ _ failed with
        isFinding | ⟨_, _, _, _, error, rfl, _⟩
      · exact (isFinding.ne_cyclicGroup path isCycle).elim
      · cases isCycle

end Arises

/-- Every failure of a config is explained by the groups that are open and a leaf. -/
theorem explains_of_buildConfig {layout : Layout} {assembly : ConfigAssembly}
    {source : ProvisioningError}
    (distinct : Layout.ArtifactsDistinct (fun entry => entry.gav) layout.entries)
    (failed : buildConfig layout assembly = .error source) :
    ∃ groups opened leaf, Explains layout assembly source groups opened leaf := by
  obtain ⟨groups, opened, cause, arises, rfl⟩ := arises_of_buildConfig failed
  obtain ⟨leaf, isLeaf, isCause⟩ := arises.exists_leaf
  obtain ⟨inner, isInner, causeVariants⟩ := isCause.variants_eq isLeaf
  have rootCause := isCause.rootCause_eq isLeaf
  refine ⟨groups, opened, leaf, ⟨cause, arises, rfl⟩, ⟨inner, isInner, ?_⟩, ?_, isLeaf,
    isLeaf.category_ne, ?_, ?_⟩
  · rw [variants, levels, List.map_cons, ← variants, variants_inGroups, causeVariants, List.map_map]
    simp only [List.cons_append, List.append_assoc]
    rfl
  · exact (rootCause_inGroups _ cause).trans rootCause
  · exact rootCause ▸ arises.opening
  · rintro path rfl
    exact arises.cycle distinct rootCause

/-- A failure that names a config comes with a chain that explains it. -/
theorem configBuild_explained {repository : Repository} {request : Request} {config : String}
    {source : ProvisioningError}
    (failed : provision repository request = .error (.configBuild config source)) :
    ∃ layout, Layout.build repository request = .ok layout ∧
      ∃ assembly ∈ layout.assembleConfigs, assembly.id.text = config ∧
        ∃ groups opened leaf, Explains layout assembly source groups opened leaf := by
  rcases provision_error failed with concerns | ⟨layout, built, buildFailed⟩
  · cases concerns
  · obtain ⟨assembly, listed, other, same, isSource⟩ := buildConfigs_error buildFailed
    cases same
    exact ⟨layout, built, assembly, listed, rfl,
      explains_of_buildConfig (Layout.contract_of_build built).distinct isSource⟩

/-! A carousel leads back to itself from below a stall at the fair. -/

namespace Carousel

def stall : FeatureSpec where
  name := "stall"
  params := [⟨"name", .id, none, .scalar⟩]
  references := []
  providedPatterns := []
  requiredPatterns := []
  provides := []
  requires := []
  accepted := by rfl

/-- The items of a group of that name come in without a filter. -/
def groupItem (name : String) : Item :=
  .group ⟨⟨none, name⟩, .passAll⟩

def pack : FeaturePack where
  gav := ⟨"g", "fair", "1"⟩
  dependencies := []
  packages := []
  markedDefaults := []
  specs := [stall]
  groups := [
    ⟨"fair", [.feature ⟨⟨none, "stall"⟩, .ofList [("name", "east")], none⟩ [groupItem "ring"]]⟩,
    ⟨"ring", [groupItem "horses"]⟩,
    ⟨"horses", [groupItem "ring"]⟩]
  configs := [⟨⟨none, some "c"⟩, .empty, [groupItem "fair"], false⟩]
  accepted := by rfl

def repository : Repository :=
  ⟨[pack], by decide⟩

def request : Request :=
  ⟨[.ofGav ⟨"g", "fair", "1"⟩], .empty, .inheritAll, by simp⟩

def id (name : String) : GroupId :=
  ⟨⟨"g", "fair", "1"⟩, name⟩

/-- The stall around the ring is not named. -/
def source : ProvisioningError :=
  inGroups [id "fair", id "ring", id "horses", id "ring"]
    (.cyclicGroup [id "ring", id "horses", id "ring"])

theorem provision_eq :
    provision repository request = .error (.configBuild "named c" source) := by
  cbv

end Carousel

theorem configBuild_explained_carousel :
    provision Carousel.repository Carousel.request =
        .error (.configBuild "named c" Carousel.source) ∧
      ∃ layout, Layout.build Carousel.repository Carousel.request = .ok layout ∧
        ∃ assembly ∈ layout.assembleConfigs, assembly.id.text = "named c" ∧
          ∃ groups opened leaf, Explains layout assembly Carousel.source groups opened leaf :=
  ⟨Carousel.provision_eq, configBuild_explained Carousel.provision_eq⟩

end Provisioning
