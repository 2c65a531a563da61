/-
This file proves that configs are built from what a layout finds under the names in them.
-/

import Provisioning.Proofs.Expansion.Lexical
import Provisioning.Resolution

namespace Provisioning

/-- Two layouts find the same under every name. -/
structure SameNames (first second : Layout) : Prop where
  resolveOrigin : first.resolveOrigin = second.resolveOrigin
  findSpec : first.findSpec = second.findSpec
  findGroup : first.findGroup = second.findGroup

variable {first second : Layout}

namespace Layout

/-- Scopes are found through aliases alone. -/
theorem qualify_congr (sameOrigins : first.resolveOrigin = second.resolveOrigin) :
    first.qualify = second.qualify := by
  funext scope origin
  cases origin with
  | none => rfl
  | some origin => rw [qualify, qualify, sameOrigins]

/-- The aliases of a filter are known in both layouts or miss in both at the same one. -/
theorem resolveOrigins_congr (same : SameNames first second) (scope : Scope)
    (origins : List String) :
    first.resolveOrigins scope origins = second.resolveOrigins scope origins := by
  induction origins with
  | nil => rfl
  | cons origin rest inductionHypothesis =>
      rw [resolveOrigins, resolveOrigins, same.resolveOrigin, inductionHypothesis]

/-- A filter becomes active in both layouts or in neither. -/
theorem activate_congr (same : SameNames first second) : first.activate = second.activate := by
  funext filter scope
  rw [activate, activate, resolveOrigins_congr same]

/-- A rule on a spec matches through the spec that it finds. -/
theorem matchesSpec_congr (same : SameNames first second) :
    first.matchesSpec = second.matchesSpec := by
  funext scope spec id
  rw [matchesSpec, matchesSpec, same.findSpec]

/-- A rule on a feature matches through the spec that it finds. -/
theorem matchesFeature_congr (same : SameNames first second) :
    first.matchesFeature = second.matchesFeature := by
  funext scope feature id
  rw [matchesFeature, matchesFeature, same.findSpec]

/-- The filters around a feature let it in by the specs that their rules find. -/
theorem admission_congr (same : SameNames first second) (id : ResolvedId)
    (filters : List ScopedFilter) : first.admission id filters = second.admission id filters := by
  induction filters with
  | nil => rfl
  | cons level outer inductionHypothesis =>
      have sameOpinion : first.opinion level id = second.opinion level id := by
        rw [opinion, opinion, matchesSpec_congr same, matchesFeature_congr same]
      rw [admission, admission, sameOpinion, inductionHypothesis]

/-- The filters around a group exclude it by the groups that their rules find. -/
theorem isGroupExcluded_congr (same : SameNames first second) :
    first.isGroupExcluded = second.isGroupExcluded := by
  funext index name filters
  have sameExclusion : first.excludesGroup index name = second.excludesGroup index name := by
    funext scope excluded
    rw [excludesGroup, excludesGroup, same.findGroup]
  rw [isGroupExcluded, isGroupExcluded, sameExclusion]

end Layout

/-- A feature gets its id from its spec, its own values and those of its parent. -/
theorem identify_congr (same : SameNames first second) : identify first = identify second := by
  funext scope config parent
  have sameInit : initFromParent first = initFromParent second := by
    funext index id spec config parent params
    rw [initFromParent, initFromParent, same.findSpec]
  rw [identify, identify, same.findSpec, sameInit]

theorem collectOccurrence_congr (same : SameNames first second) :
    collectOccurrence first = collectOccurrence second := by
  funext filters scope config parent collected
  simp only [collectOccurrence, identify_congr same, Layout.admission_congr same]

namespace Expansion

/-- A step of an expansion sees a layout through its names alone. -/
theorem step_congr (same : SameNames first second) : step first = step second := by
  funext state frame outer
  have sameChild : childFrame first = childFrame second := by
    funext scope config children id
    unfold childFrame
    rw [Layout.qualify_congr same.resolveOrigin]
  have sameOpening : openGroup first = openGroup second := by
    funext filters groups scope config
    rw [openGroup, openGroup, same.findGroup, Layout.isGroupExcluded_congr same,
      Layout.activate_congr same]
  rw [step, step, collectOccurrence_congr same, sameChild, sameOpening]

/-- Runs from the same state go through the same steps in both layouts. -/
theorem run_congr (same : SameNames first second) (filters : List ScopedFilter)
    (groups : List OpenGroup) (state : State) :
    run first filters groups state = run second filters groups state := by
  fun_induction run first filters groups state with
  | case1 state noFrames =>
      rw [run]
      split
      · rfl
      · next isFrames =>
        rw [noFrames] at isFrames
        cases isFrames
  | case2 state frame outer isFrames problem failed =>
      rw [step_congr same] at failed
      rw [run]
      split
      · next noFrames =>
        rw [isFrames] at noFrames
        cases noFrames
      · next otherFrame otherOuter otherFrames =>
        cases isFrames.symm.trans otherFrames
        split
        · next otherProblem otherFailed =>
          cases failed.symm.trans otherFailed
          rfl
        · next stepped => cases failed.symm.trans stepped
  | case3 state frame outer isFrames next stepped inductionHypothesis =>
      rw [step_congr same] at stepped
      exact inductionHypothesis.trans (run_of_step isFrames stepped).symm

/-- A part is expanded to the same features in both layouts. -/
theorem expandPart_congr (same : SameNames first second) :
    expandPart first = expandPart second := by
  funext collected filters groups part
  have sameItems : expandItems first = expandItems second := by
    funext collected filters groups scope items
    exact run_congr same _ _ _
  rw [expandPart, expandPart, Layout.activate_congr same, sameItems]

theorem expandParts_congr (same : SameNames first second) (collected : Collected)
    (filters : List ScopedFilter) (groups : List OpenGroup) (parts : List ConfigPart) :
    expandParts first collected filters groups parts =
      expandParts second collected filters groups parts := by
  induction parts generalizing collected filters groups with
  | nil => rfl
  | cons part rest inductionHypothesis =>
      simp only [expandParts, expandPart_congr same, inductionHypothesis]

end Expansion

namespace Resolution

/-- A reference is resolved by the spec that it targets. -/
theorem resolveReference_congr (same : SameNames first second) :
    resolveReference first = resolveReference second := by
  funext features feature reference
  rw [resolveReference, resolveReference, same.findSpec]

theorem referenceTargets_congr (same : SameNames first second) (features : Collected)
    (feature : CollectedFeature) (references : List FeatureReference) :
    referenceTargets first features feature references =
      referenceTargets second features feature references := by
  induction references with
  | nil => rfl
  | cons reference rest inductionHypothesis =>
      rw [referenceTargets, referenceTargets, resolveReference_congr same, inductionHypothesis]

theorem allReferenceTargets_congr (same : SameNames first second) (features listed : Collected) :
    allReferenceTargets first features listed = allReferenceTargets second features listed := by
  induction listed with
  | nil => rfl
  | cons feature rest inductionHypothesis =>
      rw [allReferenceTargets, allReferenceTargets, referenceTargets_congr same,
        inductionHypothesis]

end Resolution

/-- Features are resolved alike in both layouts. -/
theorem resolveFeatures_congr (same : SameNames first second) :
    resolveFeatures first = resolveFeatures second := by
  funext collected
  rw [resolveFeatures, resolveFeatures, Resolution.allReferenceTargets_congr same]

end Provisioning
