/-
This file splits an expansion into what its items contribute and the merging of what they contribute.
-/

import Provisioning.Proofs.Expansion.Lexical
import Provisioning.Proofs.Expansion.Values

namespace Provisioning

/-- Features are merged one after the other. -/
def Collected.mergeAll (collected : Collected) (features : List CollectedFeature) :
    Provisioned Collected :=
  features.foldlM (fun collected feature => collected.merge feature) collected

namespace Collected

/-- Features are merged one after the other. -/
theorem mergeAll_cons_eq_ok_iff {collected after : Collected} {feature : CollectedFeature}
    {rest : List CollectedFeature} :
    collected.mergeAll (feature :: rest) = .ok after ↔
      ∃ merged, collected.merge feature = .ok merged ∧ merged.mergeAll rest = .ok after := by
  rw [mergeAll, List.foldlM_cons, bind_eq_ok_iff]
  rfl

/-- Features of two lists are merged list by list. -/
theorem mergeAll_append_eq_ok_iff {collected after : Collected} {first second : List CollectedFeature} :
    collected.mergeAll (first ++ second) = .ok after ↔
      ∃ merged, collected.mergeAll first = .ok merged ∧ merged.mergeAll second = .ok after := by
  rw [mergeAll, List.foldlM_append, bind_eq_ok_iff]
  rfl

end Collected

namespace Expansion

/-- A feature stands in a config and the filters let it in. -/
structure Occurrence where
  around : Surroundings
  config : FeatureConfig
  /-- The feature as it is identified, before anything is overridden. -/
  feature : CollectedFeature
  /-- The rule that names the feature in the filter that let it in. -/
  rule : Option IncludedFeature

namespace Occurrence

/-- The overrides of the rule that names the feature. -/
def overrides (occurrence : Occurrence) : List (String × String) :=
  match occurrence.rule with
  | some included => included.overrides.entries
  | none => []

/-- A value is overridden, or given explicitly, or taken from the id of the parent, or the default
of an id parameter. -/
def value? (occurrence : Occurrence) (name : String) : Option String :=
  (OrderedMap.lookup name occurrence.overrides).or <|
  (occurrence.config.params.get? name).or <|
  (occurrence.around.parent.bind fun parent =>
    occurrence.feature.spec.inherited? occurrence.config parent name).or <|
  occurrence.feature.spec.idDefault? name

/-- What an occurrence adds to the features of the config. -/
def contribution (occurrence : Occurrence) : Provisioned CollectedFeature := do
  let params ← applyOverrides occurrence.feature.id occurrence.feature.spec
    occurrence.feature.params occurrence.overrides
  return { occurrence.feature with params }

/-- The feature is identified in its surroundings and their filters let it in. -/
structure Admitted (layout : Layout) (occurrence : Occurrence) : Prop where
  identified : identify layout occurrence.around.scope occurrence.config occurrence.around.parent =
    .ok occurrence.feature
  letIn : layout.admission occurrence.feature.id occurrence.around.filters =
    .ok (.included occurrence.rule)

end Occurrence

/-- What a feature adds to a config, if the filters let it in. -/
def contribute (layout : Layout) (around : Surroundings) (config : FeatureConfig) :
    Provisioned (Option CollectedFeature) := do
  let feature ← identify layout around.scope config around.parent
  match ← layout.admission feature.id around.filters with
  | .excluded => return none
  | .included rule => return some (← Occurrence.contribution ⟨around, config, feature, rule⟩)

/-- An occurrence is collected by merging what it contributes, if anything. -/
theorem collectOccurrence_eq (layout : Layout) (around : Surroundings) (config : FeatureConfig)
    (collected : Collected) :
    collectOccurrence layout around.filters around.scope config around.parent collected = do
      match ← contribute layout around config with
      | none => return (collected, none)
      | some feature => return (← collected.merge feature, some feature.id) := by
  simp only [collectOccurrence, contribute, bind_assoc]
  refine bind_congr fun feature => bind_congr fun decision => ?_
  cases decision with
  | excluded => rfl
  | included rule => cases rule <;> simp [Occurrence.contribution, Occurrence.overrides]

/-- A feature that contributes is found through its alias. -/
theorem qualify_of_contribute {layout : Layout} {around : Surroundings} {config : FeatureConfig}
    {feature : CollectedFeature} (contributes : contribute layout around config = .ok (some feature)) :
    Succeeds (layout.qualify around.scope config.spec.origin) := by
  obtain ⟨identified, isIdentified, _⟩ := bind_eq_ok_iff.1 contributes
  obtain ⟨found, isFound, _⟩ := bind_eq_ok_iff.1 isIdentified
  obtain ⟨start, isStart, _⟩ := bind_eq_ok_iff.1 isFound
  exact ⟨start, isStart⟩

/-- What items contribute in their surroundings, in their order. -/
def gather (layout : Layout) (around : Surroundings) :
    List Item → Provisioned (List CollectedFeature)
  | [] => .ok []
  | .feature config children :: rest => do
      match ← contribute layout around config with
      | none => gather layout around rest
      | some feature =>
          let scope ← layout.qualify around.scope config.spec.origin
          let below ← gather layout (around.within scope feature.id) children
          return feature :: (below ++ (← gather layout around rest))
  | .group config :: rest =>
      match _opened : openGroup layout around.filters around.groups around.scope config with
      | .error problem => .error problem
      | .ok none => gather layout around rest
      | .ok (some opening) => do
          let inside ← gather layout (around.inside opening) opening.items
          return inside ++ (← gather layout around rest)
termination_by items => (room layout around.groups, Item.sizeAll items)
decreasing_by
  · exact .right _ (sizeAll_rest_lt _ rest)
  · exact .right _ (sizeAll_children_lt config children rest)
  · exact .right _ (sizeAll_rest_lt _ rest)
  · exact .right _ (sizeAll_rest_lt _ rest)
  · obtain ⟨isNew, isDefined, _⟩ := openGroup_ok _opened
    exact .left _ _ (room_lt isDefined isNew)
  · exact .right _ (sizeAll_rest_lt _ rest)

/-- A feature contributes, then what stands below it, then the items after it. -/
theorem gather_feature_eq_ok_iff {layout : Layout} {around : Surroundings} {config : FeatureConfig}
    {children rest : List Item} {found : List CollectedFeature} :
    gather layout around (.feature config children :: rest) = .ok found ↔
      (contribute layout around config = .ok none ∧ gather layout around rest = .ok found) ∨
      ∃ feature scope below others, contribute layout around config = .ok (some feature) ∧
        layout.qualify around.scope config.spec.origin = .ok scope ∧
        gather layout (around.within scope feature.id) children = .ok below ∧
        gather layout around rest = .ok others ∧ found = feature :: (below ++ others) := by
  rw [gather, bind_eq_ok_iff]
  constructor
  · rintro ⟨contributed, contributes, rest⟩
    cases contributed with
    | none => exact Or.inl ⟨contributes, rest⟩
    | some feature =>
        simp only [bind_eq_ok_iff, pure_eq_ok_iff] at rest
        obtain ⟨scope, qualified, below, isBelow, others, isRest, rfl⟩ := rest
        exact Or.inr ⟨feature, scope, below, others, contributes, qualified, isBelow, isRest, rfl⟩
  · rintro (⟨contributes, isRest⟩ |
      ⟨feature, scope, below, others, contributes, qualified, isBelow, isRest, rfl⟩)
    · exact ⟨none, contributes, isRest⟩
    · refine ⟨some feature, contributes, ?_⟩
      simp only [bind_eq_ok_iff, pure_eq_ok_iff]
      exact ⟨scope, qualified, below, isBelow, others, isRest, rfl⟩

/-- The items of a group contribute in its place. -/
theorem gather_group_eq_ok_iff {layout : Layout} {around : Surroundings} {config : GroupConfig}
    {rest : List Item} {found : List CollectedFeature} :
    gather layout around (.group config :: rest) = .ok found ↔
      (openGroup layout around.filters around.groups around.scope config = .ok none ∧
        gather layout around rest = .ok found) ∨
      ∃ opening inside others,
        openGroup layout around.filters around.groups around.scope config = .ok (some opening) ∧
        gather layout (around.inside opening) opening.items = .ok inside ∧
        gather layout around rest = .ok others ∧ found = inside ++ others := by
  rw [gather]
  split
  · next problem opened => simp [opened]
  · next opened => simp [opened]
  · next opening opened =>
    simp only [opened, bind_eq_ok_iff, pure_eq_ok_iff, reduceCtorEq, Except.ok.injEq, false_and,
      false_or, Option.some.injEq]
    constructor
    · rintro ⟨inside, isInside, others, isRest, rfl⟩
      exact ⟨opening, inside, others, rfl, isInside, isRest, rfl⟩
    · rintro ⟨opening, inside, others, rfl, isInside, isRest, rfl⟩
      exact ⟨inside, isInside, others, isRest, rfl⟩

/-- A feature is merged before what stands below it and what comes after it. -/
theorem evaluate_feature_eq_ok_iff {layout : Layout} {around : Surroundings}
    {collected after : Collected} {config : FeatureConfig} {children rest : List Item} :
    evaluate layout around collected (.feature config children :: rest) = .ok after ↔
      (contribute layout around config = .ok none ∧
        evaluate layout around collected rest = .ok after) ∨
      ∃ feature scope merged below, contribute layout around config = .ok (some feature) ∧
        layout.qualify around.scope config.spec.origin = .ok scope ∧
        collected.merge feature = .ok merged ∧
        evaluate layout (around.within scope feature.id) merged children = .ok below ∧
        evaluate layout around below rest = .ok after := by
  simp only [evaluate, collectOccurrence_eq, bind_eq_ok_iff, wrapWith_eq_ok_iff]
  constructor
  · rintro ⟨result, ⟨contributed, contributes, collects⟩, rest⟩
    cases contributed with
    | none =>
        cases collects
        exact Or.inl ⟨contributes, rest⟩
    | some feature =>
        simp only [bind_eq_ok_iff, pure_eq_ok_iff] at collects
        obtain ⟨merged, merges, rfl⟩ := collects
        dsimp only at rest
        split at rest
        · next isEmpty =>
          obtain rfl := List.isEmpty_iff.1 isEmpty
          obtain ⟨scope, qualified⟩ := qualify_of_contribute contributes
          exact Or.inr ⟨feature, scope, merged, merged, contributes, qualified, merges, by
            rw [evaluate], rest⟩
        · simp only [bind_eq_ok_iff] at rest
          obtain ⟨scope, qualified, below, isBelow, isRest⟩ := rest
          exact Or.inr ⟨feature, scope, merged, below, contributes, qualified, merges, isBelow,
            isRest⟩
  · rintro (⟨contributes, isRest⟩ |
      ⟨feature, scope, merged, below, contributes, qualified, merges, isBelow, isRest⟩)
    · exact ⟨(collected, none), ⟨none, contributes, rfl⟩, isRest⟩
    · refine ⟨(merged, some feature.id), ⟨some feature, contributes, ?_⟩, ?_⟩
      · simp only [bind_eq_ok_iff, pure_eq_ok_iff]
        exact ⟨merged, merges, rfl⟩
      · dsimp only
        split
        · next isEmpty =>
          obtain rfl := List.isEmpty_iff.1 isEmpty
          rw [evaluate] at isBelow
          cases isBelow
          exact isRest
        · simp only [bind_eq_ok_iff]
          exact ⟨scope, qualified, below, isBelow, isRest⟩

/-- A group is skipped, or its items come before what follows it. -/
theorem evaluate_group_eq_ok_iff {layout : Layout} {around : Surroundings}
    {collected after : Collected} {config : GroupConfig} {rest : List Item} :
    evaluate layout around collected (.group config :: rest) = .ok after ↔
      (openGroup layout around.filters around.groups around.scope config = .ok none ∧
        evaluate layout around collected rest = .ok after) ∨
      ∃ opening inside,
        openGroup layout around.filters around.groups around.scope config = .ok (some opening) ∧
        evaluate layout (around.inside opening) collected opening.items = .ok inside ∧
        evaluate layout around inside rest = .ok after := by
  rw [evaluate]
  split
  · next problem opened => simp [opened]
  · next opened => simp [opened]
  · next opening opened => simp [opened, bind_eq_ok_iff, wrapWith_eq_ok_iff]

/-- An expansion succeeds when everything is gathered and what is gathered merges. -/
theorem evaluate_eq_ok_iff {layout : Layout} {around : Surroundings} {collected after : Collected}
    {items : List Item} :
    evaluate layout around collected items = .ok after ↔
      ∃ found, gather layout around items = .ok found ∧ collected.mergeAll found = .ok after := by
  induction around, items using gather.induct layout generalizing collected after with
  | case1 around =>
      simp only [evaluate, gather, Except.ok.injEq, exists_eq_left']
      rw [Collected.mergeAll, List.foldlM_nil, pure_eq_ok_iff]
  | case2 around config children rest restHypothesis childrenHypothesis =>
      simp only [evaluate_feature_eq_ok_iff, gather_feature_eq_ok_iff, restHypothesis,
        childrenHypothesis]
      constructor
      · rintro (⟨contributes, found, isFound, merges⟩ | ⟨feature, scope, merged, inner, contributes,
          qualified, merges, ⟨below, isBelow, belowMerges⟩, others, isRest, restMerges⟩)
        · exact ⟨found, Or.inl ⟨contributes, isFound⟩, merges⟩
        · refine ⟨_, Or.inr ⟨feature, scope, below, others, contributes, qualified, isBelow, isRest,
            rfl⟩, ?_⟩
          -- The feature is merged before what is below it, and that before the rest.
          rw [Collected.mergeAll_cons_eq_ok_iff]
          exact ⟨merged, merges, Collected.mergeAll_append_eq_ok_iff.2
            ⟨inner, belowMerges, restMerges⟩⟩
      · rintro ⟨found, ⟨contributes, isFound⟩ |
          ⟨feature, scope, below, others, contributes, qualified, isBelow, isRest, rfl⟩, merges⟩
        · exact Or.inl ⟨contributes, found, isFound, merges⟩
        · obtain ⟨merged, first, others'⟩ := Collected.mergeAll_cons_eq_ok_iff.1 merges
          obtain ⟨inner, belowMerges, restMerges⟩ := Collected.mergeAll_append_eq_ok_iff.1 others'
          exact Or.inr ⟨feature, scope, merged, inner, contributes, qualified, first,
            ⟨below, isBelow, belowMerges⟩, others, isRest, restMerges⟩
  | case3 around config rest problem opened =>
      simp [evaluate_group_eq_ok_iff, gather_group_eq_ok_iff, opened]
  | case4 around config rest opened restHypothesis =>
      simp [evaluate_group_eq_ok_iff, gather_group_eq_ok_iff, opened, restHypothesis]
  | case5 around config rest opening opened insideHypothesis restHypothesis =>
      simp only [evaluate_group_eq_ok_iff, gather_group_eq_ok_iff, opened, restHypothesis,
        Except.ok.injEq, Option.some.injEq, reduceCtorEq, false_and, false_or]
      constructor
      · rintro ⟨_, inner, rfl, isInside, others, isRest, restMerges⟩
        obtain ⟨inside, isInside, insideMerges⟩ := insideHypothesis.1 isInside
        exact ⟨_, ⟨opening, inside, others, rfl, isInside, isRest, rfl⟩,
          Collected.mergeAll_append_eq_ok_iff.2 ⟨inner, insideMerges, restMerges⟩⟩
      · rintro ⟨found, ⟨_, inside, others, rfl, isInside, isRest, rfl⟩, merges⟩
        obtain ⟨inner, insideMerges, restMerges⟩ := Collected.mergeAll_append_eq_ok_iff.1 merges
        exact ⟨opening, inner, rfl, insideHypothesis.2 ⟨inside, isInside, insideMerges⟩, others,
          isRest, restMerges⟩

/-- What a first item contributes comes before the rest. -/
theorem gather_cons_eq_ok_iff {layout : Layout} {around : Surroundings} {item : Item}
    {rest : List Item} {found : List CollectedFeature} :
    gather layout around (item :: rest) = .ok found ↔
      ∃ first others, gather layout around [item] = .ok first ∧
        gather layout around rest = .ok others ∧ found = first ++ others := by
  have nothing : gather layout around [] = .ok [] := by rw [gather]
  cases item with
  | feature config children =>
      simp only [gather_feature_eq_ok_iff, nothing, Except.ok.injEq]
      constructor
      · rintro (⟨contributes, isRest⟩ |
          ⟨feature, scope, below, others, contributes, qualified, isBelow, isRest, rfl⟩)
        · exact ⟨[], found, Or.inl ⟨contributes, rfl⟩, isRest, rfl⟩
        · exact ⟨feature :: below, others, Or.inr ⟨feature, scope, below, [], contributes,
            qualified, isBelow, rfl, by rw [List.append_nil]⟩, isRest, rfl⟩
      · rintro ⟨first, others, ⟨contributes, rfl⟩ |
          ⟨feature, scope, below, _, contributes, qualified, isBelow, rfl, rfl⟩, isRest, rfl⟩
        · exact Or.inl ⟨contributes, isRest⟩
        · exact Or.inr ⟨feature, scope, below, others, contributes, qualified, isBelow, isRest, by
            rw [List.append_nil, List.cons_append]⟩
  | group config =>
      simp only [gather_group_eq_ok_iff, nothing, Except.ok.injEq]
      constructor
      · rintro (⟨opened, isRest⟩ | ⟨opening, inside, others, opened, isInside, isRest, rfl⟩)
        · exact ⟨[], found, Or.inl ⟨opened, rfl⟩, isRest, rfl⟩
        · exact ⟨inside, others, Or.inr ⟨opening, inside, [], opened, isInside, rfl, by
            rw [List.append_nil]⟩, isRest, rfl⟩
      · rintro ⟨first, others, ⟨opened, rfl⟩ |
          ⟨opening, inside, _, opened, isInside, rfl, rfl⟩, isRest, rfl⟩
        · exact Or.inl ⟨opened, isRest⟩
        · exact Or.inr ⟨opening, inside, others, opened, isInside, isRest, by
            rw [List.append_nil]⟩

/-- Whatever an item contributes is among what all items contribute. -/
theorem gather_of_mem {layout : Layout} {around : Surroundings} {item : Item} {items : List Item}
    {found : List CollectedFeature} (listed : item ∈ items)
    (isFound : gather layout around items = .ok found) :
    ∃ own, gather layout around [item] = .ok own ∧ own ⊆ found := by
  induction items generalizing found with
  | nil => cases listed
  | cons first rest inductionHypothesis =>
      obtain ⟨own, others, isOwn, isRest, rfl⟩ := gather_cons_eq_ok_iff.1 isFound
      rcases List.mem_cons.1 listed with rfl | inRest
      · exact ⟨own, isOwn, List.subset_append_left own others⟩
      · obtain ⟨part, isPart, included⟩ := inductionHypothesis inRest isRest
        exact ⟨part, isPart, List.Subset.trans included (List.subset_append_right own others)⟩

/-- Items contribute the same features in whatever order they stand. -/
theorem gather_perm {layout : Layout} {around : Surroundings} {first second : List Item}
    {found : List CollectedFeature} (reordered : first.Perm second)
    (isFound : gather layout around first = .ok found) :
    ∃ others, gather layout around second = .ok others ∧ found.Perm others := by
  induction reordered generalizing found with
  | nil => exact ⟨found, isFound, .refl found⟩
  | cons item _ inductionHypothesis =>
      obtain ⟨own, rest, isOwn, isRest, rfl⟩ := gather_cons_eq_ok_iff.1 isFound
      obtain ⟨others, isOthers, same⟩ := inductionHypothesis isRest
      exact ⟨own ++ others, gather_cons_eq_ok_iff.2 ⟨own, others, isOwn, isOthers, rfl⟩,
        same.append_left own⟩
  | swap item next rest =>
      obtain ⟨own, _, isOwn, isTail, rfl⟩ := gather_cons_eq_ok_iff.1 isFound
      obtain ⟨other, others, isOther, isRest, rfl⟩ := gather_cons_eq_ok_iff.1 isTail
      refine ⟨other ++ (own ++ others), gather_cons_eq_ok_iff.2 ⟨other, _, isOther,
        gather_cons_eq_ok_iff.2 ⟨own, others, isOwn, isRest, rfl⟩, rfl⟩, ?_⟩
      simpa only [List.append_assoc] using List.perm_append_comm.append_right others
  | trans _ _ firstHypothesis secondHypothesis =>
      obtain ⟨between, isBetween, same⟩ := firstHypothesis isFound
      obtain ⟨others, isOthers, last⟩ := secondHypothesis isBetween
      exact ⟨others, isOthers, same.trans last⟩

/-- Items are evaluated one after the other. -/
theorem evaluate_cons (layout : Layout) (around : Surroundings) (collected : Collected) (item : Item)
    (rest : List Item) :
    evaluate layout around collected (item :: rest) =
      evaluate layout around collected [item] >>= fun after =>
        evaluate layout around after rest := by
  cases item with
  | feature config children =>
      rw [evaluate, evaluate, bind_assoc]
      refine bind_congr fun result => ?_
      obtain ⟨merged, id⟩ := result
      cases id with
      | none =>
          dsimp only
          rw [evaluate]
          rfl
      | some id =>
          dsimp only
          split
          · rw [evaluate]
            rfl
          · simp only [bind_assoc]
            refine bind_congr fun scope => bind_congr fun below => ?_
            rw [evaluate]
            rfl
  | group config =>
      rw [evaluate, evaluate]
      split
      · rfl
      · rw [evaluate]
        rfl
      · rw [bind_assoc]
        refine bind_congr fun inside => ?_
        rw [evaluate]
        rfl

/-- Items that follow others are expanded into what those collect. -/
theorem evaluate_append (layout : Layout) (around : Surroundings) (collected : Collected)
    (first second : List Item) :
    evaluate layout around collected (first ++ second) =
      evaluate layout around collected first >>= fun after =>
        evaluate layout around after second := by
  induction first generalizing collected with
  | nil =>
      rw [List.nil_append, evaluate]
      rfl
  | cons item rest inductionHypothesis =>
      rw [List.cons_append, evaluate_cons, evaluate_cons layout around collected item rest,
        bind_assoc]
      exact bind_congr fun after => inductionHypothesis after

end Expansion

end Provisioning
