/-
This file says which features occur in a config and relates them to what its items contribute.
-/

import Provisioning.Proofs.Expansion.Contributions

namespace Provisioning.Expansion

section

variable {layout : Layout} {around : Surroundings} {config : FeatureConfig}
  {occurrence : Occurrence} {feature : CollectedFeature}

/-- A feature contributes when it is let in and its overrides apply. -/
theorem contribute_eq_some_iff :
    contribute layout around config = .ok (some feature) ↔
      ∃ occurrence : Occurrence, occurrence.around = around ∧ occurrence.config = config ∧
        occurrence.Admitted layout ∧ occurrence.contribution = .ok feature := by
  simp only [contribute, bind_eq_ok_iff]
  constructor
  · rintro ⟨identified, isIdentified, decision, isDecision, contributes⟩
    cases decision with
    | excluded => cases contributes
    | included rule =>
        simp only [bind_eq_ok_iff, pure_eq_ok_iff, Option.some.injEq] at contributes
        obtain ⟨_, contributes, rfl⟩ := contributes
        exact ⟨⟨around, config, identified, rule⟩, rfl, rfl, ⟨isIdentified, isDecision⟩, contributes⟩
  · rintro ⟨⟨_, _, identified, rule⟩, rfl, rfl, admitted, contributes⟩
    refine ⟨identified, admitted.identified, .included rule, admitted.letIn, ?_⟩
    simp only [bind_eq_ok_iff, pure_eq_ok_iff, Option.some.injEq]
    exact ⟨feature, contributes, rfl⟩

/-- A feature that is let in contributes or fails. -/
theorem Occurrence.Admitted.contributes (admitted : occurrence.Admitted layout)
    {contributed : Option CollectedFeature}
    (isContributed : contribute layout occurrence.around occurrence.config = .ok contributed) :
    ∃ feature, contributed = some feature ∧ occurrence.contribution = .ok feature := by
  simp only [contribute, bind_eq_ok_iff] at isContributed
  obtain ⟨identified, isIdentified, decision, isDecision, isContributed⟩ := isContributed
  rw [admitted.identified, Except.ok.injEq] at isIdentified
  subst isIdentified
  rw [admitted.letIn, Except.ok.injEq] at isDecision
  subst isDecision
  simp only [bind_eq_ok_iff, pure_eq_ok_iff] at isContributed
  obtain ⟨feature, contributes, rfl⟩ := isContributed
  exact ⟨feature, rfl, contributes⟩

/-- Overrides leave everything but the values alone. -/
structure Occurrence.Contributes (layout : Layout) (occurrence : Occurrence)
    (feature : CollectedFeature) : Prop where
  isInstance : feature.Instance layout
  id : feature.id = occurrence.feature.id
  spec : feature.spec = occurrence.feature.spec
  index : feature.index = occurrence.feature.index
  value : ∀ name, feature.params.get? name = occurrence.value? name

/-- An occurrence overrides no parameter twice. -/
theorem Occurrence.nodup_overrides (occurrence : Occurrence) :
    (occurrence.overrides.map Prod.fst).Nodup := by
  unfold overrides
  split
  · exact OrderedMap.keysNodup _
  · exact List.nodup_nil

/-- An admitted occurrence contributes its feature. -/
theorem Occurrence.Admitted.contributes_ok (admitted : occurrence.Admitted layout)
    (contributes : occurrence.contribution = .ok feature) :
    occurrence.Contributes layout feature := by
  have identified := identified_of_identify admitted.identified
  simp only [Occurrence.contribution, bind_eq_ok_iff, pure_eq_ok_iff] at contributes
  obtain ⟨params, applied, rfl⟩ := contributes
  have value := get?_applyOverrides occurrence.nodup_overrides applied
  have idValues := applyOverrides_ok applied identified.idParams identified.idValues
  have valuesDeclared : ∀ name given, params.get? name = some given →
      occurrence.feature.spec.declares name = true := by
    intro name given isGiven
    rw [value, Option.or_eq_some_iff] at isGiven
    rcases isGiven with overridden | ⟨_, before⟩
    · exact declares_of_applyOverrides applied _ (OrderedMap.mem_of_lookup overridden)
    · exact identified.valuesDeclared name given before
  refine ⟨⟨⟨identified.declared, identified.idParams, idValues⟩, identified.idKeys,
    valuesDeclared⟩, rfl, rfl, rfl, fun name => ?_⟩
  rw [value, identified.value]
  rfl

end

/-- A feature that is let in occurs in items, in their surroundings and with the nearest feature
around it. The features below it, and those of the groups that are opened, occur as well. -/
inductive Occurs (layout : Layout) :
    Surroundings → Option Occurrence → List Item → Option Occurrence → Occurrence → Prop
  | here {enclosing : Option Occurrence} {items children : List Item} {occurrence : Occurrence}
      (listed : .feature occurrence.config children ∈ items)
      (admitted : occurrence.Admitted layout) :
      Occurs layout occurrence.around enclosing items enclosing occurrence
  | nested {enclosing nearest : Option Occurrence} {items children : List Item}
      {outer occurrence : Occurrence} {scope : Scope}
      (listed : .feature outer.config children ∈ items)
      (admitted : outer.Admitted layout)
      (qualified : layout.qualify outer.around.scope outer.config.spec.origin = .ok scope)
      (occurs : Occurs layout (outer.around.within scope outer.feature.id) (some outer) children
        nearest occurrence) :
      Occurs layout outer.around enclosing items nearest occurrence
  | inside {around : Surroundings} {enclosing nearest : Option Occurrence} {items : List Item}
      {config : GroupConfig} {opening : Opening} {occurrence : Occurrence}
      (listed : .group config ∈ items)
      (opened : openGroup layout around.filters around.groups around.scope config =
        .ok (some opening))
      (occurs : Occurs layout (around.inside opening) enclosing opening.items nearest occurrence) :
      Occurs layout around enclosing items nearest occurrence

namespace Occurs

variable {layout : Layout} {around : Surroundings} {enclosing nearest : Option Occurrence}
  {items : List Item} {occurrence : Occurrence}

/-- Occurrences among some items occur among more. -/
theorem mono {more : List Item} (included : items ⊆ more)
    (occurs : Occurs layout around enclosing items nearest occurrence) :
    Occurs layout around enclosing more nearest occurrence := by
  cases occurs with
  | here listed admitted => exact .here (included listed) admitted
  | nested listed admitted qualified occurs =>
      exact .nested (included listed) admitted qualified occurs
  | inside listed opened occurs => exact .inside (included listed) opened occurs

/-- What occurs is admitted. -/
theorem admitted (occurs : Occurs layout around enclosing items nearest occurrence) :
    occurrence.Admitted layout := by
  induction occurs with
  | here _ admitted => exact admitted
  | nested _ _ _ _ inductionHypothesis => exact inductionHypothesis
  | inside _ _ _ inductionHypothesis => exact inductionHypothesis

/-- The parent in the surroundings is the id of an occurrence that was let in. -/
def Encloses (layout : Layout) (around : Surroundings) (enclosing : Option Occurrence) : Prop :=
  around.parent = enclosing.map (fun outer => outer.feature.id) ∧
    ∀ outer, enclosing = some outer → outer.Admitted layout

/-- The feature around an occurrence is the parent that it is identified with. -/
theorem encloses (occurs : Occurs layout around enclosing items nearest occurrence)
    (before : Encloses layout around enclosing) : Encloses layout occurrence.around nearest := by
  induction occurs with
  | here _ _ => exact before
  | @nested _ _ _ _ outer _ _ _ admitted _ _ inductionHypothesis =>
      apply inductionHypothesis
      refine ⟨rfl, fun known isKnown => ?_⟩
      cases isKnown
      exact admitted
  | inside _ _ _ inductionHypothesis => exact inductionHypothesis before

end Occurs

/-- Every occurrence contributes, and there are no other contributions. -/
structure Gathers (layout : Layout)
    (Occurring : Option Occurrence → Occurrence → Prop) (found : List CollectedFeature) : Prop where
  contributed : ∀ nearest occurrence, Occurring nearest occurrence →
    ∃ feature ∈ found, occurrence.Contributes layout feature
  occurs : ∀ feature ∈ found, ∃ nearest occurrence, Occurring nearest occurrence ∧
    occurrence.Contributes layout feature

/-- What occurs in one place or another is gathered from both. -/
theorem Gathers.append {layout : Layout} {First Second : Option Occurrence → Occurrence → Prop}
    {found others : List CollectedFeature} (first : Gathers layout First found)
    (second : Gathers layout Second others) :
    Gathers layout (fun nearest occurrence => First nearest occurrence ∨ Second nearest occurrence)
      (found ++ others) := by
  constructor
  · rintro nearest occurrence (occurs | occurs)
    · obtain ⟨feature, listed, contributes⟩ := first.contributed nearest occurrence occurs
      exact ⟨feature, List.mem_append_left others listed, contributes⟩
    · obtain ⟨feature, listed, contributes⟩ := second.contributed nearest occurrence occurs
      exact ⟨feature, List.mem_append_right found listed, contributes⟩
  · intro feature listed
    rcases List.mem_append.1 listed with inFirst | inSecond
    · obtain ⟨nearest, occurrence, occurs, contributes⟩ := first.occurs feature inFirst
      exact ⟨nearest, occurrence, Or.inl occurs, contributes⟩
    · obtain ⟨nearest, occurrence, occurs, contributes⟩ := second.occurs feature inSecond
      exact ⟨nearest, occurrence, Or.inr occurs, contributes⟩

section

variable {layout : Layout} {around : Surroundings} {enclosing nearest : Option Occurrence}
  {items : List Item} {found : List CollectedFeature}

/-- A feature that is let in contributes before what is gathered from its children. -/
theorem Occurrence.Admitted.gather_ok {occurrence : Occurrence}
    (admitted : occurrence.Admitted layout) {children rest : List Item}
    (isFound : gather layout occurrence.around (.feature occurrence.config children :: rest) =
      .ok found) :
    ∃ feature scope below others, occurrence.Contributes layout feature ∧
      layout.qualify occurrence.around.scope occurrence.config.spec.origin = .ok scope ∧
      gather layout (occurrence.around.within scope occurrence.feature.id) children = .ok below ∧
      found = feature :: (below ++ others) := by
  rcases gather_feature_eq_ok_iff.1 isFound with ⟨excluded, _⟩ |
    ⟨feature, scope, below, others, contributes, qualified, isBelow, _, rfl⟩
  · obtain ⟨_, isNone, _⟩ := admitted.contributes excluded
    cases isNone
  · obtain ⟨_, isFeature, isContribution⟩ := admitted.contributes contributes
    cases isFeature
    have contributes := admitted.contributes_ok isContribution
    rw [contributes.id] at isBelow
    exact ⟨feature, scope, below, others, contributes, qualified, isBelow, rfl⟩

/-- Every occurrence has contributed what is gathered for it. -/
theorem exists_of_occurs {occurrence : Occurrence}
    (occurs : Occurs layout around enclosing items nearest occurrence)
    (isFound : gather layout around items = .ok found) :
    ∃ feature ∈ found, occurrence.Contributes layout feature := by
  induction occurs generalizing found with
  | here listed admitted =>
      obtain ⟨own, isOwn, included⟩ := gather_of_mem listed isFound
      obtain ⟨feature, _, _, _, contributes, _, _, rfl⟩ := admitted.gather_ok isOwn
      exact ⟨feature, included List.mem_cons_self, contributes⟩
  | nested listed admitted qualified _ inductionHypothesis =>
      obtain ⟨own, isOwn, included⟩ := gather_of_mem listed isFound
      obtain ⟨feature, scope, below, others, _, isScope, isBelow, rfl⟩ :=
        admitted.gather_ok isOwn
      rw [qualified, Except.ok.injEq] at isScope
      rw [← isScope] at isBelow
      obtain ⟨inner, isInner, contributes⟩ := inductionHypothesis isBelow
      have listed := List.mem_cons_of_mem feature (List.mem_append_left others isInner)
      exact ⟨inner, included listed, contributes⟩
  | inside listed opened _ inductionHypothesis =>
      obtain ⟨own, isOwn, included⟩ := gather_of_mem listed isFound
      rcases gather_group_eq_ok_iff.1 isOwn with ⟨closed, _⟩ |
        ⟨opening, inside, others, isOpening, isInside, _, rfl⟩
      · rw [opened] at closed
        cases closed
      · rw [opened] at isOpening
        cases isOpening
        obtain ⟨inner, isInner, contributes⟩ := inductionHypothesis isInside
        exact ⟨inner, included (List.mem_append_left others isInner), contributes⟩

/-- A feature is contributed by something that occurs in items. -/
def ContributedIn (layout : Layout) (around : Surroundings) (enclosing : Option Occurrence)
    (items : List Item) (feature : CollectedFeature) : Prop :=
  ∃ nearest occurrence, Occurs layout around enclosing items nearest occurrence ∧
    occurrence.Contributes layout feature

/-- What some items contribute is contributed by more. -/
theorem ContributedIn.mono {more : List Item} (included : items ⊆ more)
    {feature : CollectedFeature} (contributed : ContributedIn layout around enclosing items feature) :
    ContributedIn layout around enclosing more feature := by
  obtain ⟨nearest, occurrence, occurs, contributes⟩ := contributed
  exact ⟨nearest, occurrence, occurs.mono included, contributes⟩

/-- Whatever is gathered is contributed by an occurrence. -/
theorem contributedIn_of_gather (isFound : gather layout around items = .ok found) :
    ∀ feature ∈ found, ContributedIn layout around enclosing items feature := by
  induction around, items using gather.induct layout generalizing enclosing found with
  | case1 around =>
      rw [gather] at isFound
      cases isFound
      exact fun feature listed => absurd listed List.not_mem_nil
  | case2 around config children rest restHypothesis childrenHypothesis =>
      rcases gather_feature_eq_ok_iff.1 isFound with ⟨_, isRest⟩ |
        ⟨first, scope, below, others, contributes, qualified, isBelow, isRest, rfl⟩
      · intro feature listed
        exact (restHypothesis isRest feature listed).mono (List.subset_cons_self _ rest)
      · obtain ⟨outer, rfl, rfl, admitted, contributes⟩ := contribute_eq_some_iff.1 contributes
        have own := admitted.contributes_ok contributes
        have head : Item.feature outer.config children ∈ .feature outer.config children :: rest :=
          List.mem_cons_self
        -- What is below refers to the id that the occurrence contributes.
        rw [own.id] at isBelow
        simp only [List.forall_mem_cons, List.forall_mem_append]
        refine ⟨⟨enclosing, outer, .here head admitted, own⟩, ?_, ?_⟩
        · intro feature inBelow
          obtain ⟨nearest, occurrence, occurs, contributes⟩ :=
            childrenHypothesis _ scope isBelow feature inBelow
          exact ⟨nearest, occurrence, .nested head admitted qualified occurs, contributes⟩
        · intro feature inRest
          exact (restHypothesis isRest feature inRest).mono (List.subset_cons_self _ rest)
  | case3 around config rest problem opened => simp [gather_group_eq_ok_iff, opened] at isFound
  | case4 around config rest opened restHypothesis =>
      simp only [gather_group_eq_ok_iff, opened, true_and, Except.ok.injEq, reduceCtorEq,
        false_and, exists_false, or_false] at isFound
      intro feature listed
      exact (restHypothesis isFound feature listed).mono (List.subset_cons_self _ rest)
  | case5 around config rest opening opened insideHypothesis restHypothesis =>
      rcases gather_group_eq_ok_iff.1 isFound with ⟨closed, _⟩ |
        ⟨_, inside, others, isOpening, isInside, isRest, rfl⟩
      · rw [opened] at closed
        cases closed
      · rw [opened] at isOpening
        cases isOpening
        rw [List.forall_mem_append]
        constructor
        · intro feature inGroup
          obtain ⟨nearest, occurrence, occurs, contributes⟩ :=
            insideHypothesis isInside feature inGroup
          exact ⟨nearest, occurrence, .inside List.mem_cons_self opened occurs, contributes⟩
        · intro feature inRest
          exact (restHypothesis isRest feature inRest).mono (List.subset_cons_self _ rest)

/-- What is gathered from items is what occurs in them. -/
theorem gathers_of_gather (isFound : gather layout around items = .ok found) :
    Gathers layout (Occurs layout around enclosing items) found :=
  ⟨fun _ _ occurs => exists_of_occurs occurs isFound, contributedIn_of_gather isFound⟩

end

/-- The items of a part stand in its scope and under its filter. -/
def surroundings (layout : Layout) (part : ConfigPart) : Provisioned Surroundings :=
  match part.filter with
  | none => .ok ⟨part.scope, [], [], none⟩
  | some level => do
      let filter ← layout.activate level.filter level.scope
      return ⟨part.scope, filter.toList, [], none⟩

/-- A part is evaluated in its own surroundings. -/
theorem evaluatePart_eq (layout : Layout) (collected : Collected) (part : ConfigPart) :
    evaluatePart layout [] [] collected part =
      surroundings layout part >>= fun around => evaluate layout around collected part.spec.items := by
  unfold evaluatePart surroundings
  cases part.filter with
  | none => rfl
  | some level => simp only [List.append_nil, bind_assoc, pure_bind]

/-- A feature occurs in one of the parts of a config. -/
def OccursIn (layout : Layout) (parts : List ConfigPart) (nearest : Option Occurrence)
    (occurrence : Occurrence) : Prop :=
  ∃ part ∈ parts, ∃ around, surroundings layout part = .ok around ∧
    Occurs layout around none part.spec.items nearest occurrence

namespace OccursIn

variable {layout : Layout} {parts : List ConfigPart} {nearest : Option Occurrence}
  {occurrence : Occurrence}

/-- What occurs in a part is admitted. -/
theorem admitted (occurs : OccursIn layout parts nearest occurrence) :
    occurrence.Admitted layout := by
  obtain ⟨_, _, _, _, occurs⟩ := occurs
  exact occurs.admitted

/-- The features directly in a part have no parent. -/
theorem encloses (occurs : OccursIn layout parts nearest occurrence) :
    Occurs.Encloses layout occurrence.around nearest := by
  obtain ⟨part, _, around, isAround, occurs⟩ := occurs
  refine occurs.encloses ⟨?_, fun outer isOuter => by cases isOuter⟩
  unfold surroundings at isAround
  cases isFilter : part.filter with
  | none =>
      rw [isFilter] at isAround
      cases isAround
      rfl
  | some level =>
      simp only [isFilter, bind_eq_ok_iff, pure_eq_ok_iff] at isAround
      obtain ⟨filter, _, rfl⟩ := isAround
      rfl

end OccursIn

/-- What the parts of a config contribute, in their order. -/
def gatherParts (layout : Layout) : List ConfigPart → Provisioned (List CollectedFeature)
  | [] => .ok []
  | part :: rest => do
      let around ← surroundings layout part
      let found ← gather layout around part.spec.items
      return found ++ (← gatherParts layout rest)

/-- What a first part contributes comes before the rest. -/
theorem gatherParts_cons_eq_ok_iff {layout : Layout} {part : ConfigPart} {rest : List ConfigPart}
    {found : List CollectedFeature} :
    gatherParts layout (part :: rest) = .ok found ↔
      ∃ around own others, surroundings layout part = .ok around ∧
        gather layout around part.spec.items = .ok own ∧ gatherParts layout rest = .ok others ∧
        found = own ++ others := by
  simp only [gatherParts, bind_eq_ok_iff, pure_eq_ok_iff]
  constructor
  · rintro ⟨around, isAround, own, isOwn, others, isRest, rfl⟩
    exact ⟨around, own, others, isAround, isOwn, isRest, rfl⟩
  · rintro ⟨around, own, others, isAround, isOwn, isRest, rfl⟩
    exact ⟨around, isAround, own, isOwn, others, isRest, rfl⟩

/-- A config is expanded when everything in its parts is gathered and merges. -/
theorem foldlM_evaluatePart_eq_ok_iff {layout : Layout} {collected after : Collected}
    {parts : List ConfigPart} :
    parts.foldlM (evaluatePart layout [] []) collected = .ok after ↔
      ∃ found, gatherParts layout parts = .ok found ∧ collected.mergeAll found = .ok after := by
  induction parts generalizing collected with
  | nil =>
      simp only [gatherParts, Except.ok.injEq, exists_eq_left']
      rfl
  | cons part rest inductionHypothesis =>
      simp only [List.foldlM_cons, evaluatePart_eq, bind_eq_ok_iff, evaluate_eq_ok_iff,
        inductionHypothesis, gatherParts_cons_eq_ok_iff]
      constructor
      · rintro ⟨between, ⟨around, isAround, own, isOwn, ownMerges⟩, others, isRest, restMerges⟩
        exact ⟨own ++ others, ⟨around, own, others, isAround, isOwn, isRest, rfl⟩,
          Collected.mergeAll_append_eq_ok_iff.2 ⟨between, ownMerges, restMerges⟩⟩
      · rintro ⟨_, ⟨around, own, others, isAround, isOwn, isRest, rfl⟩, merges⟩
        obtain ⟨between, ownMerges, restMerges⟩ := Collected.mergeAll_append_eq_ok_iff.1 merges
        exact ⟨between, ⟨around, isAround, own, isOwn, ownMerges⟩, others, isRest, restMerges⟩

/-- Parts are expanded by merging what is gathered from them. -/
theorem expandParts_eq_ok_iff {layout : Layout} {after : Collected} {parts : List ConfigPart} :
    expandParts layout [] [] [] parts = .ok after ↔
      ∃ found, gatherParts layout parts = .ok found ∧ Collected.mergeAll [] found = .ok after := by
  rw [expandParts_eq_foldlM, foldlM_evaluatePart_eq_ok_iff]

/-- An occurrence is in the first part or in one of the others. -/
theorem occursIn_cons_iff {layout : Layout} {part : ConfigPart} {rest : List ConfigPart}
    {around : Surroundings} (isAround : surroundings layout part = .ok around)
    {nearest : Option Occurrence} {occurrence : Occurrence} :
    OccursIn layout (part :: rest) nearest occurrence ↔
      Occurs layout around none part.spec.items nearest occurrence ∨
        OccursIn layout rest nearest occurrence := by
  simp only [OccursIn, List.mem_cons, exists_eq_or_imp, isAround, Except.ok.injEq, exists_eq_left']

/-- What is gathered from the parts of a config is what occurs in them. -/
theorem gathers_of_gatherParts {layout : Layout} {parts : List ConfigPart}
    {found : List CollectedFeature} (isFound : gatherParts layout parts = .ok found) :
    Gathers layout (OccursIn layout parts) found := by
  induction parts generalizing found with
  | nil =>
      rw [gatherParts] at isFound
      cases isFound
      constructor
      · rintro nearest occurrence ⟨part, listed, _⟩
        exact absurd listed List.not_mem_nil
      · exact fun feature listed => absurd listed List.not_mem_nil
  | cons part rest inductionHypothesis =>
      obtain ⟨around, own, others, isAround, isOwn, isRest, rfl⟩ :=
        gatherParts_cons_eq_ok_iff.1 isFound
      have here := @gathers_of_gather layout around none _ _ isOwn
      have later := inductionHypothesis isRest
      simpa only [← occursIn_cons_iff isAround] using here.append later

end Provisioning.Expansion
