/-
This file proves which customizations decide about a config.
-/

import Provisioning.Selection.Configs

namespace Provisioning

namespace ConfigCustomizations

/-- The exclusion of a model spares its model-only config if it is for named configs only. -/
def ExcludesModelOf (customizations : ConfigCustomizations) (id : ConfigId) : Prop :=
  ∃ model namedOnly, id.model = some model ∧
    customizations.excludedModels.get? model = some namedOnly ∧
      (namedOnly = true → id.name ≠ none)

def IncludesModelOf (customizations : ConfigCustomizations) (id : ConfigId) : Prop :=
  ∃ model, id.model = some model ∧ model ∈ customizations.includedModels.elements

/-- A rule decides about a config that has an identity, unless a rule before it does. -/
inductive Decides (customizations : ConfigCustomizations) (id : ConfigId) :
    ConfigDecision → Prop where
  | excludedByName (hasIdentity : id ≠ .anonymous)
      (excluded : id ∈ customizations.excludedConfigs.elements) :
      Decides customizations id .excluded
  | includedByName {config : IncludedConfig} (hasIdentity : id ≠ .anonymous)
      (notExcluded : id ∉ customizations.excludedConfigs.elements)
      (included : customizations.includedConfig? id = some config) :
      Decides customizations id (.included (some config))
  | modelExcluded (hasIdentity : id ≠ .anonymous)
      (notExcluded : id ∉ customizations.excludedConfigs.elements)
      (notIncluded : customizations.includedConfig? id = none)
      (excluded : customizations.ExcludesModelOf id) : Decides customizations id .excluded
  | modelIncluded (hasIdentity : id ≠ .anonymous)
      (notExcluded : id ∉ customizations.excludedConfigs.elements)
      (notIncluded : customizations.includedConfig? id = none)
      (modelKept : ¬customizations.ExcludesModelOf id)
      (included : customizations.IncludesModelOf id) :
      Decides customizations id (.included none)

def Undecided (customizations : ConfigCustomizations) (id : ConfigId) : Prop :=
  ∀ decision, ¬customizations.Decides id decision

/-- Model-only configs are inherited by a flag of their own. -/
def admits (customizations : ConfigCustomizations) (id : ConfigId) : Bool :=
  if id.isModelOnly then customizations.inheritModelOnlyConfigs else customizations.inheritConfigs

variable {customizations : ConfigCustomizations} {id : ConfigId}

/-- A model is excluded for its configs, or only for those with a name. -/
theorem isModelExcludedFor_iff :
    customizations.isModelExcludedFor id = true ↔ customizations.ExcludesModelOf id := by
  obtain ⟨model, name⟩ := id
  cases model with
  | none => simp [isModelExcludedFor, ExcludesModelOf]
  | some model =>
      simp only [isModelExcludedFor, modelExclusion?, ExcludesModelOf, Option.bind_some,
        Option.some.injEq, exists_and_left, exists_eq_left']
      cases customizations.excludedModels.get? model with
      | none => simp
      | some namedOnly => cases namedOnly <;> cases name <;> simp

theorem any_isModelIncluded_iff :
    id.model.any customizations.isModelIncluded = true ↔ customizations.IncludesModelOf id := by
  simp [IncludesModelOf, isModelIncluded, OrderedSet.contains, Option.any_eq_true]

theorem isConfigExcluded_iff :
    customizations.isConfigExcluded id = true ↔ id ∈ customizations.excludedConfigs.elements := by
  simp [isConfigExcluded, OrderedSet.contains]

/-- The rule that decides is the one that the evaluation comes to. -/
theorem Decides.decide_eq {decision : ConfigDecision}
    (decides : customizations.Decides id decision) : customizations.decide id = decision := by
  unfold decide
  cases decides with
  | excludedByName hasIdentity excluded =>
      simp [ConfigId.isAnonymous_iff, hasIdentity, isConfigExcluded_iff, excluded]
  | includedByName hasIdentity notExcluded included =>
      simp [ConfigId.isAnonymous_iff, hasIdentity, isConfigExcluded_iff, notExcluded, included]
  | modelExcluded hasIdentity notExcluded notIncluded excluded =>
      simp [ConfigId.isAnonymous_iff, hasIdentity, isConfigExcluded_iff, notExcluded, notIncluded,
        isModelExcludedFor_iff, excluded]
  | modelIncluded hasIdentity notExcluded notIncluded modelKept included =>
      simp [ConfigId.isAnonymous_iff, hasIdentity, isConfigExcluded_iff, notExcluded, notIncluded,
        isModelExcludedFor_iff, modelKept, any_isModelIncluded_iff, included]

/-- What a level decides is what one of its rules decides, and inheritance is left otherwise. -/
theorem decides_or_inherited (customizations : ConfigCustomizations) (id : ConfigId) :
    customizations.Decides id (customizations.decide id) ∨
      customizations.decide id = .inherited (customizations.admits id) := by
  unfold decide
  split
  · next isAnonymous =>
    obtain rfl := ConfigId.isAnonymous_iff.1 isAnonymous
    exact .inr rfl
  next hasIdentity =>
  rw [ConfigId.isAnonymous_iff] at hasIdentity
  split
  · next excluded => exact .inl (.excludedByName hasIdentity (isConfigExcluded_iff.1 excluded))
  next notExcluded =>
  rw [isConfigExcluded_iff] at notExcluded
  split
  · next config included => exact .inl (.includedByName hasIdentity notExcluded included)
  next notIncluded =>
  split
  · next excluded =>
    exact .inl (.modelExcluded hasIdentity notExcluded notIncluded (isModelExcludedFor_iff.1 excluded))
  next modelKept =>
  rw [isModelExcludedFor_iff] at modelKept
  split
  · next included =>
    exact .inl (.modelIncluded hasIdentity notExcluded notIncluded modelKept
      (any_isModelIncluded_iff.1 included))
  · right
    unfold admits
    split <;> rfl

/-- A rule that decides leaves nothing to the flags. -/
theorem Decides.ne_inherited {decision : ConfigDecision}
    (decides : customizations.Decides id decision) (admitted : Bool) :
    decision ≠ .inherited admitted := by
  cases decides <;> simp

/-- Where no rule decides, a flag admits the config or not. -/
theorem undecided_iff :
    customizations.Undecided id ↔
      customizations.decide id = .inherited (customizations.admits id) := by
  constructor
  · intro undecided
    exact (decides_or_inherited customizations id).resolve_left (undecided _)
  · intro inherited decision decides
    exact decides.ne_inherited _ (decides.decide_eq.symm.trans inherited)

end ConfigCustomizations

open ConfigCustomizations

/-- The outermost level with a rule that decides about a config includes it. -/
def IncludedBy (levels : List CustomizationLevel) (id : ConfigId) (filter : Option ScopedFilter) :
    Prop :=
  ∃ outer level inner byName, levels = outer ++ level :: inner ∧
    (∀ other ∈ outer, other.customizations.Undecided id) ∧
    level.customizations.Decides id (.included byName) ∧
    filter = byName.map fun config => ⟨config.filter, level.scope⟩

/-- No level has a rule that decides about a config and all of them inherit it. -/
def InheritedBy (levels : List CustomizationLevel) (id : ConfigId) : Prop :=
  ∀ level ∈ levels, level.customizations.Undecided id ∧ level.customizations.admits id = true

/-- A config is included by the outermost level, or by an inner one if that leaves it undecided. -/
theorem includedBy_cons_iff {level : CustomizationLevel} {inner : List CustomizationLevel}
    {id : ConfigId} {filter : Option ScopedFilter} :
    IncludedBy (level :: inner) id filter ↔
      (∃ byName, level.customizations.Decides id (.included byName) ∧
        filter = byName.map fun config => ⟨config.filter, level.scope⟩) ∨
      (level.customizations.Undecided id ∧ IncludedBy inner id filter) := by
  constructor
  · rintro ⟨outer, decisive, beyond, byName, split, undecided, decides, isFilter⟩
    cases outer with
    | nil =>
        obtain ⟨rfl, rfl⟩ := List.cons.inj split
        exact .inl ⟨byName, decides, isFilter⟩
    | cons first others =>
        obtain ⟨rfl, rfl⟩ := List.cons.inj split
        rw [List.forall_mem_cons] at undecided
        exact .inr ⟨undecided.1, others, decisive, beyond, byName, rfl, undecided.2, decides, isFilter⟩
  · rintro (⟨byName, decides, isFilter⟩ | ⟨first, rest⟩)
    · exact ⟨[], level, inner, byName, rfl, by simp, decides, isFilter⟩
    · obtain ⟨outer, decisive, beyond, byName, rfl, undecided, decides, isFilter⟩ := rest
      exact ⟨level :: outer, decisive, beyond, byName, rfl,
        List.forall_mem_cons.2 ⟨first, undecided⟩, decides, isFilter⟩

/-- A config is selected by the outermost level that decides, or inherited through all levels. -/
theorem selectConfig_eq_included_iff {levels : List CustomizationLevel} {id : ConfigId}
    {inherited : Bool} {filter : Option ScopedFilter} :
    selectConfig id inherited levels = .included filter ↔
      IncludedBy levels id filter ∨
        (inherited = true ∧ InheritedBy levels id ∧ filter = none) := by
  induction levels generalizing inherited with
  | nil =>
      have undecided : ¬IncludedBy [] id filter := by
        rintro ⟨outer, _, _, _, noLevels, _⟩
        simp at noLevels
      cases inherited <;> cases filter <;> simp [selectConfig, InheritedBy, undecided]
  | cons level inner inductionHypothesis =>
      rw [selectConfig, includedBy_cons_iff, InheritedBy, List.forall_mem_cons]
      rcases decides_or_inherited level.customizations id with decides | isInherited
      · -- The level decides, so nothing further inside is consulted.
        have decided : ¬level.customizations.Undecided id := fun undecided => undecided _ decides
        simp only [decided, false_and, and_false, or_false]
        split
        · next isExcluded =>
          refine ⟨fun impossible => (nomatch impossible), ?_⟩
          rintro ⟨byName, included, _⟩
          rw [included.decide_eq] at isExcluded
          cases isExcluded
        · next byName isIncluded =>
          rw [ConfigSelection.included.injEq]
          constructor
          · rintro rfl
            exact ⟨byName, isIncluded ▸ decides, rfl⟩
          · rintro ⟨other, included, rfl⟩
            rw [included.decide_eq, ConfigDecision.included.injEq] at isIncluded
            rw [isIncluded]
        · next admitted isInherited => exact absurd isInherited (decides.ne_inherited admitted)
      · have undecided := undecided_iff.2 isInherited
        have noDecision : ∀ byName, ¬level.customizations.Decides id (.included byName) :=
          fun byName => undecided _
        rw [isInherited]
        simp only [inductionHypothesis, undecided, noDecision, false_and, exists_false, false_or,
          true_and, Bool.and_eq_true, InheritedBy, and_assoc]

end Provisioning
