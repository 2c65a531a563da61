/-
This file says which rules about configs are accepted and how the others are refused, and that the
order of accepted rules makes no difference to what they decide.
-/

import Mathlib.Data.List.Induction
import Provisioning.Proofs.Selection.Decision
import Provisioning.Proofs.Success

namespace Provisioning.ConfigCustomizations

namespace Rule

def inheritance? : Rule → Option Bool
  | .inheritConfigs inherit => some inherit
  | _ => none

def modelOnlyInheritance? : Rule → Option Bool
  | .inheritModelOnlyConfigs inherit => some inherit
  | _ => none

def modelInclusion? : Rule → Option String
  | .includeModel model => some model
  | _ => none

def modelExclusion? : Rule → Option (String × Bool)
  | .excludeModel model namedOnly => some (model, namedOnly)
  | _ => none

def inclusion? : Rule → Option IncludedConfig
  | .includeConfig config => some config
  | _ => none

def exclusion? : Rule → Option ConfigId
  | .excludeConfig id => some id
  | _ => none

def definition? : Rule → Option ConfigSpec
  | .defineConfig config => some config
  | _ => none

end Rule

/-! Each kind of rule by itself, in the order of the rules. -/

section

variable (rules : List Rule)

def inheritances : List Bool := rules.filterMap Rule.inheritance?

def modelOnlyInheritances : List Bool := rules.filterMap Rule.modelOnlyInheritance?

def modelInclusions : List String := rules.filterMap Rule.modelInclusion?

def modelExclusions : List (String × Bool) := rules.filterMap Rule.modelExclusion?

def inclusions : List IncludedConfig := rules.filterMap Rule.inclusion?

def exclusions : List ConfigId := rules.filterMap Rule.exclusion?

def definitions : List ConfigSpec := rules.filterMap Rule.definition?

/-- Configs are included once and not as anonymous ones, excluded by their names and defined once
unless they are anonymous, and neither a model nor a config is both included and excluded. -/
structure Consistent : Prop where
  includedByIdentity : ∀ config ∈ inclusions rules, config.id ≠ .anonymous
  includedOnce : ((inclusions rules).map IncludedConfig.id).Nodup
  excludedByName : ∀ id ∈ exclusions rules, id.name ≠ none
  definedOnce : (definitions rules).Pairwise fun first second =>
    second.id ≠ .anonymous → first.id ≠ second.id
  modelsApart : ∀ model ∈ modelInclusions rules, model ∉ (modelExclusions rules).map Prod.fst
  configsApart : ∀ config ∈ inclusions rules, config.id ∉ exclusions rules

/-- No model is excluded in two ways, and no inheritance is set to two values. -/
structure Unambiguous : Prop where
  inheritance : ∀ first ∈ inheritances rules, ∀ second ∈ inheritances rules, first = second
  modelOnlyInheritance : ∀ first ∈ modelOnlyInheritances rules,
    ∀ second ∈ modelOnlyInheritances rules, first = second
  modelExclusion : ∀ model first second, (model, first) ∈ modelExclusions rules →
    (model, second) ∈ modelExclusions rules → first = second

end

/-- A rule cannot stand behind the earlier ones. -/
inductive Refuses (earlier : List Rule) : Rule → DescriptionError → Prop where
  | includedAnonymously {config : IncludedConfig} (isAnonymous : config.id = .anonymous) :
      Refuses earlier (.includeConfig config)
        (.missing "An anonymous config cannot be included by id")
  | includedTwice {config : IncludedConfig} (hasIdentity : config.id ≠ .anonymous)
      (known : ∃ other ∈ inclusions earlier, other.id = config.id) :
      Refuses earlier (.includeConfig config)
        (.duplicate s!"Config {config.id.text} has already been included")
  | excludedWithoutName {id : ConfigId} (unnamed : id.name = none) :
      Refuses earlier (.excludeConfig id)
        (.missing s!"Only named configs can be excluded by id, got {id.text}")
  | definedTwice {config : ConfigSpec} (hasIdentity : config.id ≠ .anonymous)
      (known : ∃ other ∈ definitions earlier, other.id = config.id) :
      Refuses earlier (.defineConfig config)
        (.duplicate s!"Config model with id {config.id.text} has already been defined")

def NoneRefused (rules : List Rule) : Prop :=
  ∀ before rule after, rules = before ++ rule :: after → ∀ problem, ¬Refuses before rule problem

/-- The first rule that is refused has this problem. -/
def FirstRefused (rules : List Rule) (problem : DescriptionError) : Prop :=
  ∃ before rule after, rules = before ++ rule :: after ∧
    NoneRefused before ∧ Refuses before rule problem

/-- The first model or else the first config that is included is excluded, too. -/
inductive Conflicts (rules : List Rule) : DescriptionError → Prop where
  | model {model : String} {before after : List String}
      (included : modelInclusions rules = before ++ model :: after)
      (excluded : model ∈ (modelExclusions rules).map Prod.fst)
      (first : ∀ other ∈ before, other ∉ (modelExclusions rules).map Prod.fst) :
      Conflicts rules (.conflict s!"Model {model} has been both included and excluded")
  | config {config : IncludedConfig} {before after : List IncludedConfig}
      (modelsApart : ∀ model ∈ modelInclusions rules, model ∉ (modelExclusions rules).map Prod.fst)
      (included : inclusions rules = before ++ config :: after)
      (excluded : config.id ∈ exclusions rules)
      (first : ∀ other ∈ before, other.id ∉ exclusions rules) :
      Conflicts rules (.conflict s!"Config {config.id.text} has been both included and excluded")

/-- What rules amount to when none of them is refused. -/
def together (rules : List Rule) : ConfigCustomizations where
  inheritConfigs := (inheritances rules).getLast?.getD true
  inheritModelOnlyConfigs := (modelOnlyInheritances rules).getLast?.getD true
  includedModels := .ofList (modelInclusions rules)
  excludedModels := .ofList (modelExclusions rules)
  includedConfigs := inclusions rules
  excludedConfigs := .ofList (exclusions rules)
  definedConfigs := definitions rules

/-- One more rule is applied to what the earlier ones amount to. -/
theorem together_snoc (rules : List Rule) (rule : Rule) :
    together (rules ++ [rule]) = (together rules).apply rule := by
  cases rule <;>
    simp [together, apply, inheritances, modelOnlyInheritances, modelInclusions, modelExclusions,
      inclusions, exclusions, definitions, Rule.inheritance?, Rule.modelOnlyInheritance?,
      Rule.modelInclusion?, Rule.modelExclusion?, Rule.inclusion?, Rule.exclusion?,
      Rule.definition?, OrderedSet.ofList, OrderedMap.ofList, List.filterMap_cons]

/-- A rule is judged as if all rules before it had been taken in, which is so up to the first
problem. -/
def judge (earlier : List Rule) (rule : Rule) : Option DescriptionError :=
  (together earlier).ruleProblem? rule

/-- A builder takes its rules in one by one. -/
theorem ofRules_snoc (rules : List Rule) (rule : Rule) :
    Draft.ofRules (rules ++ [rule]) = (Draft.ofRules rules).add rule := by
  rw [Draft.ofRules, List.foldl_append]
  rfl

/-- A draft knows the first problem, and up to it what its rules amount to. -/
theorem ofRules_judged (rules : List Rule) :
    (Draft.ofRules rules).problems.head? = Checks.first judge rules ∧
      ((Draft.ofRules rules).problems = [] →
        (Draft.ofRules rules).customizations = together rules) := by
  induction rules using List.reverseRecOn with
  | nil => exact ⟨rfl, fun _ => rfl⟩
  | append_singleton rules rule inductionHypothesis =>
      obtain ⟨head, unrefused⟩ := inductionHypothesis
      rw [ofRules_snoc, Checks.first_snoc, ← head, together_snoc, judge]
      cases problems : (Draft.ofRules rules).problems with
      | nil =>
          rw [← unrefused problems]
          unfold Draft.add
          split
          · next problem refused => simp [problems, refused]
          · next accepted => simp [problems, accepted]
      | cons problem rest =>
          -- Whatever becomes of the rule, the first problem stays and the customizations are dropped.
          unfold Draft.add
          split <;> simp [problems]

section

variable {rules : List Rule} {customizations : ConfigCustomizations} {problem : DescriptionError}

/-- Customizations are built when no rule is refused and the rules together have no conflict. -/
theorem build_eq_ok_iff :
    build rules = .ok customizations ↔
      Checks.first judge rules = none ∧ (together rules).conflict? = none ∧
        together rules = customizations := by
  obtain ⟨head, unrefused⟩ := ofRules_judged rules
  rw [← head, List.head?_eq_none_iff, build, Draft.finish]
  cases problems : (Draft.ofRules rules).problems with
  | nil =>
      rw [unrefused problems]
      cases (together rules).conflict? <;> simp
  | cons problem rest => simp

/-- A refused rule is reported before any conflict. -/
theorem build_eq_error_iff :
    build rules = .error problem ↔
      Checks.first judge rules = some problem ∨
        Checks.first judge rules = none ∧ (together rules).conflict? = some problem := by
  obtain ⟨head, unrefused⟩ := ofRules_judged rules
  rw [← head, build, Draft.finish]
  cases problems : (Draft.ofRules rules).problems with
  | nil =>
      rw [unrefused problems]
      cases (together rules).conflict? <;> simp
  | cons problem rest => simp

end

/-- A config has been included when a rule before includes its id. -/
theorem isSome_includedConfig?_together {earlier : List Rule} {id : ConfigId} :
    ((together earlier).includedConfig? id).isSome = true ↔
      ∃ other ∈ inclusions earlier, other.id = id := by
  simp [includedConfig?, together, List.find?_isSome]

/-- An id has been defined when a rule before defines a config with it. -/
theorem any_definedConfigs_together {earlier : List Rule} {id : ConfigId} :
    ((together earlier).definedConfigs.any fun known => known.id == id) = true ↔
      ∃ other ∈ definitions earlier, other.id = id := by
  simp [together]

/-- The check of a rule in view of the earlier ones finds the problem for which it is refused. -/
theorem judge_eq_some_iff {earlier : List Rule} {rule : Rule} {problem : DescriptionError} :
    judge earlier rule = some problem ↔ Refuses earlier rule problem := by
  constructor
  · intro judged
    unfold judge ruleProblem? at judged
    split at judged
    · next config =>
      split at judged
      · next isAnonymous =>
        cases judged
        exact .includedAnonymously (ConfigId.isAnonymous_iff.1 isAnonymous)
      next hasIdentity =>
      split at judged
      · next known =>
        cases judged
        exact .includedTwice (hasIdentity ∘ ConfigId.isAnonymous_iff.2)
          (isSome_includedConfig?_together.1 known)
      · cases judged
    · next id =>
      split at judged
      · next unnamed =>
        cases judged
        exact .excludedWithoutName (Option.isNone_iff_eq_none.1 unnamed)
      · cases judged
    · next config =>
      split at judged
      · next twice =>
        cases judged
        rw [Bool.and_eq_true, Bool.not_eq_true', any_definedConfigs_together] at twice
        exact .definedTwice (ConfigId.isAnonymous_eq_false_iff.1 twice.1) twice.2
      · cases judged
    · cases judged
  · -- Each refusal is the branch that the check takes.
    intro refuses
    cases refuses with
    | includedAnonymously isAnonymous =>
        rw [judge, ruleProblem?, if_pos (ConfigId.isAnonymous_iff.2 isAnonymous)]
    | includedTwice hasIdentity known =>
        rw [judge, ruleProblem?, if_neg (hasIdentity ∘ ConfigId.isAnonymous_iff.1),
          if_pos (isSome_includedConfig?_together.2 known)]
    | excludedWithoutName unnamed =>
        rw [judge, ruleProblem?, if_pos (Option.isNone_iff_eq_none.2 unnamed)]
    | definedTwice hasIdentity known =>
        rw [judge, ruleProblem?, ConfigId.isAnonymous_eq_false_iff.2 hasIdentity,
          any_definedConfigs_together.2 known]
        rfl

theorem judge_eq_none_iff {earlier : List Rule} {rule : Rule} :
    judge earlier rule = none ↔ ∀ problem, ¬Refuses earlier rule problem := by
  simp only [Option.eq_none_iff_forall_ne_some, ne_eq, judge_eq_some_iff]

/-- The checks find nothing exactly when no rule is refused. -/
theorem first_judge_eq_none_iff {rules : List Rule} :
    Checks.first judge rules = none ↔ NoneRefused rules := by
  simp only [Checks.first_eq_none_iff, judge_eq_none_iff, NoneRefused]

/-- The checks find the problem of the first rule that is refused. -/
theorem first_judge_eq_some_iff {rules : List Rule} {problem : DescriptionError} :
    Checks.first judge rules = some problem ↔ FirstRefused rules problem := by
  simp only [Checks.first_eq_some_iff, first_judge_eq_none_iff, judge_eq_some_iff, FirstRefused]

/-- By itself a rule names what it includes or excludes. -/
def Rule.Sound (rule : Rule) : Prop :=
  (∀ config, rule.inclusion? = some config → config.id ≠ .anonymous) ∧
    ∀ id, rule.exclusion? = some id → id.name ≠ none

/-- A rule does not include or define again what another one has. -/
def Rule.Compatible (first second : Rule) : Prop :=
  (∀ config, first.inclusion? = some config → ∀ other, second.inclusion? = some other →
    config.id ≠ other.id) ∧
  ∀ config, first.definition? = some config → ∀ other, second.definition? = some other →
    other.id ≠ .anonymous → config.id ≠ other.id

/-- A rule is taken in when it is sound by itself and compatible with each rule before it. -/
theorem judge_eq_none_iff_sound {earlier : List Rule} {rule : Rule} :
    judge earlier rule = none ↔ rule.Sound ∧ ∀ known ∈ earlier, known.Compatible rule := by
  unfold judge ruleProblem? Rule.Sound Rule.Compatible
  cases rule with
  | includeConfig config =>
      have isNew : ((together earlier).includedConfig? config.id).isSome = false ↔
          ∀ other ∈ inclusions earlier, other.id ≠ config.id := by
        simp [Bool.eq_false_iff, isSome_includedConfig?_together]
      rw [inclusions, List.forall_mem_filterMap] at isNew
      simp only [Checks.ite_some_eq_none_iff, ConfigId.isAnonymous_iff, Bool.not_eq_true, isNew]
      simp [Rule.inclusion?, Rule.exclusion?, Rule.definition?]
  | excludeConfig id => simp [Rule.inclusion?, Rule.exclusion?, Rule.definition?]
  | defineConfig config =>
      have isNew : ((together earlier).definedConfigs.any fun known => known.id == config.id) =
          false ↔ ∀ other ∈ definitions earlier, other.id ≠ config.id := by
        rw [Bool.eq_false_iff, ne_eq, any_definedConfigs_together, not_exists]
        simp only [not_and, ne_eq]
      rw [definitions, List.forall_mem_filterMap] at isNew
      simp only [Checks.ite_some_eq_none_iff, Bool.and_eq_true, not_and, Bool.not_eq_true, isNew,
        Bool.not_eq_true', ConfigId.isAnonymous_eq_false_iff]
      by_cases isAnonymous : config.id = .anonymous
      · simp [isAnonymous, Rule.inclusion?, Rule.exclusion?, Rule.definition?]
      · simp [isAnonymous, Rule.inclusion?, Rule.exclusion?, Rule.definition?]
  | _ => simp [Rule.inclusion?, Rule.exclusion?, Rule.definition?]

/-- Nothing is refused exactly when all rules are sound and no two of them say the same. -/
theorem noneRefused_iff {rules : List Rule} :
    NoneRefused rules ↔ (∀ rule ∈ rules, rule.Sound) ∧ rules.Pairwise Rule.Compatible := by
  rw [← first_judge_eq_none_iff]
  apply Checks.first_eq_none_iff_sound
  exact fun _ _ => judge_eq_none_iff_sound

section

variable {rules : List Rule}

/-- A model is excluded when a rule excludes it, in whatever way. -/
theorem contains_excludedModels_together {model : String} :
    (together rules).excludedModels.contains model = true ↔
      model ∈ (modelExclusions rules).map Prod.fst :=
  OrderedMap.contains_ofList_iff

/-- A config is excluded when a rule excludes its id. -/
theorem isConfigExcluded_together {id : ConfigId} :
    (together rules).isConfigExcluded id = true ↔ id ∈ exclusions rules := by
  rw [isConfigExcluded_iff]
  exact OrderedSet.mem_ofList

/-- The search for an excluded model goes through the included ones in the order of the rules. -/
theorem find?_includedModels_together :
    (together rules).includedModels.elements.find? (together rules).excludedModels.contains =
      (modelInclusions rules).find? (together rules).excludedModels.contains :=
  OrderedSet.find?_ofList _ _

/-- No included model is in conflict when none is excluded, too. -/
theorem find?_includedModels_eq_none_iff :
    (modelInclusions rules).find? (together rules).excludedModels.contains = none ↔
      ∀ model ∈ modelInclusions rules, model ∉ (modelExclusions rules).map Prod.fst := by
  simp only [List.find?_eq_none, contains_excludedModels_together]

/-- The model that is reported is the first included one that is excluded, too. -/
theorem find?_includedModels_eq_some_iff {model : String} :
    (modelInclusions rules).find? (together rules).excludedModels.contains = some model ↔
      model ∈ (modelExclusions rules).map Prod.fst ∧
        ∃ before after, modelInclusions rules = before ++ model :: after ∧
          ∀ other ∈ before, other ∉ (modelExclusions rules).map Prod.fst := by
  simp only [List.find?_eq_some_iff_append, ← contains_excludedModels_together, Bool.not_eq_true,
    Bool.not_eq_true']

/-- No included config is in conflict when none is excluded, too. -/
theorem find?_includedConfigs_eq_none_iff :
    ((together rules).includedConfigs.find? fun config =>
      (together rules).isConfigExcluded config.id) = none ↔
        ∀ config ∈ inclusions rules, config.id ∉ exclusions rules := by
  simp only [List.find?_eq_none, isConfigExcluded_together]
  rfl

/-- The config that is reported is the first included one that is excluded, too. -/
theorem find?_includedConfigs_eq_some_iff {config : IncludedConfig} :
    ((together rules).includedConfigs.find? fun config =>
      (together rules).isConfigExcluded config.id) = some config ↔
        config.id ∈ exclusions rules ∧
          ∃ before after, inclusions rules = before ++ config :: after ∧
            ∀ other ∈ before, other.id ∉ exclusions rules := by
  simp only [List.find?_eq_some_iff_append, ← isConfigExcluded_together, Bool.not_eq_true,
    Bool.not_eq_true']
  rfl

/-- Rules have no conflict when they include nothing that they exclude. -/
theorem conflict?_together_eq_none_iff :
    (together rules).conflict? = none ↔
      (∀ model ∈ modelInclusions rules, model ∉ (modelExclusions rules).map Prod.fst) ∧
        ∀ config ∈ inclusions rules, config.id ∉ exclusions rules := by
  rw [← find?_includedModels_eq_none_iff, ← find?_includedConfigs_eq_none_iff, conflict?,
    find?_includedModels_together]
  split
  · next model found => simp [found]
  next modelsApart =>
  rw [and_iff_right modelsApart]
  split
  · next config found => simp [found]
  · next configsApart => simp [configsApart]

/-- The conflict that is reported is the first one, and models are looked at before configs. -/
theorem conflict?_together_eq_some_iff {problem : DescriptionError} :
    (together rules).conflict? = some problem ↔ Conflicts rules problem := by
  rw [conflict?, find?_includedModels_together]
  constructor
  · intro conflict
    split at conflict
    · next model found =>
      cases conflict
      obtain ⟨excluded, before, after, included, first⟩ := find?_includedModels_eq_some_iff.1 found
      exact .model included excluded first
    next modelsApart =>
    split at conflict
    · next config found =>
      cases conflict
      obtain ⟨excluded, before, after, included, first⟩ := find?_includedConfigs_eq_some_iff.1 found
      exact .config (find?_includedModels_eq_none_iff.1 modelsApart) included excluded first
    · cases conflict
  · intro conflicts
    cases conflicts with
    | model included excluded first =>
        rw [find?_includedModels_eq_some_iff.2 ⟨excluded, _, _, included, first⟩]
    | config modelsApart included excluded first =>
        rw [find?_includedModels_eq_none_iff.2 modelsApart,
          find?_includedConfigs_eq_some_iff.2 ⟨excluded, _, _, included, first⟩]

/-- Rules are consistent exactly when none is refused and nothing is both included and excluded. -/
theorem consistent_iff :
    Consistent rules ↔ NoneRefused rules ∧ (together rules).conflict? = none := by
  have soundness : (∀ rule ∈ rules, rule.Sound) ↔
      (∀ config ∈ inclusions rules, config.id ≠ .anonymous) ∧
        ∀ id ∈ exclusions rules, id.name ≠ none := by
    rw [inclusions, exclusions, List.forall_mem_filterMap, List.forall_mem_filterMap]
    exact forall₂_and
  have compatibility : rules.Pairwise Rule.Compatible ↔
      ((inclusions rules).map IncludedConfig.id).Nodup ∧
        (definitions rules).Pairwise fun first second =>
          second.id ≠ .anonymous → first.id ≠ second.id := by
    rw [List.Nodup, List.pairwise_map, inclusions, definitions, List.pairwise_filterMap,
      List.pairwise_filterMap]
    exact List.pairwise_and_iff
  rw [conflict?_together_eq_none_iff, noneRefused_iff, soundness, compatibility]
  constructor
  · intro consistent
    exact ⟨⟨⟨consistent.includedByIdentity, consistent.excludedByName⟩,
      consistent.includedOnce, consistent.definedOnce⟩,
      consistent.modelsApart, consistent.configsApart⟩
  · intro accepted
    obtain ⟨⟨⟨byIdentity, byName⟩, includedOnce, definedOnce⟩, apart⟩ := accepted
    exact ⟨byIdentity, includedOnce, byName, definedOnce, apart.1, apart.2⟩

/-- Consistent rules are accepted, and they amount to what all of them say together. -/
theorem build_eq_ok_iff_consistent {customizations : ConfigCustomizations} :
    build rules = .ok customizations ↔ Consistent rules ∧ together rules = customizations := by
  rw [build_eq_ok_iff, first_judge_eq_none_iff, consistent_iff, and_assoc]

end

section

variable {rules others : List Rule} (rearranged : rules.Perm others)

include rearranged

/-- Whether rules are consistent does not depend on their order. -/
theorem Consistent.of_perm (consistent : Consistent rules) : Consistent others := by
  have included := rearranged.filterMap Rule.inclusion?
  have excluded := rearranged.filterMap Rule.exclusion?
  have defined := rearranged.filterMap Rule.definition?
  have modelsIncluded := rearranged.filterMap Rule.modelInclusion?
  have modelsExcluded := (rearranged.filterMap Rule.modelExclusion?).map Prod.fst
  constructor
  · intro config isIncluded
    exact consistent.includedByIdentity config (included.mem_iff.2 isIncluded)
  · exact (included.map _).nodup_iff.1 consistent.includedOnce
  · intro id isExcluded
    exact consistent.excludedByName id (excluded.mem_iff.2 isExcluded)
  · apply (defined.pairwise_iff _).1 consistent.definedOnce
    intro first second apart hasIdentity same
    exact apart (same ▸ hasIdentity) same.symm
  · intro model isIncluded isExcluded
    exact consistent.modelsApart model (modelsIncluded.mem_iff.2 isIncluded)
      (modelsExcluded.mem_iff.2 isExcluded)
  · intro config isIncluded isExcluded
    exact consistent.configsApart config (included.mem_iff.2 isIncluded)
      (excluded.mem_iff.2 isExcluded)

/-- Whether rules are unambiguous does not depend on their order. -/
theorem Unambiguous.of_perm (unambiguous : Unambiguous rules) : Unambiguous others := by
  have inheritances := rearranged.filterMap Rule.inheritance?
  have modelOnlyInheritances := rearranged.filterMap Rule.modelOnlyInheritance?
  have excluded := rearranged.filterMap Rule.modelExclusion?
  constructor
  · intro first isFirst second isSecond
    exact unambiguous.inheritance first (inheritances.mem_iff.2 isFirst) second
      (inheritances.mem_iff.2 isSecond)
  · intro first isFirst second isSecond
    exact unambiguous.modelOnlyInheritance first (modelOnlyInheritances.mem_iff.2 isFirst) second
      (modelOnlyInheritances.mem_iff.2 isSecond)
  · intro model first second isFirst isSecond
    exact unambiguous.modelExclusion model first second (excluded.mem_iff.2 isFirst)
      (excluded.mem_iff.2 isSecond)

end

/-- Values that are all the same cannot be told apart when they are rearranged. -/
theorem eq_of_perm_of_same {first second : List Bool} (rearranged : first.Perm second)
    (same : ∀ value ∈ first, ∀ other ∈ first, value = other) : first = second := by
  -- In the order in which every value comes before every other one both lists are sorted.
  have unordered : ∀ values : List Bool, values.Pairwise fun _ _ => True :=
    fun values => List.pairwise_of_forall fun _ _ => trivial
  apply List.Perm.eq_of_pairwise _ (unordered first) (unordered second) rearranged
  intro value other isFirst isSecond _ _
  exact same value isFirst other (rearranged.mem_iff.2 isSecond)

/-- Customizations that answer every question in the same way. -/
structure Alike (first second : ConfigCustomizations) : Prop where
  inherit : first.inheritConfigs = second.inheritConfigs
  inheritModelOnly : first.inheritModelOnlyConfigs = second.inheritModelOnlyConfigs
  modelIncluded : ∀ model, first.isModelIncluded model = second.isModelIncluded model
  modelExcluded : ∀ model, first.modelExclusion? model = second.modelExclusion? model
  included : ∀ id, first.includedConfig? id = second.includedConfig? id
  excluded : ∀ id, first.isConfigExcluded id = second.isConfigExcluded id

/-- Customizations that give the same answers decide alike about every config. -/
theorem Alike.decide_eq {first second : ConfigCustomizations} (alike : Alike first second)
    (id : ConfigId) : first.decide id = second.decide id := by
  unfold decide isModelExcludedFor
  rw [alike.inherit, alike.inheritModelOnly, funext alike.modelIncluded,
    funext alike.modelExcluded, alike.included, alike.excluded]

/-- A model is included when a rule includes it. -/
theorem isModelIncluded_together {rules : List Rule} {model : String} :
    (together rules).isModelIncluded model = true ↔ model ∈ modelInclusions rules := by
  rw [isModelIncluded, OrderedSet.contains, List.contains_iff_mem]
  exact OrderedSet.mem_ofList

/-- The way in which a model is excluded is that of any rule that excludes it, since there is one
way only. -/
theorem modelExclusion?_together_eq_some_iff {rules : List Rule} (unambiguous : Unambiguous rules)
    {model : String} {namedOnly : Bool} :
    (together rules).modelExclusion? model = some namedOnly ↔
      (model, namedOnly) ∈ modelExclusions rules :=
  OrderedMap.get?_ofList_eq_some_iff unambiguous.modelExclusion

/-- What is known of an included config is the only rule that includes its id. -/
theorem includedConfig?_together_eq_some_iff {rules : List Rule} (consistent : Consistent rules)
    {id : ConfigId} {config : IncludedConfig} :
    (together rules).includedConfig? id = some config ↔
      config ∈ inclusions rules ∧ config.id = id :=
  Checks.find?_key_eq_some_iff consistent.includedOnce

/-- Rules in another order answer every question in the same way. -/
theorem together_alike {rules others : List Rule} (rearranged : rules.Perm others)
    (consistent : Consistent rules) (unambiguous : Unambiguous rules) :
    Alike (together rules) (together others) := by
  constructor
  · have same : inheritances rules = inheritances others :=
      eq_of_perm_of_same (rearranged.filterMap _) unambiguous.inheritance
    rw [together, together, same]
  · have same : modelOnlyInheritances rules = modelOnlyInheritances others :=
      eq_of_perm_of_same (rearranged.filterMap _) unambiguous.modelOnlyInheritance
    rw [together, together, same]
  · intro model
    rw [Bool.eq_iff_iff, isModelIncluded_together, isModelIncluded_together]
    exact (rearranged.filterMap Rule.modelInclusion?).mem_iff
  · intro model
    apply Option.ext
    intro namedOnly
    rw [modelExclusion?_together_eq_some_iff unambiguous,
      modelExclusion?_together_eq_some_iff (unambiguous.of_perm rearranged)]
    exact (rearranged.filterMap Rule.modelExclusion?).mem_iff
  · intro id
    apply Option.ext
    intro config
    rw [includedConfig?_together_eq_some_iff consistent,
      includedConfig?_together_eq_some_iff (consistent.of_perm rearranged)]
    exact and_congr_left' (rearranged.filterMap Rule.inclusion?).mem_iff
  · intro id
    rw [Bool.eq_iff_iff, isConfigExcluded_together, isConfigExcluded_together]
    exact (rearranged.filterMap Rule.exclusion?).mem_iff

/-- Rules are accepted exactly when they are consistent, and otherwise the first one that is refused
is reported, or the first conflict when none is. The order of accepted rules makes no difference to
what they decide, and none to what they define but for its order, unless one rule takes back
another. -/
theorem consistent_in_any_order (rules : List Rule) :
    (Succeeds (build rules) ↔ Consistent rules) ∧
    (∀ problem, build rules = .error problem ↔
      FirstRefused rules problem ∨ NoneRefused rules ∧ Conflicts rules problem) ∧
    ∀ others customizations, rules.Perm others → Unambiguous rules →
      build rules = .ok customizations →
      ∃ rearranged, build others = .ok rearranged ∧
        (∀ id, customizations.decide id = rearranged.decide id) ∧
        customizations.definedConfigs.Perm rearranged.definedConfigs := by
  refine ⟨?_, ?_, ?_⟩
  · simp only [Succeeds, build_eq_ok_iff_consistent, exists_and_left, exists_eq', and_true]
  · intro problem
    rw [build_eq_error_iff, first_judge_eq_some_iff, first_judge_eq_none_iff,
      conflict?_together_eq_some_iff]
  · intro others customizations rearranged unambiguous built
    obtain ⟨consistent, rfl⟩ := build_eq_ok_iff_consistent.1 built
    have alike := together_alike rearranged consistent unambiguous
    exact ⟨together others,
      build_eq_ok_iff_consistent.2 ⟨consistent.of_perm rearranged, rfl⟩,
      alike.decide_eq, rearranged.filterMap Rule.definition?⟩

/-- One model is included but for a config, and of another one a single config is included. -/
def hostRules : List Rule :=
  [.inheritConfigs false, .includeModel "host", .excludeModel "guest" true,
    .includeDefaultConfig "guest" "main", .excludeDefaultConfig "host" "main"]

theorem consistent_in_any_order_host :
    Unambiguous hostRules ∧ ∃ customizations rearranged,
      build hostRules = .ok customizations ∧ build hostRules.reverse = .ok rearranged ∧
        (∀ id, customizations.decide id = rearranged.decide id) ∧
        rearranged.decide ⟨some "guest", some "main"⟩ =
          .included (some ⟨⟨some "guest", some "main"⟩, .passAll⟩) := by
  have unambiguous : Unambiguous hostRules := by
    constructor
    · decide
    · decide
    · intro model first second isFirst isSecond
      have firstPair := List.mem_singleton.1 isFirst
      have secondPair := List.mem_singleton.1 isSecond
      exact (congrArg Prod.snd firstPair).trans (congrArg Prod.snd secondPair).symm
  obtain ⟨_, _, anyOrder⟩ := consistent_in_any_order hostRules
  obtain ⟨rearranged, isBuilt, same, _⟩ :=
    anyOrder hostRules.reverse _ (List.reverse_perm hostRules).symm unambiguous rfl
  exact ⟨unambiguous, _, rearranged, rfl, isBuilt, same, (same _).symm.trans rfl⟩

/-- The exclusion without a name comes before the second inclusion. -/
example :
    build [.includeDefaultConfig "host" "main", .excludeConfig (.modelOnly "host"),
      .includeDefaultConfig "host" "main"] =
    .error (.missing "Only named configs can be excluded by id, got model host") := by
  rfl

end Provisioning.ConfigCustomizations
