/-
This file says which features, configs and states the builders of a provisioned state can make.
-/

import Provisioning.Proofs.Selection.Assembly

namespace Provisioning

/-- An id is built when it has parameters. -/
theorem ResolvedId.new_eq_ok_iff {specId : SpecId} {params : IdParams} {id : ResolvedId} :
    ResolvedId.new specId params = .ok id ↔ params.isEmpty = false ∧ ⟨specId, params⟩ = id := by
  unfold ResolvedId.new
  cases params.isEmpty <;> simp

namespace ProvisionedFeature

/-- A parameter that is named leaves the map that it is moved from. -/
theorem get?_moveParams_snd (ordered rest : OrderedMap String String) (names : List String)
    (name : String) :
    (moveParams ordered rest names).2.get? name =
      if name ∈ names then none else rest.get? name := by
  fun_induction moveParams ordered rest names with
  | case1 ordered rest => simp
  | case2 ordered rest moved names value isValue inductionHypothesis =>
      rw [inductionHypothesis, OrderedMap.get?_erase]
      by_cases same : moved = name
      · simp [same]
      · simp [same, Ne.symm same]
  | case3 ordered rest moved names absent inductionHypothesis =>
      rw [inductionHypothesis]
      by_cases same : moved = name
      · simp [← same, absent]
      · simp [Ne.symm same]

/-- The named parameters that have a value are moved in the order of the names. -/
theorem keys_moveParams_fst {ordered rest : OrderedMap String String} {names : List String}
    (nodup : names.Nodup) (isNew : ∀ name ∈ names, ordered.get? name = none) :
    (moveParams ordered rest names).1.keys = ordered.keys ++ names.filter rest.contains := by
  fun_induction moveParams ordered rest names with
  | case1 ordered rest => simp
  | case2 ordered rest moved names value isValue inductionHypothesis =>
      rw [List.nodup_cons] at nodup
      rw [List.forall_mem_cons] at isNew
      have later : ∀ name ∈ names, moved ≠ name := by
        rintro name listed rfl
        exact nodup.1 listed
      have stillNew : ∀ name ∈ names, (ordered.insert moved value).get? name = none := by
        intro name listed
        rw [OrderedMap.get?_insert, if_neg (later name listed)]
        exact isNew.2 name listed
      have unchanged : names.filter (rest.erase moved).contains = names.filter rest.contains := by
        apply List.filter_congr
        intro name listed
        rw [OrderedMap.contains, OrderedMap.get?_erase, if_neg (later name listed),
          ← OrderedMap.contains]
      have isMoved : rest.contains moved = true := by rw [OrderedMap.contains, isValue]; rfl
      rw [inductionHypothesis nodup.2 stillNew, OrderedMap.keys_insert_of_new value isNew.1,
        unchanged, List.filter_cons_of_pos isMoved, List.append_assoc, List.singleton_append]
  | case3 ordered rest moved names absent inductionHypothesis =>
      rw [List.nodup_cons] at nodup
      rw [List.forall_mem_cons] at isNew
      have isAbsent : ¬rest.contains moved = true := by simp [OrderedMap.contains, absent]
      rw [inductionHypothesis nodup.2 isNew.2, List.filter_cons_of_neg isAbsent]

/-- Parameters that are all named stand in the order of the names. -/
theorem keys_orderParams {feature : ProvisionedFeature} {names : List String}
    (nodup : names.Nodup) (named : ∀ key ∈ feature.params.keys, key ∈ names) :
    (feature.orderParams names).params.keys = names.filter feature.params.contains := by
  have nothingLeft : (moveParams .empty feature.params names).2.entries = [] := by
    rw [← List.map_eq_nil_iff, List.eq_nil_iff_forall_not_mem]
    intro key isKey
    obtain ⟨value, isValue⟩ := OrderedMap.mem_keys_iff.1 isKey
    rw [get?_moveParams_snd] at isValue
    split at isValue
    · cases isValue
    · next unnamed => exact unnamed (named key (OrderedMap.mem_keys_iff.2 ⟨value, isValue⟩))
  have moved := @keys_moveParams_fst .empty feature.params names nodup fun _ _ => rfl
  rw [orderParams, nothingLeft]
  exact moved

/-- Parameters that are set one after the other extend the map. -/
theorem foldl_set (provisioned : ProvisionedFeature) (entries : List (String × String)) :
    entries.foldl (fun provisioned entry => provisioned.set entry.1 entry.2) provisioned =
      { provisioned with params := provisioned.params.extend entries } := by
  induction entries generalizing provisioned with
  | nil => rfl
  | cons entry rest inductionHypothesis =>
      rw [List.foldl_cons, inductionHypothesis]
      rfl

/-- A feature is started with an accepted identity; then its parameters are set and ordered. -/
inductive IsBuilt : ProvisionedFeature → Prop where
  | start {specId : SpecId} {params : IdParams} {id : ResolvedId}
      (accepted : specId.gav.problem? = none) (isId : ResolvedId.new specId params = .ok id) :
      IsBuilt (ofId id)
  | set {feature : ProvisionedFeature} (name value : String) (built : IsBuilt feature) :
      IsBuilt (feature.set name value)
  | order {feature : ProvisionedFeature} (names : List String) (built : IsBuilt feature) :
      IsBuilt (feature.orderParams names)

/-- Every parameter of the identity has a value, which need not be the one in the identity. -/
def HasIdParams (feature : ProvisionedFeature) : Prop :=
  ∀ name ∈ feature.id.params.keys, name ∈ feature.params.keys

variable {feature : ProvisionedFeature}

/-- Ordering parameters neither adds nor removes a name. -/
theorem mem_keys_orderParams_iff {names : List String} {name : String} :
    name ∈ (feature.orderParams names).params.keys ↔ name ∈ feature.params.keys := by
  have same := param?_orderParams feature names name
  unfold param? at same
  rw [OrderedMap.mem_keys_iff, OrderedMap.mem_keys_iff, same]

/-- What the builder has started with is still there, whatever has been set and ordered since. -/
theorem IsBuilt.kept (built : feature.IsBuilt) :
    feature.id.gav.problem? = none ∧ feature.id.params.isEmpty = false ∧ feature.HasIdParams := by
  induction built with
  | start accepted isId =>
      obtain ⟨filled, rfl⟩ := ResolvedId.new_eq_ok_iff.1 isId
      exact ⟨accepted, filled, fun _ isKey => isKey⟩
  | set name value _ inductionHypothesis =>
      obtain ⟨accepted, filled, valued⟩ := inductionHypothesis
      exact ⟨accepted, filled, fun key isKey =>
        OrderedMap.mem_keys_put.2 (.inr (valued key isKey))⟩
  | order names _ inductionHypothesis =>
      obtain ⟨accepted, filled, valued⟩ := inductionHypothesis
      exact ⟨accepted, filled, fun key isKey => mem_keys_orderParams_iff.2 (valued key isKey)⟩

/-- Further values leave a feature built. -/
theorem IsBuilt.setAll (built : feature.IsBuilt) (entries : List (String × String)) :
    IsBuilt { feature with params := feature.params.extend entries } := by
  rw [← foldl_set]
  induction entries generalizing feature with
  | nil => exact built
  | cons entry rest inductionHypothesis => exact inductionHypothesis (built.set entry.1 entry.2)

/-- Parameters that replace those of the identity are the values of all names. -/
theorem get?_extend_entries (valued : feature.HasIdParams) (name : String) :
    (feature.id.params.extend feature.params.entries).get? name = feature.params.get? name := by
  rw [OrderedMap.get?_extend _ feature.params.keysNodup]
  change (feature.params.get? name).or (feature.id.params.get? name) = feature.params.get? name
  cases isValue : feature.params.get? name with
  | some value => rfl
  | none =>
      -- A name without a value is not one of the identity either.
      have unknown : name ∉ feature.id.params.keys := fun isKey =>
        OrderedMap.get?_eq_none_iff.1 isValue (valued name isKey)
      rw [OrderedMap.get?_eq_none_iff.2 unknown, Option.or_none]

/-- Setting all parameters of a feature and ordering them gives the feature. -/
theorem orderParams_extend_entries (valued : feature.HasIdParams) :
    orderParams ⟨feature.id, feature.id.params.extend feature.params.entries⟩
      feature.params.keys = feature := by
  have value := get?_extend_entries valued
  have nodup : feature.params.keys.Nodup := feature.params.keysNodup
  apply ProvisionedFeature.ext
  · rfl
  · apply OrderedMap.eq_of_keys
    · rw [keys_orderParams nodup, List.filter_eq_self]
      · intro name isKey
        obtain ⟨given, isGiven⟩ := OrderedMap.mem_keys_iff.1 isKey
        simp [OrderedMap.contains, value, isGiven]
      · intro name isKey
        obtain ⟨given, isGiven⟩ := OrderedMap.mem_keys_iff.1 isKey
        exact OrderedMap.mem_keys_iff.2 ⟨given, (value name).symm.trans isGiven⟩
    · exact fun name => (param?_orderParams _ _ name).trans (value name)

/-- A feature that has the values of its id is built. -/
theorem isBuilt_of_hasIdParams (accepted : feature.id.gav.problem? = none)
    (filled : feature.id.params.isEmpty = false) (valued : feature.HasIdParams) :
    feature.IsBuilt := by
  have started : IsBuilt (ofId feature.id) :=
    .start accepted (ResolvedId.new_eq_ok_iff.2 ⟨filled, rfl⟩)
  have ordered := (started.setAll feature.params.entries).order feature.params.keys
  exact orderParams_extend_entries valued ▸ ordered

/-- A feature could have come from its builder exactly when its identity is accepted and every
parameter of the identity has a value. -/
theorem isBuilt_iff :
    feature.IsBuilt ↔ feature.id.gav.problem? = none ∧ feature.id.params.isEmpty = false ∧
      feature.HasIdParams :=
  ⟨IsBuilt.kept, fun ⟨accepted, filled, valued⟩ => isBuilt_of_hasIdParams accepted filled valued⟩

end ProvisionedFeature

namespace ProvisionedConfig

/-- No two features are the same. -/
def FeaturesDistinct (features : List ProvisionedFeature) : Prop :=
  features.Pairwise fun first second => first.id.same second.id = false

variable {config : ProvisionedConfig}

/-- A feature is accepted when no feature before it has its id. -/
theorem featureProblem?_eq_none_iff {id : ConfigId} {earlier : List ProvisionedFeature}
    {feature : ProvisionedFeature} :
    featureProblem? id earlier feature = none ↔
      ∀ known ∈ earlier, known.id.same feature.id = false := by
  simp [featureProblem?]

/-- A config is accepted when no two of its features are the same. -/
theorem build_eq_ok_iff {declaration : Declaration} :
    build declaration = .ok config ↔ FeaturesDistinct declaration.features ∧
      ⟨declaration.id, firstValues declaration.properties, declaration.features⟩ = config := by
  have judged : Checks.first (featureProblem? declaration.id) declaration.features = none ↔
      FeaturesDistinct declaration.features := by
    apply Checks.first_eq_none_iff_pairwise
    exact fun _ _ => featureProblem?_eq_none_iff
  unfold build
  rw [← judged]
  split
  · next found => simp [found]
  · next accepted => simp [accepted]

/-- The properties of a config are the first values of themselves. -/
theorem firstValues_entries (properties : OrderedMap String String) :
    firstValues properties.entries = properties := by
  rw [firstValues, OrderedMap.foldl_insertNew_of_new (by exact properties.keysNodup)]
  exact OrderedMap.ofList_entries properties

/-- A config is declared with features that have been built, and it is accepted. -/
def IsBuilt (config : ProvisionedConfig) : Prop :=
  ∃ declaration, build declaration = .ok config ∧ ∀ feature ∈ declaration.features, feature.IsBuilt

/-- A config is built when its features are, and their ids differ. -/
theorem isBuilt_iff :
    config.IsBuilt ↔ FeaturesDistinct config.features ∧ ∀ feature ∈ config.features,
      feature.IsBuilt := by
  constructor
  · rintro ⟨declaration, isConfig, built⟩
    obtain ⟨distinct, rfl⟩ := build_eq_ok_iff.1 isConfig
    exact ⟨distinct, built⟩
  · rintro ⟨distinct, built⟩
    refine ⟨⟨config.id, config.properties.entries, config.features⟩, ?_, built⟩
    rw [build_eq_ok_iff, firstValues_entries]
    exact ⟨distinct, rfl⟩

end ProvisionedConfig

/-- A feature-pack is provisioned under an accepted coordinate with packages that were picked one
after the other. -/
def ProvisionedPack.IsBuilt (pack : ProvisionedPack) : Prop :=
  pack.gav.problem? = none ∧ ∃ names, pack.packages = .ofList names

/-- A feature-pack is built when its coordinates are accepted. -/
theorem ProvisionedPack.isBuilt_iff {pack : ProvisionedPack} :
    pack.IsBuilt ↔ pack.gav.problem? = none :=
  and_iff_left ⟨pack.packages.elements, (OrderedSet.ofList_elements pack.packages).symm⟩

namespace ProvisionedState

variable {state : ProvisionedState} {packs : List ProvisionedPack}
  {configs : List ProvisionedConfig}

/-- A feature-pack is accepted when no one before it has its coordinates. -/
theorem packProblem?_eq_none_iff {earlier : List ProvisionedPack} {pack : ProvisionedPack} :
    packProblem? earlier pack = none ↔ ∀ known ∈ earlier, known.gav ≠ pack.gav := by
  simp [packProblem?]

/-- A config is accepted when no config before it has its id, unless it is anonymous. -/
theorem configProblem?_eq_none_iff {earlier : List ProvisionedConfig} {config : ProvisionedConfig} :
    configProblem? earlier config = none ↔
      ∀ known ∈ earlier, known.id = config.id → known.id = .anonymous := by
  rw [configProblem?, ite_eq_right_iff]
  simp only [Bool.and_eq_true, Bool.not_eq_true', List.any_eq_true, beq_iff_eq, reduceCtorEq,
    imp_false, not_and, not_exists]
  constructor
  · intro free known isBefore same
    by_contra named
    refine free ?_ known isBefore same
    rw [Bool.eq_false_iff, Ne, ConfigId.isAnonymous_iff, ← same]
    exact named
  · intro free named known isBefore same
    rw [← same, ConfigId.isAnonymous_iff.2 (free known isBefore same)] at named
    cases named

/-- A state is accepted when no feature-pack and no config that has an identity comes twice. -/
theorem build_eq_ok_iff :
    build packs configs = .ok state ↔ (packs.map ProvisionedPack.gav).Nodup ∧
      ConfigAssembly.Distinct (configs.map ProvisionedConfig.id) ∧ ⟨packs, configs⟩ = state := by
  have packsJudged : Checks.first packProblem? packs = none ↔
      (packs.map ProvisionedPack.gav).Nodup := by
    rw [List.Nodup, List.pairwise_map]
    apply Checks.first_eq_none_iff_pairwise
    exact fun _ _ => packProblem?_eq_none_iff
  have configsJudged : Checks.first configProblem? configs = none ↔
      ConfigAssembly.Distinct (configs.map ProvisionedConfig.id) := by
    rw [ConfigAssembly.Distinct, List.pairwise_map]
    apply Checks.first_eq_none_iff_pairwise
    exact fun _ _ => configProblem?_eq_none_iff
  unfold build
  rw [← packsJudged, ← configsJudged, ← and_assoc, ← Option.or_eq_none_iff]
  split
  · next found => simp [found]
  · next accepted => simp [accepted]

/-- A state is made of feature-packs and configs that have been built, and it is accepted. -/
structure IsBuilt (state : ProvisionedState) : Prop where
  packs : ∀ pack ∈ state.packs, pack.IsBuilt
  configs : ∀ config ∈ state.configs, config.IsBuilt
  accepted : build state.packs state.configs = .ok state

/-- The coordinates of the feature-packs and of the features are accepted. -/
structure GavsAccepted (state : ProvisionedState) : Prop where
  packs : ∀ pack ∈ state.packs, pack.gav.problem? = none
  features : ∀ config ∈ state.configs, ∀ feature ∈ config.features,
    feature.id.gav.problem? = none

/-- Nothing that has an identity comes twice, and every feature has an identity. -/
structure IsDistinct (state : ProvisionedState) : Prop where
  packs : (state.packs.map ProvisionedPack.gav).Nodup
  configs : ConfigAssembly.Distinct (state.configs.map ProvisionedConfig.id)
  features : ∀ config ∈ state.configs, ProvisionedConfig.FeaturesDistinct config.features
  idsFilled : ∀ config ∈ state.configs, ∀ feature ∈ config.features,
    feature.id.params.isEmpty = false

/-- Every feature has the parameters of its identity. -/
def HasIdParams (state : ProvisionedState) : Prop :=
  ∀ config ∈ state.configs, ∀ feature ∈ config.features, feature.HasIdParams

/-- A state could have come from the builders exactly when its coordinates are accepted, nothing in
it comes twice and each feature has the parameters of its identity. -/
theorem isBuilt_iff :
    state.IsBuilt ↔ state.GavsAccepted ∧ state.IsDistinct ∧ state.HasIdParams := by
  constructor
  · rintro ⟨packs, configs, accepted⟩
    obtain ⟨packsDistinct, configsDistinct, _⟩ := build_eq_ok_iff.1 accepted
    have parts := fun config listed => ProvisionedConfig.isBuilt_iff.1 (configs config listed)
    have features := fun config listed feature within =>
      ProvisionedFeature.isBuilt_iff.1 ((parts config listed).2 feature within)
    refine ⟨⟨fun pack listed => ProvisionedPack.isBuilt_iff.1 (packs pack listed),
      fun config listed feature within => (features config listed feature within).1⟩,
      ⟨packsDistinct, configsDistinct, fun config listed => (parts config listed).1,
        fun config listed feature within => (features config listed feature within).2.1⟩,
      fun config listed feature within => (features config listed feature within).2.2⟩
  · rintro ⟨gavs, distinct, valued⟩
    refine ⟨fun pack listed => ProvisionedPack.isBuilt_iff.2 (gavs.packs pack listed), ?_,
      build_eq_ok_iff.2 ⟨distinct.packs, distinct.configs, rfl⟩⟩
    intro config listed
    refine ProvisionedConfig.isBuilt_iff.2 ⟨distinct.features config listed, ?_⟩
    intro feature within
    exact ProvisionedFeature.isBuilt_iff.2 ⟨gavs.features config listed feature within,
      distinct.idsFilled config listed feature within, valued config listed feature within⟩

end ProvisionedState

end Provisioning
