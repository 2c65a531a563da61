/-
This file proves that the assembly of configs loses and duplicates no contribution.
-/

import Mathlib.Data.List.Induction
import Provisioning.Proofs.Positions
import Provisioning.Proofs.Selection.Contributions
import Provisioning.Provision

namespace Provisioning

namespace ConfigAssembly

/-- What is contributed under an id, in the order of the contributions. -/
def contributedUnder (parts : List ConfigPart) (id : ConfigId) : List ConfigPart :=
  parts.filter fun part => part.spec.id == id

/-- An anonymous contribution stands alone. -/
def ownParts (parts : List ConfigPart) (part : ConfigPart) : List ConfigPart :=
  if part.spec.id = .anonymous then [part] else contributedUnder parts part.spec.id

/-- Only an id with a model and a name has defaults. -/
def defaultParts (parts : List ConfigPart) (id : ConfigId) : List ConfigPart :=
  match id.model, id.name with
  | some model, some _ => contributedUnder parts (.modelOnly model)
  | _, _ => []

def firstValue? (parts : List ConfigPart) (property : String) : Option String :=
  parts.findSome? fun part => part.spec.properties.get? property

/-- A contribution starts an assembly unless one before it has its id. -/
def Starts (earlier : List ConfigPart) (part : ConfigPart) : Prop :=
  part.spec.id = .anonymous ∨ ∀ other ∈ earlier, other.spec.id ≠ part.spec.id

instance (earlier : List ConfigPart) (part : ConfigPart) : Decidable (Starts earlier part) :=
  inferInstanceAs (Decidable (_ ∨ _))

/-- A model-only config gives way to a named config of its model. -/
def GivesWay (parts : List ConfigPart) (id : ConfigId) : Prop :=
  id.isModelOnly = true ∧
    ∃ other ∈ parts, other.spec.id.model = id.model ∧ other.spec.id.name.isSome = true

instance (parts : List ConfigPart) (id : ConfigId) : Decidable (GivesWay parts id) :=
  inferInstanceAs (Decidable (_ ∧ _))

/-- An assembly has the contributions with its id after those to the defaults of its model. -/
structure AssemblyOf (parts : List ConfigPart) (part : ConfigPart) (assembly : ConfigAssembly) :
    Prop where
  hasId : assembly.id = part.spec.id
  hasParts : assembly.parts = defaultParts parts part.spec.id ++ ownParts parts part
  /-- Its own contributions set a property before the defaults do. -/
  hasProperties : ∀ property, assembly.properties.get? property =
    (firstValue? (ownParts parts part) property).or
      (firstValue? (defaultParts parts part.spec.id) property)

/-- What the contributions with the id of a part put together. -/
def gather (parts : List ConfigPart) (part : ConfigPart) : ConfigAssembly where
  id := part.spec.id
  properties := (ownParts parts part).foldl
    (fun properties own => addProperties properties own.spec.properties.entries) .empty
  parts := ownParts parts part

@[simp] theorem gather_id (parts : List ConfigPart) (part : ConfigPart) :
    (gather parts part).id = part.spec.id := rfl

/-- The contributions that start assemblies. -/
def starters (parts : List ConfigPart) : List ConfigPart :=
  (parts.zipIdx.filter fun place => decide (Starts (parts.take place.2) place.1)).map Prod.fst

/-- Only anonymous ids come more than once. -/
def Distinct (ids : List ConfigId) : Prop :=
  ids.Pairwise fun first second => first = second → first = .anonymous

variable {parts : List ConfigPart} {part first : ConfigPart} {assemblies : List ConfigAssembly}

/-- One more contribution starts an assembly unless its id is taken. -/
theorem starters_snoc (parts : List ConfigPart) (part : ConfigPart) :
    starters (parts ++ [part]) = starters parts ++ if Starts parts part then [part] else [] := by
  have earlier : ∀ place ∈ parts.zipIdx,
      decide (Starts ((parts ++ [part]).take place.2) place.1) =
        decide (Starts (parts.take place.2) place.1) := by
    intro place isPlace
    obtain ⟨inside, _⟩ := List.getElem?_eq_some_iff.1 (List.mk_mem_zipIdx_iff_getElem?.1 isPlace)
    rw [List.take_append_of_le_length (Nat.le_of_lt inside)]
  rw [starters, List.zipIdx_append, List.filter_append, List.filter_congr earlier, List.map_append,
    starters]
  congr 1
  by_cases isStart : Starts parts part <;> simp [isStart]

/-- The starters are the contributions whose id is new where they stand. -/
theorem mem_starters_iff : part ∈ starters parts ↔
    ∃ position, parts[position]? = some part ∧ Starts (parts.take position) part := by
  simp only [starters, List.mem_map, List.mem_filter, decide_eq_true_eq, Prod.exists,
    List.mk_mem_zipIdx_iff_getElem?, exists_and_right, exists_eq_right]

theorem mem_of_mem_starters (isStarter : part ∈ starters parts) : part ∈ parts := by
  obtain ⟨_, isPart, _⟩ := mem_starters_iff.1 isStarter
  exact List.mem_of_getElem? isPart

/-- The first contribution under an id starts its assembly. -/
theorem exists_starter (isPart : part ∈ parts) :
    ∃ first ∈ starters parts, first.spec.id = part.spec.id := by
  have isFound : (parts.find? fun other => other.spec.id == part.spec.id).isSome = true :=
    List.find?_isSome.2 ⟨part, isPart, beq_self_eq_true part.spec.id⟩
  obtain ⟨first, isFirst⟩ := Option.isSome_iff_exists.1 isFound
  obtain ⟨same, before, after, rfl, others⟩ := List.find?_eq_some_iff_append.1 isFirst
  rw [beq_iff_eq] at same
  refine ⟨first, mem_starters_iff.2 ⟨before.length, by simp, .inr ?_⟩, same⟩
  rw [List.take_left, same]
  exact fun other isBefore => by simpa using others other isBefore

/-- The starters have different ids, unless they are anonymous. -/
theorem distinct_starters (parts : List ConfigPart) :
    Distinct ((starters parts).map fun part => part.spec.id) := by
  rw [Distinct, List.pairwise_map]
  induction parts using List.reverseRecOn with
  | nil => exact .nil
  | append_singleton parts last inductionHypothesis =>
      rw [starters_snoc]
      split
      · next isStart =>
        refine List.pairwise_append.2 ⟨inductionHypothesis, List.pairwise_singleton _ _, ?_⟩
        intro first isStarter other isLast same
        rw [List.mem_singleton.1 isLast] at same
        rcases isStart with isAnonymous | isNew
        · exact same.trans isAnonymous
        · exact absurd same (isNew first (mem_of_mem_starters isStarter))
      · rwa [List.append_nil]

/-- One more contribution comes last under its id. -/
theorem contributedUnder_snoc (parts : List ConfigPart) (part : ConfigPart) (id : ConfigId) :
    contributedUnder (parts ++ [part]) id =
      contributedUnder parts id ++ if part.spec.id = id then [part] else [] := by
  rw [contributedUnder, List.filter_append, contributedUnder]
  congr 1
  by_cases same : part.spec.id = id <;> simp [same]

/-- A contribution changes no assembly but the one with its id. -/
theorem gather_snoc_of_ne (apart : first.spec.id = .anonymous ∨ first.spec.id ≠ part.spec.id) :
    gather (parts ++ [part]) first = gather parts first := by
  have sameParts : ownParts (parts ++ [part]) first = ownParts parts first := by
    rw [ownParts, ownParts]
    split
    · rfl
    · next named =>
      rw [contributedUnder_snoc, if_neg (apart.resolve_left named).symm, List.append_nil]
  rw [gather, gather, sameParts]

/-- One more contribution is added to the assembly of its id. -/
theorem gather_snoc_of_eq (named : part.spec.id ≠ .anonymous)
    (same : first.spec.id = part.spec.id) :
    gather (parts ++ [part]) first = (gather parts first).addPart part := by
  have oneMore : ownParts (parts ++ [part]) first = ownParts parts first ++ [part] := by
    rw [ownParts, ownParts, same, if_neg named, if_neg named, contributedUnder_snoc, if_pos rfl]
  rw [gather, gather, addPart, oneMore, List.foldl_append]
  rfl

theorem contributedUnder_eq_nil_iff {id : ConfigId} :
    contributedUnder parts id = [] ↔ ∀ part ∈ parts, part.spec.id ≠ id := by
  simp [contributedUnder]

/-- A contribution that starts an assembly is alone in it at first. -/
theorem gather_snoc_of_starts (isStart : Starts parts part) :
    gather (parts ++ [part]) part = ofPart part := by
  have alone : ownParts (parts ++ [part]) part = [part] := by
    rw [ownParts]
    split
    · rfl
    · next named =>
      have noEarlier := contributedUnder_eq_nil_iff.2 (isStart.resolve_left named)
      rw [contributedUnder_snoc, noEarlier, if_pos rfl, List.nil_append]
  rw [gather, alone]
  rfl

/-- A contribution that starts an assembly goes last. -/
theorem collect_of_starts
    (isStart : part.spec.id = .anonymous ∨ ∀ assembly ∈ assemblies, assembly.id ≠ part.spec.id) :
    collect part assemblies = assemblies ++ [ofPart part] := by
  induction assemblies with
  | nil => rfl
  | cons assembly rest inductionHypothesis =>
      rw [List.forall_mem_cons] at isStart
      have passes : ¬(!part.spec.id.isAnonymous && assembly.id == part.spec.id) = true := by
        rw [Bool.and_eq_true, Bool.not_eq_true', beq_iff_eq]
        rintro ⟨named, same⟩
        rcases isStart with isAnonymous | ⟨other, _⟩
        · rw [ConfigId.isAnonymous_iff.2 isAnonymous] at named
          cases named
        · exact other same
      rw [collect, if_neg passes, inductionHypothesis (isStart.imp_right And.right)]
      rfl

/-- Any other contribution joins the assembly with its id. -/
theorem collect_map_gather {starting : List ConfigPart} (named : part.spec.id ≠ .anonymous)
    (distinct : Distinct (starting.map fun first => first.spec.id))
    (isStarted : ∃ first ∈ starting, first.spec.id = part.spec.id) :
    collect part (starting.map (gather parts)) = starting.map (gather (parts ++ [part])) := by
  induction starting with
  | nil => simp at isStarted
  | cons first rest inductionHypothesis =>
      rw [Distinct, List.map_cons, List.pairwise_cons] at distinct
      have isNamed : (!part.spec.id.isAnonymous) = true := by
        simpa [← ConfigId.isAnonymous_iff] using named
      rw [List.map_cons, List.map_cons, collect, isNamed, Bool.true_and]
      split
      · next joins =>
        have same : first.spec.id = part.spec.id := by simpa using joins
        rw [gather_snoc_of_eq named same]
        congr 1
        refine List.map_congr_left fun other isOther => (gather_snoc_of_ne ?_).symm
        refine .inr fun alsoSame => named ?_
        rw [← same]
        exact distinct.1 _ (List.mem_map_of_mem isOther) (same.trans alsoSame.symm)
      · next passes =>
        have apart : first.spec.id ≠ part.spec.id := by simpa using passes
        obtain ⟨other, isOther, same⟩ := isStarted
        have inRest := (List.mem_cons.1 isOther).resolve_left fun isFirst =>
          apart (isFirst ▸ same)
        rw [gather_snoc_of_ne (.inr apart), inductionHypothesis distinct.2 ⟨other, inRest, same⟩]

/-- The collector has one assembly for each starting contribution. -/
theorem collectAll_eq (parts : List ConfigPart) :
    collectAll parts = (starters parts).map (gather parts) := by
  -- The collector takes the last contribution after all others, so it is split off at the end.
  induction parts using List.reverseRecOn with
  | nil => rfl
  | append_singleton parts part inductionHypothesis =>
      rw [collectAll, List.foldl_append, List.foldl_cons, List.foldl_nil, ← collectAll,
        inductionHypothesis, starters_snoc]
      by_cases isStart : Starts parts part
      · -- The assemblies that are there stay as they are.
        have others : (starters parts).map (gather (parts ++ [part])) =
            (starters parts).map (gather parts) := by
          refine List.map_congr_left fun first isStarter => gather_snoc_of_ne ?_
          rcases isStart with isAnonymous | isNew
          · by_cases same : first.spec.id = part.spec.id
            · exact .inl (same.trans isAnonymous)
            · exact .inr same
          · exact .inr (isNew first (mem_of_mem_starters isStarter))
        have starting : part.spec.id = .anonymous ∨
            ∀ assembly ∈ (starters parts).map (gather parts), assembly.id ≠ part.spec.id :=
          isStart.imp_right fun isNew => List.forall_mem_map.2 fun first isStarter =>
            isNew first (mem_of_mem_starters isStarter)
        rw [collect_of_starts starting, if_pos isStart, List.map_append, others, List.map_singleton,
          gather_snoc_of_starts isStart]
      · rw [if_neg isStart, List.append_nil]
        simp only [Starts, not_or, not_forall, not_not] at isStart
        obtain ⟨named, other, isOther, same⟩ := isStart
        obtain ⟨first, isStarter, alsoSame⟩ := exists_starter isOther
        exact collect_map_gather named (distinct_starters parts)
          ⟨first, isStarter, alsoSame.trans same⟩

/-- Properties that are there prevail over those that are added. -/
theorem addProperties_eq {properties : OrderedMap String String}
    {more : OrderedMap String String} (property : String) :
    (addProperties properties more.entries).get? property =
      (properties.get? property).or (more.get? property) :=
  OrderedMap.get?_foldl_insertNew _ _ _

/-- The first contribution that sets a property prevails. -/
theorem get?_foldl_addProperties (properties : OrderedMap String String) (parts : List ConfigPart)
    (property : String) :
    (parts.foldl (fun properties own => addProperties properties own.spec.properties.entries)
      properties).get? property = (properties.get? property).or (firstValue? parts property) := by
  induction parts generalizing properties with
  | nil => simp [firstValue?]
  | cons part rest inductionHypothesis =>
      rw [List.foldl_cons, inductionHypothesis, addProperties_eq, firstValue?, firstValue?,
        List.findSome?_cons, Option.or_assoc]
      cases part.spec.properties.get? property <;> rfl

/-- A property of an assembly is the one that its first contribution sets. -/
theorem get?_gather (parts : List ConfigPart) (part : ConfigPart) (property : String) :
    (gather parts part).properties.get? property =
      firstValue? (ownParts parts part) property := by
  rw [gather, get?_foldl_addProperties, OrderedMap.get?_empty, Option.none_or]

/-- A model has a named config when one was contributed. -/
theorem hasNamed_collectAll_iff {model : String} :
    hasNamed (collectAll parts) model = true ↔
      ∃ part ∈ parts, part.spec.id.model = some model ∧ part.spec.id.name.isSome = true := by
  simp only [hasNamed, collectAll_eq, List.any_map, List.any_eq_true, Function.comp_apply,
    Bool.and_eq_true, beq_iff_eq]
  constructor
  · rintro ⟨first, isStarter, isNamed⟩
    exact ⟨first, mem_of_mem_starters isStarter, isNamed⟩
  · rintro ⟨part, isPart, isNamed⟩
    obtain ⟨first, isStarter, same⟩ := exists_starter isPart
    exact ⟨first, isStarter, by rwa [gather_id, same]⟩

/-- The defaults of a model are the contributions that give way. -/
theorem isDefaults_collectAll_iff :
    isDefaults (collectAll parts) (gather parts part) = true ↔ GivesWay parts part.spec.id := by
  rw [isDefaults, GivesWay, ConfigId.isModelOnly, gather_id]
  cases part.spec.id.model with
  | none => simp
  | some model =>
      simp only [Bool.and_eq_true, hasNamed_collectAll_iff, Option.isSome_some, true_and]

/-- Without defaults, an assembly is what was contributed under its id. -/
theorem assemblyOf_gather (noDefaults : defaultParts parts part.spec.id = []) :
    AssemblyOf parts part (gather parts part) := by
  refine ⟨rfl, ?_, fun property => ?_⟩
  · rw [noDefaults, List.nil_append]
    rfl
  · rw [get?_gather, noDefaults]
    simp [firstValue?]

/-- What the collector finds under an id is all that was contributed under it. -/
theorem find?_collectAll {id : ConfigId} (named : id ≠ .anonymous) :
    match (collectAll parts).find? fun assembly => assembly.id == id with
    | some found => ∃ first, found = gather parts first ∧
        ownParts parts first = contributedUnder parts id
    | none => contributedUnder parts id = [] := by
  split
  · next found isFound =>
    have sameId := List.find?_some isFound
    obtain ⟨first, _, rfl⟩ :=
      List.mem_map.1 (collectAll_eq parts ▸ List.mem_of_find?_eq_some isFound)
    rw [beq_iff_eq, gather_id] at sameId
    exact ⟨first, rfl, by rw [ownParts, sameId, if_neg named]⟩
  · next notFound =>
    rw [contributedUnder_eq_nil_iff]
    intro other isPart same
    obtain ⟨first, isStarter, alsoSame⟩ := exists_starter isPart
    rw [collectAll_eq, List.find?_eq_none] at notFound
    exact notFound _ (List.mem_map_of_mem isStarter) (by simp [alsoSame, same])

/-- A named config takes in all that is contributed to the defaults of its model. -/
theorem assemblyOf_withDefaults (parts : List ConfigPart) (part : ConfigPart) :
    AssemblyOf parts part (withDefaults (collectAll parts) (gather parts part)) := by
  unfold withDefaults
  split
  · next model name isModel isName =>
    have areDefaults :
        defaultParts parts part.spec.id = contributedUnder parts (.modelOnly model) := by
      rw [gather_id] at isModel isName
      rw [defaultParts, isModel, isName]
    have inCollector := @find?_collectAll parts (.modelOnly model) nofun
    split
    · next defaults isFound =>
      rw [isFound] at inCollector
      obtain ⟨first, rfl, own⟩ := inCollector
      refine ⟨rfl, ?_, fun property => ?_⟩
      · rw [areDefaults, ← own]
        rfl
      · rw [addProperties_eq, get?_gather, get?_gather, areDefaults, own]
    · next notFound =>
      rw [notFound] at inCollector
      exact assemblyOf_gather (areDefaults.trans inCollector)
  · next noDefaults =>
    apply assemblyOf_gather
    rw [defaultParts]
    split
    · next model name isModel isName => exact absurd isName (noDefaults model name isModel)
    · rfl

/-- The assemblies that stay are those of the ids that do not give way. -/
theorem finish_collectAll (parts : List ConfigPart) :
    finish (collectAll parts) =
      ((starters parts).filter fun part => !decide (GivesWay parts part.spec.id)).map
        fun part => withDefaults (collectAll parts) (gather parts part) := by
  have kept : ∀ part, (!isDefaults (collectAll parts) (gather parts part)) =
      !decide (GivesWay parts part.spec.id) := by
    intro part
    rw [Bool.not_inj_iff, Bool.eq_iff_iff, isDefaults_collectAll_iff, decide_eq_true_iff]
  have remaining : (collectAll parts).filter (fun assembly =>
        !isDefaults (collectAll parts) assembly) =
      ((starters parts).filter fun part => !decide (GivesWay parts part.spec.id)).map
        (gather parts) := by
    conv_lhs =>
      arg 2
      rw [collectAll_eq]
    simp only [List.filter_map, Function.comp_def, kept]
  rw [finish, remaining, List.map_map]
  rfl

/-- A position where an assembly starts that stays. -/
def StartsAssembly (parts : List ConfigPart) (position : Nat) : Prop :=
  ∃ part, parts[position]? = some part ∧ Starts (parts.take position) part ∧
    ¬GivesWay parts part.spec.id

/-- There is one assembly for each anonymous contribution and for each other id. -/
structure AssembledFrom (parts : List ConfigPart) (assemblies : List ConfigAssembly) : Prop where
  /-- The assemblies are in the order of their first contributions. -/
  inOrder : ∃ positions : List Nat, positions.Pairwise (· < ·) ∧
    (∀ position, position ∈ positions ↔ StartsAssembly parts position) ∧
    List.Forall₂ (fun position assembly => ∃ part, parts[position]? = some part ∧
      AssemblyOf parts part assembly) positions assemblies
  distinct : Distinct (assemblies.map ConfigAssembly.id)

/-- The finished assemblies are those of the starters that do not give way. -/
theorem assembledFrom_finish (parts : List ConfigPart) :
    AssembledFrom parts (finish (collectAll parts)) where
  inOrder := by
    obtain ⟨positions, ascending, mem_iff, listed⟩ := exists_positions
      (fun place => !decide (GivesWay parts place.1.spec.id) &&
        decide (Starts (parts.take place.2) place.1))
      (fun part => withDefaults (collectAll parts) (gather parts part)) parts
    refine ⟨positions, ascending, fun position => ?_, ?_⟩
    · rw [mem_iff]
      simp only [Bool.and_eq_true, Bool.not_eq_true', decide_eq_false_iff_not, decide_eq_true_eq,
        StartsAssembly]
      exact exists_congr fun part => and_congr_right fun _ => and_comm
    · rw [finish_collectAll, starters, List.filter_map, List.filter_filter, List.map_map]
      refine listed.imp ?_
      rintro position _ ⟨part, isPart, rfl⟩
      exact ⟨part, isPart, assemblyOf_withDefaults parts part⟩
  distinct := by
    have sameIds : (finish (collectAll parts)).map ConfigAssembly.id =
        ((starters parts).filter fun part => !decide (GivesWay parts part.spec.id)).map
          fun part => part.spec.id := by
      rw [finish_collectAll, List.map_map]
      exact List.map_congr_left fun part _ => (assemblyOf_withDefaults parts part).hasId
    rw [sameIds]
    exact (distinct_starters parts).sublist (List.filter_sublist.map _)

end ConfigAssembly

/-- A provisioned config has the id and the properties of its assembly. -/
structure Realizes (assembly : ConfigAssembly) (config : ProvisionedConfig) : Prop where
  sameId : config.id = assembly.id
  sameProperties : ∀ property,
    config.properties.get? property = assembly.properties.get? property

/-- A config that is built realizes its assembly. -/
theorem realizes_of_buildConfig {layout : Layout} {assembly : ConfigAssembly}
    {config : ProvisionedConfig} (built : buildConfig layout assembly = .ok config) :
    Realizes assembly config := by
  simp only [buildConfig, bind_eq_ok_iff, ofDescription_eq_ok_iff] at built
  obtain ⟨_, _, _, _, built⟩ := built
  rw [ProvisionedConfig.build] at built
  split at built
  · cases built
  cases built
  exact ⟨rfl, fun property => by
    rw [ProvisionedConfig.firstValues, OrderedMap.get?_foldl_insertNew, OrderedMap.get?_empty,
      Option.none_or, OrderedMap.get?]⟩

/-- The configs that are built realize their assemblies, in their order. -/
theorem realizes_of_buildConfigs {layout : Layout} {assemblies : List ConfigAssembly}
    {configs : List ProvisionedConfig} (built : buildConfigs layout assemblies = .ok configs) :
    List.Forall₂ Realizes assemblies configs := by
  induction assemblies generalizing configs with
  | nil =>
      cases built
      exact .nil
  | cons assembly rest inductionHypothesis =>
      simp only [buildConfigs, bind_eq_ok_iff, pure_eq_ok_iff, wrapWith_eq_ok_iff] at built
      obtain ⟨config, isConfig, others, isRest, rfl⟩ := built
      exact .cons (realizes_of_buildConfig isConfig) (inductionHypothesis isRest)

open ConfigAssembly

/-- No contribution is lost or duplicated. A provisioned state has the configs that are assembled from
what its layout contributes, in the order in which the layout contributes it. -/
theorem assembly_keeps_contributions :
    (∀ parts, AssembledFrom parts (finish (collectAll parts))) ∧
    ∀ repository request state, provision repository request = .ok state →
      ∃ layout, Layout.build repository request = .ok layout ∧
        layout.ContributesInOrder ∧
        AssembledFrom layout.contributions layout.assembleConfigs ∧
        List.Forall₂ Realizes layout.assembleConfigs state.configs ∧
        Distinct (state.configs.map ProvisionedConfig.id) := by
  refine ⟨assembledFrom_finish, ?_⟩
  intro repository request state provisioned
  simp only [provision, bind_eq_ok_iff, ofDescription_eq_ok_iff] at provisioned
  obtain ⟨layout, isLayout, packages, _, configs, built, provisioned⟩ := provisioned
  rw [ProvisionedState.build] at provisioned
  split at provisioned
  · cases provisioned
  cases provisioned
  have realized := realizes_of_buildConfigs built
  have sameIds : configs.map ProvisionedConfig.id =
      layout.assembleConfigs.map ConfigAssembly.id := by
    rw [← List.forall₂_eq_eq_eq, List.forall₂_map_left_iff, List.forall₂_map_right_iff]
    exact realized.flip.imp fun _ _ realizes => realizes.sameId
  have assembled := assembledFrom_finish layout.contributions
  exact ⟨layout, isLayout, Layout.contributesInOrder_of_build isLayout, assembled, realized,
    sameIds ▸ assembled.distinct⟩

end Provisioning
