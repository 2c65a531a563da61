/-
This file says which feature specs and references are accepted, and what an accepted spec knows of its
parameters.
-/

import Mathlib.Data.List.Nodup
import Provisioning.Feature.Spec
import Provisioning.Proofs.Success

namespace Provisioning

namespace FeatureReference

namespace Declaration

/-- Every name is filled, and neither a local nor a target parameter is mapped twice. -/
structure WellFormed (declaration : Declaration) : Prop where
  targetNamed : Text.blank declaration.target = false
  named : Text.blank declaration.givenName = false
  mappedNamed : ∀ pair ∈ declaration.mapping,
    Text.blank pair.1 = false ∧ Text.blank pair.2 = false
  localsDistinct : (declaration.mapping.map Prod.fst).Nodup
  targetsDistinct : (declaration.mapping.map Prod.snd).Nodup

/-- A pair is accepted when neither side is blank or taken by a pair before it. -/
theorem mappingProblem?_eq_none_iff {name : String} {earlier : List (String × String)}
    {pair : String × String} :
    mappingProblem? name earlier pair = none ↔
      (Text.blank pair.1 = false ∧ Text.blank pair.2 = false) ∧
        ∀ known ∈ earlier, known.1 ≠ pair.1 ∧ known.2 ≠ pair.2 := by
  simp only [mappingProblem?, Option.or_eq_none_iff, blankProblem?_eq_none_iff,
    Checks.ite_some_eq_none_iff, List.any_eq_true, beq_iff_eq, not_exists, not_and, and_true,
    and_assoc, ne_eq]
  constructor
  · intro free
    obtain ⟨localNamed, targetNamed, targetNew, localNew⟩ := free
    exact ⟨localNamed, targetNamed, fun known isEarlier =>
      ⟨localNew known isEarlier, targetNew known isEarlier⟩⟩
  · intro sound
    obtain ⟨localNamed, targetNamed, isNew⟩ := sound
    exact ⟨localNamed, targetNamed, fun known isEarlier => (isNew known isEarlier).2,
      fun known isEarlier => (isNew known isEarlier).1⟩

/-- No problem is found in a reference exactly when it is well-formed. -/
theorem problem?_eq_none_iff {declaration : Declaration} :
    declaration.problem? = none ↔ declaration.WellFormed := by
  have mappingJudged :
      Checks.first (mappingProblem? declaration.givenName) declaration.mapping = none ↔
        (∀ pair ∈ declaration.mapping, Text.blank pair.1 = false ∧ Text.blank pair.2 = false) ∧
          declaration.mapping.Pairwise fun first second =>
            first.1 ≠ second.1 ∧ first.2 ≠ second.2 := by
    apply Checks.first_eq_none_iff_sound
    exact fun _ _ => mappingProblem?_eq_none_iff
  rw [problem?, Option.or_eq_none_iff, Option.or_eq_none_iff, blankProblem?_eq_none_iff,
    blankProblem?_eq_none_iff, mappingJudged, List.pairwise_and_iff]
  constructor
  · intro free
    obtain ⟨targetNamed, named, mappedNamed, localsDistinct, targetsDistinct⟩ := free
    exact ⟨targetNamed, named, mappedNamed, List.pairwise_map.2 localsDistinct,
      List.pairwise_map.2 targetsDistinct⟩
  · intro wellFormed
    exact ⟨wellFormed.targetNamed, wellFormed.named, wellFormed.mappedNamed,
      List.pairwise_map.1 wellFormed.localsDistinct, List.pairwise_map.1 wellFormed.targetsDistinct⟩

end Declaration

/-- A reference is built exactly when its declaration is well-formed. -/
theorem succeeds_build_iff {declaration : Declaration} :
    Succeeds (build declaration) ↔ declaration.WellFormed := by
  rw [← Declaration.problem?_eq_none_iff]
  unfold build
  split
  · next found => simp [found]
  · next accepted => simp [accepted]

/-- An accepted reference has the declared name and maps what is declared, in that order. -/
theorem entries_of_build {declaration : Declaration} {reference : FeatureReference}
    (built : build declaration = .ok reference) :
    reference.mapping.entries = declaration.mapping := by
  have wellFormed := succeeds_build_iff.1 ⟨reference, built⟩
  rw [build, Declaration.problem?_eq_none_iff.2 wellFormed] at built
  cases built
  exact OrderedMap.entries_extend wellFormed.localsDistinct

end FeatureReference

namespace FeatureSpec

namespace Declaration

/-- Provided patterns are never optional. -/
def patterns (declaration : Declaration) : List (String × Bool) :=
  (declaration.providedPatterns.map fun pattern => (pattern, false)) ++ declaration.requiredPatterns

/-- Every name is filled, parameters and references have names of their own, a parameter identifies the
features, a local parameter that is mapped is declared and mapped once, there is one parent reference
at most, and capabilities can be read and name declared parameters. -/
structure WellFormed (declaration : Declaration) : Prop where
  named : Text.blank declaration.name = false
  paramsNamed : ∀ param ∈ declaration.params, Text.blank param.name = false
  paramsDistinct : (declaration.params.map Parameter.name).Nodup
  identified : ∃ param ∈ declaration.params, param.role = .id
  mappedDeclared : ∀ reference ∈ declaration.references, ∀ name ∈ reference.mapping.keys,
    ∃ param ∈ declaration.params, param.name = name
  mappedOnce : declaration.references.Pairwise fun first second =>
    ∀ name ∈ first.mapping.keys, name ∉ second.mapping.keys
  referencesDistinct : (declaration.references.map FeatureReference.name).Nodup
  oneParent : declaration.references.Pairwise fun first second =>
    ¬(first.parent = true ∧ second.parent = true)
  capabilitiesRead : ∀ pattern ∈ declaration.patterns, ∃ capability,
    Capability.parse pattern.1 pattern.2 = .ok capability ∧
      ∀ name, .param name ∈ capability.segments → ∃ param ∈ declaration.params, param.name = name

variable {declaration : Declaration}

/-- A name is declared when a parameter has it. -/
theorem declares_eq_true_iff {name : String} :
    declaration.declares name = true ↔ ∃ param ∈ declaration.params, param.name = name := by
  simp [declares]

/-- A parameter is accepted when its name is neither blank nor taken before it. -/
theorem paramProblem?_eq_none_iff {spec : String} {earlier : List Parameter} {param : Parameter} :
    paramProblem? spec earlier param = none ↔
      Text.blank param.name = false ∧ ∀ known ∈ earlier, known.name ≠ param.name := by
  simp [paramProblem?, blankProblem?_eq_none_iff]

/-- A parameter is mapped when it is declared and no reference before has mapped it. -/
theorem localProblem?_eq_none_iff {earlier : List FeatureReference} {reference : FeatureReference}
    {name : String} :
    declaration.localProblem? earlier reference name = none ↔
      (∃ param ∈ declaration.params, param.name = name) ∧
        ∀ known ∈ earlier, name ∉ known.mapping.keys := by
  simp only [localProblem?, Checks.ite_some_eq_none_iff, Bool.not_eq_true', Bool.not_eq_false,
    declares_eq_true_iff, List.any_eq_true, not_exists, not_and, and_true]
  refine and_congr_right fun _ => forall_congr' fun known => imp_congr_right fun _ => ?_
  rw [OrderedMap.contains, Bool.not_eq_true, Option.isSome_eq_false_iff, Option.isNone_iff_eq_none,
    OrderedMap.get?_eq_none_iff]

/-- A reference is accepted when it maps declared parameters only and shares neither these nor its
name with a reference before it. -/
theorem referenceProblem?_eq_none_iff {earlier : List FeatureReference}
    {reference : FeatureReference} :
    declaration.referenceProblem? earlier reference = none ↔
      (∀ name ∈ reference.mapping.keys, ∃ param ∈ declaration.params, param.name = name) ∧
        ∀ known ∈ earlier, (∀ name ∈ known.mapping.keys, name ∉ reference.mapping.keys) ∧
          known.name ≠ reference.name := by
  simp only [referenceProblem?, Option.or_eq_none_iff, List.findSome?_eq_none_iff,
    localProblem?_eq_none_iff, Checks.ite_some_eq_none_iff, List.any_eq_true, beq_iff_eq,
    not_exists, not_and, and_true]
  constructor
  · intro free
    obtain ⟨mapped, otherName⟩ := free
    refine ⟨fun name isMapped => (mapped name isMapped).1, fun known isEarlier => ⟨?_, ?_⟩⟩
    · exact fun name isKnown isMapped => (mapped name isMapped).2 known isEarlier isKnown
    · exact otherName known isEarlier
  · intro sound
    obtain ⟨declared, apart⟩ := sound
    refine ⟨fun name isMapped => ⟨declared name isMapped, ?_⟩, ?_⟩
    · exact fun known isEarlier isKnown => (apart known isEarlier).1 name isKnown isMapped
    · exact fun known isEarlier => (apart known isEarlier).2

/-- A capability is accepted when its pattern is and names declared parameters only. -/
theorem succeeds_capability_iff {pattern : String} {optional : Bool} :
    Succeeds (declaration.capability pattern optional) ↔
      ∃ capability, Capability.parse pattern optional = .ok capability ∧
        ∀ name, .param name ∈ capability.segments →
          ∃ param ∈ declaration.params, param.name = name := by
  rw [capability, succeeds_bind_iff]
  refine exists_congr fun capability => and_congr_right fun _ => ?_
  split
  · next name unknown =>
    have undeclared := List.find?_some unknown
    rw [Bool.not_eq_true'] at undeclared
    simp only [not_succeeds_error, false_iff]
    intro declared
    have isNamed := Capability.mem_params_iff.1 (List.mem_of_find?_eq_some unknown)
    have isDeclared := declares_eq_true_iff.2 (declared name isNamed)
    rw [undeclared] at isDeclared
    cases isDeclared
  · next known =>
    simpa [declares_eq_true_iff] using known

/-- At most one element is picked when no two are. -/
theorem length_filter_le_one_iff {Element : Type} {picks : Element → Bool}
    {elements : List Element} :
    (elements.filter picks).length ≤ 1 ↔
      elements.Pairwise fun first second => ¬(picks first = true ∧ picks second = true) := by
  have none_of_two : ∀ picked : List Element,
      picked.length ≤ 1 ↔ picked.Pairwise fun _ _ => False := by
    intro picked
    match picked with
    | [] => simp
    | [element] => simp
    | first :: second :: rest =>
        constructor
        · intro short
          simp at short
        · intro apart
          exact ((List.pairwise_cons.1 apart).1 second List.mem_cons_self).elim
  rw [none_of_two, List.pairwise_filter]
  simp only [imp_false, not_and]

/-- The parameters are accepted when their names are neither blank nor repeated. -/
theorem params_judged :
    Checks.first (paramProblem? declaration.name) declaration.params = none ↔
      (∀ param ∈ declaration.params, Text.blank param.name = false) ∧
        declaration.params.Pairwise fun first second => first.name ≠ second.name := by
  apply Checks.first_eq_none_iff_sound
  exact fun _ _ => paramProblem?_eq_none_iff

/-- References are accepted when they map declared parameters, and no parameter or name twice. -/
theorem references_judged :
    Checks.first declaration.referenceProblem? declaration.references = none ↔
      (∀ reference ∈ declaration.references, ∀ name ∈ reference.mapping.keys,
        ∃ param ∈ declaration.params, param.name = name) ∧
      declaration.references.Pairwise fun first second =>
        (∀ name ∈ first.mapping.keys, name ∉ second.mapping.keys) ∧ first.name ≠ second.name := by
  apply Checks.first_eq_none_iff_sound
  exact fun _ _ => referenceProblem?_eq_none_iff

/-- A spec is accepted when one of its parameters is part of the id. -/
theorem id_judged {problem : DescriptionError} :
    (if declaration.params.any Parameter.isId then none else some problem) = none ↔
      ∃ param ∈ declaration.params, param.role = .id := by
  by_cases identified : declaration.params.any Parameter.isId = true
  · rw [if_pos identified]
    simpa [Parameter.isId] using identified
  · rw [if_neg identified]
    simpa [Parameter.isId] using identified

/-- The capabilities are read when everything before them is accepted and each pattern is. -/
theorem succeeds_capabilities_iff :
    Succeeds declaration.capabilities ↔
      declaration.problem? = none ∧ ∀ pattern ∈ declaration.patterns,
        Succeeds (declaration.capability pattern.1 pattern.2) := by
  rw [capabilities]
  split
  · next found => simp [found]
  · next accepted =>
    simp only [accepted, true_and, succeeds_bind_iff, succeeds_pure, and_true, patterns,
      List.forall_mem_append, List.forall_mem_map]
    rw [exists_and_right]
    rw [← Succeeds, ← Succeeds, succeeds_mapM_iff, succeeds_mapM_iff]

/-- A declaration is taken in exactly when it is well-formed. -/
theorem succeeds_capabilities_iff_wellFormed :
    Succeeds declaration.capabilities ↔ declaration.WellFormed := by
  simp only [succeeds_capabilities_iff, succeeds_capability_iff, problem?, Option.or_eq_none_iff,
    blankProblem?_eq_none_iff, params_judged, id_judged, references_judged,
    Checks.ite_some_eq_none_iff, and_true, Nat.not_lt, gt_iff_lt, length_filter_le_one_iff,
    List.pairwise_and_iff]
  constructor
  · intro free
    obtain ⟨⟨named, ⟨paramsNamed, paramsDistinct⟩, identified,
      ⟨mappedDeclared, mappedOnce, referencesDistinct⟩, oneParent⟩, capabilitiesRead⟩ := free
    exact ⟨named, paramsNamed, List.pairwise_map.2 paramsDistinct, identified, mappedDeclared,
      mappedOnce, List.pairwise_map.2 referencesDistinct, oneParent, capabilitiesRead⟩
  · intro wellFormed
    exact ⟨⟨wellFormed.named,
      ⟨wellFormed.paramsNamed, List.pairwise_map.1 wellFormed.paramsDistinct⟩,
      wellFormed.identified,
      ⟨wellFormed.mappedDeclared, wellFormed.mappedOnce,
        List.pairwise_map.1 wellFormed.referencesDistinct⟩,
      wellFormed.oneParent⟩, wellFormed.capabilitiesRead⟩

end Declaration

variable {declaration : Declaration} {spec : FeatureSpec}

/-- A spec that is built is its declaration, which has been accepted. -/
theorem build_eq_ok_iff : build declaration = .ok spec ↔ spec.toDeclaration = declaration := by
  constructor
  · intro built
    unfold build at built
    split at built
    · cases built
    · cases built
      rfl
  · rintro rfl
    unfold build
    split
    · next problem refused =>
      rw [spec.accepted] at refused
      cases refused
    · next provides requires accepted =>
      have same := spec.accepted.symm.trans accepted
      obtain ⟨declared, provided, required, isAccepted⟩ := spec
      cases same
      rfl

/-- A spec is built exactly when its declaration is well-formed. -/
theorem succeeds_build_iff : Succeeds (build declaration) ↔ declaration.WellFormed := by
  rw [← Declaration.succeeds_capabilities_iff_wellFormed]
  constructor
  · intro succeeds
    obtain ⟨spec, built⟩ := succeeds
    obtain rfl := build_eq_ok_iff.1 built
    exact ⟨_, spec.accepted⟩
  · intro succeeds
    obtain ⟨⟨provides, requires⟩, accepted⟩ := succeeds
    exact ⟨{ declaration with provides, requires, accepted }, build_eq_ok_iff.2 rfl⟩

/-- Every spec is well-formed. -/
theorem wellFormed (spec : FeatureSpec) : spec.toDeclaration.WellFormed :=
  succeeds_build_iff.1 ⟨spec, build_eq_ok_iff.2 rfl⟩

/-- A reference is found under its name only. -/
theorem reference?_eq_some_iff {name : String} {reference : FeatureReference} :
    spec.reference? name = some reference ↔
      reference ∈ spec.references ∧ reference.name = name :=
  Checks.find?_key_eq_some_iff spec.wellFormed.referencesDistinct

theorem keys_mappedEntries (reference : FeatureReference) :
    (Declaration.mappedEntries reference).map Prod.fst = reference.mapping.keys := by
  rw [Declaration.mappedEntries, List.map_map]
  rfl

/-- The entries of a reference are its mapped parameters, each with the name and the target. -/
theorem mem_mappedEntries_iff {reference : FeatureReference} {param name target : String} :
    (param, name, target) ∈ Declaration.mappedEntries reference ↔
      reference.mapping.get? param = some target ∧ reference.name = name := by
  rw [Declaration.mappedEntries, List.mem_map, OrderedMap.get?_eq_some_iff]
  constructor
  · rintro ⟨pair, listed, same⟩
    cases same
    exact ⟨listed, rfl⟩
  · rintro ⟨listed, rfl⟩
    exact ⟨(param, target), listed, rfl⟩

/-- The table of mapped parameters holds what the references map, each parameter once. -/
theorem get?_mappedParams_eq_some_iff {param name target : String} :
    spec.mappedParams.get? param = some (name, target) ↔
      ∃ reference ∈ spec.references,
        reference.mapping.get? param = some target ∧ reference.name = name := by
  have nodup : ((spec.references.flatMap Declaration.mappedEntries).map Prod.fst).Nodup := by
    simp only [List.map_flatMap, keys_mappedEntries, List.nodup_flatMap]
    constructor
    · exact fun reference _ => reference.mapping.keysNodup
    · exact spec.wellFormed.mappedOnce
  have entries : spec.mappedParams.entries =
      spec.references.flatMap Declaration.mappedEntries := OrderedMap.entries_extend nodup
  rw [OrderedMap.get?_eq_some_iff, entries, List.mem_flatMap]
  exact exists_congr fun reference => and_congr_right fun _ => mem_mappedEntries_iff

/-- A local parameter is mapped by the reference whose mapping holds it. -/
theorem mappedBy?_eq_some_iff {param target : String} {reference : FeatureReference} :
    spec.mappedBy? param = some (reference, target) ↔
      reference ∈ spec.references ∧ reference.mapping.get? param = some target := by
  simp only [mappedBy?, Option.bind_eq_some_iff, Option.map_eq_some_iff, Prod.mk.injEq,
    Prod.exists, get?_mappedParams_eq_some_iff]
  constructor
  · rintro ⟨name, _, ⟨other, listed, isMapped, named⟩, found, isFound, rfl, rfl⟩
    -- The table names the reference, and no other one has that name.
    have isOther := reference?_eq_some_iff.2 ⟨listed, named⟩
    obtain rfl := Option.some.inj (isOther.symm.trans isFound)
    exact ⟨listed, isMapped⟩
  · intro isMappedBy
    obtain ⟨listed, isMapped⟩ := isMappedBy
    exact ⟨reference.name, target, ⟨reference, listed, isMapped, rfl⟩, reference,
      reference?_eq_some_iff.2 ⟨listed, rfl⟩, rfl, rfl⟩

end FeatureSpec

open FeatureSpec

/-- A declaration of a reference or of a spec is accepted exactly when it is well-formed. An accepted
spec keeps its parameters in their order, lists those that identify its features, finds parameters and
references by their names, and knows which reference maps a local parameter to what. -/
theorem accepted_iff_wellFormed :
    (∀ declaration : FeatureReference.Declaration,
      Succeeds (FeatureReference.build declaration) ↔ declaration.WellFormed) ∧
    (∀ declaration reference, FeatureReference.build declaration = .ok reference →
      reference.mapping.entries = declaration.mapping) ∧
    (∀ declaration : FeatureSpec.Declaration,
      Succeeds (FeatureSpec.build declaration) ↔ declaration.WellFormed) ∧
    ∀ declaration spec, FeatureSpec.build declaration = .ok spec →
      spec.params = declaration.params ∧
      spec.idParams.Sublist declaration.params ∧
      (∀ param, param ∈ spec.idParams ↔ param ∈ declaration.params ∧ param.role = .id) ∧
      (∀ name param, spec.param? name = some param ↔
        param ∈ declaration.params ∧ param.name = name) ∧
      ∀ name reference target, spec.mappedBy? name = some (reference, target) ↔
        reference ∈ declaration.references ∧ reference.mapping.get? name = some target := by
  refine ⟨fun _ => FeatureReference.succeeds_build_iff,
    fun _ _ => FeatureReference.entries_of_build, fun _ => succeeds_build_iff, ?_⟩
  intro declaration spec built
  obtain rfl := build_eq_ok_iff.1 built
  refine ⟨rfl, List.filter_sublist, ?_, fun _ _ => param?_eq_some_iff,
    fun _ _ _ => mappedBy?_eq_some_iff⟩
  intro param
  simp [idParams, Parameter.isId]

end Provisioning
