/-
This file proves that a run fails only with what is wrong with its inputs.
-/

import Provisioning.Proofs.Expansion.Failures
import Provisioning.Proofs.Related
import Provisioning.Proofs.Resolution.Config
import Provisioning.Proofs.Selection.Assembly
import Provisioning.Proofs.Selection.Failures

namespace Provisioning

open ProvisioningError

namespace Resolution

/-- One of the segments stands for a list parameter of the feature whose value is no list. -/
def MalformedList (feature : CollectedFeature) (segments : List Capability.Segment)
    (error : DescriptionError) : Prop :=
  ∃ name value, Capability.Segment.param name ∈ segments ∧
    (feature.spec.param? name).any Parameter.isList = true ∧
    feature.params.get? name = some value ∧ ListValue.parse value = .error error

/-- The description of a list is malformed, and a capability with the list is provided by one of
the features or required by a feature that cannot do without it. -/
def IsMalformedList (features : Collected) (problem : ProvisioningError) : Prop :=
  ∃ feature ∈ features, ∃ capability ∈ feature.spec.provides ++ strictRequirements feature.spec,
    ∃ error, problem = .description error ∧ MalformedList feature capability.segments error

/-- Whatever is wrong with features, but for the aliases of their references, is found with them or
is a malformed list. -/
def ConcernsFeatures (features : Collected) (problem : ProvisioningError) : Prop :=
  problem.IsBeyondAliases ∨ IsMalformedList features problem

variable {layout : Layout} {features rest : Collected} {feature : CollectedFeature}
  {index : CapabilityIndex Nat}

/-- An expansion fails only over a list parameter whose value is no list. -/
theorem malformedList_of_expandFrom {segments : List Capability.Segment}
    {expanded : List (Option String)} {error : DescriptionError}
    (failed : Capability.expandFrom feature.spec feature.params expanded segments = .error error) :
    MalformedList feature segments error := by
  induction segments generalizing expanded with
  | nil => cases failed
  | cons segment rest inductionHypothesis =>
      rw [Capability.expandFrom] at failed
      cases isValues : Capability.segmentValues feature.spec feature.params segment with
      | error problem =>
          rw [isValues] at failed
          cases failed
          cases segment with
          | literal text => cases isValues
          | param name =>
              rw [Capability.segmentValues] at isValues
              split at isValues
              · cases isValues
              · next value isValue =>
                split at isValues
                · next isList => exact ⟨name, value, List.mem_cons_self, isList, isValue, isValues⟩
                · cases isValues
      | ok values =>
          rw [isValues] at failed
          simp only [bind, Except.bind] at failed
          split at failed
          · cases failed
          · obtain ⟨name, value, listed, isMalformed⟩ := inductionHypothesis failed
            exact ⟨name, value, List.mem_cons_of_mem _ listed, isMalformed⟩

/-- A capability of a listed feature cannot be expanded only if a list in it is malformed. -/
theorem failsWithin_expand (listed : feature ∈ features) {capability : Capability}
    (declared : capability ∈ feature.spec.provides ++ strictRequirements feature.spec) :
    FailsWithin (ConcernsFeatures features)
      (ofDescription (capability.expand feature.spec feature.params)) := by
  cases expands : capability.expand feature.spec feature.params with
  | ok texts => exact .ok _
  | error error =>
      refine .error (.inr ⟨feature, listed, capability, declared, error, rfl, ?_⟩)
      rw [Capability.expand] at expands
      cases isExpanded : Capability.expandFrom feature.spec feature.params [none]
          capability.segments with
      | error problem =>
          rw [isExpanded] at expands
          cases expands
          exact malformedList_of_expandFrom isExpanded
      | ok expanded =>
          rw [isExpanded] at expands
          cases expands

/-- Expanding capabilities fails only over the features of the config. -/
theorem failsWithin_expandAll (listed : feature ∈ features) {capabilities : List Capability}
    (declared : ∀ capability ∈ capabilities,
      capability ∈ feature.spec.provides ++ strictRequirements feature.spec) :
    FailsWithin (ConcernsFeatures features) (expandAll feature capabilities) := by
  induction capabilities with
  | nil => exact .ok _
  | cons capability rest inductionHypothesis =>
      rw [List.forall_mem_cons] at declared
      refine (failsWithin_expand listed declared.1).bind fun concrete _ => ?_
      exact (inductionHypothesis declared.2).bind fun _ _ => .pure _

/-- So does registering what they provide. -/
theorem failsWithin_provideAll (listed : ∀ feature ∈ rest, feature ∈ features) (position : Nat) :
    FailsWithin (ConcernsFeatures features) (provideAll index position rest) := by
  induction rest generalizing index position with
  | nil => exact .ok _
  | cons feature rest inductionHypothesis =>
      rw [List.forall_mem_cons] at listed
      refine (failsWithin_expandAll listed.1 fun capability provided =>
        List.mem_append_left _ provided).bind fun _ _ => ?_
      exact inductionHypothesis listed.2 (position + 1)

/-- So does looking for the providers of concrete capabilities. -/
theorem failsWithin_providersFor (feature : CollectedFeature)
    (concrete : List (Capability × String)) :
    FailsWithin (ConcernsFeatures features) (providersFor index feature concrete) := by
  induction concrete with
  | nil => exact .ok _
  | cons pair rest inductionHypothesis =>
      unfold providersFor
      split
      · exact .error (.inl ⟨trivial, not_false⟩)
      · exact inductionHypothesis.bind fun _ _ => .pure _

/-- So does collecting the providers of one feature. -/
theorem failsWithin_requiredProviders (listed : feature ∈ features)
    {capabilities : List Capability}
    (declared : ∀ capability ∈ capabilities, capability ∈ strictRequirements feature.spec) :
    FailsWithin (ConcernsFeatures features) (requiredProviders index feature capabilities) := by
  induction capabilities with
  | nil => exact .ok _
  | cons capability rest inductionHypothesis =>
      rw [List.forall_mem_cons] at declared
      refine (failsWithin_expand listed (List.mem_append_right _ declared.1)).bind fun _ _ => ?_
      refine (failsWithin_providersFor feature _).bind fun _ _ => ?_
      exact (inductionHypothesis declared.2).bind fun _ _ => .pure _

/-- So does collecting the providers of all features. -/
theorem failsWithin_allRequiredProviders (listed : ∀ feature ∈ rest, feature ∈ features) :
    FailsWithin (ConcernsFeatures features) (allRequiredProviders index rest) := by
  induction rest with
  | nil => exact .ok _
  | cons feature rest inductionHypothesis =>
      rw [List.forall_mem_cons] at listed
      refine (failsWithin_requiredProviders listed.1 fun _ required => required).bind fun _ _ => ?_
      exact (inductionHypothesis listed.2).bind fun _ _ => .pure _

/-- Feeding parameters to a reference fails over no alias. -/
theorem failsWithin_feed (feature : CollectedFeature) (reference : FeatureReference)
    (fed : IdParams) (mapping : List (String × String)) :
    FailsWithin IsBeyondAliases (feed feature reference fed mapping) := by
  fun_induction feed feature reference fed mapping with
  | case1 => exact .ok _
  | case2 => assumption
  | case3 => exact .ok _
  | case4 => exact .error ⟨trivial, not_false⟩

/-- A mapping is never empty, so neither is the id that a reference builds from it. -/
theorem new_of_feed {reference : FeatureReference} {target : Found FeatureSpec} {params : IdParams}
    (isSome : feed feature reference .empty (targetMapping reference target.definition) =
      .ok (some params)) :
    ResolvedId.new ⟨target.gav, target.definition.name⟩ params =
      .ok (builtId feature reference target) := by
  have isFed := isFed_of_feed isSome
  have sameParams := Except.ok.inj ((feed_of_isFed reference isFed _).symm.trans isSome)
  obtain rfl := Option.some.inj sameParams
  exact new_builtId isFed

section

variable {Allowed : ProvisioningError → Prop}

/-- A reference is resolved unless the search for its target fails, or what it leads to does not
occur. -/
theorem failsWithin_resolveReference {reference : FeatureReference}
    (others : ∀ problem, IsBeyondAliases problem → Allowed problem)
    (finds : FailsWithin Allowed
      (layout.findSpec (.pack feature.index) ⟨reference.origin, reference.target⟩))
    (features : Collected) :
    FailsWithin Allowed (resolveReference layout features feature reference) := by
  refine finds.bind fun target _ => ?_
  refine ((failsWithin_feed feature reference _ _).mono others).bind ?_
  rintro (_ | params) isFed
  · exact .pure _
  · dsimp only
    rw [new_of_feed isFed]
    dsimp only [ofDescription]
    refine .bind (.ok _) fun id _ => ?_
    split
    · exact .pure _
    · split
      · exact .pure _
      · exact .error (others _ ⟨trivial, not_false⟩)

/-- The references of a feature fail as one of them does. -/
theorem failsWithin_referenceTargets {references : List FeatureReference}
    (resolves : ∀ reference ∈ references,
      FailsWithin Allowed (resolveReference layout features feature reference)) :
    FailsWithin Allowed (referenceTargets layout features feature references) := by
  induction references with
  | nil => exact .ok _
  | cons reference rest inductionHypothesis =>
      rw [List.forall_mem_cons] at resolves
      exact resolves.1.bind fun _ _ => (inductionHypothesis resolves.2).bind fun _ _ => .pure _

/-- The references of all features fail as one of them does or over an unset value. -/
theorem failsWithin_allReferenceTargets
    (others : ∀ problem, IsBeyondAliases problem → Allowed problem)
    (resolves : ∀ feature ∈ rest, ∀ reference ∈ feature.spec.references,
      FailsWithin Allowed (resolveReference layout features feature reference)) :
    FailsWithin Allowed (allReferenceTargets layout features rest) := by
  induction rest with
  | nil => exact .ok _
  | cons feature rest inductionHypothesis =>
      rw [List.forall_mem_cons] at resolves
      refine (failsWithin_referenceTargets resolves.1).bind fun _ _ => ?_
      split
      · exact .error (others _ ⟨trivial, not_false⟩)
      · exact (inductionHypothesis resolves.2).bind fun _ _ => .pure _

end

/-- Features are resolved unless the search for the target of a reference fails or something else is
wrong with them. -/
theorem failsWithin_resolveFeatures {Allowed : ProvisioningError → Prop} {collected : Collected}
    (others : ∀ problem, ConcernsFeatures (collected.map withDefaults) problem → Allowed problem)
    (finds : ∀ feature ∈ collected, ∀ reference ∈ feature.spec.references, FailsWithin Allowed
      (layout.findSpec (.pack feature.index) ⟨reference.origin, reference.target⟩)) :
    FailsWithin Allowed (resolveFeatures layout collected) := by
  have beyond (problem : ProvisioningError) (isBeyond : IsBeyondAliases problem) :
      Allowed problem := others problem (.inl isBeyond)
  have targets : FailsWithin Allowed
      (allReferenceTargets layout (collected.map withDefaults) (collected.map withDefaults)) := by
    refine failsWithin_allReferenceTargets beyond (List.forall_mem_map.2 ?_)
    intro feature isFeature reference listed
    have searches : FailsWithin Allowed (layout.findSpec (.pack (withDefaults feature).index)
        ⟨reference.origin, reference.target⟩) := finds feature isFeature reference listed
    exact failsWithin_resolveReference beyond searches _
  refine targets.bind fun _ _ => ?_
  refine ((failsWithin_provideAll (fun _ listed => listed) 0).mono others).bind fun _ _ => ?_
  refine ((failsWithin_allRequiredProviders fun _ listed => listed).mono others).bind fun _ _ => ?_
  exact .pure _

/-- Features fail for what is found with them or for a malformed list. -/
theorem isFinding_of_resolveFeatures (layout : Layout) (collected : Collected) :
    FailsWithin (fun problem => problem.IsFinding ∨
      IsMalformedList (collected.map withDefaults) problem) (resolveFeatures layout collected) :=
  failsWithin_resolveFeatures (fun _ concerns => concerns.imp_left And.left)
    fun _ _ _ _ => (Layout.failsWithin_findSpec layout _ _).mono fun _ => .inl

end Resolution

section

variable {repository : Repository} {request : Request} {layout : Layout}
  {assembly : ConfigAssembly} {assemblies : List ConfigAssembly} {collected : Collected}
  {packages : List (OrderedSet String)} {packs : List ProvisionedPack}
  {configs : List ProvisionedConfig}

open Resolution

/-- The features of a config are accepted as they were collected and ordered. -/
theorem succeeds_build_of_resolved {features : List ProvisionedFeature}
    (expanded : Expansion.expandParts layout [] [] [] assembly.parts = .ok collected)
    (resolved : resolveFeatures layout collected = .ok features) :
    Succeeds (ProvisionedConfig.build ⟨assembly.id, assembly.properties.entries, features⟩) := by
  obtain ⟨found, _, merges⟩ := Expansion.expandParts_eq_ok_iff.1 expanded
  have distinct := distinct_of_resolveFeatures (Merged.nil.run merges) resolved
  exact ⟨_, ProvisionedConfig.build_eq_ok_iff.2 ⟨distinct, rfl⟩⟩

/-- What is wrong with a config is specific to it, or a list that one of its features needs is
malformed. -/
def ConcernsConfig (layout : Layout) (assembly : ConfigAssembly) (problem : ProvisioningError) :
    Prop :=
  problem.IsSpecific ∨ ∃ collected,
    Expansion.expandParts layout [] [] [] assembly.parts = .ok collected ∧
      IsMalformedList (collected.map withDefaults) problem

/-- Building a config fails only over its parts and features. -/
theorem failsWithin_buildConfig (layout : Layout) (assembly : ConfigAssembly) :
    FailsWithin (ConcernsConfig layout assembly) (buildConfig layout assembly) := by
  have expands := Expansion.failsWithin_expandParts layout [] [] [] assembly.parts
  refine (expands.mono fun _ => .inl).bind fun collected isExpanded => ?_
  have resolves : FailsWithin (ConcernsConfig layout assembly) (resolveFeatures layout collected) :=
    (isFinding_of_resolveFeatures layout collected).mono fun problem concerns =>
      concerns.imp IsFinding.isSpecific fun isMalformed => ⟨collected, isExpanded, isMalformed⟩
  refine resolves.bind fun features isResolved => .of_succeeds ?_
  obtain ⟨config, isConfig⟩ := succeeds_build_of_resolved isExpanded isResolved
  exact ⟨config, ofDescription_eq_ok_iff.2 isConfig⟩

/-- A failure names the config that cannot be built. -/
theorem buildConfigs_error {problem : ProvisioningError}
    (failed : buildConfigs layout assemblies = .error problem) :
    ∃ assembly ∈ assemblies, ∃ source, problem = .configBuild assembly.id.text source ∧
      buildConfig layout assembly = .error source := by
  induction assemblies with
  | nil => cases failed
  | cons assembly rest inductionHypothesis =>
      rcases bind_eq_error_iff.1 failed with failed | ⟨config, _, failed⟩
      · obtain ⟨source, isSource, rfl⟩ := wrapWith_eq_error_iff.1 failed
        exact ⟨assembly, List.mem_cons_self, source, rfl, isSource⟩
      · rcases bind_eq_error_iff.1 failed with failed | ⟨configs, _, failed⟩
        · obtain ⟨other, listed, concerned⟩ := inductionHypothesis failed
          exact ⟨other, List.mem_cons_of_mem _ listed, concerned⟩
        · cases failed

/-- The feature-packs of a state come from different entries. -/
theorem gavs_provisionedPacks_sublist (layout : Layout) (packages : List (OrderedSet String)) :
    ((provisionedPacks layout packages).map ProvisionedPack.gav).Sublist
      (layout.entries.map fun entry => entry.gav) := by
  unfold provisionedPacks
  induction layout.entries generalizing packages with
  | nil => exact List.nil_sublist _
  | cons entry rest inductionHypothesis =>
      cases packages with
      | nil => exact List.nil_sublist _
      | cons names packages =>
          rw [List.zip_cons_cons, List.filterMap_cons]
          split
          · exact (inductionHypothesis packages).cons _
          · next pack isKept =>
            split at isKept
            · cases isKept
              exact (inductionHypothesis packages).cons_cons _
            · cases isKept

/-- Whatever has been laid out, selected and built makes a state. -/
theorem succeeds_build_of_built (built : Layout.build repository request = .ok layout)
    (isBuilt : buildConfigs layout layout.assembleConfigs = .ok configs) :
    Succeeds (ProvisionedState.build (provisionedPacks layout packages) configs) := by
  have distinct : (layout.entries.map fun entry => entry.gav).Nodup := by
    refine List.pairwise_map.2 ((Layout.contract_of_build built).distinct.imp ?_)
    intro first second apart same
    have sameArtifact : first.gav.sameArtifact second.gav = true :=
      same ▸ Gav.sameArtifact_self first.gav
    exact Bool.noConfusion (apart.symm.trans sameArtifact)
  have sameIds : layout.assembleConfigs.map ConfigAssembly.id =
      configs.map ProvisionedConfig.id :=
    map_eq_map_of_related (realizes_of_buildConfigs isBuilt) fun _ _ realizes =>
      realizes.sameId.symm
  have distinctConfigs := (ConfigAssembly.assembledFrom_finish layout.contributions).distinct
  exact ⟨_, ProvisionedState.build_eq_ok_iff.2
    ⟨distinct.sublist (gavs_provisionedPacks_sublist layout packages), sameIds ▸ distinctConfigs,
      rfl⟩⟩

end

/-- A run fails for what is wrong with its inputs, and no check of its own results fails. -/
structure FailsByInputs (repository : Repository) (request : Request) : Prop where
  /-- A failure concerns feature-packs and packages, or it names a config and what is specific to
  it: an invalid description among it is a malformed list in a capability that a feature of the
  config provides or cannot do without. -/
  refused : FailsWithin (fun problem => ConcernsPacks problem ∨ ∃ layout,
    Layout.build repository request = .ok layout ∧ ∃ assembly ∈ layout.assembleConfigs, ∃ source,
      problem = .configBuild assembly.id.text source ∧ ConcernsConfig layout assembly source)
    (provision repository request)
  /-- The run itself is never at fault. -/
  neverInternal : ∀ problem detail, provision repository request = .error problem →
    problem.rootCause ≠ .internal detail
  /-- The id of a feature that occurs has parameters. -/
  settledIds : ∀ (spec : FeatureSpec) id params settled,
    settleIdParams id params .empty spec.idParams = .ok settled →
      Succeeds (ResolvedId.new id settled.2)
  /-- The id of a feature that is referred to has parameters. -/
  referencedIds : ∀ feature reference (target : Found FeatureSpec) params,
    Resolution.feed feature reference .empty
        (Resolution.targetMapping reference target.definition) = .ok (some params) →
      Succeeds (ResolvedId.new ⟨target.gav, target.definition.name⟩ params)
  /-- No config has a feature twice. -/
  features : ∀ layout (assembly : ConfigAssembly) collected features,
    Expansion.expandParts layout [] [] [] assembly.parts = .ok collected →
      resolveFeatures layout collected = .ok features →
        Succeeds (ProvisionedConfig.build ⟨assembly.id, assembly.properties.entries, features⟩)
  /-- No state has a feature-pack or a config twice. -/
  results : ∀ layout packages configs, Layout.build repository request = .ok layout →
    layout.selectPackages = .ok packages →
      buildConfigs layout layout.assembleConfigs = .ok configs →
        Succeeds (ProvisionedState.build (provisionedPacks layout packages) configs)

/-- A run fails for its feature-packs and packages or for a config that cannot be built. -/
theorem provision_error {repository : Repository} {request : Request} {problem : ProvisioningError}
    (failed : provision repository request = .error problem) :
    ConcernsPacks problem ∨ ∃ layout, Layout.build repository request = .ok layout ∧
      buildConfigs layout layout.assembleConfigs = .error problem := by
  rcases bind_eq_error_iff.1 failed with failed | ⟨layout, built, failed⟩
  · exact .inl (Layout.failsWithin_build repository request problem failed)
  · rcases bind_eq_error_iff.1 failed with failed | ⟨packages, _, failed⟩
    · exact .inl (PackageSelection.failsWithin_selectPackages built problem failed)
    · rcases bind_eq_error_iff.1 failed with failed | ⟨configs, isBuilt, failed⟩
      · exact .inr ⟨layout, built, failed⟩
      · have succeeds : Succeeds (ProvisionedState.build (provisionedPacks layout packages) configs) :=
          succeeds_build_of_built built isBuilt
        obtain ⟨state, isState⟩ := succeeds
        rw [isState] at failed
        cases failed

/-- Provisioning fails only over feature-packs or over a config of the layout. -/
theorem failsWithin_provision (repository : Repository) (request : Request) :
    FailsWithin (fun problem => ConcernsPacks problem ∨ ∃ layout,
      Layout.build repository request = .ok layout ∧ ∃ assembly ∈ layout.assembleConfigs, ∃ source,
        problem = .configBuild assembly.id.text source ∧ ConcernsConfig layout assembly source)
      (provision repository request) := by
  intro problem failed
  rcases provision_error failed with concerns | ⟨layout, built, failed⟩
  · exact .inl concerns
  · obtain ⟨assembly, listed, source, rfl, isSource⟩ := buildConfigs_error failed
    have concerns := failsWithin_buildConfig layout assembly source isSource
    exact .inr ⟨layout, built, assembly, listed, source, rfl, concerns⟩

/-- No config fails for an internal reason. -/
theorem ConcernsConfig.not_internal {layout : Layout} {assembly : ConfigAssembly}
    {problem : ProvisioningError} (concerns : ConcernsConfig layout assembly problem)
    (detail : String) : problem.rootCause ≠ .internal detail := by
  intro isInternal
  rcases concerns with isSpecific | ⟨_, _, _, _, _, _, _, rfl, _⟩
  · rw [IsSpecific, isInternal] at isSpecific
    exact isSpecific
  · cases isInternal

/-- Whatever a run fails with is wrong with its inputs. -/
theorem provision_fails_by_inputs (repository : Repository) (request : Request) :
    FailsByInputs repository request where
  refused := failsWithin_provision repository request
  neverInternal := by
    intro problem detail failed
    rcases failsWithin_provision repository request problem failed with
      concerns | ⟨layout, _, assembly, _, source, rfl, concerns⟩
    · cases concerns <;> exact fun isInternal => ProvisioningError.noConfusion isInternal
    · exact concerns.not_internal detail
  settledIds := fun _ _ _ _ isSettled => ⟨_, new_of_settled isSettled⟩
  referencedIds := fun _ _ _ _ isFed => ⟨_, Resolution.new_of_feed isFed⟩
  features := fun _ _ _ _ expanded resolved => succeeds_build_of_resolved expanded resolved
  results := fun _ _ _ built _ isBuilt => succeeds_build_of_built built isBuilt

/-! A kiln provides heat from each of its fuels. -/

namespace Kiln

def kiln : FeatureSpec where
  name := "kiln"
  params := [⟨"name", .id, none, .scalar⟩, ⟨"fuels", .required, none, .list⟩]
  references := []
  providedPatterns := ["heat.$fuels"]
  requiredPatterns := []
  provides := [⟨"heat.$fuels", [.literal "heat", .param "fuels"], false⟩]
  requires := []
  accepted := by rfl

/-- The list of fuels is not closed. -/
def fired : Item :=
  .feature ⟨⟨none, "kiln"⟩, .ofList [("name", "old"), ("fuels", "[wood")], none⟩ []

def pack : FeaturePack where
  gav := ⟨"g", "pottery", "1"⟩
  dependencies := []
  packages := []
  markedDefaults := []
  specs := [kiln]
  groups := []
  configs := [⟨⟨none, some "c"⟩, .empty, [fired], false⟩]
  accepted := by rfl

def repository : Repository :=
  ⟨[pack], by decide⟩

def request : Request :=
  ⟨[.ofGav ⟨"g", "pottery", "1"⟩], .empty, .inheritAll, by simp⟩

/-- Building the pack accepts any value, so it is the run that finds the list malformed. -/
example : provision repository request =
    .error (.configBuild "named c"
      (.description (.malformed "List value '[wood' must be enclosed in brackets"))) := by
  cbv

end Kiln

end Provisioning
