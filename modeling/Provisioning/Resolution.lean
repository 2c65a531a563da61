/-
This file resolves the collected features of a config: their defaults, references and capabilities,
and the order in which they are provisioned.
-/

import Provisioning.Capability.Expansion
import Provisioning.Capability.Index
import Provisioning.Expansion.Collected
import Provisioning.Graph.DependencyOrder
import Provisioning.Layout.Basic
import Provisioning.State

namespace Provisioning

namespace Resolution

/-- Parameters without a value take their defaults. -/
def withDefaults (feature : CollectedFeature) : CollectedFeature :=
  { feature with
    params := feature.spec.params.foldl
      (fun params param =>
        match param.default with
        | some value => params.insertNew param.name value
        | none => params)
      feature.params }

/-- An empty mapping pairs every id parameter of the target spec with itself. -/
def targetMapping (reference : FeatureReference) (target : FeatureSpec) : List (String × String) :=
  if reference.mapping.isEmpty then
    target.idParams.map fun param => (param.name, param.name)
  else
    reference.mapping.entries

/-- The id parameters that a reference feeds; nothing if a nillable reference lacks a value. -/
def feed (feature : CollectedFeature) (reference : FeatureReference) (fed : IdParams) :
    List (String × String) → Provisioned (Option IdParams)
  | [] => .ok (some fed)
  | (param, target) :: rest =>
      match feature.params.get? param with
      | some value => feed feature reference (fed.insert target value) rest
      | none =>
          if reference.nillable then .ok none
          else .error (.nonNillableReferenceUnset feature.id reference.name param)

/-- The position of the feature that a reference leads to. -/
def resolveReference (layout : Layout) (features : Collected) (feature : CollectedFeature)
    (reference : FeatureReference) : Provisioned (Option Nat) := do
  let target ← layout.findSpec (.pack feature.index) ⟨reference.origin, reference.target⟩
  match ← feed feature reference .empty (targetMapping reference target.definition) with
  | none => return none
  | some params =>
      let id ← ofDescription (ResolvedId.new ⟨target.gav, target.definition.name⟩ params)
      match features.position? id with
      | some position => return some position
      | none =>
          if reference.nillable then return none
          else .error (.unsatisfiedReference feature.id reference.name id)

/-- A feature depends on the targets of its non-nillable references. -/
def referenceTargets (layout : Layout) (features : Collected) (feature : CollectedFeature) :
    List FeatureReference → Provisioned (List Nat)
  | [] => .ok []
  | reference :: rest => do
      let position ← resolveReference layout features feature reference
      let others ← referenceTargets layout features feature rest
      return (if reference.nillable then [] else position.toList) ++ others

/-- Every parameter that is not nillable needs a value. -/
def unsetParam? (feature : CollectedFeature) : Option Parameter :=
  feature.spec.params.find? fun param =>
    !param.isNillable && !feature.params.contains param.name

/-- References are followed before the values are complete. -/
def allReferenceTargets (layout : Layout) (features : Collected) :
    Collected → Provisioned (List (List Nat))
  | [] => .ok []
  | feature :: rest => do
      let targets ← referenceTargets layout features feature feature.spec.references
      match unsetParam? feature with
      | some param => .error (.unsetRequiredParameter feature.id.text param.name)
      | none => return targets :: (← allReferenceTargets layout features rest)

def expandAll (feature : CollectedFeature) :
    List Capability → Provisioned (List (Capability × String))
  | [] => .ok []
  | capability :: rest => do
      let concrete ← ofDescription (capability.expand feature.spec feature.params)
      return concrete.map (fun text => (capability, text)) ++ (← expandAll feature rest)

/-- Features register what they provide in their order. -/
def provideAll (index : CapabilityIndex Nat) (position : Nat) :
    Collected → Provisioned (CapabilityIndex Nat)
  | [] => .ok index
  | feature :: rest => do
      let provided ← expandAll feature feature.spec.provides
      provideAll
        (provided.foldl (fun index capability => index.provide capability.2 position) index)
        (position + 1) rest

/-- Each required capability has a provider, and all its providers come first. -/
def providersFor (index : CapabilityIndex Nat) (feature : CollectedFeature) :
    List (Capability × String) → Provisioned (List Nat)
  | [] => .ok []
  | (capability, concrete) :: rest =>
      match index.providers concrete with
      | [] => .error (.capabilityProviderNotFound concrete feature.id capability.pattern)
      | providers => do
          return providers ++ (← providersFor index feature rest)

/-- One capability is expanded and provided for before the next is expanded. -/
def requiredProviders (index : CapabilityIndex Nat) (feature : CollectedFeature) :
    List Capability → Provisioned (List Nat)
  | [] => .ok []
  | capability :: rest => do
      let concrete ← ofDescription (capability.expand feature.spec feature.params)
      let providers ← providersFor index feature (concrete.map fun text => (capability, text))
      return providers ++ (← requiredProviders index feature rest)

def allRequiredProviders (index : CapabilityIndex Nat) : Collected → Provisioned (List (List Nat))
  | [] => .ok []
  | feature :: rest => do
      let required := feature.spec.requires.filter fun capability => !capability.optional
      let providers ← requiredProviders index feature required
      return providers :: (← allRequiredProviders index rest)

/-- No feature depends on itself. -/
def dependencyGraph (targets providers : List (List Nat)) : Graph :=
  (targets.zipWith (· ++ ·) providers).zipIdx.map fun node =>
    node.1.filter fun target => target != node.2

/-- Parameters come in the order of their declaration. -/
def provisionedFeature (feature : CollectedFeature) : ProvisionedFeature :=
  (feature.params.entries.foldl
    (fun provisioned entry => provisioned.set entry.1 entry.2)
    (ProvisionedFeature.ofId feature.id)).orderParams
      (feature.spec.params.map Parameter.name)

end Resolution

/-- The features of a config, each after those that it depends on. -/
def resolveFeatures (layout : Layout) (collected : Collected) :
    Provisioned (List ProvisionedFeature) := do
  let features := collected.map Resolution.withDefaults
  let targets ← Resolution.allReferenceTargets layout features features
  let index ← Resolution.provideAll .empty 0 features
  let providers ← Resolution.allRequiredProviders index features
  let order := (Resolution.dependencyGraph targets providers).dependencyOrder
  return order.filterMap fun position =>
    (features[position]?).map Resolution.provisionedFeature

end Provisioning
