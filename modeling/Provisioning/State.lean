/-
This file defines the result of a provisioning run.
-/

import Provisioning.Checks
import Provisioning.Config.Id
import Provisioning.Feature.ResolvedId

namespace Provisioning

/-- A provisioned feature has its identity and the values of its parameters. -/
@[ext] structure ProvisionedFeature where
  id : ResolvedId
  params : OrderedMap String String
deriving DecidableEq, Repr

namespace ProvisionedFeature

/-- A feature starts with its id parameters. -/
def ofId (id : ResolvedId) : ProvisionedFeature := ⟨id, id.params⟩

def param? (feature : ProvisionedFeature) (name : String) : Option String :=
  feature.params.get? name

/-- An earlier value under the same name is replaced. -/
def set (feature : ProvisionedFeature) (name value : String) : ProvisionedFeature :=
  { feature with params := feature.params.insert name value }

/-- The named entries are moved, in the order of the names, from one map to the other. -/
def moveParams (ordered rest : OrderedMap String String) :
    List String → OrderedMap String String × OrderedMap String String
  | [] => (ordered, rest)
  | name :: names =>
      match rest.get? name with
      | some value => moveParams (ordered.insert name value) (rest.erase name) names
      | none => moveParams ordered rest names

/-- Named parameters come first and the others keep their order. -/
def orderParams (feature : ProvisionedFeature) (names : List String) : ProvisionedFeature :=
  let moved := moveParams .empty feature.params names
  { feature with params := moved.1.extend moved.2.entries }

theorem get?_moveParams (ordered rest : OrderedMap String String) (names : List String)
    (name : String) :
    ((moveParams ordered rest names).2.get? name).or ((moveParams ordered rest names).1.get? name) =
      (rest.get? name).or (ordered.get? name) := by
  fun_induction moveParams ordered rest names with
  | case1 => rfl
  | case2 ordered rest moved names value isValue inductionHypothesis =>
      rw [inductionHypothesis, OrderedMap.get?_erase, OrderedMap.get?_insert]
      by_cases same : moved = name
      · simp [← same, isValue]
      · simp [same]
  | case3 ordered rest moved names _ inductionHypothesis => exact inductionHypothesis

/-- Reordering keeps every value. -/
theorem param?_orderParams (feature : ProvisionedFeature) (names : List String) (name : String) :
    (feature.orderParams names).param? name = feature.param? name := by
  have moved := get?_moveParams .empty feature.params names name
  simp only [OrderedMap.get?_empty, Option.or_none] at moved
  rw [orderParams, param?, OrderedMap.get?_extend _ (OrderedMap.keysNodup _)]
  exact moved

@[simp] theorem orderParams_id (feature : ProvisionedFeature) (names : List String) :
    (feature.orderParams names).id = feature.id := rfl

end ProvisionedFeature

/-- A provisioned config lists its features in the order of their dependencies. -/
structure ProvisionedConfig where
  id : ConfigId
  properties : OrderedMap String String
  features : List ProvisionedFeature
deriving DecidableEq, Repr

namespace ProvisionedConfig

structure Declaration where
  id : ConfigId
  properties : List (String × String)
  features : List ProvisionedFeature

def featureProblem? (config : ConfigId) (earlier : List ProvisionedFeature)
    (feature : ProvisionedFeature) : Option DescriptionError :=
  if earlier.any fun known => known.id.same feature.id then
    some (.duplicate s!"Feature {feature.id.text} occurs twice in config {config.text}")
  else
    none

/-- The first value of a property counts. -/
def firstValues (properties : List (String × String)) : OrderedMap String String :=
  properties.foldl (fun map property => map.insertNew property.1 property.2) .empty

def build (declaration : Declaration) : Except DescriptionError ProvisionedConfig :=
  match Checks.first (featureProblem? declaration.id) declaration.features with
  | some problem => .error problem
  | none =>
      .ok {
        id := declaration.id
        properties := firstValues declaration.properties
        features := declaration.features }

def feature? (config : ProvisionedConfig) (id : ResolvedId) : Option ProvisionedFeature :=
  config.features.find? fun feature => feature.id.same id

end ProvisionedConfig

/-- A provisioned feature-pack has the packages that were picked from it. -/
structure ProvisionedPack where
  gav : Gav
  packages : OrderedSet String
deriving DecidableEq, Repr

structure ProvisionedState where
  packs : List ProvisionedPack
  configs : List ProvisionedConfig
deriving DecidableEq, Repr

namespace ProvisionedState

def empty : ProvisionedState := ⟨[], []⟩

def isEmpty (state : ProvisionedState) : Bool := state.packs.isEmpty && state.configs.isEmpty

def packProblem? (earlier : List ProvisionedPack) (pack : ProvisionedPack) :
    Option DescriptionError :=
  if earlier.any fun known => known.gav == pack.gav then
    some (.duplicate s!"Feature-pack {pack.gav.text} is provisioned twice")
  else
    none

def configProblem? (earlier : List ProvisionedConfig) (config : ProvisionedConfig) :
    Option DescriptionError :=
  if !config.id.isAnonymous && earlier.any (fun known => known.id == config.id) then
    some (.duplicate s!"Config {config.id.text} is provisioned twice")
  else
    none

/-- No feature-pack and no config that has an identity comes twice. -/
def build (packs : List ProvisionedPack) (configs : List ProvisionedConfig) :
    Except DescriptionError ProvisionedState :=
  match (Checks.first packProblem? packs).or (Checks.first configProblem? configs) with
  | some problem => .error problem
  | none => .ok ⟨packs, configs⟩

def pack? (state : ProvisionedState) (gav : Gav) : Option ProvisionedPack :=
  state.packs.find? fun pack => pack.gav == gav

def config? (state : ProvisionedState) (id : ConfigId) : Option ProvisionedConfig :=
  state.configs.find? fun config => config.id == id

end ProvisionedState

end Provisioning
