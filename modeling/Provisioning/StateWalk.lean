/-
This file hands the content of a provisioned state to a receiver piece by piece.
-/

import Provisioning.State

namespace Provisioning

/-- A receiver is told of the start and the end of a config, of each change of feature-pack and
spec, and of each feature. -/
inductive WalkEvent where
  | prepare (config : ProvisionedConfig)
  | nextPack (gav : Gav)
  | nextSpec (spec : SpecId)
  | nextFeature (feature : ProvisionedFeature)
  | done
deriving DecidableEq, Repr

namespace WalkEvent

variable {Effect : Type → Type} [Monad Effect]

/-- A change is announced before the feature that brings it. -/
def walkFeatures (receive : WalkEvent → Effect Unit) (current : Option SpecId) :
    List ProvisionedFeature → Effect Unit
  | [] => pure ()
  | feature :: rest => do
      let spec := feature.id.specId
      if current.map SpecId.gav ≠ some spec.gav then
        receive (.nextPack spec.gav)
      if current ≠ some spec then
        receive (.nextSpec spec)
      receive (.nextFeature feature)
      walkFeatures receive (some spec) rest

def walkConfig (receive : WalkEvent → Effect Unit) (config : ProvisionedConfig) : Effect Unit := do
  receive (.prepare config)
  walkFeatures receive none config.features
  receive .done

/-- Configs follow each other in the order of the state. -/
def walkConfigs (receive : WalkEvent → Effect Unit) : List ProvisionedConfig → Effect Unit
  | [] => pure ()
  | config :: rest => do
      walkConfig receive config
      walkConfigs receive rest

def walkState (receive : WalkEvent → Effect Unit) (state : ProvisionedState) : Effect Unit :=
  walkConfigs receive state.configs

end WalkEvent

end Provisioning
