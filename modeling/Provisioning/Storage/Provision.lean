/-
This file carries out provisioning runs on stored feature-packs and descriptors.
-/

import Provisioning.Provision
import Provisioning.Storage.Manifests

namespace Provisioning

/-- A stored run fails either to load what it needs or to provision it. -/
inductive RunError where
  | storage (source : StorageError)
  | provisioning (source : ProvisioningError)
deriving DecidableEq, Repr

namespace RunError

def message : RunError → String
  | storage source => s!"Layout failure: {source.message}"
  | provisioning source => s!"Provisioning failure: {source.message}"

/-- The text of every level, outermost first. -/
def messages (error : RunError) : List String :=
  match error with
  | storage source => error.message :: source.messages
  | provisioning source => error.message :: source.messages

end RunError

variable {m : Type → Type} [Monad m]

/-- A descriptor is provisioned from the feature-packs below a directory. -/
def provisionFrom (disk : Disk m) (root descriptor : String) :
    ExceptT RunError m ProvisionedState := do
  let repository ← (Repository.load disk root).adapt .storage
  let request ← (loadDescriptor disk descriptor).adapt .storage
  match provision repository request with
  | .ok state => return state
  | .error error => throw (.provisioning error)

end Provisioning
