/-
This file reads provisioning descriptors.
-/

import Provisioning.Manifest.FeaturePack
import Provisioning.Request

namespace Provisioning.Manifest

/-- A descriptor lists feature-packs and customizes the configs of the installation. -/
structure Descriptor where
  packs : List PackConfig := []
  configs : Option Customizations := none

namespace Descriptor

def put (descriptor : Descriptor) (name : String) (value : Toml) : Read Descriptor :=
  match name with
  | "feature-packs" => do return { descriptor with packs := ← list PackConfig.read value }
  | "configs" => do return { descriptor with configs := some (← Customizations.read value) }
  | _ => .error .form

def read (value : Toml) : Read Descriptor :=
  Fields.read ⟨["feature-packs", "configs"], [], 2, false⟩ put {} value

def describe (descriptor : Descriptor) : Except DescriptionError Request := do
  let packs ← descriptor.packs.mapM fun pack => do return (pack.origin, ← pack.describe)
  let configRules ← Customizations.rulesOf descriptor.configs
  Request.build { packs, configRules }

end Descriptor

end Provisioning.Manifest
