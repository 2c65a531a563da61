/-
This file carries out a provisioning run.
-/

import Provisioning.Expansion.Frames
import Provisioning.Resolution
import Provisioning.Selection.Packages

namespace Provisioning

/-- A requested feature-pack is always provisioned, any other when a package of it is selected. -/
def provisionedPacks (layout : Layout) (packages : List (OrderedSet String)) :
    List ProvisionedPack :=
  (layout.entries.zip packages).filterMap fun entry =>
    if entry.1.isRequested || !entry.2.isEmpty then some ⟨entry.1.gav, entry.2⟩ else none

def buildConfig (layout : Layout) (assembly : ConfigAssembly) : Provisioned ProvisionedConfig := do
  let collected ← Expansion.expandParts layout [] [] [] assembly.parts
  let features ← resolveFeatures layout collected
  ofDescription (ProvisionedConfig.build ⟨assembly.id, assembly.properties.entries, features⟩)

/-- Configs are built in turn, and a failure names the config. -/
def buildConfigs (layout : Layout) : List ConfigAssembly → Provisioned (List ProvisionedConfig)
  | [] => .ok []
  | assembly :: rest => do
      let config ← wrapWith (.configBuild assembly.id.text) (buildConfig layout assembly)
      return config :: (← buildConfigs layout rest)

/-- A request is laid out, its packages are selected and its configs are built. -/
def provision (repository : Repository) (request : Request) : Provisioned ProvisionedState := do
  let layout ← Layout.build repository request
  let packages ← layout.selectPackages
  let configs ← buildConfigs layout layout.assembleConfigs
  ofDescription (ProvisionedState.build (provisionedPacks layout packages) configs)

end Provisioning
