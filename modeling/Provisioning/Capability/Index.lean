/-
This file registers the providers of concrete capabilities.
-/

import Provisioning.OrderedMap

namespace Provisioning

/-- Providers are listed in the order of their registration. -/
structure CapabilityIndex (Provider : Type) where
  providersOf : OrderedMap String (List Provider)

namespace CapabilityIndex

variable {Provider : Type} [DecidableEq Provider]

def empty : CapabilityIndex Provider := ⟨.empty⟩

def providers (index : CapabilityIndex Provider) (capability : String) : List Provider :=
  (index.providersOf.get? capability).getD []

/-- A provider is registered once for a capability. -/
def provide (index : CapabilityIndex Provider) (capability : String) (provider : Provider) :
    CapabilityIndex Provider :=
  let known := index.providers capability
  if known.contains provider then index
  else ⟨index.providersOf.insert capability (known ++ [provider])⟩

theorem mem_providers_provide {index : CapabilityIndex Provider} {capability text : String}
    {provider other : Provider} :
    other ∈ (index.provide capability provider).providers text ↔
      other ∈ index.providers text ∨ (capability = text ∧ other = provider) := by
  simp only [provide]
  split
  · next known =>
    rw [List.contains_iff_mem] at known
    constructor
    · exact Or.inl
    · rintro (listed | ⟨rfl, rfl⟩)
      · exact listed
      · exact known
  · simp only [providers, OrderedMap.get?_insert]
    by_cases same : capability = text <;> simp [same]

def isProvided (index : CapabilityIndex Provider) (capability : String) : Bool :=
  !(index.providers capability).isEmpty

end CapabilityIndex

end Provisioning
