/-
This file defines identities that hold across feature-packs.
-/

import Provisioning.Feature.Id
import Provisioning.Gav

namespace Provisioning

/-- A spec name is qualified by the feature-pack that declares it. -/
structure SpecId where
  gav : Gav
  name : String
deriving DecidableEq, Repr

namespace SpecId

def text (id : SpecId) : String := s!"{id.gav.text}#{id.name}"

def parse (text : String) : Except DescriptionError SpecId :=
  match Text.cut? '#' text with
  | none => .error (.malformed s!"'{text}' does not follow format groupId:artifactId:version#spec")
  | some (gav, name) =>
      if name.isEmpty then
        .error (.malformed s!"Spec name is missing in '{text}'")
      else do
        return ⟨← Gav.parse gav, name⟩

end SpecId

/-- A feature is identified everywhere by its qualified spec and its id parameters. -/
@[ext] structure ResolvedId where
  specId : SpecId
  params : IdParams
deriving DecidableEq, Repr

namespace ResolvedId

def new (specId : SpecId) (params : IdParams) : Except DescriptionError ResolvedId :=
  if params.isEmpty then
    .error (.malformed s!"ID parameters are missing for {specId.text}")
  else
    .ok ⟨specId, params⟩

def gav (id : ResolvedId) : Gav := id.specId.gav

def param? (id : ResolvedId) (name : String) : Option String := id.params.get? name

/-- The identity inside the feature-pack. -/
def unqualified (id : ResolvedId) : FeatureId := ⟨id.specId.name, id.params⟩

def text (id : ResolvedId) : String := s!"{id.specId.text}:{id.params.text}"

/-- The order of the parameters does not matter for identity. -/
def same (first second : ResolvedId) : Bool :=
  first.specId == second.specId && first.params.agrees second.params

/-- Ids are the same when their specs are and every id parameter has the same value. -/
theorem same_iff {first second : ResolvedId} :
    first.same second = true ↔
      first.specId = second.specId ∧ ∀ name, first.param? name = second.param? name := by
  simp only [same, Bool.and_eq_true, beq_iff_eq, OrderedMap.agrees_iff, param?]

@[simp] theorem same_self (id : ResolvedId) : id.same id = true :=
  same_iff.2 ⟨rfl, fun _ => rfl⟩

theorem same_symm {first second : ResolvedId} (same : first.same second = true) :
    second.same first = true := by
  rw [same_iff] at same ⊢
  exact ⟨same.1.symm, fun name => (same.2 name).symm⟩

theorem same_trans {first second third : ResolvedId} (same : first.same second = true)
    (next : second.same third = true) : first.same third = true := by
  rw [same_iff] at same next ⊢
  exact ⟨same.1.trans next.1, fun name => (same.2 name).trans (next.2 name)⟩

theorem same_comm (first second : ResolvedId) : first.same second = second.same first :=
  Bool.eq_iff_iff.2 ⟨same_symm, same_symm⟩

/-- Identical features have the same key. -/
def key (id : ResolvedId) : SpecId × List (String × String) :=
  (id.specId, id.params.sorted)

/-- The identity is read before the coordinate. -/
def parse (text : String) : Except DescriptionError ResolvedId :=
  match Text.cut? '#' text with
  | none =>
      .error (.malformed
        s!"'{text}' does not follow format groupId:artifactId:version#{FeatureId.formatText}")
  | some (gav, rest) => do
      let id ← FeatureId.parse rest
      return ⟨⟨← Gav.parse gav, id.spec⟩, id.params⟩

end ResolvedId

end Provisioning
