/-
This file defines the identity of a config.
-/

namespace Provisioning

/-- A config may have a model and a name; one without either is anonymous. -/
structure ConfigId where
  model : Option String
  name : Option String
deriving DecidableEq, Repr

namespace ConfigId

def anonymous : ConfigId := ⟨none, none⟩

def modelOnly (model : String) : ConfigId := ⟨some model, none⟩

/-- Nothing can refer to an anonymous config. -/
def isAnonymous (id : ConfigId) : Bool := id.model == none && id.name == none

theorem isAnonymous_iff {id : ConfigId} : id.isAnonymous = true ↔ id = anonymous := by
  obtain ⟨model, name⟩ := id
  cases model <;> cases name <;> simp [isAnonymous, anonymous]

theorem isAnonymous_eq_false_iff {id : ConfigId} : id.isAnonymous = false ↔ id ≠ anonymous := by
  rw [Bool.eq_false_iff, ne_eq, isAnonymous_iff]

/-- A config with a model and no name holds defaults for the model's named configs. -/
def isModelOnly (id : ConfigId) : Bool := id.model.isSome && id.name == none

def text (id : ConfigId) : String :=
  match id.model, id.name with
  | some model, some name => s!"model {model} named {name}"
  | some model, none => s!"model {model}"
  | none, some name => s!"named {name}"
  | none, none => "anonymous"

/-- An absent part comes before every present one. -/
def partOrder : Option String → Option String → Ordering
  | none, none => .eq
  | none, some _ => .lt
  | some _, none => .gt
  | some first, some second => compare first second

/-- Identities are ordered by model, then by name. -/
def order (first second : ConfigId) : Ordering :=
  (partOrder first.model second.model).then (partOrder first.name second.name)

end ConfigId

end Provisioning
