/-
This file turns a feature as it is written into a feature with an identity.
-/

import Provisioning.Expansion.Admission
import Provisioning.Expansion.Collected

namespace Provisioning

/-- The reference of a spec that leads to an enclosing feature. -/
def FeatureSpec.referenceTo? (spec : FeatureSpec) (config : FeatureConfig) (parent : ResolvedId) :
    Option FeatureReference :=
  match config.parentRef with
  | some name => spec.reference? name
  | none => spec.parentReference?.or (spec.reference? parent.specId.name)

/-- An empty mapping pairs every id parameter of the parent with itself. -/
def parentMapping (reference : FeatureReference) (parent : ResolvedId) : List (String × String) :=
  if reference.mapping.isEmpty then
    parent.params.keys.map fun name => (name, name)
  else
    reference.mapping.entries

/-- Values of the parent's id are taken over unless another value stands in the way. -/
def takeFromParent (id : SpecId) (spec : FeatureSpec) (parent : ResolvedId)
    (params : OrderedMap String String) :
    List (String × String) → Provisioned (OrderedMap String String)
  | [] => .ok params
  | (param, target) :: rest =>
      match parent.param? target with
      | none => takeFromParent id spec parent params rest
      | some value =>
          if !spec.declares param then
            .error (.unknownParameter id param)
          else
            match params.get? param with
            | some first =>
                if first = value then takeFromParent id spec parent params rest
                else .error (.valueConflict id param first value)
            | none => takeFromParent id spec parent (params.insert param value) rest

/-- The reference to the parent has to lead to the parent's own spec. -/
def initFromParent (layout : Layout) (index : Nat) (id : SpecId) (spec : FeatureSpec)
    (config : FeatureConfig) (parent : ResolvedId) (params : OrderedMap String String) :
    Provisioned (OrderedMap String String) :=
  let notFound := ProvisioningError.parentReferenceNotFound id parent.specId config.parentRef
  match spec.referenceTo? config parent with
  | none => .error notFound
  | some reference => do
      let target ← layout.findSpec (.pack index) ⟨reference.origin, reference.target⟩
      if target.gav != parent.gav || target.definition.name != parent.specId.name then
        .error notFound
      else
        takeFromParent id spec parent params (parentMapping reference parent)

/-- Id parameters take their values, or else their defaults, which then are values too. -/
def settleIdParams (id : SpecId) (params : OrderedMap String String) (idParams : IdParams) :
    List Parameter → Provisioned (OrderedMap String String × IdParams)
  | [] => .ok (params, idParams)
  | param :: rest =>
      match params.get? param.name with
      | some value => settleIdParams id params (idParams.insert param.name value) rest
      | none =>
          match param.default with
          | some value =>
              settleIdParams id (params.insert param.name value) (idParams.insert param.name value)
                rest
          | none => .error (.unsetRequiredParameter id.text param.name)

/-- Overrides replace values but leave the identity alone. -/
def applyOverrides (id : ResolvedId) (spec : FeatureSpec) (params : OrderedMap String String) :
    List (String × String) → Provisioned (OrderedMap String String)
  | [] => .ok params
  | (name, value) :: rest =>
      match spec.param? name with
      | none => .error (.unknownParameter id.specId name)
      | some param =>
          match id.param? name with
          | some first =>
              if param.isId && first != value then
                .error (.valueConflict id.specId name first value)
              else
                applyOverrides id spec (params.insert name value) rest
          | none => applyOverrides id spec (params.insert name value) rest

/-- The feature that an occurrence stands for, before any filter is asked. -/
def identify (layout : Layout) (scope : Scope) (config : FeatureConfig)
    (parent : Option ResolvedId) : Provisioned CollectedFeature := do
  let found ← layout.findSpec scope config.spec
  let spec := found.definition
  let specId : SpecId := ⟨found.gav, spec.name⟩
  match config.params.keys.find? fun name => !spec.declares name with
  | some unknown => .error (.unknownParameter specId unknown)
  | none =>
      let params ← match parent with
        | none => .ok config.params
        | some parent =>
            wrapWith (.foreignKeyInit config.text)
              (initFromParent layout found.index specId spec config parent config.params)
      let settled ← settleIdParams specId params .empty spec.idParams
      let id ← ofDescription (ResolvedId.new specId settled.2)
      return ⟨id, spec, found.index, settled.1⟩

/-- An occurrence that the filters let in is merged into the collected features. -/
def collectOccurrence (layout : Layout) (filters : List ScopedFilter) (scope : Scope)
    (config : FeatureConfig) (parent : Option ResolvedId) (collected : Collected) :
    Provisioned (Collected × Option ResolvedId) := do
  let feature ← identify layout scope config parent
  match ← layout.admission feature.id filters with
  | .excluded => return (collected, none)
  | .included rule =>
      let overrides := match rule with
        | some included => included.overrides.entries
        | none => []
      let params ← applyOverrides feature.id feature.spec feature.params overrides
      return (← collected.merge { feature with params }, some feature.id)

end Provisioning
