/-
This file defines feature specs: the parameters, references and capabilities of a feature.
-/

import Provisioning.Capability.Pattern
import Provisioning.Feature.Reference

namespace Provisioning

inductive Parameter.Role where
  /-- The value is part of the feature's identity. -/
  | id
  | required
  /-- The parameter may stay without a value. -/
  | nillable
deriving DecidableEq, Repr

inductive Parameter.Shape where
  | scalar
  /-- The value is written as a bracketed list. -/
  | list
deriving DecidableEq, Repr

/-- A parameter takes its default when nothing else gives it a value. -/
structure Parameter where
  name : String
  role : Parameter.Role
  default : Option String
  shape : Parameter.Shape
deriving DecidableEq, Repr

namespace Parameter

def isId (param : Parameter) : Bool := param.role == .id

def isNillable (param : Parameter) : Bool := param.role == .nillable

def isList (param : Parameter) : Bool := param.shape == .list

end Parameter

/-- A spec is declared piece by piece and capabilities are given as patterns. -/
structure FeatureSpec.Declaration where
  name : String
  params : List Parameter
  references : List FeatureReference
  providedPatterns : List String
  /-- Each required pattern says whether it is optional. -/
  requiredPatterns : List (String × Bool)
deriving DecidableEq, Repr

namespace FeatureSpec.Declaration

def declares (declaration : Declaration) (name : String) : Bool :=
  declaration.params.any fun param => param.name == name

def paramProblem? (spec : String) (earlier : List Parameter) (param : Parameter) :
    Option DescriptionError :=
  (blankProblem? "Parameter name" param.name).or <|
  if earlier.any fun known => known.name == param.name then
    some (.duplicate s!"Duplicate parameter {param.name} for feature spec {spec}")
  else
    none

/-- A reference feeds from declared parameters that no earlier reference uses. -/
def localProblem? (declaration : Declaration) (earlier : List FeatureReference)
    (reference : FeatureReference) (param : String) : Option DescriptionError :=
  if !declaration.declares param then
    some (.invalidReference
      (s!"Reference {reference.name} of feature spec {declaration.name} " ++
        s!"maps undeclared parameter {param}"))
  else if earlier.any fun known => known.mapping.contains param then
    some (.invalidReference
      s!"Parameter {param} of feature spec {declaration.name} is mapped by more than one reference")
  else
    none

def referenceProblem? (declaration : Declaration) (earlier : List FeatureReference)
    (reference : FeatureReference) : Option DescriptionError :=
  (reference.mapping.keys.findSome? (declaration.localProblem? earlier reference)).or <|
  if earlier.any fun known => known.name == reference.name then
    some (.duplicate s!"Duplicate reference {reference.name} for feature spec {declaration.name}")
  else
    none

/-- A mapped local parameter comes with the name of its reference and the target parameter. -/
def mappedEntries (reference : FeatureReference) : List (String × String × String) :=
  reference.mapping.entries.map fun pair => (pair.1, reference.name, pair.2)

/-- The table of all local parameters that are mapped. -/
def mappedParams (declaration : Declaration) : OrderedMap String (String × String) :=
  .ofList (declaration.references.flatMap mappedEntries)

/-- The problems of a spec apart from those of its capabilities. -/
def problem? (declaration : Declaration) : Option DescriptionError :=
  (blankProblem? "Feature spec name" declaration.name).or <|
  (Checks.first (paramProblem? declaration.name) declaration.params).or <|
  (if declaration.params.any Parameter.isId then none
    else some (.missing s!"Feature spec {declaration.name} does not declare an id parameter")).or <|
  (Checks.first declaration.referenceProblem? declaration.references).or <|
  if (declaration.references.filter FeatureReference.parent).length > 1 then
    some (.invalidReference
      s!"Feature spec {declaration.name} declares more than one parent reference")
  else
    none

/-- A capability names declared parameters only. -/
def capability (declaration : Declaration) (pattern : String) (optional : Bool) :
    Except DescriptionError Capability := do
  let capability ← Capability.parse pattern optional
  match capability.params.find? fun name => !declaration.declares name with
  | some unknown =>
      .error (.invalidReference
        (s!"Capability {pattern} of feature spec {declaration.name} " ++
          s!"refers to undeclared parameter {unknown}"))
  | none => .ok capability

/-- An accepted declaration yields its provided and its required capabilities. -/
def capabilities (declaration : Declaration) :
    Except DescriptionError (List Capability × List Capability) :=
  match declaration.problem? with
  | some problem => .error problem
  | none => do
      let provided ← declaration.providedPatterns.mapM fun pattern =>
        declaration.capability pattern false
      let required ← declaration.requiredPatterns.mapM fun pattern =>
        declaration.capability pattern.1 pattern.2
      return (provided, required)

end FeatureSpec.Declaration

/-- A spec is a declaration that has been accepted, with its capabilities. -/
structure FeatureSpec extends FeatureSpec.Declaration where
  provides : List Capability
  requires : List Capability
  accepted : toDeclaration.capabilities = .ok (provides, requires)

namespace FeatureSpec

theorem problem?_eq_none (spec : FeatureSpec) : spec.toDeclaration.problem? = none := by
  have accepted := spec.accepted
  rw [FeatureSpec.Declaration.capabilities] at accepted
  split at accepted
  · cases accepted
  · assumption

def build (declaration : Declaration) : Except DescriptionError FeatureSpec :=
  match accepted : declaration.capabilities with
  | .error problem => .error problem
  | .ok (provides, requires) => .ok { declaration with provides, requires, accepted }

def param? (spec : FeatureSpec) (name : String) : Option Parameter :=
  spec.params.find? fun param => param.name == name

def idParams (spec : FeatureSpec) : List Parameter := spec.params.filter Parameter.isId

/-- An accepted spec has something to identify its features by. -/
theorem idParams_ne_nil (spec : FeatureSpec) : spec.idParams ≠ [] := by
  have noProblem := spec.problem?_eq_none
  simp only [FeatureSpec.Declaration.problem?, Option.or_eq_none_iff] at noProblem
  obtain ⟨_, _, hasId, _⟩ := noProblem
  split at hasId
  · next anyId =>
    obtain ⟨param, declared, isId⟩ := List.any_eq_true.1 anyId
    exact List.ne_nil_of_mem (List.mem_filter.2 ⟨declared, isId⟩)
  · cases hasId

/-- No two parameters of an accepted spec share a name. -/
theorem paramNames_distinct (spec : FeatureSpec) :
    spec.params.Pairwise fun first second => first.name ≠ second.name := by
  have noProblem := spec.problem?_eq_none
  simp only [FeatureSpec.Declaration.problem?, Option.or_eq_none_iff] at noProblem
  apply Checks.pairwise_of_first _ noProblem.2.1
  intro earlier param accepted known isEarlier same
  rw [FeatureSpec.Declaration.paramProblem?, Option.or_eq_none_iff] at accepted
  have found : (earlier.any fun known => known.name == param.name) = true :=
    List.any_eq_true.2 ⟨known, isEarlier, by simpa using same⟩
  simp [found] at accepted

theorem param?_eq_some_iff {spec : FeatureSpec} {name : String} {param : Parameter} :
    spec.param? name = some param ↔ param ∈ spec.params ∧ param.name = name :=
  Checks.find?_key_eq_some_iff (List.pairwise_map.2 spec.paramNames_distinct)

def reference? (spec : FeatureSpec) (name : String) : Option FeatureReference :=
  spec.references.find? fun reference => reference.name == name

/-- The reference that is marked as the parent reference. -/
def parentReference? (spec : FeatureSpec) : Option FeatureReference :=
  spec.references.find? FeatureReference.parent

/-- The reference that maps a local parameter, and the target parameter it feeds. -/
def mappedBy? (spec : FeatureSpec) (param : String) : Option (FeatureReference × String) :=
  (spec.mappedParams.get? param).bind fun mapped =>
    (spec.reference? mapped.1).map fun reference => (reference, mapped.2)

end FeatureSpec

end Provisioning
