/-
This file reads feature specs from manifests.
-/

import Provisioning.Feature.Spec
import Provisioning.Manifest.Fields

namespace Provisioning.Manifest

/-- A parameter can be marked as an id and as nillable, though not as both. -/
structure Parameter where
  name : String := ""
  isId : Bool := false
  isNillable : Bool := false
  default : Option String := none
  shape : Provisioning.Parameter.Shape := .scalar

namespace Parameter

def shapeNamed : String → Read Provisioning.Parameter.Shape
  | "scalar" => .ok .scalar
  | "list" => .ok .list
  | _ => .error .form

/-- A shape is written as its name, or as the only key of a table with nothing below it. -/
def readShape : Toml → Read Provisioning.Parameter.Shape
  | .string name => shapeNamed name
  | .table [(name, .table [])] => shapeNamed name
  | .table [(name, .array [])] => shapeNamed name
  | _ => .error .form

def put (param : Parameter) (name : String) (value : Toml) : Read Parameter :=
  match name with
  | "name" => do return { param with name := ← text value }
  | "id" => do return { param with isId := ← flag value }
  | "nillable" => do return { param with isNillable := ← flag value }
  | "default" => do return { param with default := some (← text value) }
  | "type" => do return { param with shape := ← readShape value }
  | _ => .error .form

def read (value : Toml) : Read Parameter :=
  Fields.read ⟨["name", "id", "nillable", "default", "type"], ["name"], 4, false⟩ put {} value

def describe (param : Parameter) : Except DescriptionError Provisioning.Parameter :=
  if param.isId && param.isNillable then
    .error (.conflict s!"Parameter {param.name} cannot be both an id and nillable")
  else
    .ok {
      name := param.name
      role := if param.isId then .id else if param.isNillable then .nillable else .required
      default := param.default
      shape := param.shape }

end Parameter

namespace Reference

def put (reference : FeatureReference.Declaration) (name : String) (value : Toml) :
    Read FeatureReference.Declaration :=
  match name with
  | "feature" => do return { reference with target := ← text value }
  | "name" => do return { reference with name := some (← text value) }
  | "origin" => do return { reference with origin := some (← text value) }
  | "nillable" => do return { reference with nillable := ← flag value }
  | "parent" => do return { reference with parent := ← flag value }
  | "mappings" => do return { reference with mapping := (← textMap value).entries }
  | _ => .error .form

def fieldNames : List String :=
  ["feature", "name", "origin", "nillable", "parent", "mappings"]

def read (value : Toml) : Read FeatureReference.Declaration :=
  Fields.read ⟨fieldNames, ["feature"], 3, false⟩ put ⟨"", none, none, false, false, []⟩ value

end Reference

structure Spec where
  name : String := ""
  params : List Parameter := []
  references : List FeatureReference.Declaration := []
  provides : List String := []
  /-- Each required pattern says whether it is optional. -/
  requires : List (String × Bool) := []

namespace Spec

def putRequired (required : String × Bool) (name : String) (value : Toml) : Read (String × Bool) :=
  match name with
  | "capability" => do return (← text value, required.2)
  | "optional" => do return (required.1, ← flag value)
  | _ => .error .form

/-- A capability is required outright unless a table says otherwise. -/
def readRequired : Toml → Read (String × Bool)
  | .string pattern => .ok (pattern, false)
  | value =>
      Fields.read ⟨["capability", "optional"], ["capability"], 1, true⟩ putRequired
        ("", false) value

def put (spec : Spec) (name : String) (value : Toml) : Read Spec :=
  match name with
  | "name" => do return { spec with name := ← text value }
  | "params" => do return { spec with params := ← list Parameter.read value }
  | "references" => do return { spec with references := ← list Reference.read value }
  | "provides" => do return { spec with provides := ← list text value }
  | "requires" => do return { spec with requires := ← list readRequired value }
  | _ => .error .form

def read (value : Toml) : Read Spec :=
  Fields.read ⟨["name", "params", "references", "provides", "requires"], ["name"], 1, false⟩ put {}
    value

/-- Problems of parameters and references are reported in the context of the spec. -/
def describe (spec : Spec) : Except DescriptionError FeatureSpec := do
  let params ← inContext s!"in feature spec {spec.name}" (spec.params.mapM Parameter.describe)
  let references ← inContext s!"in feature spec {spec.name}"
    (spec.references.mapM FeatureReference.build)
  FeatureSpec.build {
    name := spec.name
    params
    references
    providedPatterns := spec.provides
    requiredPatterns := spec.requires }

end Spec

end Provisioning.Manifest
