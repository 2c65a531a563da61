/-
This file defines references from one feature spec to another.
-/

import Provisioning.Checks
import Provisioning.DescriptionError
import Provisioning.OrderedMap

namespace Provisioning

/-- A reference takes id parameters of a target spec from local parameters. -/
structure FeatureReference where
  name : String
  /-- The name of the target spec. -/
  target : String
  /-- The dependency alias that qualifies the target. -/
  origin : Option String
  nillable : Bool
  /-- A parent reference is filled in from the enclosing feature. -/
  parent : Bool
  /-- Local parameters and the target parameters they feed; an empty mapping feeds each id
  parameter of the target from the local parameter of the same name. -/
  mapping : OrderedMap String String
deriving DecidableEq, Repr

namespace FeatureReference

/-- The name of a reference is that of its target unless another is given. -/
structure Declaration where
  target : String
  name : Option String
  origin : Option String
  nillable : Bool
  parent : Bool
  mapping : List (String × String)
deriving DecidableEq, Repr

namespace Declaration

def givenName (declaration : Declaration) : String :=
  declaration.name.getD declaration.target

/-- Neither a target nor a local parameter is mapped twice. -/
def mappingProblem? (name : String) (earlier : List (String × String)) (pair : String × String) :
    Option DescriptionError :=
  (blankProblem? "Mapped local parameter" pair.1).or <|
  (blankProblem? "Mapped target parameter" pair.2).or <|
  if earlier.any fun known => known.2 == pair.2 then
    some (.duplicate s!"Target parameter {pair.2} is mapped twice in reference {name}")
  else if earlier.any fun known => known.1 == pair.1 then
    some (.duplicate s!"Local parameter {pair.1} is mapped twice in reference {name}")
  else
    none

def problem? (declaration : Declaration) : Option DescriptionError :=
  (blankProblem? "Referenced feature spec name" declaration.target).or <|
  (blankProblem? "Reference name" declaration.givenName).or <|
  Checks.first (mappingProblem? declaration.givenName) declaration.mapping

end Declaration

def build (declaration : Declaration) : Except DescriptionError FeatureReference :=
  match declaration.problem? with
  | some problem => .error problem
  | none =>
      .ok {
        name := declaration.givenName
        target := declaration.target
        origin := declaration.origin
        nillable := declaration.nillable
        parent := declaration.parent
        mapping := .ofList declaration.mapping }

end FeatureReference

end Provisioning
