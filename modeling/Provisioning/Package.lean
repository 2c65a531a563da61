/-
This file defines packages, the content bundles of a feature-pack.
-/

import Provisioning.Checks
import Provisioning.DescriptionError
import Provisioning.OrderedMap

namespace Provisioning

/-- An optional dependency is skipped when its package is excluded. -/
structure PackageDependency where
  name : String
  optional : Bool
deriving DecidableEq, Repr

structure PackageParameter where
  name : String
  default : Option String
deriving DecidableEq, Repr

/-- External dependencies are grouped by the alias of the feature-pack that has them. -/
structure Package where
  name : String
  locals : List PackageDependency
  externals : OrderedMap String (List PackageDependency)
  params : List PackageParameter
deriving DecidableEq, Repr

namespace Package

structure Declaration where
  name : String
  locals : List PackageDependency
  /-- Each external dependency comes with the alias of its feature-pack. -/
  externals : List (String × PackageDependency)
  params : List PackageParameter
deriving DecidableEq, Repr

namespace Declaration

def localProblem? (package : String) (earlier : List PackageDependency)
    (dependency : PackageDependency) : Option DescriptionError :=
  (blankProblem? "Package dependency name" dependency.name).or <|
  if earlier.any fun known => known.name == dependency.name then
    some (.duplicate s!"Package {package} declares a dependency twice")
  else
    none

def externalProblem? (package : String) (earlier : List (String × PackageDependency))
    (dependency : String × PackageDependency) : Option DescriptionError :=
  (blankProblem? "Package dependency origin" dependency.1).or <|
  (blankProblem? "Package dependency name" dependency.2.name).or <|
  if earlier.any fun known => known.1 == dependency.1 && known.2.name == dependency.2.name then
    some (.duplicate s!"Package {package} declares a dependency on {dependency.1} twice")
  else
    none

def paramProblem? (package : String) (earlier : List PackageParameter) (param : PackageParameter) :
    Option DescriptionError :=
  (blankProblem? "Package parameter name" param.name).or <|
  if earlier.any fun known => known.name == param.name then
    some (.duplicate s!"Duplicate parameter {param.name} for package {package}")
  else
    none

def problem? (declaration : Declaration) : Option DescriptionError :=
  (blankProblem? "Package name" declaration.name).or <|
  (Checks.first (localProblem? declaration.name) declaration.locals).or <|
  (Checks.first (externalProblem? declaration.name) declaration.externals).or <|
  Checks.first (paramProblem? declaration.name) declaration.params

end Declaration

/-- Groups arise in the order in which their aliases first come up. -/
def groupByOrigin (externals : List (String × PackageDependency)) :
    OrderedMap String (List PackageDependency) :=
  externals.foldl
    (fun groups external =>
      groups.insert external.1 ((groups.get? external.1).getD [] ++ [external.2]))
    .empty

def build (declaration : Declaration) : Except DescriptionError Package :=
  match declaration.problem? with
  | some problem => .error problem
  | none =>
      .ok {
        name := declaration.name
        locals := declaration.locals
        externals := groupByOrigin declaration.externals
        params := declaration.params }

def hasDependencies (package : Package) : Bool :=
  !package.locals.isEmpty || !package.externals.isEmpty

end Package

end Provisioning
