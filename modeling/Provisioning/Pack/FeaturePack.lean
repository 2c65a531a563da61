/-
This file defines feature-packs and what they ship.
-/

import Provisioning.Feature.Spec
import Provisioning.Pack.Config
import Provisioning.Package

namespace Provisioning

/-- Specs, groups and packages refer to a dependency by its alias. -/
structure PackDependency where
  origin : Option String
  config : PackConfig

def PackDependency.gav (dependency : PackDependency) : Gav := dependency.config.gav

structure FeaturePack.Declaration where
  gav : Gav
  dependencies : List PackDependency
  packages : List Package
  /-- Packages that are installed unless a pack config says otherwise. -/
  markedDefaults : List String
  specs : List FeatureSpec
  groups : List FeatureGroup
  configs : List ConfigSpec

namespace FeaturePack.Declaration

def hasAlias (declaration : Declaration) (origin : String) : Bool :=
  declaration.dependencies.any fun dependency => dependency.origin == some origin

def hasPackage (declaration : Declaration) (name : String) : Bool :=
  declaration.packages.any fun package => package.name == name

/-- A feature-pack depends on other artifacts, on each once and each under its own alias. -/
def dependencyProblem? (gav : Gav) (earlier : List PackDependency) (dependency : PackDependency) :
    Option DescriptionError :=
  if dependency.gav.sameArtifact gav then
    some (.invalidReference s!"Feature-pack cannot depend on itself ({dependency.gav.text})")
  else if earlier.any fun known => known.gav.sameArtifact dependency.gav then
    some (.duplicate
      s!"Dependency on {dependency.gav.artifactText} is declared more than once")
  else
    match dependency.origin with
    | none => none
    | some origin =>
        if earlier.any fun known => known.origin == some origin then
          some (.duplicate s!"Dependency origin {origin} is used more than once")
        else
          none

def packageProblem? (earlier : List Package) (package : Package) : Option DescriptionError :=
  if earlier.any fun known => known.name == package.name then
    some (.duplicate s!"Package {package.name} is defined twice")
  else
    none

/-- A package depends on packages of its own feature-pack and of aliased dependencies. -/
def packageDependencyProblem? (declaration : Declaration) (package : Package) :
    Option DescriptionError :=
  (package.locals.findSome? fun dependency =>
    if declaration.hasPackage dependency.name then none
    else some (.unresolved
      s!"Package {package.name} depends on undefined package {dependency.name}")).or <|
  package.externals.keys.findSome? fun origin =>
    if declaration.hasAlias origin then none
    else some (.unresolved
      s!"Package {package.name} depends on packages of unknown origin {origin}")

def defaultProblem? (declaration : Declaration) (name : String) : Option DescriptionError :=
  if declaration.hasPackage name then none
  else some (.unresolved s!"Default package {name} is not defined")

def specProblem? (declaration : Declaration) (earlier : List FeatureSpec) (spec : FeatureSpec) :
    Option DescriptionError :=
  (spec.references.findSome? fun reference =>
    match reference.origin with
    | none => none
    | some origin =>
        if declaration.hasAlias origin then none
        else some (.invalidReference
          s!"Reference {reference.name} of spec {spec.name} uses unknown origin {origin}")).or <|
  if earlier.any fun known => known.name == spec.name then
    some (.duplicate s!"Feature spec {spec.name} is defined twice")
  else
    none

def groupProblem? (earlier : List FeatureGroup) (group : FeatureGroup) : Option DescriptionError :=
  if earlier.any fun known => known.name == group.name then
    some (.duplicate s!"Feature group {group.name} is defined twice")
  else
    none

def configProblem? (earlier : List ConfigSpec) (config : ConfigSpec) : Option DescriptionError :=
  if !config.id.isAnonymous && earlier.any (fun known => known.id == config.id) then
    some (.duplicate s!"Config {config.id.text} is defined twice")
  else
    none

def problem? (declaration : Declaration) : Option DescriptionError :=
  (Checks.first (dependencyProblem? declaration.gav) declaration.dependencies).or <|
  (Checks.first packageProblem? declaration.packages).or <|
  (declaration.packages.findSome? declaration.packageDependencyProblem?).or <|
  (declaration.markedDefaults.findSome? declaration.defaultProblem?).or <|
  (Checks.first declaration.specProblem? declaration.specs).or <|
  (Checks.first groupProblem? declaration.groups).or <|
  Checks.first configProblem? declaration.configs

end FeaturePack.Declaration

/-- A feature-pack is a declaration that has been accepted. -/
structure FeaturePack extends FeaturePack.Declaration where
  accepted : toDeclaration.problem? = none

namespace FeaturePack

/-- Problems are reported in the context of the feature-pack. -/
def build (declaration : Declaration) : Except DescriptionError FeaturePack :=
  match accepted : declaration.problem? with
  | some problem => .error (problem.inContext s!"in feature-pack {declaration.gav.text}")
  | none => .ok { declaration with accepted }

def dependency? (pack : FeaturePack) (origin : String) : Option PackDependency :=
  pack.dependencies.find? fun dependency => dependency.origin == some origin

/-- The dependency on any version of an artifact. -/
def dependencyOn? (pack : FeaturePack) (gav : Gav) : Option PackDependency :=
  pack.dependencies.find? fun dependency => dependency.gav.sameArtifact gav

def defaultPackages (pack : FeaturePack) : List String :=
  (OrderedSet.ofList pack.markedDefaults).elements

def package? (pack : FeaturePack) (name : String) : Option Package :=
  pack.packages.find? fun package => package.name == name

def spec? (pack : FeaturePack) (name : String) : Option FeatureSpec :=
  pack.specs.find? fun spec => spec.name == name

def group? (pack : FeaturePack) (name : String) : Option FeatureGroup :=
  pack.groups.find? fun group => group.name == name

end FeaturePack

end Provisioning
