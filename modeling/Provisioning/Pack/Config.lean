/-
This file defines how a feature-pack is installed.
-/

import Provisioning.Config.Customization
import Provisioning.Gav

namespace Provisioning

/-- A pack config picks packages and configs of one feature-pack. -/
structure PackConfig where
  gav : Gav
  configs : ConfigCustomizations
  /-- Default packages are installed unless this is switched off. -/
  inheritPackages : Bool
  includedPackages : List String
  excludedPackages : List String
  consistent : ∀ package ∈ includedPackages, package ∉ excludedPackages

namespace PackConfig

/-- Without further choices a feature-pack is installed as it comes. -/
def ofGav (gav : Gav) : PackConfig where
  gav := gav
  configs := .inheritAll
  inheritPackages := true
  includedPackages := []
  excludedPackages := []
  consistent := fun _ included => absurd included List.not_mem_nil

structure Declaration where
  gav : Gav
  inheritPackages : Bool
  includedPackages : List String
  excludedPackages : List String
  configRules : List ConfigCustomizations.Rule

def repeatProblem? (done : String) (earlier : List String) (package : String) :
    Option DescriptionError :=
  if earlier.contains package then
    some (.duplicate s!"Package {package} has already been {done}")
  else
    none

def includedProblem? (excluded : List String) (package : String) : Option DescriptionError :=
  (blankProblem? "Package name" package).or <|
  if excluded.contains package then
    some (.conflict s!"Package {package} has been both included and excluded")
  else
    none

def Declaration.problem? (declaration : Declaration) : Option DescriptionError :=
  (Checks.first (repeatProblem? "included") declaration.includedPackages).or <|
  (Checks.first (repeatProblem? "excluded") declaration.excludedPackages).or <|
  declaration.includedPackages.findSome? (includedProblem? declaration.excludedPackages)

theorem Declaration.consistent_of_accepted {declaration : Declaration}
    (accepted : declaration.problem? = none) :
    ∀ package ∈ declaration.includedPackages, package ∉ declaration.excludedPackages := by
  intro package included excluded
  simp only [problem?, Option.or_eq_none_iff, List.findSome?_eq_none_iff] at accepted
  have noProblem := accepted.2.2 package included
  simp [includedProblem?, excluded] at noProblem

/-- Problems are reported in the context of the feature-pack's coordinate. -/
def build (declaration : Declaration) : Except DescriptionError PackConfig :=
  inContext s!"in the configuration of {declaration.gav.text}" <|
    match accepted : declaration.problem? with
    | some problem => .error problem
    | none => do
        return {
          gav := declaration.gav
          configs := ← ConfigCustomizations.build declaration.configRules
          inheritPackages := declaration.inheritPackages
          includedPackages := declaration.includedPackages
          excludedPackages := declaration.excludedPackages
          consistent := declaration.consistent_of_accepted accepted }

/-- The same picks are made from another version. -/
def withGav (config : PackConfig) (gav : Gav) : PackConfig := { config with gav }

def includes (config : PackConfig) (package : String) : Bool :=
  config.includedPackages.contains package

def excludes (config : PackConfig) (package : String) : Bool :=
  config.excludedPackages.contains package

end PackConfig

end Provisioning
