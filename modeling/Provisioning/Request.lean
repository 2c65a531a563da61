/-
This file defines installation requests.
-/

import Provisioning.Pack.Config

namespace Provisioning

/-- A request lists feature-packs and customizes the configs of the installation. -/
structure Request where
  packs : List PackConfig
  /-- Installation configs qualify names by these aliases. -/
  origins : OrderedMap String Gav
  configs : ConfigCustomizations
  /-- No artifact is listed in two versions. -/
  artifactsDistinct : packs.Pairwise fun first second => first.gav.sameArtifact second.gav = false

namespace Request

structure Declaration where
  /-- Each feature-pack may be listed under an alias. -/
  packs : List (Option String × PackConfig)
  configRules : List ConfigCustomizations.Rule

/-- Artifacts and aliases are listed once. -/
def packProblem? (earlier : List (Option String × PackConfig)) (pack : Option String × PackConfig) :
    Option DescriptionError :=
  if earlier.any fun known => known.2.gav.sameArtifact pack.2.gav then
    some (.duplicate s!"Feature-pack {pack.2.gav.artifactText} is listed more than once")
  else
    match pack.1 with
    | none => none
    | some origin =>
        (blankProblem? "Feature-pack origin" origin).or <|
        if earlier.any fun known => known.1 == some origin then
          some (.duplicate s!"Origin {origin} is assigned to more than one feature-pack")
        else
          none

def aliases (packs : List (Option String × PackConfig)) : List (String × Gav) :=
  packs.filterMap fun pack => pack.1.map fun origin => (origin, pack.2.gav)

theorem artifactsDistinct_of_accepted {packs : List (Option String × PackConfig)}
    (accepted : Checks.first packProblem? packs = none) :
    (packs.map Prod.snd).Pairwise fun first second =>
      first.gav.sameArtifact second.gav = false := by
  rw [List.pairwise_map]
  apply Checks.pairwise_of_first _ accepted
  intro earlier pack noProblem known isEarlier
  rw [packProblem?] at noProblem
  split at noProblem
  · cases noProblem
  · next distinct =>
    rw [Bool.not_eq_true, List.any_eq_false] at distinct
    simpa using distinct known isEarlier

def build (declaration : Declaration) : Except DescriptionError Request :=
  match accepted : Checks.first packProblem? declaration.packs with
  | some problem => .error problem
  | none => do
      return {
        packs := declaration.packs.map Prod.snd
        origins := .ofList (aliases declaration.packs)
        configs := ← inContext "in the installation configs"
          (ConfigCustomizations.build declaration.configRules)
        artifactsDistinct := artifactsDistinct_of_accepted accepted }

def pack? (request : Request) (gav : Gav) : Option PackConfig :=
  request.packs.find? fun pack => pack.gav == gav

/-- The requested config of any version of an artifact. -/
def packForArtifact? (request : Request) (gav : Gav) : Option PackConfig :=
  request.packs.find? fun pack => pack.gav.sameArtifact gav

def hasPacks (request : Request) : Bool := !request.packs.isEmpty

def origin? (request : Request) (origin : String) : Option Gav :=
  request.origins.get? origin

end Request

end Provisioning
