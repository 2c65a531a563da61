/-
This file prints provisioned states for people to read.
-/

import Provisioning.StateWalk

namespace Provisioning.Report

/-- Every line ends with a line feed. -/
def linesText (lines : List String) : String :=
  String.join (lines.map fun line => line ++ "\n")

def packLine (pack : ProvisionedPack) : String :=
  let packages := Text.join ", " pack.packages.elements
  s!"feature-pack {pack.gav.text} [{packages}]"

/-- A config is printed as a tree of feature-packs, specs and features. -/
def eventLines : WalkEvent → List String
  | .prepare config =>
      s!"config {config.id.text}" ::
        config.properties.entries.map fun property => s!"  {property.1} = {property.2}"
  | .nextPack gav => [s!"  {gav.text}"]
  | .nextSpec spec => [s!"    {spec.name}"]
  | .nextFeature feature =>
      let params := Text.join ", " (feature.params.entries.map fun param => s!"{param.1}={param.2}")
      [s!"      {params}"]
  | .done => []

/-- Lines are kept in the order in which they are printed. -/
def print (event : WalkEvent) : StateM (List String) Unit :=
  modify fun lines => lines ++ eventLines event

def configLines (state : ProvisionedState) : List String :=
  ((WalkEvent.walkState print state).run []).2

/-- Every feature is printed. -/
def full (state : ProvisionedState) : String :=
  linesText (state.packs.map packLine ++ configLines state)

/-- Configs are printed with the number of their features. -/
def summary (state : ProvisionedState) : String :=
  linesText (state.packs.map packLine ++ state.configs.map fun config =>
    s!"config {config.id.text}: {config.features.length} feature(s)")

/-- What is said of a state that has just been written. -/
def written (state : ProvisionedState) (path : String) : String :=
  linesText [
    s!"Provisioned {state.packs.length} feature-pack(s) and {state.configs.length} config(s)",
    s!"State written to {path}"]

end Provisioning.Report
