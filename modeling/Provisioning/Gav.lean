/-
This file defines the coordinate of a feature-pack and its text form.
-/

import Provisioning.DescriptionError
import Provisioning.Text.Split

namespace Provisioning

/-- A coordinate names one version of an artifact of a group. -/
structure Gav where
  group : String
  artifact : String
  version : String
deriving DecidableEq, Repr

namespace Gav

/-- This version stands for whatever version a repository considers current. -/
def latestVersion : String := "LATEST"

/-- A part is neither blank nor divided by a colon. -/
def partProblem? (what part : String) : Option DescriptionError :=
  match blankProblem? what part with
  | some problem => some problem
  | none =>
      if part.toList.contains ':' then some (.malformed s!"{what} '{part}' contains ':'")
      else none

def problem? (gav : Gav) : Option DescriptionError :=
  (partProblem? "groupId" gav.group).or
    ((partProblem? "artifactId" gav.artifact).or (partProblem? "version" gav.version))

def new (group artifact version : String) : Except DescriptionError Gav :=
  match problem? ⟨group, artifact, version⟩ with
  | some problem => .error problem
  | none => .ok ⟨group, artifact, version⟩

/-- The current version of an artifact, whatever it is. -/
def latest (group artifact : String) : Except DescriptionError Gav :=
  new group artifact latestVersion

def isLatest (gav : Gav) : Bool := gav.version == latestVersion

/-- Two coordinates share their artifact when they differ at most in the version. -/
def sameArtifact (first second : Gav) : Bool :=
  first.group == second.group && first.artifact == second.artifact

theorem sameArtifact_iff {first second : Gav} :
    first.sameArtifact second = true ↔
      first.group = second.group ∧ first.artifact = second.artifact := by
  simp only [sameArtifact, Bool.and_eq_true, beq_iff_eq]

@[simp] theorem sameArtifact_self (gav : Gav) : gav.sameArtifact gav = true :=
  sameArtifact_iff.2 ⟨rfl, rfl⟩

theorem sameArtifact_symm {first second : Gav} (same : first.sameArtifact second = true) :
    second.sameArtifact first = true := by
  rw [sameArtifact_iff] at same ⊢
  exact ⟨same.1.symm, same.2.symm⟩

theorem sameArtifact_trans {first second third : Gav} (same : first.sameArtifact second = true)
    (next : second.sameArtifact third = true) : first.sameArtifact third = true := by
  rw [sameArtifact_iff] at same next ⊢
  exact ⟨same.1.trans next.1, same.2.trans next.2⟩

def artifactText (gav : Gav) : String := s!"{gav.group}:{gav.artifact}"

def text (gav : Gav) : String := s!"{gav.group}:{gav.artifact}:{gav.version}"

/-- A text without a version names the current one. -/
def parse (text : String) : Except DescriptionError Gav :=
  match Text.pieces ':' (Text.trim text) with
  | [group, artifact] => latest group artifact
  | [group, artifact, version] => new group artifact version
  | _ => .error (.malformed s!"'{text}' does not follow format groupId:artifactId[:version]")

/-- Coordinates are ordered by group, then artifact, then version. -/
def order (first second : Gav) : Ordering :=
  (compare first.group second.group).then
    ((compare first.artifact second.artifact).then (compare first.version second.version))

end Gav

end Provisioning
