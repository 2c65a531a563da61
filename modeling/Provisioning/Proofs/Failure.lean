/-
This file says with which errors a chain of steps can fail.
-/

import Provisioning.Proofs.Success

namespace Provisioning

/-- Whatever an attempt fails with is allowed. -/
def FailsWithin {Result : Type} (Allowed : ProvisioningError → Prop)
    (attempt : Provisioned Result) : Prop :=
  ∀ problem, attempt = .error problem → Allowed problem

namespace ProvisioningError

/-- The innermost error is neither an invalid description nor a fault of the run itself. -/
def IsSpecific (problem : ProvisioningError) : Prop :=
  match problem.rootCause with
  | .description _ | .internal _ => False
  | _ => True

/-- An alias is used that no dependency is declared under. -/
def IsUnknownOrigin : ProvisioningError → Prop
  | .unknownOrigin .. => True
  | _ => False

/-- Something that is looked up or given is missing, unknown or in conflict. A finding wraps
nothing, and it is neither an invalid description nor a cycle of groups nor a fault of the run. -/
def IsFinding : ProvisioningError → Prop
  | .description _ | .cyclicGroup _ | .internal _ => False
  | .configBuild .. | .groupProcessing .. | .featureProcessing .. | .foreignKeyInit .. => False
  | _ => True

/-- An error that wraps nothing is the innermost error of its chain. -/
def IsLeaf (problem : ProvisioningError) : Prop :=
  problem.wrapped? = none

/-- A finding is about something else than an alias. -/
def IsBeyondAliases (problem : ProvisioningError) : Prop :=
  problem.IsFinding ∧ ¬problem.IsUnknownOrigin

/-- A feature cannot be collected: the cause is found with it or while it takes over the id of the
feature around it. -/
inductive ConcernsOccurrence (feature : String) : ProvisioningError → Prop where
  | finding {problem : ProvisioningError} (isFinding : problem.IsFinding) :
      ConcernsOccurrence feature problem
  | fromParent {problem : ProvisioningError} (isFinding : problem.IsFinding) :
      ConcernsOccurrence feature (.foreignKeyInit feature problem)

/-- An item of a config cannot be expanded. A group is being opened when its filter is refused or
when it closes a cycle. -/
inductive ConcernsItem : (opening : Bool) → ProvisioningError → Prop where
  | search {problem : ProvisioningError} (isFinding : problem.IsFinding) : ConcernsItem false problem
  | occurrence {feature : String} {problem : ProvisioningError}
      (concerns : ConcernsOccurrence feature problem) :
      ConcernsItem false (.featureProcessing feature problem)
  | filter {problem : ProvisioningError} (isUnknown : problem.IsUnknownOrigin) :
      ConcernsItem true problem
  | cycle (path : List GroupId) : ConcernsItem true (.cyclicGroup path)

variable {problem : ProvisioningError}

theorem IsUnknownOrigin.isFinding (isUnknown : problem.IsUnknownOrigin) : problem.IsFinding := by
  cases problem <;> trivial

/-- The search for the innermost error ends where nothing is wrapped. -/
theorem IsLeaf.rootCause_eq (isLeaf : problem.IsLeaf) : problem.rootCause = problem := by
  cases problem <;> first | rfl | cases isLeaf

/-- A finding wraps no other error. -/
theorem IsFinding.wrapped?_eq_none (isFinding : problem.IsFinding) : problem.wrapped? = none := by
  cases problem <;> first | rfl | exact isFinding.elim

/-- A finding is the innermost error itself. -/
theorem IsFinding.rootCause_eq (isFinding : problem.IsFinding) : problem.rootCause = problem :=
  IsLeaf.rootCause_eq isFinding.wrapped?_eq_none

theorem IsFinding.isSpecific (isFinding : problem.IsFinding) : problem.IsSpecific := by
  cases problem <;> trivial

/-- Whatever is wrong with an item, it is neither an invalid description nor a fault of the run. -/
theorem ConcernsItem.isSpecific {opening : Bool} (concerns : ConcernsItem opening problem) :
    problem.IsSpecific := by
  cases concerns with
  | search isFinding => exact isFinding.isSpecific
  | occurrence concerns =>
      cases concerns with
      | finding isFinding => exact isFinding.isSpecific
      | fromParent isFinding => exact isFinding.isSpecific
  | filter isUnknown => exact isUnknown.isFinding.isSpecific
  | cycle path => trivial

end ProvisioningError

namespace FailsWithin

variable {Source Result : Type} {Allowed Also : ProvisioningError → Prop}

theorem ok (result : Result) : FailsWithin Allowed (.ok result) := by
  intro problem failed
  cases failed

theorem pure (result : Result) : FailsWithin Allowed (pure result) :=
  ok result

theorem error {problem : ProvisioningError} (allowed : Allowed problem) :
    FailsWithin Allowed (.error problem : Provisioned Result) := by
  rintro _ ⟨⟩
  exact allowed

/-- An attempt that succeeds does not fail with anything. -/
theorem of_succeeds {attempt : Provisioned Result} (succeeds : Succeeds attempt) :
    FailsWithin Allowed attempt := by
  obtain ⟨result, rfl⟩ := succeeds
  exact ok result

/-- What an attempt can fail with may be described more widely. -/
theorem mono {attempt : Provisioned Result} (fails : FailsWithin Allowed attempt)
    (implies : ∀ problem, Allowed problem → Also problem) : FailsWithin Also attempt :=
  fun problem failed => implies problem (fails problem failed)

/-- A step after another fails with what either of them can fail with. -/
theorem bind {first : Provisioned Source} {next : Source → Provisioned Result}
    (fails : FailsWithin Allowed first)
    (continues : ∀ value, first = .ok value → FailsWithin Allowed (next value)) :
    FailsWithin Allowed (first >>= next) := by
  cases first with
  | error problem => exact error (fails problem rfl)
  | ok value => exact continues value rfl

/-- An error that is wrapped on its way out fails with the wrapped ones. -/
theorem wrapWith {attempt : Provisioned Result} {wrapper : ProvisioningError → ProvisioningError}
    (fails : FailsWithin Allowed attempt)
    (wraps : ∀ problem, Allowed problem → Also (wrapper problem)) :
    FailsWithin Also (Provisioning.wrapWith wrapper attempt) := by
  cases attempt with
  | error problem => exact error (wraps problem (fails problem rfl))
  | ok result => exact ok result

end FailsWithin

end Provisioning
