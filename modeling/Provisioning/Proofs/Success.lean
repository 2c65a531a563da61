/-
This file says when a chain of steps succeeds.
-/

import Provisioning.ProvisioningError

namespace Provisioning

variable {Error Source Result : Type}

/-- An attempt succeeds when it has a result. -/
def Succeeds (attempt : Except Error Result) : Prop := ∃ result, attempt = .ok result

@[simp] theorem succeeds_ok (result : Result) : Succeeds (.ok result : Except Error Result) :=
  ⟨result, rfl⟩

@[simp] theorem not_succeeds_error (error : Error) :
    ¬Succeeds (.error error : Except Error Result) := by
  rintro ⟨result, equal⟩
  cases equal

/-- Two steps have a result when the second has one for the value of the first. -/
theorem bind_eq_ok_iff {first : Except Error Source} {next : Source → Except Error Result}
    {result : Result} :
    (first >>= next) = .ok result ↔ ∃ value, first = .ok value ∧ next value = .ok result := by
  cases first with
  | error error => simp [bind, Except.bind]
  | ok value => simp [bind, Except.bind]

/-- Two steps fail with the error of the first, or with that of the second on the value of the
first. -/
theorem bind_eq_error_iff {first : Except Error Source} {next : Source → Except Error Result}
    {error : Error} :
    (first >>= next) = .error error ↔
      first = .error error ∨ ∃ value, first = .ok value ∧ next value = .error error := by
  cases first with
  | error problem => simp [bind, Except.bind]
  | ok value => simp [bind, Except.bind]

/-- Two steps succeed when the second does so on the value of the first. -/
theorem succeeds_bind_iff {first : Except Error Source} {next : Source → Except Error Result} :
    Succeeds (first >>= next) ↔ ∃ value, first = .ok value ∧ Succeeds (next value) := by
  simp only [Succeeds, bind_eq_ok_iff]
  constructor
  · rintro ⟨result, value, isFirst, isNext⟩
    exact ⟨value, isFirst, result, isNext⟩
  · rintro ⟨value, isFirst, result, isNext⟩
    exact ⟨result, value, isFirst, isNext⟩

@[simp] theorem succeeds_pure (result : Result) : Succeeds (pure result : Except Error Result) :=
  ⟨result, rfl⟩

theorem pure_eq_ok_iff {first second : Result} :
    (pure first : Except Error Result) = .ok second ↔ first = second := by
  simp [pure, Except.pure]

/-- A step for each element succeeds when all of them do. -/
theorem succeeds_mapM_iff {step : Source → Except Error Result} {sources : List Source} :
    Succeeds (sources.mapM step) ↔ ∀ source ∈ sources, Succeeds (step source) := by
  induction sources with
  | nil => simp [List.mapM_nil]
  | cons source rest inductionHypothesis =>
      rw [List.mapM_cons, List.forall_mem_cons, ← inductionHypothesis]
      simp only [succeeds_bind_iff, succeeds_pure, and_true]
      exact exists_and_right

/-- A description is valid whether or not its error is made one of the run. -/
theorem ofDescription_eq_ok_iff {result : Except DescriptionError Result} {value : Result} :
    ofDescription result = .ok value ↔ result = .ok value := by
  cases result <;> simp [ofDescription]

/-- Wrapping its error does not change a result. -/
theorem wrapWith_eq_ok_iff {wrapper : ProvisioningError → ProvisioningError}
    {result : Provisioned Result} {value : Result} :
    wrapWith wrapper result = .ok value ↔ result = .ok value := by
  cases result <;> simp [wrapWith]

/-- A wrapped error has the error of the attempt as its cause. -/
theorem wrapWith_eq_error_iff {wrapper : ProvisioningError → ProvisioningError}
    {result : Provisioned Result} {problem : ProvisioningError} :
    wrapWith wrapper result = .error problem ↔
      ∃ cause, result = .error cause ∧ wrapper cause = problem := by
  cases result <;> simp [wrapWith]

end Provisioning
