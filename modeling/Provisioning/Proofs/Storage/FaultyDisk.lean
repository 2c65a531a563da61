/-
This file defines a memory disk whose calls may fail and that keeps a record of them.
-/

import Provisioning.Proofs.Storage.Places
import Provisioning.Storage.Error

namespace Provisioning

/-- The calls that change a disk or make changes last. -/
inductive Call where
  | createDirectories (path : String)
  | createFile (path : String)
  | write (path text : String)
  | sync (path : String)
  | rename (source target : String)
  | remove (path : String)
deriving DecidableEq

/-- A call may fail with any fault, and a write that fails may leave any text in its file. -/
structure Failure where
  fault : Fault
  leaves : Option String

/-- The calls that are made to fail, each by the number of calls before it. -/
abbrev Failures := Nat → Option Failure

/-- A call, its answer and the memory after it. -/
structure Event where
  call : Call
  answer : Except Fault Unit
  memory : Memory

/-- A memory and the calls that have led to it, the oldest first. -/
structure Session where
  memory : Memory
  events : List Event

namespace Call

/-- What a call does when it is not made to fail. -/
def perform : Call → Memory → Except Fault Unit × Memory
  | .createDirectories path, memory => memory.createDirectories path
  | .createFile path, memory => memory.createFile path
  | .write path text, memory => memory.write path text
  | .sync path, memory => (memory.sync path, memory)
  | .rename source target, memory => memory.rename source target
  | .remove path, memory => memory.remove path

/-- A call that is made to fail has no effect, unless it is a write that leaves something behind. -/
def spoil : Call → Option String → Memory → Memory
  | .write path _, some text, memory => (memory.write path text).2
  | _, _, memory => memory

def attempt (call : Call) (failure : Option Failure) (memory : Memory) :
    Except Fault Unit × Memory :=
  match failure with
  | none => call.perform memory
  | some failure => (.error failure.fault, call.spoil failure.leaves memory)

/-- These calls change nothing but one file. -/
inductive Concerns (path : String) : Call → Prop where
  | createFile : Concerns path (.createFile path)
  | write (text : String) : Concerns path (.write path text)
  | sync : Concerns path (.sync path)
  | remove : Concerns path (.remove path)

end Call

namespace Session

def start (memory : Memory) : Session := ⟨memory, []⟩

/-- Another call is answered and recorded. -/
def answer (failures : Failures) (call : Call) : StateM Session (Except Fault Unit) :=
  fun session =>
    let (answer, memory) := call.attempt (failures session.events.length) session.memory
    (answer, ⟨memory, session.events ++ [⟨call, answer, memory⟩]⟩)

end Session

/-- A memory disk on which the given calls fail. -/
def faultyDisk (failures : Failures) : Disk (StateM Session) where
  isFile path := fun session => (session.memory.isFile path, session)
  isDirectory path := fun session => (session.memory.isDirectory path, session)
  isLink _ := fun session => (false, session)
  names path := fun session => (session.memory.names path, session)
  read path := fun session => (session.memory.read path, session)
  createDirectories path := Session.answer failures (.createDirectories path)
  createFile path := Session.answer failures (.createFile path)
  write path text := Session.answer failures (.write path text)
  sync path := Session.answer failures (.sync path)
  rename source target := Session.answer failures (.rename source target)
  remove path := Session.answer failures (.remove path)

namespace Call

open Memory

variable {memory next : Memory} {failure : Option Failure} {path text source target : String}

/-- A call on a file leaves everything else alone, whether or not it fails. -/
theorem at?_attempt {call : Call} (concerns : call.Concerns path) {other : String}
    (elsewhere : placeOf other ≠ placeOf path) (failure : Option Failure) (memory : Memory) :
    (call.attempt failure memory).2.at? other = memory.at? other := by
  have written (text : String) : (memory.write path text).2.at? other = memory.at? other := by
    rcases answered : memory.write path text with ⟨fault | _, next⟩
    · rw [eq_of_write_error answered]
    · exact (at?_of_write answered).2 other elsewhere
  cases failure with
  | some failure =>
      cases concerns with
      | write text =>
          cases isLeft : failure.leaves with
          | none => simp [attempt, spoil, isLeft]
          | some left => simpa [attempt, spoil, isLeft] using written left
      | createFile => rfl
      | sync => rfl
      | remove => rfl
  | none =>
      cases concerns with
      | write text => exact written text
      | createFile =>
          rcases answered : memory.createFile path with ⟨fault | _, next⟩
          · simp only [attempt, perform, answered, eq_of_createFile_error answered]
          · simpa [attempt, perform, answered] using (at?_of_createFile answered).2 other elsewhere
      | sync => rfl
      | remove =>
          rcases answered : memory.remove path with ⟨fault | _, next⟩
          · simp only [attempt, perform, answered, eq_of_remove_error answered]
          · simpa [attempt, perform, answered] using (at?_of_remove answered).2.2 other elsewhere

/-- A call that is answered with success has been performed. -/
theorem attempt_eq_ok {call : Call} (answered : call.attempt failure memory = (.ok (), next)) :
    call.perform memory = (.ok (), next) := by
  cases failure with
  | none => exact answered
  | some failure => cases answered

/-- A rename that fails leaves everything where it is. -/
theorem attempt_rename_error {fault : Fault}
    (answered : (rename source target).attempt failure memory = (.error fault, next)) :
    next = memory := by
  cases failure with
  | none => exact eq_of_rename_error answered
  | some failure =>
      cases answered
      rfl

/-- A removal that fails leaves everything where it is. -/
theorem attempt_remove_error {fault : Fault}
    (answered : (remove path).attempt failure memory = (.error fault, next)) : next = memory := by
  cases failure with
  | none => exact eq_of_remove_error answered
  | some failure =>
      cases answered
      rfl

end Call

/-- A computation leads from a session to results and sessions of a kind. -/
def Leads {Result : Type} (computation : Stored (StateM Session) Result) (session : Session)
    (after : Except StorageError Result → Session → Prop) : Prop :=
  after (computation.run.run session).1 (computation.run.run session).2

namespace Leads

variable {First Result : Type} {session : Session}

/-- What comes after a computation starts where it has led to. -/
theorem bind {first : Stored (StateM Session) First} {next : First → Stored (StateM Session) Result}
    {between : Except StorageError First → Session → Prop}
    {after : Except StorageError Result → Session → Prop} (leads : Leads first session between)
    (continues : ∀ value later, between (.ok value) later → Leads (next value) later after)
    (stops : ∀ error later, between (.error error) later → after (.error error) later) :
    Leads (first >>= next) session after := by
  unfold Leads at leads ⊢
  rw [ExceptT.run_bind, StateT.run_bind]
  rcases isFirst : first.run.run session with ⟨error | value, later⟩
  · rw [isFirst] at leads
    exact stops error later leads
  · rw [isFirst] at leads
    exact continues value later leads

/-- What a computation leads to implies whatever follows from it. -/
theorem mono {computation : Stored (StateM Session) Result}
    {before after : Except StorageError Result → Session → Prop}
    (leads : Leads computation session before)
    (implies : ∀ result later, before result later → after result later) :
    Leads computation session after :=
  implies _ _ leads

/-- When a computation fails, one more call is made, whose answer does not count. -/
theorem afterError {computation : Stored (StateM Session) Unit} {failures : Failures} {call : Call}
    {between after : Except StorageError Unit → Session → Prop}
    (leads : Leads computation session between)
    (succeeds : ∀ later, between (.ok ()) later → after (.ok ()) later)
    (fails : ∀ error later answer memory, between (.error error) later →
      call.attempt (failures later.events.length) later.memory = (answer, memory) →
        after (.error error) ⟨memory, later.events ++ [⟨call, answer, memory⟩]⟩) :
    Leads (ExceptT.mk do
      match ← computation.run with
      | .ok _ => return .ok ()
      | .error error =>
          let _ ← Session.answer failures call
          return .error error) session after := by
  unfold Leads at leads ⊢
  rw [ExceptT.run_mk, StateT.run_bind]
  rcases isFirst : computation.run.run session with ⟨error | value, later⟩
  · rw [isFirst] at leads
    exact fails error later _ _ leads rfl
  · rw [isFirst] at leads
    exact succeeds later leads

/-- A call leads to its answer and to the memory that it leaves. -/
theorem call {failures : Failures} {call : Call}
    {after : Except StorageError (Except Fault Unit) → Session → Prop}
    (answers : ∀ answer memory, call.attempt (failures session.events.length) session.memory =
      (answer, memory) → after (.ok answer) ⟨memory, session.events ++ [⟨call, answer, memory⟩]⟩) :
    Leads (liftM (Session.answer failures call)) session after :=
  answers _ _ rfl

/-- The fault of a call at a step ends the computation. -/
theorem atStep {failures : Failures} {call : Call} {step : String}
    {after : Except StorageError Unit → Session → Prop}
    (succeeds : ∀ memory, call.attempt (failures session.events.length) session.memory =
      (.ok (), memory) → after (.ok ()) ⟨memory, session.events ++ [⟨call, .ok (), memory⟩]⟩)
    (fails : ∀ fault memory, call.attempt (failures session.events.length) session.memory =
      (.error fault, memory) →
        after (.error (.disk step)) ⟨memory, session.events ++ [⟨call, .error fault, memory⟩]⟩) :
    Leads (Provisioning.atStep step (Session.answer failures call)) session after := by
  have answered : Leads (liftM (Session.answer failures call)) session fun result later =>
      ∃ answer memory, call.attempt (failures session.events.length) session.memory =
        (answer, memory) ∧ result = .ok answer ∧
          later = ⟨memory, session.events ++ [⟨call, answer, memory⟩]⟩ :=
    Leads.call fun answer memory isAnswer => ⟨answer, memory, isAnswer, rfl, rfl⟩
  refine answered.bind ?_ ?_
  · rintro value later ⟨answer, memory, isAnswer, same, rfl⟩
    cases same
    cases value with
    | ok _ => exact succeeds memory isAnswer
    | error fault => exact fails fault memory isAnswer
  · rintro error later ⟨answer, memory, _, same, _⟩
    cases same

end Leads

end Provisioning
