/-
This file proves what becomes of a state file when calls fail while it is written.
-/

import Provisioning.Proofs.Storage.Replacement

namespace Provisioning.StateFile

open Memory

/-- Nothing stood at a path, and then a directory. -/
def Blocked (path : String) (before : Memory) (session : Session) : Prop :=
  before.at? path = none ∧ ∃ event ∈ session.events, event.memory.at? path = some .directory

/-- The session of a write, once the directories for it have been made. -/
structure Prepared (source path : String) (before : Memory) (contents : Contents)
    (session : Session) : Prop where
  history : History source path session.events (session.memory.at? path) contents false
    (session.memory.at? path) session
  /-- The target is as before, unless a directory has arisen in its place. -/
  isOld : session.memory.at? path = before.at? path ∨ LeadsThroughItself path ∧
    session.memory.at? path = some .directory ∧ Blocked path before session
  files : ∀ file, session.memory.at? source = some (.file file) →
    before.at? source = some (.file file)

section

variable {before : Memory} {path text tag : String} {contents : Contents} {failures : Failures}

/-- A write is prepared before its first call. -/
theorem prepared_start (source path : String) (before : Memory) (contents : Contents) :
    Prepared source path before contents (.start before) where
  history := ⟨rfl, List.prefix_rfl, .inl rfl, nofun, ⟨nofun, nofun⟩, nofun⟩
  isOld := .inl rfl
  files _ isFile := isFile

/-- Whether or not they can be made, directories leave no file behind and remove none. -/
theorem prepared_createDirectories {source directory : String} {answer : Except Fault Unit}
    {memory : Memory} (isParent : Path.parent? path = some directory)
    (answered : (Call.createDirectories directory).attempt (failures 0) before = (answer, memory)) :
    Prepared source path before contents
      ⟨memory, [⟨.createDirectories directory, answer, memory⟩]⟩ := by
  have history : History source path [⟨.createDirectories directory, answer, memory⟩]
      (memory.at? path) contents false (memory.at? path)
      ⟨memory, [⟨.createDirectories directory, answer, memory⟩]⟩ := by
    refine ⟨rfl, List.prefix_rfl, .inl rfl, ?_, ⟨?_, nofun⟩, nofun⟩
    · intro event listed
      rw [List.mem_singleton.1 listed]
      exact .inl rfl
    · rintro ⟨event, listed, isRemoval, _⟩
      rw [List.mem_singleton.1 listed] at isRemoval
      cases isRemoval
  cases isFailure : failures 0 with
  | some failure =>
      rw [isFailure] at answered
      cases answered
      exact ⟨history, .inl rfl, fun _ isFile => isFile⟩
  | none =>
      rw [isFailure] at answered
      have made : (before.createDirectories directory).2 = memory := congrArg Prod.snd answered
      refine ⟨history, ?_, fun file isFile => ?_⟩
      · rcases at?_createDirectories before isParent with same | ⟨isNone, arises, loops⟩
        · exact .inl (made ▸ same)
        · rw [made] at arises
          exact .inr ⟨loops, arises, isNone, _, List.mem_singleton_self _, arises⟩
      · rw [← made] at isFile
        exact at?_of_createDirectories_file isFile

/-- How a write ends, seen from the session in which its directories had been made. -/
structure Written (source path : String) (before : Memory) (contents : Contents)
    (result : Except StorageError Unit) (after : Session) : Prop where
  exists_prepared : ∃ prepared, Prepared source path before contents prepared ∧
    Settled source path prepared.events (prepared.memory.at? path) contents after result
  cleaned : ∀ error, result = .error error → ∀ file,
    after.memory.at? source = some (.file file) →
      before.at? source = some (.file file) ∨ Remains source after

/-- A write ends as described, whichever of its calls fail. -/
theorem leads_write (whole : '/' ∉ tag.toList) (failures : Failures) (path : String)
    (state : ProvisionedState) (before : Memory) :
    Leads (write (faultyDisk failures) tag path state) (.start before) fun result after =>
      Written (temporary tag path) path before (.ofText state.toFileText) result after := by
  have apart := Ne.symm (placeOf_temporary_ne whole path)
  have replaces {session : Session}
      (prepared : Prepared (temporary tag path) path before (.ofText state.toFileText) session) :
      Leads (replace (faultyDisk failures) tag path state.toFileText) session fun result after =>
        Written (temporary tag path) path before (.ofText state.toFileText) result after :=
    (leads_replace apart prepared.history).mono fun result after ⟨settled, cleaned⟩ =>
      ⟨⟨session, prepared, settled⟩, fun error isError file isFile => .inr <|
        (cleaned error isError).resolve_left fun isGone => nomatch isFile.symm.trans isGone⟩
  unfold write
  cases isParent : Path.parent? path with
  | none => exact replaces (prepared_start _ path before _)
  | some directory =>
      have prepares : Leads (atStep s!"Failed to create {directory}"
          (Session.answer failures (.createDirectories directory))) (.start before) fun _ after =>
          Prepared (temporary tag path) path before (.ofText state.toFileText) after :=
        .atStep (fun _ answered => prepared_createDirectories isParent answered)
          fun _ _ answered => prepared_createDirectories isParent answered
      refine prepares.bind (fun _ _ prepared => replaces prepared) fun error after prepared => ?_
      exact ⟨⟨after, prepared, .kept prepared.history⟩, fun _ _ file isFile =>
        .inl (prepared.files file isFile)⟩

/-- What a state file would have to go through for a write to be atomic. -/
structure KeepsTarget (source path : String) (before : Memory) (contents : Contents)
    (result : Except StorageError Unit) (after : Session) : Prop where
  /-- A write that succeeds leaves the new text. -/
  written : result = .ok () → after.memory.contents? path = some contents
  /-- A write that fails leaves what was there before. -/
  kept : ∀ error, result = .error error → after.memory.at? path = before.at? path
  /-- At every step the target is as it was before or has the whole new text. -/
  steps : ∀ event ∈ after.events,
    event.memory.at? path = before.at? path ∨ event.memory.at? path = some (.file contents)
  /-- A temporary file that is left was there before or could not be removed. -/
  cleaned : ∀ error, result = .error error → ∀ file,
    after.memory.at? source = some (.file file) →
      before.at? source = some (.file file) ∨ Remains source after

/-- A write is atomic but for two cases: the target is removed to make room for the new file, or a
directory arises in its place. -/
structure Atomicity (source path : String) (before : Memory) (contents : Contents)
    (result : Except StorageError Unit) (after : Session) : Prop where
  keepsTarget_iff : KeepsTarget source path before contents result after ↔
    ¬Removed path after ∧ ¬Blocked path before after
  /-- The target is removed only when a rename has been refused because it exists. -/
  refused : Removed path after → Refused source path after
  /-- A directory arises only in the place of a target whose path leads through itself and back. -/
  goesBack : Blocked path before after → LeadsThroughItself path ∧ ".." ∈ Text.pieces '/' path
  /-- Once the target is removed, a write that fails leaves nothing in its place. -/
  lost : Removed path after → ∀ error, result = .error error → after.memory.at? path = none
  /-- In any case a write that succeeds leaves the new text. -/
  written : result = .ok () → after.memory.contents? path = some contents
  /-- Whatever file is found under the path holds the old text or the whole new one. -/
  unbroken : ∀ event ∈ after.events, ∀ file, event.memory.at? path = some (.file file) →
    before.at? path = some (.file file) ∨ file = contents

section

variable {source : String} {result : Except StorageError Unit} {after : Session}

/-- A settled session has a record. -/
theorem Settled.exists_history {earlier : List Event} {old : Option Node}
    (settled : Settled source path earlier old contents after result) :
    ∃ displaced now, History source path earlier old contents displaced now after := by
  cases settled with
  | replaced history => exact ⟨_, _, history⟩
  | kept history => exact ⟨_, _, history⟩
  | lost history => exact ⟨_, _, history⟩

namespace Prepared

variable {prepared : Session}

/-- A file that stands at the target once the directories are made was there before. -/
theorem isOld_of_file (isPrepared : Prepared source path before contents prepared)
    {file : Contents} (isFile : prepared.memory.at? path = some (.file file)) :
    before.at? path = some (.file file) := by
  rcases isPrepared.isOld with same | ⟨_, isDirectory, _⟩
  · exact same.symm.trans isFile
  · cases isDirectory.symm.trans isFile

/-- A directory that arises in the place of the target stays on record. -/
theorem isOld_of_not_blocked (isPrepared : Prepared source path before contents prepared)
    (goesOn : prepared.events <+: after.events) (notBlocked : ¬Blocked path before after) :
    prepared.memory.at? path = before.at? path := by
  rcases isPrepared.isOld with same | ⟨_, _, isNone, event, listed, arises⟩
  · exact same
  · exact absurd ⟨isNone, event, goesOn.subset listed, arises⟩ notBlocked

end Prepared

namespace Written

/-- The target is removed only after a rename over it has been refused. -/
theorem refused (isWritten : Written source path before contents result after)
    (removed : Removed path after) : Refused source path after := by
  obtain ⟨prepared, _, settled⟩ := isWritten.exists_prepared
  obtain ⟨displaced, now, history⟩ := settled.exists_history
  exact (history.displacement (history.removed.1 removed)).2.1

/-- A directory arises in place of the target only if the path leads through itself. -/
theorem leadsThroughItself (isWritten : Written source path before contents result after)
    (blocked : Blocked path before after) : LeadsThroughItself path := by
  obtain ⟨prepared, isPrepared, settled⟩ := isWritten.exists_prepared
  obtain ⟨displaced, now, history⟩ := settled.exists_history
  obtain ⟨isNone, event, listed, isDirectory⟩ := blocked
  have expected := history.past event listed
  rw [isDirectory] at expected
  rcases expected with isOld | isNew | ⟨_, isGone⟩
  · rcases isPrepared.isOld with same | ⟨loops, _⟩
    · cases isOld.trans (same.trans isNone)
    · exact loops
  · cases isNew
  · cases isGone

/-- A file at the target is the one from before or the new one. -/
theorem unbroken (isWritten : Written source path before contents result after) {event : Event}
    (listed : event ∈ after.events) {file : Contents}
    (isFile : event.memory.at? path = some (.file file)) :
    before.at? path = some (.file file) ∨ file = contents := by
  obtain ⟨prepared, isPrepared, settled⟩ := isWritten.exists_prepared
  obtain ⟨displaced, now, history⟩ := settled.exists_history
  have expected := history.past event listed
  rw [isFile] at expected
  rcases expected with isOld | isNew | ⟨_, isGone⟩
  · exact .inl (isPrepared.isOld_of_file isOld.symm)
  · cases isNew
    exact .inr rfl
  · cases isGone

/-- A write that fails after it has removed the target leaves nothing there. -/
theorem lost (isWritten : Written source path before contents result after)
    (removed : Removed path after) {error : StorageError} (failed : result = .error error) :
    after.memory.at? path = none := by
  obtain ⟨prepared, _, settled⟩ := isWritten.exists_prepared
  cases settled with
  | replaced => cases failed
  | kept history => cases history.removed.1 removed
  | lost history => exact history.isNow

/-- A write that succeeds leaves the new contents. -/
theorem written (isWritten : Written source path before contents result after)
    (succeeds : result = .ok ()) : after.memory.contents? path = some contents := by
  obtain ⟨prepared, _, settled⟩ := isWritten.exists_prepared
  cases settled with
  | replaced _ isFound => exact isFound
  | kept => cases succeeds
  | lost => cases succeeds

/-- Without a removal and without a directory in its place, nothing happens to the target. -/
theorem keepsTarget (isWritten : Written source path before contents result after)
    (notRemoved : ¬Removed path after) (notBlocked : ¬Blocked path before after) :
    KeepsTarget source path before contents result after := by
  obtain ⟨prepared, isPrepared, settled⟩ := isWritten.exists_prepared
  obtain ⟨displaced, now, history⟩ := settled.exists_history
  have isOld := isPrepared.isOld_of_not_blocked history.goesOn notBlocked
  refine ⟨isWritten.written, ?_, fun event listed => ?_, isWritten.cleaned⟩
  · rintro error rfl
    cases settled with
    | kept history => exact history.isNow.trans isOld
    | lost history => exact absurd (history.removed.2 rfl) notRemoved
  · rcases history.past event listed with same | isNew | ⟨isDisplaced, _⟩
    · exact .inl (same.trans isOld)
    · exact .inr isNew
    · exact absurd (history.removed.2 isDisplaced) notRemoved

/-- A removal leaves a gap where a file was. -/
theorem not_removed (isWritten : Written source path before contents result after)
    (keeps : KeepsTarget source path before contents result after) : ¬Removed path after := by
  intro removed
  obtain ⟨prepared, isPrepared, settled⟩ := isWritten.exists_prepared
  obtain ⟨displaced, now, history⟩ := settled.exists_history
  obtain ⟨⟨file, isFile⟩, _, event, listed, isGone⟩ :=
    history.displacement (history.removed.1 removed)
  rcases keeps.steps event listed with isOld | isNew
  · cases (isOld.symm.trans isGone).symm.trans (isPrepared.isOld_of_file isFile)
  · cases isNew.symm.trans isGone

end Written

/-- A target that keeps what it has is not replaced by a directory. -/
theorem KeepsTarget.not_blocked (keeps : KeepsTarget source path before contents result after) :
    ¬Blocked path before after := by
  rintro ⟨isNone, event, listed, isDirectory⟩
  rcases keeps.steps event listed with isOld | isNew
  · cases isDirectory.symm.trans (isOld.trans isNone)
  · cases isNew.symm.trans isDirectory

end

/-- A write is atomic, except for a removal of the target or a directory in its place. -/
theorem atomicity_of_write (whole : '/' ∉ tag.toList) (failures : Failures) (path : String)
    (state : ProvisionedState) (before : Memory) :
    Leads (write (faultyDisk failures) tag path state) (.start before) fun result after =>
      Atomicity (temporary tag path) path before (.ofText state.toFileText) result after :=
  (leads_write whole failures path state before).mono fun _ _ isWritten => {
    keepsTarget_iff :=
      ⟨fun keeps => ⟨isWritten.not_removed keeps, keeps.not_blocked⟩,
        fun ⟨notRemoved, notBlocked⟩ => isWritten.keepsTarget notRemoved notBlocked⟩
    refused := isWritten.refused
    goesBack := fun blocked =>
      ⟨isWritten.leadsThroughItself blocked, by
        by_contra direct
        exact not_leadsThroughItself direct (isWritten.leadsThroughItself blocked)⟩
    lost := fun removed _ failed => isWritten.lost removed failed
    written := isWritten.written
    unbroken := fun _ listed _ isFile => isWritten.unbroken listed isFile }

end

/-! A ledger whose writes fail. -/

namespace Ledger

def before : Memory :=
  Memory.empty.set ["ledger"] (.file (.ofText "old"))

/-- The text is written in part, and the temporary file can be removed. -/
def spoiling : Failures
  | 2 => some ⟨.other, some "ne"⟩
  | _ => none

/-- The rename is refused because the ledger exists, and it fails again when the ledger is gone. -/
def displacing : Failures
  | 4 => some ⟨.alreadyExists, none⟩
  | 6 => some ⟨.other, none⟩
  | _ => none

/-- The directories for the ledger lead through its own place. -/
def looping : String := "a/b/../b"

/-- An empty state is written to a path. -/
def attempt (failures : Failures) (path : String) (memory : Memory) :
    Except StorageError Unit × Session :=
  (write (faultyDisk failures) "1.0" path .empty).run.run (.start memory)

/-- An empty state is written to a path, or the path keeps what it has. -/
def Keeps (failures : Failures) (path : String) (memory : Memory) : Prop :=
  KeepsTarget (temporary "1.0" path) path memory (.ofText ProvisionedState.empty.toFileText)
    (attempt failures path memory).1 (attempt failures path memory).2

/-- The ledger is not removed when only its text is written in part. -/
theorem not_removed_spoiling : ¬Removed "ledger" (attempt spoiling "ledger" before).2 := by
  unfold Removed
  decide +kernel

theorem not_blocked_spoiling : ¬Blocked "ledger" before (attempt spoiling "ledger" before).2 := by
  unfold Blocked
  decide +kernel

/-- Neither the old ledger nor the new one is left. -/
theorem displaced :
    (attempt displacing "ledger" before).1 =
        .error (.disk "Atomic swap failed: ledger.fpmtmp.1.0 -> ledger") ∧
      (attempt displacing "ledger" before).2.memory.at? "ledger" = none := by
  decide +kernel

/-- The directories made for the ledger stand in its way. -/
theorem blocked :
    (attempt (fun _ => none) looping .empty).1 =
        .error (.disk "Atomic swap failed: a/b/../b.fpmtmp.1.0 -> a/b/../b") ∧
      (attempt (fun _ => none) looping .empty).2.memory.at? looping = some .directory := by
  decide +kernel

end Ledger

/-- A ledger whose replacement is written in part stays as it is. -/
theorem keepsTarget_spoiled_ledger : '/' ∉ "1.0".toList ∧
    Ledger.Keeps Ledger.spoiling "ledger" Ledger.before := by
  have whole : '/' ∉ "1.0".toList := by decide
  have atomicity := atomicity_of_write whole Ledger.spoiling "ledger" .empty Ledger.before
  exact ⟨whole, atomicity.keepsTarget_iff.2
    ⟨Ledger.not_removed_spoiling, Ledger.not_blocked_spoiling⟩⟩

/-- A ledger is lost when it is removed and the second rename fails, and without any failure a
directory comes to stand where the path of a ledger leads through itself. -/
theorem not_keepsTarget_ledger :
    ¬Ledger.Keeps Ledger.displacing "ledger" Ledger.before ∧
      ¬Ledger.Keeps (fun _ => none) Ledger.looping .empty := by
  constructor
  · intro keeps
    have isOld : Ledger.before.at? "ledger" = some (.file (.ofText "old")) := by decide +kernel
    have same := keeps.kept _ Ledger.displaced.1
    cases (same.symm.trans Ledger.displaced.2).symm.trans isOld
  · intro keeps
    have isNone : Memory.empty.at? Ledger.looping = none := by decide +kernel
    have same := keeps.kept _ Ledger.blocked.1
    cases (same.symm.trans Ledger.blocked.2).symm.trans isNone

end Provisioning.StateFile
