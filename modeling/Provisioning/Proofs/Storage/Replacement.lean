/-
This file follows the replacement of a file through every pattern of failing calls.
-/

import Provisioning.Proofs.Storage.FaultyDisk
import Provisioning.Proofs.Storage.Siblings

namespace Provisioning.StateFile

open Memory

/-- The file at a path has been removed. -/
def Removed (path : String) (session : Session) : Prop :=
  ∃ event ∈ session.events, event.call = .remove path ∧ event.answer = .ok ()

/-- A rename has failed because its target exists. -/
def Refused (source target : String) (session : Session) : Prop :=
  ∃ event ∈ session.events, event.call = .rename source target ∧ event.answer = .error .alreadyExists

/-- A file could not be removed. -/
def Remains (path : String) (session : Session) : Prop :=
  ∃ event ∈ session.events, event.call = .remove path ∧ ∃ fault, event.answer = .error fault

/-- What stands at a target is what stood there first, the new file, or nothing once the target is
displaced. -/
def Expected (old : Option Node) (contents : Contents) (displaced : Bool) (now : Option Node) : Prop :=
  now = old ∨ now = some (.file contents) ∨ displaced = true ∧ now = none

/-- The record of a session that goes on from earlier events, as far as it concerns a target. -/
structure History (source path : String) (earlier : List Event) (old : Option Node)
    (contents : Contents) (displaced : Bool) (now : Option Node) (session : Session) : Prop where
  isNow : session.memory.at? path = now
  goesOn : earlier <+: session.events
  expected : Expected old contents displaced now
  past : ∀ event ∈ session.events, Expected old contents displaced (event.memory.at? path)
  removed : Removed path session ↔ displaced = true
  /-- A target is displaced only if it was a file and a rename over it has been refused. -/
  displacement : displaced = true → (∃ file, old = some (.file file)) ∧
    Refused source path session ∧ ∃ event ∈ session.events, event.memory.at? path = none

section

variable {source path text : String} {earlier : List Event} {old now later : Option Node}
  {contents : Contents} {displaced : Bool} {session : Session} {failures : Failures}

/-- A file has been removed before the last event or by it. -/
theorem removed_append_iff {event : Event} {memory : Memory} :
    Removed path ⟨memory, session.events ++ [event]⟩ ↔
      Removed path session ∨ event.call = .remove path ∧ event.answer = .ok () := by
  simp only [Removed, List.mem_append, List.mem_singleton, or_and_right, exists_or, exists_eq_left]

theorem Refused.append {event : Event} {memory : Memory}
    (refused : Refused source path session) :
    Refused source path ⟨memory, session.events ++ [event]⟩ := by
  obtain ⟨other, listed, isRefused⟩ := refused
  exact ⟨other, List.mem_append_left _ listed, isRefused⟩

/-- A record goes on with every call but a removal of the target. -/
theorem History.append {call : Call} {answer : Except Fault Unit} {memory : Memory}
    (history : History source path earlier old contents displaced now session)
    (isLater : memory.at? path = later) (expected : Expected old contents displaced later)
    (keeps : ¬(call = .remove path ∧ answer = .ok ())) :
    History source path earlier old contents displaced later
      ⟨memory, session.events ++ [⟨call, answer, memory⟩]⟩ where
  isNow := isLater
  goesOn := history.goesOn.trans (List.prefix_append _ _)
  expected := expected
  past event listed := by
    rcases List.mem_append.1 listed with isPast | isLast
    · exact history.past event isPast
    · rw [List.mem_singleton.1 isLast, isLater]
      exact expected
  removed := by
    rw [removed_append_iff, history.removed]
    exact or_iff_left keeps
  displacement isDisplaced := by
    obtain ⟨isFile, refused, event, listed, isGap⟩ := history.displacement isDisplaced
    exact ⟨isFile, refused.append, event, List.mem_append_left _ listed, isGap⟩

/-- Once a rename is refused, the removal of the target displaces it. -/
theorem History.displace {memory : Memory}
    (history : History source path earlier old contents false old session)
    (isFile : ∃ file, old = some (.file file)) (refused : Refused source path session)
    (isGone : memory.at? path = none) :
    History source path earlier old contents true none
      ⟨memory, session.events ++ [⟨.remove path, .ok (), memory⟩]⟩ where
  isNow := isGone
  goesOn := history.goesOn.trans (List.prefix_append _ _)
  expected := .inr (.inr ⟨rfl, rfl⟩)
  past event listed := by
    rcases List.mem_append.1 listed with isPast | isLast
    · rcases history.past event isPast with same | isNew | ⟨isDisplaced, _⟩
      · exact .inl same
      · exact .inr (.inl isNew)
      · cases isDisplaced
    · rw [List.mem_singleton.1 isLast, isGone]
      exact .inr (.inr ⟨rfl, rfl⟩)
  removed := by
    rw [removed_append_iff]
    exact iff_of_true (.inr ⟨rfl, rfl⟩) rfl
  displacement _ := ⟨isFile, refused.append, _, List.mem_append_right _ (List.mem_singleton_self _),
    isGone⟩

/-- A call on the temporary file adds nothing but itself to the history of the target. -/
theorem History.onTemporary {call : Call} {answer : Except Fault Unit} {memory : Memory}
    {failure : Option Failure} (apart : placeOf path ≠ placeOf source)
    (history : History source path earlier old contents displaced now session)
    (concerns : call.Concerns source)
    (answered : call.attempt failure session.memory = (answer, memory)) :
    History source path earlier old contents displaced now
      ⟨memory, session.events ++ [⟨call, answer, memory⟩]⟩ := by
  have same := Call.at?_attempt concerns apart failure session.memory
  rw [answered, history.isNow] at same
  refine history.append same history.expected ?_
  rintro ⟨isRemoval, _⟩
  rw [isRemoval] at concerns
  cases concerns
  exact apart rfl

/-- The target is not touched before the temporary file holds the whole text. -/
theorem leads_writeTemporary (apart : placeOf path ≠ placeOf source)
    (history : History source path earlier old contents displaced now session) :
    Leads (writeTemporary (faultyDisk failures) source text) session fun result after =>
      History source path earlier old contents displaced now after ∧
        (result = .ok () → after.memory.at? source = some (.file (.ofText text))) := by
  have created : Leads (atStep s!"Temp creation failed: {source}"
      (Session.answer failures (.createFile source))) session fun _ after =>
      History source path earlier old contents displaced now after :=
    .atStep (fun _ answered => history.onTemporary apart .createFile answered)
      fun _ _ answered => history.onTemporary apart .createFile answered
  refine created.bind (fun _ after history => ?_) fun error after history => ⟨history, nofun⟩
  have written : Leads (atStep "Write failed"
      (Session.answer failures (.write source text))) after fun result after =>
      History source path earlier old contents displaced now after ∧
        (result = .ok () → after.memory.at? source = some (.file (.ofText text))) := by
    refine .atStep (fun memory answered => ⟨history.onTemporary apart (.write text) answered, ?_⟩)
      fun _ _ answered => ⟨history.onTemporary apart (.write text) answered, nofun⟩
    intro _
    exact (at?_of_write (Call.attempt_eq_ok answered)).1
  refine written.bind (fun _ after holds => ?_) fun error after holds => ⟨holds.1, nofun⟩
  refine .atStep (fun memory answered => ⟨holds.1.onTemporary apart .sync answered, ?_⟩)
    fun _ _ answered => ⟨holds.1.onTemporary apart .sync answered, nofun⟩
  intro _
  have unchanged := (Prod.mk.inj (Call.attempt_eq_ok answered)).2
  rw [← unchanged]
  exact holds.2 rfl

/-- How the target is found after an attempt to replace it. -/
inductive Settled (source path : String) (earlier : List Event) (old : Option Node)
    (contents : Contents) (after : Session) : Except StorageError Unit → Prop where
  | replaced {displaced : Bool}
      (history : History source path earlier old contents displaced (some (.file contents)) after)
      (isFound : after.memory.contents? path = some contents) :
      Settled source path earlier old contents after (.ok ())
  | kept {error : StorageError} (history : History source path earlier old contents false old after) :
      Settled source path earlier old contents after (.error error)
  | lost {error : StorageError} (history : History source path earlier old contents true none after) :
      Settled source path earlier old contents after (.error error)

/-- A rename that succeeds puts the temporary file in the place of the target. -/
theorem History.rename {memory : Memory} {failure : Option Failure}
    (history : History source path earlier old contents displaced now session)
    (filled : session.memory.at? source = some (.file contents))
    (answered : (Call.rename source path).attempt failure session.memory = (.ok (), memory)) :
    Settled source path earlier old contents
      ⟨memory, session.events ++ [⟨.rename source path, .ok (), memory⟩]⟩ (.ok ()) := by
  obtain ⟨found, isSource, isTarget, isFound⟩ :=
    contents?_of_rename (Call.attempt_eq_ok answered)
  cases isSource.symm.trans filled
  exact .replaced (history.append isTarget (.inr (.inl rfl)) fun removal => nomatch removal.1)
    isFound

/-- A rename that fails changes nothing. -/
theorem History.rename_error {memory : Memory} {failure : Option Failure} {fault : Fault}
    (history : History source path earlier old contents displaced now session)
    (answered : (Call.rename source path).attempt failure session.memory =
      (.error fault, memory)) :
    History source path earlier old contents displaced now
      ⟨memory, session.events ++ [⟨.rename source path, .error fault, memory⟩]⟩ := by
  rw [Call.attempt_rename_error answered]
  exact history.append history.isNow history.expected fun removal => nomatch removal.1

/-- A target that is removed after a refused rename leaves its place to the temporary file. -/
theorem leads_displace {step : String} (apart : placeOf path ≠ placeOf source)
    (history : History source path earlier old contents false old session)
    (refused : Refused source path session)
    (filled : session.memory.at? source = some (.file contents)) :
    Leads (atStep step (Session.answer failures (.remove path))) session fun result after =>
      (result = .ok () → History source path earlier old contents true none after ∧
        after.memory.at? source = some (.file contents)) ∧
      ∀ error, result = .error error → History source path earlier old contents false old after := by
  refine .atStep (fun memory answered => ⟨fun _ => ?_, nofun⟩)
    fun fault memory answered => ⟨nofun, fun _ _ => ?_⟩
  · obtain ⟨isFile, isGone, _⟩ := at?_of_remove (Call.attempt_eq_ok answered)
    rw [history.isNow] at isFile
    have concerns : (Call.remove path).Concerns path := .remove
    have same := Call.at?_attempt concerns (Ne.symm apart) (failures session.events.length)
      session.memory
    rw [answered, filled] at same
    exact ⟨history.displace isFile refused isGone, same⟩
  · rw [Call.attempt_remove_error answered]
    refine history.append history.isNow history.expected ?_
    rintro ⟨_, succeeded⟩
    cases succeeded

/-- The swap ends settled, whichever of its calls fail. -/
theorem leads_swap (apart : placeOf path ≠ placeOf source)
    (history : History source path earlier old contents false old session)
    (filled : session.memory.at? source = some (.file contents)) :
    Leads (swap (faultyDisk failures) source path) session fun result after =>
      Settled source path earlier old contents after result := by
  -- The first rename succeeds, is refused because the target exists, or fails otherwise.
  have renamed : Leads (liftM ((faultyDisk failures).rename source path)) session
      fun result after =>
        ∃ answer, result = .ok answer ∧
          (answer = .ok () → Settled source path earlier old contents after (.ok ())) ∧
          ∀ fault, answer = .error fault → History source path earlier old contents false old after ∧
            after.memory.at? source = some (.file contents) ∧
            (fault = .alreadyExists → Refused source path after) := by
    refine .call fun answer memory answered => ⟨answer, rfl, ?_, ?_⟩
    · rintro rfl
      exact history.rename filled answered
    · rintro fault rfl
      refine ⟨history.rename_error answered, ?_, ?_⟩
      · rw [Call.attempt_rename_error answered]
        exact filled
      · rintro rfl
        exact ⟨_, List.mem_append_right _ (List.mem_singleton_self _), rfl, rfl⟩
  refine renamed.bind ?_ fun error after holds => ?_
  · rintro answer after ⟨_, ⟨⟩, succeeds, fails⟩
    split
    · next => exact succeeds rfl
    · next =>
      obtain ⟨history, filled, refused⟩ := fails _ rfl
      refine (leads_displace apart history (refused rfl) filled).bind ?_ ?_
      · rintro ⟨⟩ later ⟨removed, _⟩
        obtain ⟨history, filled⟩ := removed rfl
        exact .atStep (fun _ answered => history.rename filled answered)
          fun _ _ answered => .lost (history.rename_error answered)
      · rintro error later ⟨_, failed⟩
        exact .kept (failed error rfl)
    · next => exact .kept (fails _ rfl).1
  · obtain ⟨_, same, _⟩ := holds
    cases same

/-- Filling the temporary file and swapping it in ends settled. -/
theorem leads_fill (apart : placeOf path ≠ placeOf source)
    (history : History source path earlier old (.ofText text) false old session) :
    Leads (fill (faultyDisk failures) source path text) session fun result after =>
      Settled source path earlier old (.ofText text) after result :=
  (leads_writeTemporary apart history).bind
    (fun _ _ holds => leads_swap apart holds.1 (holds.2 rfl)) fun _ _ holds => .kept holds.1

/-- Removing the temporary file leaves the target as it is. -/
theorem Settled.cleanUp {error : StorageError} {answer : Except Fault Unit} {memory : Memory}
    {failure : Option Failure} (apart : placeOf path ≠ placeOf source)
    (settled : Settled source path earlier old contents session (.error error))
    (answered : (Call.remove source).attempt failure session.memory = (answer, memory)) :
    Settled source path earlier old contents
      ⟨memory, session.events ++ [⟨.remove source, answer, memory⟩]⟩ (.error error) := by
  cases settled with
  | kept history => exact .kept (history.onTemporary apart .remove answered)
  | lost history => exact .lost (history.onTemporary apart .remove answered)

/-- A replacement ends settled, and a failed one leaves no temporary file that could be removed. -/
theorem leads_replace {tag : String} (apart : placeOf path ≠ placeOf (temporary tag path))
    (history : History (temporary tag path) path earlier old (.ofText text) false old session) :
    Leads (replace (faultyDisk failures) tag path text) session fun result after =>
      Settled (temporary tag path) path earlier old (.ofText text) after result ∧
        ∀ error, result = .error error →
          after.memory.at? (temporary tag path) = none ∨ Remains (temporary tag path) after := by
  refine (leads_fill apart history).afterError (fun _ settled => ⟨settled, nofun⟩) ?_
  intro error later answer memory settled answered
  refine ⟨settled.cleanUp apart answered, fun _ _ => ?_⟩
  cases answer with
  | ok _ => exact .inl (at?_of_remove (Call.attempt_eq_ok answered)).2.1
  | error fault =>
      exact .inr ⟨_, List.mem_append_right _ (List.mem_singleton_self _), rfl, fault, rfl⟩

end

end Provisioning.StateFile
