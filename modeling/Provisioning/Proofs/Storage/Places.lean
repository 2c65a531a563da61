/-
This file says to which places paths lead and what the calls of a memory disk change at them.
-/

import Provisioning.Storage.Memory

namespace Provisioning.Memory

/-- A name leads from one place to another, whether or not anything is there. -/
def along (place : Place) (name : String) : Place :=
  if Path.isIdle name then place else if name == ".." then above place else place ++ [name]

/-- The places that names lead through, one after the other. -/
def through (place : Place) : List String → List Place
  | [] => []
  | name :: names => along place name :: through (along place name) names

/-- The place that the names of a path lead to. -/
def leadTo (names : List String) : Place :=
  (start names).2.foldl along (start names).1

/-- The place that a path names, whether or not anything is there. -/
def placeOf (path : String) : Place :=
  leadTo (Text.pieces '/' path)

/-- What stands at the place that a path names. -/
def at? (memory : Memory) (path : String) : Option Node :=
  memory.nodes.get? (placeOf path)

/-- The directories that lead to a path also lead through the place of the path itself. -/
def LeadsThroughItself (path : String) : Prop :=
  ∃ directory, Path.parent? path = some directory ∧
    placeOf path ∈ through (start (Text.pieces '/' directory)).1 (start (Text.pieces '/' directory)).2

section

variable {memory next : Memory} {place other : Place} {path text source target : String}

/-- A step leads on from a directory only. -/
theorem step_eq_some {name : String} (stepped : memory.step place name = some other) :
    memory.isDirectoryAt place = true ∧ other = along place name := by
  unfold step at stepped
  unfold along
  split at stepped
  · cases stepped
  · next isReached =>
    simp only [Bool.or_eq_true, Bool.not_eq_true', not_or, Bool.not_eq_false] at isReached
    split at stepped
    · next isIdle =>
      cases stepped
      exact ⟨isReached.1, (if_pos isIdle).symm⟩
    · next isName =>
      rw [if_neg isName]
      split at stepped
      · next leadsUp =>
        cases stepped
        exact ⟨isReached.1, (if_pos leadsUp).symm⟩
      · next leadsOn =>
        cases stepped
        exact ⟨isReached.1, (if_neg leadsOn).symm⟩

/-- Steps that can be made lead where the names lead. -/
theorem foldl_along_of_foldlM {names : List String}
    (isPlace : names.foldlM memory.step place = some other) : names.foldl along place = other := by
  induction names generalizing place with
  | nil => exact Option.some.inj isPlace
  | cons name rest inductionHypothesis =>
      rw [List.foldlM_cons, Option.bind_eq_bind, Option.bind_eq_some_iff] at isPlace
      obtain ⟨between, stepped, isPlace⟩ := isPlace
      rw [List.foldl_cons, ← (step_eq_some stepped).2]
      exact inductionHypothesis isPlace

/-- A path that leads anywhere leads to the place that it names. -/
theorem placeOf_eq (isPlace : memory.place? path = some place) : placeOf path = place := by
  unfold place? at isPlace
  split at isPlace
  · exact foldl_along_of_foldlM isPlace
  · cases isPlace

theorem at?_eq (isPlace : memory.place? path = some place) :
    memory.at? path = memory.nodes.get? place := by
  rw [at?, placeOf_eq isPlace]

/-- Only the place that is set changes. -/
theorem at?_set (node : Node) :
    (memory.set place node).at? path = if place = placeOf path then some node else memory.at? path :=
  OrderedMap.get?_insert _ _ _ _

/-- Paths lead to the same places in memories with the same directories. -/
theorem place?_congr {first second : Memory}
    (same : ∀ place, first.isDirectoryAt place = second.isDirectoryAt place) :
    first.place? = second.place? := by
  have sameStep : first.step = second.step := by
    funext place name
    rw [step, step, same]
  funext path
  rw [place?, place?, sameStep]

/-- A file that takes the place of anything but a directory leads no path elsewhere. -/
theorem isDirectoryAt_set_file {contents : Contents} (place : Place)
    (isNone : memory.isDirectoryAt other = false) :
    (memory.set other (.file contents)).isDirectoryAt place = memory.isDirectoryAt place := by
  rw [isDirectoryAt, isDirectoryAt, set, OrderedMap.get?_insert]
  split
  · next same =>
    subst same
    simp only [isDirectoryAt, Bool.or_eq_false_iff] at isNone
    rw [isNone.2]
    rfl
  · rfl

/-- Without a file the directories are the same. -/
theorem isDirectoryAt_erase {contents : Contents} (place : Place)
    (isFile : memory.nodes.get? other = some (.file contents)) :
    (Memory.mk (memory.nodes.erase other)).isDirectoryAt place = memory.isDirectoryAt place := by
  rw [isDirectoryAt, isDirectoryAt, OrderedMap.get?_erase]
  split
  · next same =>
    subst same
    rw [isFile]
    rfl
  · rfl

/-! What the calls change. A call that fails changes nothing, except that directories may arise
along a path. -/

/-- A created file is empty, and no other place changes. -/
theorem at?_of_createFile (created : memory.createFile path = (.ok (), next)) :
    next.at? path = some (.file (.ofText "")) ∧
      ∀ elsewhere, placeOf elsewhere ≠ placeOf path → next.at? elsewhere = memory.at? elsewhere := by
  unfold createFile at created
  split at created
  · cases created
  · next place isPlace =>
    split at created
    · cases created
    · cases created
      rw [← placeOf_eq isPlace]
      refine ⟨by rw [at?_set, if_pos rfl], fun elsewhere isElsewhere => ?_⟩
      rw [at?_set, if_neg (Ne.symm isElsewhere)]

/-- A file that cannot be created leaves everything as it is. -/
theorem eq_of_createFile_error {fault : Fault}
    (failed : memory.createFile path = (.error fault, next)) : next = memory := by
  unfold createFile at failed
  split at failed
  · cases failed
    rfl
  · split at failed <;> cases failed
    rfl

/-- A written file holds the text, and no other place changes. -/
theorem at?_of_write (written : memory.write path text = (.ok (), next)) :
    next.at? path = some (.file (.ofText text)) ∧
      ∀ elsewhere, placeOf elsewhere ≠ placeOf path → next.at? elsewhere = memory.at? elsewhere := by
  unfold write at written
  split at written
  · cases written
  · next place isPlace =>
    split at written
    · cases written
      rw [← placeOf_eq isPlace]
      refine ⟨by rw [at?_set, if_pos rfl], fun elsewhere isElsewhere => ?_⟩
      rw [at?_set, if_neg (Ne.symm isElsewhere)]
    · cases written

/-- A file that cannot be written leaves everything as it is. -/
theorem eq_of_write_error {fault : Fault}
    (failed : memory.write path text = (.error fault, next)) : next = memory := by
  unfold write at failed
  split at failed
  · cases failed
    rfl
  · split at failed <;> cases failed
    rfl

/-- A removed file is gone, and no other place changes. -/
theorem at?_of_remove (removed : memory.remove path = (.ok (), next)) :
    (∃ contents, memory.at? path = some (.file contents)) ∧ next.at? path = none ∧
      ∀ elsewhere, placeOf elsewhere ≠ placeOf path → next.at? elsewhere = memory.at? elsewhere := by
  unfold remove at removed
  split at removed
  · cases removed
  · next place isPlace =>
    split at removed
    · next contents isFile =>
      cases removed
      have isPlaceOf := placeOf_eq isPlace
      subst isPlaceOf
      refine ⟨⟨contents, isFile⟩, ?_, fun elsewhere isElsewhere => ?_⟩
      · rw [at?, OrderedMap.get?_erase, if_pos rfl]
      · rw [at?, OrderedMap.get?_erase, if_neg (Ne.symm isElsewhere)]
        rfl
    · cases removed

/-- A file that cannot be removed leaves everything as it is. -/
theorem eq_of_remove_error {fault : Fault}
    (failed : memory.remove path = (.error fault, next)) : next = memory := by
  unfold remove at failed
  split at failed
  · cases failed
    rfl
  · split at failed <;> cases failed
    rfl

/-- A file that cannot be renamed leaves everything as it is. -/
theorem eq_of_rename_error {fault : Fault}
    (failed : memory.rename source target = (.error fault, next)) : next = memory := by
  unfold rename at failed
  split at failed
  · split at failed
    · split at failed <;> cases failed
      rfl
    · cases failed
      rfl
  · cases failed
    rfl

/-- A file that is renamed is found under its new name. -/
theorem contents?_of_rename (renamed : memory.rename source target = (.ok (), next)) :
    ∃ contents, memory.at? source = some (.file contents) ∧
      next.at? target = some (.file contents) ∧ next.contents? target = some contents := by
  unfold rename at renamed
  split at renamed
  · next sourcePlace targetPlace isSource isTarget =>
    split at renamed
    · next contents isFile =>
      split at renamed
      · cases renamed
      · next isNone =>
        cases renamed
        rw [Bool.not_eq_true] at isNone
        have erased (place : Place) := isDirectoryAt_erase place isFile
        have same : ∀ place, ((Memory.mk (memory.nodes.erase sourcePlace)).set targetPlace
            (.file contents)).isDirectoryAt place = memory.isDirectoryAt place := by
          intro place
          rw [isDirectoryAt_set_file place ((erased targetPlace).trans isNone), erased]
        have isTargetStill := (congrFun (place?_congr same) target).trans isTarget
        have isFileNow : ((Memory.mk (memory.nodes.erase sourcePlace)).set targetPlace
            (.file contents)).nodes.get? targetPlace = some (.file contents) := by
          rw [set, OrderedMap.get?_insert, if_pos rfl]
        refine ⟨contents, (at?_eq isSource).trans isFile, (at?_eq isTargetStill).trans isFileNow, ?_⟩
        rw [contents?, isTargetStill, Option.bind_some, isFileNow]
    · cases renamed
  · cases renamed

/-- Where directories arise, there was nothing, and the names lead through there. -/
theorem get?_makeDirectories (memory : Memory) (place other : Place) (names : List String) :
    (memory.makeDirectories place names).2.nodes.get? other = memory.nodes.get? other ∨
      memory.nodes.get? other = none ∧
        (memory.makeDirectories place names).2.nodes.get? other = some .directory ∧
        other ∈ through place names := by
  induction names generalizing memory place with
  | nil => exact .inl rfl
  | cons name rest inductionHypothesis =>
      rw [makeDirectories, through]
      cases stepped : memory.step place name with
      | none => exact .inl rfl
      | some next =>
          obtain rfl := (step_eq_some stepped).2
          dsimp only
          split
          · rcases inductionHypothesis memory (along place name) with same | ⟨isNone, arises, listed⟩
            · exact .inl same
            · exact .inr ⟨isNone, arises, List.mem_cons_of_mem _ listed⟩
          · next isNew =>
            rw [Bool.not_eq_true, Bool.or_eq_false_iff, Option.isSome_eq_false_iff,
              Option.isNone_iff_eq_none] at isNew
            have inserted : (memory.set (along place name) .directory).nodes.get? other =
                if along place name = other then some .directory else memory.nodes.get? other :=
              OrderedMap.get?_insert _ _ _ _
            rcases inductionHypothesis (memory.set (along place name) .directory)
              (along place name) with same | ⟨isNone, arises, listed⟩
            · rw [same, inserted]
              split
              · next here =>
                subst here
                exact .inr ⟨isNew.2, rfl, List.mem_cons_self⟩
              · exact .inl rfl
            · rw [inserted] at isNone
              split at isNone
              · cases isNone
              · exact .inr ⟨isNone, arises, List.mem_cons_of_mem _ listed⟩

/-- Directories that are created leave a path alone unless the path leads through itself. -/
theorem at?_createDirectories (memory : Memory) {directory : String}
    (isParent : Path.parent? path = some directory) :
    (memory.createDirectories directory).2.at? path = memory.at? path ∨
      memory.at? path = none ∧
        (memory.createDirectories directory).2.at? path = some .directory ∧
        LeadsThroughItself path := by
  unfold createDirectories
  split
  · exact .inl rfl
  · split
    · rcases get?_makeDirectories memory (start (Text.pieces '/' directory)).1 (placeOf path)
        (start (Text.pieces '/' directory)).2 with same | ⟨isNone, arises, listed⟩
      · exact .inl same
      · exact .inr ⟨isNone, arises, directory, isParent, listed⟩
    · exact .inl rfl

/-- A file is never made by creating directories. -/
theorem at?_of_createDirectories_file {directory : String} {contents : Contents}
    (isFile : (memory.createDirectories directory).2.at? path = some (.file contents)) :
    memory.at? path = some (.file contents) := by
  unfold createDirectories at isFile
  split at isFile
  · exact isFile
  · split at isFile
    · rcases get?_makeDirectories memory (start (Text.pieces '/' directory)).1 (placeOf path)
        (start (Text.pieces '/' directory)).2 with same | ⟨_, arises, _⟩
      · exact same.symm.trans isFile
      · cases arises.symm.trans isFile
    · exact isFile

end

end Provisioning.Memory
