/-
This file proves that a temporary file stands at another place than its target, and it says which
paths lead through themselves.
-/

import Mathlib.Data.List.TakeWhile
import Provisioning.Proofs.Storage.Places
import Provisioning.Proofs.Text.Split
import Provisioning.Storage.StateFile

namespace Provisioning

namespace Text

/-- A text without the separator is one piece. -/
theorem pieces_of_notMem {separator : Char} {text : String} (absent : separator ∉ text.toList) :
    pieces separator text = [text] := by
  rw [pieces, piecesOf_of_notMem absent, List.map_singleton, String.ofList_toList]

theorem notMem_of_mem_pieces {separator : Char} {text piece : String}
    (listed : piece ∈ pieces separator text) : separator ∉ piece.toList :=
  (pieces_eq_iff.1 rfl).2.1 piece listed

/-- Names without a slash are read back from the path they are joined to. -/
theorem pieces_join {parts : List String} (nonempty : parts ≠ [])
    (whole : ∀ part ∈ parts, '/' ∉ part.toList) : pieces '/' (join "/" parts) = parts := by
  refine pieces_eq_iff.2 ⟨nonempty, whole, ?_⟩
  rw [join, String.toList_intercalate]
  rfl

/-- The names of a path are those before a slash and those behind it. -/
theorem pieces_append (first rest : String) :
    pieces '/' (first ++ "/" ++ rest) = pieces '/' first ++ pieces '/' rest := by
  have joined : (first ++ "/" ++ rest).toList = first.toList ++ '/' :: rest.toList := by simp
  rw [pieces, joined, piecesOf_append_cons, List.map_append]
  rfl

end Text

namespace Path

/-- A name without separators that leads on from any directory. -/
structure IsPlain (name : String) : Prop where
  whole : '/' ∉ name.toList
  leadsOn : isIdle name = false
  notUp : name ≠ ".."

/-- Idle names at the end of a path do not count, and the last of the others is not idle unless it
is the first. -/
theorem names_spec (path : String) : ∃ first core idle,
    names path = first :: core ∧ Text.pieces '/' path = first :: (core ++ idle) ∧
      (∀ name ∈ idle, isIdle name = true) ∧ ∀ last, core.getLast? = some last → isIdle last = false := by
  cases pieces : Text.pieces '/' path with
  | nil => exact absurd (List.map_eq_nil_iff.1 pieces) (Text.piecesOf_ne_nil '/' path.toList)
  | cons first rest =>
      refine ⟨first, (rest.reverse.dropWhile isIdle).reverse, (rest.reverse.takeWhile isIdle).reverse,
        ?_, ?_, ?_, ?_⟩
      · rw [names, pieces]
      · rw [← List.reverse_append, List.takeWhile_append_dropWhile, List.reverse_reverse]
      · intro name listed
        exact List.mem_takeWhile_imp (List.mem_reverse.1 listed)
      · intro last isLast
        rw [List.getLast?_reverse] at isLast
        have notIdle := List.head?_dropWhile_not isIdle rest.reverse
        rwa [isLast] at notIdle

theorem exists_of_endsWith {path : String} (ends : path.endsWith "/" = true) :
    ∃ shorter, path = shorter ++ "/" := by
  rw [String.endsWith_eq_endsWith_toSlice, String.Slice.endsWith_string_iff] at ends
  obtain ⟨shorter, joined⟩ := ends
  refine ⟨String.ofList shorter, String.toList_injective ?_⟩
  rw [String.toList_append, String.toList_ofList, joined, String.copy_toSlice]

/-- Between the names of its parent and its own last name a path has only idle ones. -/
inductive LeadsOn (path directory : String) : Prop where
  | names {kept between idle : List String} {last : String}
      (pieces : Text.pieces '/' path = kept ++ (between ++ last :: idle)) (nonempty : kept ≠ [])
      (isBetween : ∀ name ∈ between, isIdle name = true) (leads : isIdle last = false)
      (isIdle : ∀ name ∈ idle, isIdle name = true)
      (isDirectory : kept = [""] ∧ directory = "/" ∨ Text.pieces '/' directory = kept)

/-- A path leads on from its parent directory. -/
theorem leadsOn_of_parent? {path directory : String} (isParent : parent? path = some directory) :
    directory = "" ∨ LeadsOn path directory := by
  obtain ⟨first, core, idle, isNames, pieces, isIdle, isLast⟩ := names_spec path
  rw [parent?, isNames] at isParent
  rcases List.eq_nil_or_concat core with rfl | ⟨front, last, rfl⟩
  · left
    split at isParent
    · cases isParent
    · cases isParent
    · cases isParent
      rfl
    · next isMore => exact absurd rfl (isMore first)
  · right
    simp only [List.concat_eq_append] at pieces isLast isParent
    have whole : ∀ name ∈ first :: front, '/' ∉ name.toList := by
      intro name listed
      have inPath : name ∈ Text.pieces '/' path := by
        rw [pieces]
        simp only [List.mem_cons, List.mem_append] at listed ⊢
        tauto
      exact Text.notMem_of_mem_pieces inPath
    obtain ⟨root, kept, between, isKept, shorter, isBetween, _⟩ :=
      names_spec (Text.join "/" (first :: front))
    rw [Text.pieces_join (List.cons_ne_nil _ _) whole] at shorter
    -- The parent ends before the last name that is not idle.
    have split : Text.pieces '/' path = (root :: kept) ++ (between ++ last :: idle) := by
      obtain ⟨rfl, rfl⟩ := List.cons.inj shorter
      simp [pieces]
    refine .names split (List.cons_ne_nil _ _) isBetween (isLast last (by simp)) isIdle ?_
    have dropped : (first :: (front ++ [last])).dropLast = first :: front := by
      rw [← List.cons_append, List.dropLast_concat]
    split at isParent
    · next none => cases none
    · next only => simp at only
    · next only => simp at only
    · rw [dropped, isKept] at isParent
      split at isParent
      · next isRoot =>
        cases isParent
        exact .inl ⟨isRoot, rfl⟩
      · cases isParent
        refine .inr (Text.pieces_join (List.cons_ne_nil _ _) fun name listed => whole name ?_)
        rw [shorter, ← List.cons_append]
        exact List.mem_append_left _ listed

end Path

namespace Memory

variable {path base directory name : String} {place : Place}

/-- Further names stand behind the place that a path starts from. -/
theorem start_append {names : List String} (nonempty : names ≠ []) (more : List String) :
    start (names ++ more) = ((start names).1, (start names).2 ++ more) := by
  cases names with
  | nil => exact absurd rfl nonempty
  | cons first rest =>
      by_cases fromRoot : first = ""
      · subst fromRoot
        rfl
      · simp [start, fromRoot]

/-- Further names lead on from where a path leads. -/
theorem leadTo_append {names : List String} (nonempty : names ≠ []) (more : List String) :
    leadTo (names ++ more) = more.foldl along (leadTo names) := by
  rw [leadTo, start_append nonempty, List.foldl_append, leadTo]

/-- Idle names lead nowhere else. -/
theorem foldl_along_of_idle {names : List String} (idle : ∀ name ∈ names, Path.isIdle name = true)
    (place : Place) : names.foldl along place = place := by
  induction names with
  | nil => rfl
  | cons name rest inductionHypothesis =>
      rw [List.forall_mem_cons] at idle
      rw [List.foldl_cons, along, if_pos idle.1, inductionHypothesis idle.2]

/-- A plain name leads one level down. -/
theorem along_of_isPlain (isPlain : Path.IsPlain name) (place : Place) :
    along place name = place ++ [name] := by
  rw [along, isPlain.leadsOn, if_neg Bool.false_ne_true, if_neg (by simpa using isPlain.notUp)]

/-- A plain name by itself leads on from the working directory. -/
theorem placeOf_of_isPlain (isPlain : Path.IsPlain name) : placeOf name = [name] := by
  have named : name ≠ "" := by
    rintro rfl
    cases isPlain.leadsOn
  rw [placeOf, Text.pieces_of_notMem isPlain.whole]
  simp [leadTo, start, named, along_of_isPlain isPlain]

/-- A plain name that is joined to a path leads on from the place of the path. -/
theorem placeOf_join (isPlain : Path.IsPlain name) (base : String) :
    ∃ place, placeOf (Path.join base name) = place ++ [name] ∧ (base ≠ "" → place = placeOf base) := by
  have relative : name.startsWith "/" = false := by
    rw [String.startsWith_string_eq_false_iff]
    rintro ⟨rest, isName⟩
    exact isPlain.whole (isName ▸ List.mem_cons_self)
  have nonempty (text : String) : Text.pieces '/' text ≠ [] := (Text.pieces_eq_iff.1 rfl).1
  have leadsOn (text : String) : placeOf (text ++ "/" ++ name) = placeOf text ++ [name] := by
    rw [placeOf, Text.pieces_append, Text.pieces_of_notMem isPlain.whole,
      leadTo_append (nonempty text), List.foldl_cons, List.foldl_nil, along_of_isPlain isPlain]
    rfl
  rw [Path.join, relative, if_neg Bool.false_ne_true]
  split
  · next ends =>
    rcases Bool.or_eq_true_iff.1 ends with isEmpty | atSeparator
    · rw [String.isEmpty_iff] at isEmpty
      subst isEmpty
      rw [String.empty_append]
      exact ⟨[], placeOf_of_isPlain isPlain, fun differs => absurd rfl differs⟩
    · obtain ⟨shorter, rfl⟩ := Path.exists_of_endsWith atSeparator
      refine ⟨placeOf shorter, leadsOn shorter, fun _ => ?_⟩
      have isIdle : ∀ other ∈ [""], Path.isIdle other = true := by decide
      rw [← String.append_empty (s := shorter ++ "/"), placeOf, placeOf, Text.pieces_append,
        leadTo_append (nonempty shorter)]
      exact (foldl_along_of_idle isIdle _).symm
  · exact ⟨placeOf base, leadsOn base, fun _ => rfl⟩

/-- A path leads on from its parent by a name that is not idle. -/
theorem placeOf_of_leadsOn (leadsOn : Path.LeadsOn path directory) :
    ∃ last ∈ Text.pieces '/' path, Path.isIdle last = false ∧
      placeOf path = along (placeOf directory) last ∧
      ∀ name ∈ Text.pieces '/' directory, name = "" ∨ name ∈ Text.pieces '/' path := by
  obtain @⟨kept, between, idle, last, pieces, nonempty, isBetween, leads, isIdle, isDirectory⟩ :=
    leadsOn
  have isPlace : placeOf directory = leadTo kept ∧
      ∀ name ∈ Text.pieces '/' directory, name = "" ∨ name ∈ kept := by
    rcases isDirectory with ⟨rfl, rfl⟩ | isKept
    · exact ⟨by decide, by decide⟩
    · exact ⟨by rw [placeOf, isKept], fun name listed => .inr (isKept ▸ listed)⟩
  refine ⟨last, by simp [pieces], leads, ?_, fun name listed => ?_⟩
  · rw [placeOf, pieces, leadTo_append nonempty, List.foldl_append, foldl_along_of_idle isBetween,
      List.foldl_cons, foldl_along_of_idle isIdle, isPlace.1]
  · exact (isPlace.2 name listed).imp_right fun isKept => by simp [pieces, isKept]

/-- A name that does not lead up leads no higher. -/
theorem length_along_le (notUp : name ≠ "..") (place : Place) :
    place.length ≤ (along place name).length := by
  rw [along, if_neg (by simpa using notUp : ¬(name == "..") = true)]
  split <;> simp

/-- Nor do several such names. -/
theorem length_le_foldl_along {names : List String} (direct : ".." ∉ names) (place : Place) :
    place.length ≤ (names.foldl along place).length := by
  induction names generalizing place with
  | nil => exact Nat.le_refl _
  | cons name rest inductionHypothesis =>
      rw [List.mem_cons, not_or] at direct
      exact (length_along_le (Ne.symm direct.1) place).trans
        (inductionHypothesis direct.2 (along place name))

/-- Without a step upwards, no place on the way is longer than the place at its end. -/
theorem length_le_of_mem_through {names : List String} (direct : ".." ∉ names) {base : Place}
    (passed : place ∈ through base names) : place.length ≤ (names.foldl along base).length := by
  induction names generalizing base with
  | nil => cases passed
  | cons name rest inductionHypothesis =>
      rw [List.mem_cons, not_or] at direct
      rcases List.mem_cons.1 passed with rfl | passed
      · exact length_le_foldl_along direct.2 _
      · exact inductionHypothesis direct.2 passed

theorem mem_start {names : List String} (listed : name ∈ (start names).2) : name ∈ names := by
  unfold start at listed
  split at listed
  · exact List.mem_cons_of_mem _ listed
  · exact listed

/-- Only a path with a step upwards can lead through itself. -/
theorem not_leadsThroughItself (direct : ".." ∉ Text.pieces '/' path) :
    ¬LeadsThroughItself path := by
  rintro ⟨directory, isParent, passed⟩
  rcases Path.leadsOn_of_parent? isParent with rfl | leadsOn
  · cases passed
  · obtain ⟨last, isName, notIdle, isPlace, listed⟩ := placeOf_of_leadsOn leadsOn
    have directDirectory : ".." ∉ (start (Text.pieces '/' directory)).2 := by
      intro goesUp
      rcases listed _ (mem_start goesUp) with isEmpty | inPath
      · simp at isEmpty
      · exact direct inPath
    have notUp : last ≠ ".." := fun isUp => direct (isUp ▸ isName)
    have longer := length_le_of_mem_through directDirectory passed
    rw [isPlace, along, notIdle, if_neg Bool.false_ne_true, if_neg (by simpa using notUp),
      List.length_append] at longer
    exact Nat.not_succ_le_self _ longer

/-- A file name is plain, and it is where the path leads on from the names before it. -/
theorem placeOf_of_fileName? (isName : Path.fileName? path = some name) :
    Path.IsPlain name ∧ ∃ place, placeOf path = place ++ [name] := by
  obtain ⟨first, core, idle, isNames, pieces, isIdle, _⟩ := Path.names_spec path
  rw [Path.fileName?, Option.filter_eq_some_iff, isNames] at isName
  obtain ⟨isLast, leads⟩ := isName
  rw [Bool.and_eq_true, Bool.not_eq_true', bne_iff_ne] at leads
  obtain ⟨front, split⟩ := List.getLast?_eq_some_iff.1 isLast
  have pieces : Text.pieces '/' path = front ++ (name :: idle) := by
    rw [pieces, ← List.cons_append, split, List.append_assoc, List.singleton_append]
  have inPath : name ∈ Text.pieces '/' path := by simp [pieces]
  have isPlain : Path.IsPlain name := ⟨Text.notMem_of_mem_pieces inPath, leads.1, leads.2⟩
  refine ⟨isPlain, ?_⟩
  cases front with
  | nil =>
      have single := placeOf_of_isPlain isPlain
      rw [placeOf, Text.pieces_of_notMem isPlain.whole] at single
      refine ⟨[], ?_⟩
      rw [placeOf, pieces, List.nil_append, ← List.singleton_append,
        leadTo_append (List.cons_ne_nil _ _), foldl_along_of_idle isIdle, single]
      rfl
  | cons root rest =>
      refine ⟨leadTo (root :: rest), ?_⟩
      rw [placeOf, pieces, leadTo_append (List.cons_ne_nil _ _), List.foldl_cons,
        foldl_along_of_idle isIdle, along_of_isPlain isPlain]

/-- The name of a temporary file is plain. -/
theorem isPlain_temporary {tag : String} (whole : '/' ∉ name.toList) (tagWhole : '/' ∉ tag.toList) :
    Path.IsPlain (name ++ ".fpmtmp." ++ tag) := by
  have long : 2 < (name ++ ".fpmtmp." ++ tag).length := by
    rw [String.length_append, String.length_append]
    have marked : ".fpmtmp.".length = 8 := by decide
    omega
  have differs {short : String} (isShort : short.length ≤ 2) :
      name ++ ".fpmtmp." ++ tag ≠ short := by
    intro same
    rw [same] at long
    omega
  refine ⟨?_, ?_, differs (by decide)⟩
  · simp [whole, tagWhole]
  · rw [Path.isIdle, Bool.or_eq_false_iff, String.isEmpty_eq_false_iff, beq_eq_false_iff_ne]
    exact ⟨differs (by decide), differs (by decide)⟩

/-- A temporary file has another place than its target. -/
theorem placeOf_temporary_ne {tag : String} (whole : '/' ∉ tag.toList) (path : String) :
    placeOf (StateFile.temporary tag path) ≠ placeOf path := by
  unfold StateFile.temporary Path.sibling
  cases isName : Path.fileName? path with
  | none =>
      have isPlain : Path.IsPlain ("provisioned.json" ++ ".fpmtmp." ++ tag) :=
        isPlain_temporary (by decide) whole
      obtain ⟨place, isPlace, isBase⟩ := placeOf_join isPlain path
      intro same
      have isPlace : placeOf path = place ++ ["provisioned.json" ++ ".fpmtmp." ++ tag] :=
        same.symm.trans isPlace
      by_cases isEmpty : path = ""
      · have isRoot : placeOf path = [] ++ ["/"] := by
          rw [isEmpty]
          decide
        have sameName := (List.append_inj' (isPlace.symm.trans isRoot) rfl).2
        exact isPlain.whole (List.singleton_inj.1 sameName ▸ List.mem_cons_self)
      · rw [isBase isEmpty] at isPlace
        have longer := congrArg List.length isPlace
        simp at longer
  | some name =>
      obtain ⟨nameIsPlain, place, isTarget⟩ := placeOf_of_fileName? isName
      have isPlain : Path.IsPlain (name ++ ".fpmtmp." ++ tag) :=
        isPlain_temporary nameIsPlain.whole whole
      obtain ⟨other, isPlace, _⟩ := placeOf_join isPlain ((Path.parent? path).getD "")
      intro same
      have split : other ++ [name ++ ".fpmtmp." ++ tag] = place ++ [name] :=
        isPlace.symm.trans (same.trans isTarget)
      have sameName := congrArg String.length
        (List.singleton_inj.1 (List.append_inj' split rfl).2)
      rw [String.length_append, String.length_append] at sameName
      have marked : ".fpmtmp.".length = 8 := by decide
      omega

end Memory

end Provisioning
