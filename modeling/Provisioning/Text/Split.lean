/-
This file cuts a text at a separator character.
-/

namespace Provisioning.Text

/-- The pieces between the separators, one more than there are separators. -/
def piecesOf (separator : Char) : List Char → List (List Char)
  | [] => [[]]
  | c :: rest =>
      if c = separator then
        [] :: piecesOf separator rest
      else
        match piecesOf separator rest with
        | [] => [[c]]
        | piece :: pieces => (c :: piece) :: pieces

/-- The parts before and after the first separator. -/
def cutChars? (separator : Char) : List Char → Option (List Char × List Char)
  | [] => none
  | c :: rest =>
      if c = separator then
        some ([], rest)
      else
        (cutChars? separator rest).map fun parts => (c :: parts.1, parts.2)

def pieces (separator : Char) (text : String) : List String :=
  (piecesOf separator text.toList).map String.ofList

def cut? (separator : Char) (text : String) : Option (String × String) :=
  (cutChars? separator text.toList).map fun parts => (String.ofList parts.1, String.ofList parts.2)

def join (separator : String) (parts : List String) : String :=
  separator.intercalate parts

theorem piecesOf_ne_nil (separator : Char) (text : List Char) : piecesOf separator text ≠ [] := by
  induction text with
  | nil => simp [piecesOf]
  | cons c rest inductionHypothesis =>
      unfold piecesOf
      split
      · simp
      · split <;> simp

/-- A cut loses only the separator, and the first part has none. -/
theorem cutChars?_eq_some {separator : Char} {text before after : List Char}
    (cut : cutChars? separator text = some (before, after)) :
    text = before ++ separator :: after ∧ separator ∉ before := by
  induction text generalizing before with
  | nil => simp [cutChars?] at cut
  | cons c rest inductionHypothesis =>
      unfold cutChars? at cut
      split at cut
      · next same =>
        simp only [Option.some.injEq, Prod.mk.injEq] at cut
        obtain ⟨rfl, rfl⟩ := cut
        simp [same]
      · next different =>
        simp only [Option.map_eq_some_iff] at cut
        obtain ⟨⟨first, second⟩, found, equal⟩ := cut
        simp only [Prod.mk.injEq] at equal
        obtain ⟨rfl, rfl⟩ := equal
        obtain ⟨rfl, absent⟩ := inductionHypothesis found
        exact ⟨rfl, by simp [absent, Ne.symm different]⟩

/-- Nothing is cut exactly when the separator is absent. -/
theorem cutChars?_eq_none_iff {separator : Char} {text : List Char} :
    cutChars? separator text = none ↔ separator ∉ text := by
  induction text with
  | nil => simp [cutChars?]
  | cons c rest inductionHypothesis =>
      unfold cutChars?
      split
      · next same => simp [same]
      · next different =>
        rw [Option.map_eq_none_iff, inductionHypothesis, List.mem_cons]
        simp [Ne.symm different]

/-- No piece holds the separator. -/
theorem notMem_of_mem_piecesOf {separator : Char} {text piece : List Char}
    (listed : piece ∈ piecesOf separator text) : separator ∉ piece := by
  induction text generalizing piece with
  | nil =>
      rw [piecesOf, List.mem_singleton] at listed
      simp [listed]
  | cons c rest inductionHypothesis =>
      unfold piecesOf at listed
      split at listed
      · rcases List.mem_cons.1 listed with rfl | inRest
        · simp
        · exact inductionHypothesis inRest
      · next different =>
        split at listed
        · rw [List.mem_singleton] at listed
          simp [listed, Ne.symm different]
        · next first others found =>
          rw [found] at inductionHypothesis
          rcases List.mem_cons.1 listed with rfl | inOthers
          · simp [Ne.symm different, inductionHypothesis List.mem_cons_self]
          · exact inductionHypothesis (List.mem_cons_of_mem _ inOthers)

/-- The pieces with the separator between them are the text. -/
theorem intercalate_piecesOf (separator : Char) (text : List Char) :
    [separator].intercalate (piecesOf separator text) = text := by
  induction text with
  | nil => rfl
  | cons c rest inductionHypothesis =>
      unfold piecesOf
      split
      · next same =>
        cases pieces : piecesOf separator rest with
        | nil => exact absurd pieces (piecesOf_ne_nil separator rest)
        | cons first others =>
            rw [pieces] at inductionHypothesis
            rw [List.intercalate, List.intersperse_cons_cons, List.flatten_cons, List.flatten_cons]
            rw [List.intercalate] at inductionHypothesis
            simp [inductionHypothesis, same]
      · split
        · next none => exact absurd none (piecesOf_ne_nil separator rest)
        · next first others found =>
          rw [found] at inductionHypothesis
          cases others with
          | nil => simpa [List.intercalate] using inductionHypothesis
          | cons second more =>
              rw [List.intercalate, List.intersperse_cons_cons] at inductionHypothesis ⊢
              simpa using inductionHypothesis

end Provisioning.Text
