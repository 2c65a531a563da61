/-
This file finds the first problem in a sequence of declarations.
-/

namespace Provisioning.Checks

variable {Declared Problem : Type}

/-- Each element is judged in view of the elements before it, and the first problem counts. -/
def firstAfter (problem : List Declared → Declared → Option Problem) :
    List Declared → List Declared → Option Problem
  | _, [] => none
  | earlier, element :: rest =>
      match problem earlier element with
      | some found => some found
      | none => firstAfter problem (earlier ++ [element]) rest

def first (problem : List Declared → Declared → Option Problem) (declared : List Declared) :
    Option Problem :=
  firstAfter problem [] declared

theorem firstAfter_eq_none_iff (problem : List Declared → Declared → Option Problem)
    (earlier declared : List Declared) :
    firstAfter problem earlier declared = none ↔
      ∀ before element after, declared = before ++ element :: after →
        problem (earlier ++ before) element = none := by
  induction declared generalizing earlier with
  | nil => simp [firstAfter]
  | cons element rest inductionHypothesis =>
      unfold firstAfter
      split
      · next found judged =>
        constructor
        · simp
        · intro all
          have none := all [] element rest rfl
          simp [judged] at none
      · next judged =>
        rw [inductionHypothesis]
        constructor
        · intro all before other after equal
          cases before with
          | nil =>
              obtain ⟨rfl, rfl⟩ := List.cons.inj equal
              simpa using judged
          | cons head tail =>
              obtain ⟨rfl, tails⟩ := List.cons.inj equal
              simpa using all tail other after tails
        · intro all before other after equal
          have known := all (element :: before) other after (by rw [equal]; rfl)
          simpa using known

/-- There is no problem exactly when no element is one in view of the elements before it. -/
theorem first_eq_none_iff (problem : List Declared → Declared → Option Problem)
    (declared : List Declared) :
    first problem declared = none ↔
      ∀ before element after, declared = before ++ element :: after →
        problem before element = none := by
  rw [first, firstAfter_eq_none_iff]
  simp

theorem firstAfter_snoc (problem : List Declared → Declared → Option Problem)
    (earlier declared : List Declared) (element : Declared) :
    firstAfter problem earlier (declared ++ [element]) =
      (firstAfter problem earlier declared).or (problem (earlier ++ declared) element) := by
  induction declared generalizing earlier with
  | nil =>
      rw [List.nil_append, List.append_nil, firstAfter, firstAfter, Option.none_or]
      cases problem earlier element <;> rfl
  | cons first rest inductionHypothesis =>
      rw [List.cons_append, firstAfter, firstAfter, List.append_cons earlier first rest]
      cases problem earlier first with
      | some found => rfl
      | none => exact inductionHypothesis (earlier ++ [first])

/-- A further element is a problem when those before it are not. -/
theorem first_snoc (problem : List Declared → Declared → Option Problem)
    (declared : List Declared) (element : Declared) :
    first problem (declared ++ [element]) =
      (first problem declared).or (problem declared element) :=
  firstAfter_snoc problem [] declared element

theorem firstAfter_eq_some_iff {problem : List Declared → Declared → Option Problem}
    {earlier declared : List Declared} {found : Problem} :
    firstAfter problem earlier declared = some found ↔
      ∃ before element after, declared = before ++ element :: after ∧
        firstAfter problem earlier before = none ∧
          problem (earlier ++ before) element = some found := by
  induction declared generalizing earlier with
  | nil => simp [firstAfter]
  | cons head rest inductionHypothesis =>
      unfold firstAfter
      split
      · next other judged =>
        constructor
        · intro same
          cases same
          exact ⟨[], head, rest, rfl, rfl, by simpa using judged⟩
        · intro isFirst
          obtain ⟨before, element, after, equal, free, isFound⟩ := isFirst
          cases before with
          | nil =>
              obtain ⟨rfl, rfl⟩ := List.cons.inj equal
              rw [List.append_nil, judged] at isFound
              exact isFound
          | cons first others =>
              obtain ⟨rfl, _⟩ := List.cons.inj equal
              simp [judged] at free
      · next judged =>
        rw [inductionHypothesis]
        constructor
        · intro isFirst
          obtain ⟨before, element, after, equal, free, isFound⟩ := isFirst
          refine ⟨head :: before, element, after, by rw [equal]; rfl, by simpa [judged] using free, ?_⟩
          rwa [List.append_cons]
        · intro isFirst
          obtain ⟨before, element, after, equal, free, isFound⟩ := isFirst
          cases before with
          | nil =>
              obtain ⟨rfl, rfl⟩ := List.cons.inj equal
              simp [judged] at isFound
          | cons first others =>
              obtain ⟨rfl, tails⟩ := List.cons.inj equal
              refine ⟨others, element, after, tails, by simpa [judged] using free, ?_⟩
              rwa [← List.append_cons]

/-- The first problem is that of an element with none before it. -/
theorem first_eq_some_iff {problem : List Declared → Declared → Option Problem}
    {declared : List Declared} {found : Problem} :
    first problem declared = some found ↔
      ∃ before element after, declared = before ++ element :: after ∧
        first problem before = none ∧ problem before element = some found := by
  rw [first, firstAfter_eq_some_iff]
  rfl

/-- A relation that holds between each accepted element and those before it holds of all pairs. -/
theorem pairwise_of_first {problem : List Declared → Declared → Option Problem}
    {Compatible : Declared → Declared → Prop}
    (accepts : ∀ earlier element, problem earlier element = none →
      ∀ known ∈ earlier, Compatible known element)
    {declared : List Declared} (accepted : first problem declared = none) :
    declared.Pairwise Compatible := by
  rw [first_eq_none_iff] at accepted
  rw [List.pairwise_iff_getElem]
  intro low high _ inside before
  have split : declared = declared.take high ++ declared[high] :: declared.drop (high + 1) := by
    rw [← List.drop_eq_getElem_cons inside, List.take_append_drop]
  exact accepts _ _ (accepted _ _ _ split) _
    (List.mem_take_iff_getElem.2 ⟨low, by omega, rfl⟩)

/-- Where an element is judged by itself and against each one before it, there is no problem exactly
when all elements are sound and all pairs are compatible. -/
theorem first_eq_none_iff_sound {problem : List Declared → Declared → Option Problem}
    {Sound : Declared → Prop} {Compatible : Declared → Declared → Prop}
    (judges : ∀ earlier element, problem earlier element = none ↔
      Sound element ∧ ∀ known ∈ earlier, Compatible known element)
    {declared : List Declared} :
    first problem declared = none ↔
      (∀ element ∈ declared, Sound element) ∧ declared.Pairwise Compatible := by
  constructor
  · intro accepted
    constructor
    · intro element listed
      obtain ⟨before, after, split⟩ := List.append_of_mem listed
      exact ((judges _ _).1 ((first_eq_none_iff _ _).1 accepted before element after split)).1
    · apply pairwise_of_first _ accepted
      exact fun earlier element free => ((judges earlier element).1 free).2
  · intro accepted
    obtain ⟨sound, compatible⟩ := accepted
    rw [first_eq_none_iff]
    intro before element after split
    rw [split, List.pairwise_append] at compatible
    have listed : element ∈ declared := by simp [split]
    exact (judges _ _).2 ⟨sound element listed,
      fun known isBefore => compatible.2.2 known isBefore element List.mem_cons_self⟩

/-- Where an element is judged against each one before it, there is no problem exactly when all pairs
are compatible. -/
theorem first_eq_none_iff_pairwise {problem : List Declared → Declared → Option Problem}
    {Compatible : Declared → Declared → Prop}
    (judges : ∀ earlier element, problem earlier element = none ↔
      ∀ known ∈ earlier, Compatible known element)
    {declared : List Declared} :
    first problem declared = none ↔ declared.Pairwise Compatible := by
  have judged : ∀ earlier element, problem earlier element = none ↔
      True ∧ ∀ known ∈ earlier, Compatible known element := by
    intro earlier element
    rw [judges, true_and]
  rw [first_eq_none_iff_sound judged]
  exact and_iff_right fun _ _ => trivial

/-- Nothing is found where neither a first check nor those behind it find anything. -/
theorem ite_some_eq_none_iff {found : Prop} [Decidable found] {problem : Problem}
    {next : Option Problem} :
    (if found then some problem else next) = none ↔ ¬found ∧ next = none := by
  by_cases isFound : found <;> simp [isFound]

/-- A search finds the only element that it accepts. -/
theorem find?_of_distinct {accepts : Declared → Bool} {declared : List Declared}
    (distinct : declared.Pairwise fun first second => ¬(accepts first ∧ accepts second))
    {element : Declared} (listed : element ∈ declared) (accepted : accepts element) :
    declared.find? accepts = some element := by
  induction distinct with
  | nil => exact absurd listed List.not_mem_nil
  | @cons first rest apart _ inductionHypothesis =>
      rcases List.mem_cons.1 listed with rfl | inRest
      · exact List.find?_cons_of_pos accepted
      · have passed : ¬accepts first := fun also => apart element inRest ⟨also, accepted⟩
        rw [List.find?_cons_of_neg passed]
        exact inductionHypothesis inRest

/-- Where all keys are different, a search by a key finds the element that has it. -/
theorem find?_key_eq_some_iff {Key : Type} [BEq Key] [LawfulBEq Key] {keyOf : Declared → Key}
    {declared : List Declared} (distinct : (declared.map keyOf).Nodup) {key : Key}
    {element : Declared} :
    (declared.find? fun known => keyOf known == key) = some element ↔
      element ∈ declared ∧ keyOf element = key := by
  constructor
  · intro found
    exact ⟨List.mem_of_find?_eq_some found, by simpa using List.find?_some found⟩
  · intro isElement
    obtain ⟨listed, rfl⟩ := isElement
    apply find?_of_distinct _ listed (by simp)
    apply (List.pairwise_map.1 distinct).imp
    intro first second different both
    rw [beq_iff_eq, beq_iff_eq] at both
    exact different (both.1.trans both.2.symm)

end Provisioning.Checks
