/-
This file says what becomes of the parameters of a feature when they are put into an order.
-/

import Mathlib.Data.List.Nodup
import Mathlib.Data.List.Perm.Basic
import Provisioning.Proofs.State

namespace Provisioning

/-- The first occurrences of the elements that pass a test are those of the elements that are
left when the others are dropped. -/
theorem eraseDups_filter {Element : Type} [DecidableEq Element] (passes : Element → Bool) :
    ∀ elements : List Element,
      (elements.filter passes).eraseDups = elements.eraseDups.filter passes
  | [] => rfl
  | element :: rest => by
      have tail := eraseDups_filter passes (rest.filter fun other => !other == element)
      rw [List.eraseDups_cons]
      by_cases isPassed : passes element = true
      · rw [List.filter_cons_of_pos isPassed, List.filter_cons_of_pos isPassed,
          List.eraseDups_cons, ← tail, List.filter_filter, List.filter_filter]
        simp only [Bool.and_comm]
      · -- Further occurrences of an element that is dropped are dropped with it.
        have others : (rest.filter fun other => !other == element).filter passes =
            rest.filter passes := by
          rw [List.filter_filter]
          apply List.filter_congr
          intro other _
          by_cases same : other = element
          · simp [same, isPassed]
          · simp [same]
        rw [List.filter_cons_of_neg isPassed, List.filter_cons_of_neg isPassed, ← tail, others]
termination_by elements => elements.length
decreasing_by exact Nat.lt_succ_of_le (List.length_filter_le _ _)

namespace ProvisionedFeature

/-- The entries that names find, each at the first occurrence of its name. -/
def named (params : OrderedMap String String) (names : List String) : List (String × String) :=
  names.eraseDups.filterMap fun name => (params.get? name).map fun value => (name, value)

/-- The entries that no name finds, in the order of the map. -/
def unnamed (params : OrderedMap String String) (names : List String) : List (String × String) :=
  params.entries.filter fun entry => entry.1 ∉ names

section

variable {params : OrderedMap String String} {names : List String}

theorem named_congr {other : OrderedMap String String}
    (same : ∀ name ∈ names, params.get? name = other.get? name) :
    named params names = named other names := by
  apply List.filterMap_congr
  intro name listed
  rw [same name (List.mem_eraseDups.1 listed)]

theorem mem_named_iff {entry : String × String} :
    entry ∈ named params names ↔ entry.1 ∈ names ∧ entry ∈ params.entries := by
  obtain ⟨name, value⟩ := entry
  rw [← OrderedMap.get?_eq_some_iff]
  simp only [named, List.mem_filterMap, List.mem_eraseDups, Option.map_eq_some_iff, Prod.mk.injEq]
  constructor
  · rintro ⟨_, listed, _, isValue, rfl, rfl⟩
    exact ⟨listed, isValue⟩
  · rintro ⟨listed, isValue⟩
    exact ⟨name, listed, value, isValue, rfl, rfl⟩

/-- The entry of the first name comes first, and its name finds nothing any more after that. -/
theorem named_cons (params : OrderedMap String String) (name : String) (names : List String) :
    named params (name :: names) =
      ((params.get? name).map fun value => (name, value)).toList ++
        named (params.erase name) names := by
  have later : (names.filter fun other => !other == name).eraseDups.filterMap
      (fun other => (params.get? other).map fun value => (other, value)) =
        named (params.erase name) names := by
    rw [eraseDups_filter, List.filterMap_filter, named]
    apply List.filterMap_congr
    intro other _
    rw [OrderedMap.get?_erase]
    by_cases same : name = other
    · simp [same]
    · simp [same, Ne.symm same]
  rw [named, List.eraseDups_cons, ← later]
  cases isValue : params.get? name with
  | none => rw [List.filterMap_cons_none (by rw [isValue]; rfl)]; rfl
  | some value => rw [List.filterMap_cons_some (by rw [isValue]; rfl)]; rfl

theorem unnamed_cons (params : OrderedMap String String) (name : String) (names : List String) :
    unnamed params (name :: names) = unnamed (params.erase name) names := by
  rw [unnamed, unnamed, OrderedMap.erase, List.filter_filter]
  apply List.filter_congr
  intro entry _
  simp [Bool.and_comm]

/-- The names move their entries from one map behind those of another that shares no key with it. -/
theorem entries_moveParams {ordered rest : OrderedMap String String}
    (apart : ∀ name ∈ ordered.keys, rest.get? name = none) (names : List String) :
    (moveParams ordered rest names).1.entries = ordered.entries ++ named rest names ∧
      (moveParams ordered rest names).2.entries = unnamed rest names := by
  fun_induction moveParams ordered rest names with
  | case1 ordered rest => simp [named, unnamed]
  | case2 ordered rest name names value isValue inductionHypothesis =>
      have isNew : ordered.get? name = none := by
        rw [OrderedMap.get?_eq_none_iff]
        intro isKey
        rw [apart name isKey] at isValue
        cases isValue
      have stillApart : ∀ key ∈ (ordered.insert name value).keys,
          (rest.erase name).get? key = none := by
        intro key isKey
        rw [OrderedMap.get?_erase]
        split
        · rfl
        · next different =>
          rcases OrderedMap.mem_keys_put.1 isKey with rfl | known
          · exact absurd rfl different
          · exact apart key known
      obtain ⟨moved, left⟩ := inductionHypothesis stillApart
      rw [moved, left, named_cons, unnamed_cons, isValue, OrderedMap.entries_insert_of_new _ isNew]
      simp
  | case3 ordered rest name names absent inductionHypothesis =>
      obtain ⟨moved, left⟩ := inductionHypothesis apart
      -- There is nothing to erase under a name that is absent.
      have unchanged : rest.erase name = rest := by
        apply OrderedMap.eq_of_entries
        rw [OrderedMap.erase, List.filter_eq_self]
        intro entry listed
        rw [OrderedMap.get?_eq_none_iff] at absent
        simpa using fun same : entry.1 = name => absent (same ▸ List.mem_map_of_mem listed)
      rw [moved, left, named_cons, unnamed_cons, absent, unchanged]
      simp

/-- A key that is erased takes its own entry with it and no other. -/
theorem erase_perm (params : OrderedMap String String) (name : String) :
    (((params.get? name).map fun value => (name, value)).toList ++
      (params.erase name).entries).Perm params.entries := by
  rw [List.perm_ext_iff_of_nodup _ params.nodup_entries]
  · rintro ⟨key, value⟩
    simp only [List.mem_append, ← OrderedMap.get?_eq_some_iff, OrderedMap.get?_erase]
    by_cases same : name = key
    · cases isValue : params.get? name <;> simp [← same, isValue, eq_comm]
    · simp [same]
  · rw [List.nodup_append]
    refine ⟨?_, OrderedMap.nodup_entries _, ?_⟩
    · cases params.get? name <;> simp
    · rintro ⟨key, value⟩ isErased entry isLeft rfl
      rw [← OrderedMap.get?_eq_some_iff, OrderedMap.get?_erase] at isLeft
      obtain ⟨_, _, isEntry⟩ := Option.map_eq_some_iff.1 (Option.mem_toList.1 isErased)
      simp [← (Prod.mk.inj isEntry).1] at isLeft

/-- Every entry is named or not, and those that are named come once. -/
theorem named_append_unnamed_perm (params : OrderedMap String String) (names : List String) :
    (named params names ++ unnamed params names).Perm params.entries := by
  induction names generalizing params with
  | nil => simp [named, unnamed]
  | cons name names inductionHypothesis =>
      rw [named_cons, unnamed_cons, List.append_assoc]
      exact ((inductionHypothesis (params.erase name)).append_left _).trans (erase_perm params name)

end

variable (feature : ProvisionedFeature) (names : List String)

theorem entries_orderParams :
    (feature.orderParams names).params.entries =
      named feature.params names ++ unnamed feature.params names := by
  have nothing : ∀ name ∈ (OrderedMap.empty : OrderedMap String String).keys,
      feature.params.get? name = none := by
    intro name isKey
    cases isKey
  have moved : (moveParams .empty feature.params names).1.entries = named feature.params names :=
    (entries_moveParams nothing names).1
  have left := (entries_moveParams nothing names).2
  have nodup := ((named_append_unnamed_perm feature.params names).map Prod.fst).nodup_iff.2
    feature.params.keysNodup
  rw [← moved, ← left] at nodup
  rw [orderParams, OrderedMap.entries_extend nodup, moved, left]

/-- The entries behind the named ones stay where they are when the same names come again. -/
theorem orderParams_orderParams :
    (feature.orderParams names).orderParams names = feature.orderParams names := by
  have again : named (feature.orderParams names).params names = named feature.params names :=
    named_congr fun name _ => param?_orderParams feature names name
  have others : unnamed (feature.orderParams names).params names =
      unnamed feature.params names := by
    have noneNamed : (named feature.params names).filter (fun entry => entry.1 ∉ names) = [] := by
      rw [List.filter_eq_nil_iff]
      intro entry listed
      simpa using (mem_named_iff.1 listed).1
    rw [unnamed, entries_orderParams, List.filter_append, noneNamed, List.nil_append, unnamed,
      List.filter_filter]
    simp only [Bool.and_self]
  have sameEntries : ((feature.orderParams names).orderParams names).params.entries =
      (feature.orderParams names).params.entries := by
    rw [entries_orderParams, again, others, ← entries_orderParams]
  exact ProvisionedFeature.ext rfl (OrderedMap.eq_of_entries sameEntries)

/-- A feature with its parameters in an order has the same id and the same pairs. The pairs whose
names the order lists come first, by the first occurrences of the names, and the others follow as
they stood. -/
structure IsOrdered (ordered : ProvisionedFeature) : Prop where
  sameId : ordered.id = feature.id
  samePairs : ordered.params.entries.Perm feature.params.entries
  namedFirst : ordered.params.entries =
    named feature.params names ++ unnamed feature.params names

/-- Ordering the parameters loses none of them, and ordering them once more changes nothing. -/
theorem order_loses_nothing :
    feature.IsOrdered names (feature.orderParams names) ∧
      (feature.orderParams names).orderParams names = feature.orderParams names := by
  have arranged := entries_orderParams feature names
  have samePairs := named_append_unnamed_perm feature.params names
  exact ⟨⟨rfl, arranged ▸ samePairs, arranged⟩, orderParams_orderParams feature names⟩

end ProvisionedFeature

end Provisioning
