/-
This file holds maps and sets that remember the order in which their keys first arrived.
-/

import Provisioning.Remaining

namespace Provisioning

/-- A map lists its entries in the order of insertion, each key once. -/
structure OrderedMap (Key Value : Type) where
  entries : List (Key × Value)
  keysNodup : (entries.map Prod.fst).Nodup
deriving DecidableEq, Repr

namespace OrderedMap

variable {Key Value : Type} [DecidableEq Key]

def empty : OrderedMap Key Value := ⟨[], List.nodup_nil⟩

instance : Inhabited (OrderedMap Key Value) := ⟨empty⟩

def keys (map : OrderedMap Key Value) : List Key := map.entries.map Prod.fst

def values (map : OrderedMap Key Value) : List Value := map.entries.map Prod.snd

def size (map : OrderedMap Key Value) : Nat := map.entries.length

def isEmpty (map : OrderedMap Key Value) : Bool := map.entries.isEmpty

/-- The value of the entry with this key. -/
def lookup (key : Key) : List (Key × Value) → Option Value
  | [] => none
  | entry :: rest => if entry.1 = key then some entry.2 else lookup key rest

def get? (map : OrderedMap Key Value) (key : Key) : Option Value :=
  lookup key map.entries

@[simp] theorem get?_empty (key : Key) : (empty : OrderedMap Key Value).get? key = none := rfl

def contains (map : OrderedMap Key Value) (key : Key) : Bool :=
  (map.get? key).isSome

/-- A known key keeps its place and takes the new value; a new key goes last. -/
def put (key : Key) (value : Value) : List (Key × Value) → List (Key × Value)
  | [] => [(key, value)]
  | entry :: rest => if entry.1 = key then (key, value) :: rest else entry :: put key value rest

theorem mem_keys_put {key other : Key} {value : Value} {entries : List (Key × Value)} :
    other ∈ (put key value entries).map Prod.fst ↔ other = key ∨ other ∈ entries.map Prod.fst := by
  induction entries with
  | nil => simp [put]
  | cons entry rest inductionHypothesis =>
      unfold put
      split
      · next same => simp [same]
      · rw [List.map_cons, List.mem_cons, inductionHypothesis, List.map_cons, List.mem_cons]
        exact or_left_comm

theorem nodup_put (key : Key) (value : Value) {entries : List (Key × Value)}
    (nodup : (entries.map Prod.fst).Nodup) : ((put key value entries).map Prod.fst).Nodup := by
  induction entries with
  | nil => simp [put]
  | cons entry rest inductionHypothesis =>
      unfold put
      rw [List.map_cons, List.nodup_cons] at nodup
      split
      · next same => simpa [← same] using nodup
      · next different =>
        rw [List.map_cons, List.nodup_cons, mem_keys_put]
        exact ⟨fun found => found.elim different nodup.1, inductionHypothesis nodup.2⟩

def insert (map : OrderedMap Key Value) (key : Key) (value : Value) : OrderedMap Key Value :=
  ⟨put key value map.entries, nodup_put key value map.keysNodup⟩

/-- A key that is already set keeps its value. -/
def insertNew (map : OrderedMap Key Value) (key : Key) (value : Value) : OrderedMap Key Value :=
  if map.contains key then map else map.insert key value

/-- The other entries close ranks in their order. -/
def erase (map : OrderedMap Key Value) (key : Key) : OrderedMap Key Value :=
  ⟨map.entries.filter fun entry => entry.1 ≠ key,
    (List.filter_sublist.map Prod.fst).nodup map.keysNodup⟩

/-- Entries are inserted one after the other. -/
def ofList (entries : List (Key × Value)) : OrderedMap Key Value :=
  entries.foldl (fun map entry => map.insert entry.1 entry.2) empty

/-- The second map's entries are inserted into the first. -/
def extend (map : OrderedMap Key Value) (entries : List (Key × Value)) : OrderedMap Key Value :=
  entries.foldl (fun map entry => map.insert entry.1 entry.2) map

/-- Two maps agree when they hold the same entries in any order. -/
def agrees [DecidableEq Value] (first second : OrderedMap Key Value) : Bool :=
  first.size == second.size && first.entries.all fun entry => second.get? entry.1 == some entry.2

theorem lookup_put (key other : Key) (value : Value) (entries : List (Key × Value)) :
    lookup other (put key value entries) =
      if key = other then some value else lookup other entries := by
  induction entries with
  | nil => simp [put, lookup]
  | cons entry rest inductionHypothesis =>
      unfold put
      split
      · next same =>
        simp only [lookup, same]
        by_cases equal : key = other <;> simp [equal]
      · next different =>
        simp only [lookup, inductionHypothesis]
        by_cases equal : entry.1 = other
        · have distinct : key ≠ other := fun same => different (equal.trans same.symm)
          simp [equal, distinct]
        · simp [equal]

/-- An insertion changes the value of its own key alone. -/
theorem get?_insert (map : OrderedMap Key Value) (key other : Key) (value : Value) :
    (map.insert key value).get? other = if key = other then some value else map.get? other :=
  lookup_put key other value map.entries

/-- A value after an insertion is the one that was inserted or one that was there before. -/
theorem get?_insert_eq_some_iff {map : OrderedMap Key Value} {key other : Key}
    {value found : Value} :
    (map.insert key value).get? other = some found ↔
      (key = other ∧ value = found) ∨ (key ≠ other ∧ map.get? other = some found) := by
  rw [get?_insert]
  by_cases same : key = other <;> simp [same]

theorem lookup_filter (key other : Key) (entries : List (Key × Value)) :
    lookup other (entries.filter fun entry => entry.1 ≠ key) =
      if key = other then none else lookup other entries := by
  induction entries with
  | nil => simp [lookup]
  | cons entry rest inductionHypothesis =>
      by_cases same : entry.1 = key
      · rw [List.filter_cons_of_neg (by simpa using same), inductionHypothesis]
        by_cases equal : key = other
        · simp [equal]
        · simp [equal, lookup, same]
      · rw [List.filter_cons_of_pos (by simpa using same), lookup, inductionHypothesis, lookup]
        by_cases equal : key = other
        · have different : entry.1 ≠ other := equal ▸ same
          simp [equal, different]
        · simp [equal]

/-- An erased key has no value and the other keys keep theirs. -/
theorem get?_erase (map : OrderedMap Key Value) (key other : Key) :
    (map.erase key).get? other = if key = other then none else map.get? other :=
  lookup_filter key other map.entries

theorem get?_insertNew (map : OrderedMap Key Value) (key other : Key) (value : Value) :
    (map.insertNew key value).get? other =
      if key = other then some ((map.get? key).getD value) else map.get? other := by
  unfold insertNew
  split
  · next known =>
    obtain ⟨first, isFirst⟩ := Option.isSome_iff_exists.1 known
    by_cases equal : key = other
    · simp [← equal, isFirst]
    · simp [equal]
  · next unknown =>
    have absent : map.get? key = none := by simpa [contains] using unknown
    rw [get?_insert, absent, Option.getD_none]

/-- A key that the map lacks has its first value among the entries that are offered. -/
theorem get?_foldl_insertNew (map : OrderedMap Key Value) (entries : List (Key × Value))
    (key : Key) :
    (entries.foldl (fun map entry => map.insertNew entry.1 entry.2) map).get? key =
      (map.get? key).or (lookup key entries) := by
  induction entries generalizing map with
  | nil => simp [lookup]
  | cons entry rest inductionHypothesis =>
      rw [List.foldl_cons, inductionHypothesis, get?_insertNew, lookup]
      by_cases same : entry.1 = key
      · cases isValue : map.get? key <;> simp [same, isValue]
      · simp [same]

theorem lookup_eq_some_iff {key : Key} {value : Value} {entries : List (Key × Value)}
    (nodup : (entries.map Prod.fst).Nodup) :
    lookup key entries = some value ↔ (key, value) ∈ entries := by
  induction entries with
  | nil => simp [lookup]
  | cons entry rest inductionHypothesis =>
      obtain ⟨name, first⟩ := entry
      rw [List.map_cons, List.nodup_cons] at nodup
      rw [lookup, List.mem_cons, ← inductionHypothesis nodup.2]
      by_cases same : name = key
      · subst same
        have absent : lookup name rest ≠ some value := fun found =>
          nodup.1 (List.mem_map.2 ⟨_, (inductionHypothesis nodup.2).1 found, rfl⟩)
        simp [absent, eq_comm]
      · simp [same, Ne.symm same]

/-- The values of a map are those of its entries. -/
theorem get?_eq_some_iff {map : OrderedMap Key Value} {key : Key} {value : Value} :
    map.get? key = some value ↔ (key, value) ∈ map.entries :=
  lookup_eq_some_iff map.keysNodup

omit [DecidableEq Key] in
/-- No entry is listed twice, since no key is. -/
theorem nodup_entries (map : OrderedMap Key Value) : map.entries.Nodup :=
  List.Pairwise.of_map Prod.fst (fun _ _ different same => different (congrArg Prod.fst same))
    map.keysNodup

theorem mem_keys_iff {map : OrderedMap Key Value} {key : Key} :
    key ∈ map.keys ↔ ∃ value, map.get? key = some value := by
  simp only [keys, List.mem_map, get?_eq_some_iff]
  constructor
  · rintro ⟨⟨name, value⟩, listed, rfl⟩
    exact ⟨value, listed⟩
  · rintro ⟨value, listed⟩
    exact ⟨(key, value), listed, rfl⟩

theorem lookup_eq_none_iff {key : Key} {entries : List (Key × Value)} :
    lookup key entries = none ↔ key ∉ entries.map Prod.fst := by
  induction entries with
  | nil => simp [lookup]
  | cons entry rest inductionHypothesis =>
      rw [lookup, List.map_cons, List.mem_cons]
      by_cases same : entry.1 = key
      · simp [same]
      · simp [same, Ne.symm same, inductionHypothesis]

theorem mem_of_lookup {key : Key} {value : Value} {entries : List (Key × Value)}
    (found : lookup key entries = some value) : (key, value) ∈ entries := by
  induction entries with
  | nil => cases found
  | cons entry rest inductionHypothesis =>
      rw [lookup] at found
      split at found
      · next same =>
        cases found
        exact same ▸ List.mem_cons_self
      · exact List.mem_cons_of_mem _ (inductionHypothesis found)

/-- An entry with another key stands before what a lookup finds. -/
theorem ne_of_lookup {first key : Key} {value : Value} {entries : List (Key × Value)}
    (isNew : first ∉ entries.map Prod.fst) (found : lookup key entries = some value) :
    first ≠ key := by
  rintro rfl
  rw [lookup_eq_none_iff.2 isNew] at found
  cases found

theorem get?_eq_none_iff {map : OrderedMap Key Value} {key : Key} :
    map.get? key = none ↔ key ∉ map.keys :=
  lookup_eq_none_iff

theorem put_of_new {key : Key} (value : Value) {entries : List (Key × Value)}
    (isNew : key ∉ entries.map Prod.fst) : put key value entries = entries ++ [(key, value)] := by
  induction entries with
  | nil => rfl
  | cons entry rest inductionHypothesis =>
      rw [List.map_cons, List.mem_cons, not_or] at isNew
      rw [put, if_neg (Ne.symm isNew.1), inductionHypothesis isNew.2, List.cons_append]

theorem entries_insert_of_new {map : OrderedMap Key Value} {key : Key} (value : Value)
    (isNew : map.get? key = none) :
    (map.insert key value).entries = map.entries ++ [(key, value)] :=
  put_of_new value (get?_eq_none_iff.1 isNew)

/-- A new key goes behind the known ones. -/
theorem keys_insert_of_new {map : OrderedMap Key Value} {key : Key} (value : Value)
    (isNew : map.get? key = none) : (map.insert key value).keys = map.keys ++ [key] := by
  rw [keys, entries_insert_of_new value isNew, List.map_append]
  rfl

theorem eq_of_lookup {first second : List (Key × Value)} (nodup : (first.map Prod.fst).Nodup)
    (sameKeys : first.map Prod.fst = second.map Prod.fst)
    (same : ∀ key, lookup key first = lookup key second) : first = second := by
  induction first generalizing second with
  | nil => exact (List.map_eq_nil_iff.1 sameKeys.symm).symm
  | cons entry rest inductionHypothesis =>
      cases second with
      | nil => cases sameKeys
      | cons other others =>
          obtain ⟨key, value⟩ := entry
          obtain ⟨name, found⟩ := other
          rw [List.map_cons, List.map_cons, List.cons.injEq] at sameKeys
          obtain ⟨rfl, restKeys⟩ := sameKeys
          rw [List.map_cons, List.nodup_cons] at nodup
          have head := same key
          simp only [lookup, if_true, Option.some.injEq] at head
          rw [head, inductionHypothesis nodup.2 restKeys]
          intro sought
          have tail := same sought
          simp only [lookup] at tail
          split at tail
          · next isKey =>
            -- The rest of either list has no value under the first key.
            rw [← isKey, lookup_eq_none_iff.2 nodup.1, lookup_eq_none_iff.2 (restKeys ▸ nodup.1)]
          · exact tail

/-- Maps are the same when their keys stand in the same order and have the same values. -/
theorem eq_of_keys {first second : OrderedMap Key Value} (sameKeys : first.keys = second.keys)
    (same : ∀ key, first.get? key = second.get? key) : first = second := by
  obtain ⟨entries, nodup⟩ := first
  obtain ⟨others, othersNodup⟩ := second
  obtain rfl : entries = others := eq_of_lookup nodup sameKeys same
  rfl

/-- Distinct entries that a map takes in replace the values under their keys. -/
theorem get?_extend (map : OrderedMap Key Value) {entries : List (Key × Value)}
    (nodup : (entries.map Prod.fst).Nodup) (key : Key) :
    (map.extend entries).get? key = (lookup key entries).or (map.get? key) := by
  induction entries generalizing map with
  | nil => rfl
  | cons entry rest inductionHypothesis =>
      rw [List.map_cons, List.nodup_cons] at nodup
      have tail := inductionHypothesis (map.insert entry.1 entry.2) nodup.2
      rw [get?_insert] at tail
      change ((map.insert entry.1 entry.2).extend rest).get? key = _
      rw [tail, lookup]
      by_cases same : entry.1 = key
      · have absent : lookup key rest = none := lookup_eq_none_iff.2 (same ▸ nodup.1)
        simp [same, absent]
      · simp [same]

theorem isEmpty_extend (map : OrderedMap Key Value) (entries : List (Key × Value)) :
    (map.extend entries).isEmpty = (map.isEmpty && entries.isEmpty) := by
  induction entries generalizing map with
  | nil => simp [extend]
  | cons entry rest inductionHypothesis =>
      have inserted : (map.insert entry.1 entry.2).isEmpty = false := by
        cases isEntry : map.entries with
        | nil => simp [isEmpty, insert, isEntry, put]
        | cons first others =>
            by_cases same : first.1 = entry.1 <;> simp [isEmpty, insert, isEntry, put, same]
      have tail := inductionHypothesis (map.insert entry.1 entry.2)
      rw [inserted, Bool.false_and] at tail
      simpa [extend] using tail

theorem mem_keys_of_get? {first second : OrderedMap Key Value}
    (found : ∀ key value, first.get? key = some value → second.get? key = some value) {key : Key}
    (isKey : key ∈ first.keys) : key ∈ second.keys := by
  obtain ⟨value, isValue⟩ := mem_keys_iff.1 isKey
  exact mem_keys_iff.2 ⟨value, found key value isValue⟩

/-- A map whose values are all found in another is not larger than the other. -/
theorem size_le_of_get? {first second : OrderedMap Key Value}
    (found : ∀ key value, first.get? key = some value → second.get? key = some value) :
    first.size ≤ second.size := by
  have bound := length_le_of_nodup first.keysNodup fun key isKey => mem_keys_of_get? found isKey
  simpa [keys, size] using bound

/-- Two maps agree exactly when every key has the same value in both. -/
theorem agrees_iff [DecidableEq Value] {first second : OrderedMap Key Value} :
    first.agrees second = true ↔ ∀ key, first.get? key = second.get? key := by
  simp only [agrees, size, Bool.and_eq_true, beq_iff_eq, List.all_eq_true]
  constructor
  · rintro ⟨sameSize, found⟩ key
    have kept : ∀ key value, first.get? key = some value → second.get? key = some value :=
      fun key value isValue => found (key, value) (get?_eq_some_iff.1 isValue)
    cases isFirst : first.get? key with
    | some value => rw [kept key value isFirst]
    | none =>
        cases isSecond : second.get? key with
        | none => rfl
        | some value =>
            -- A key that only the second map has would make it the larger one.
            have fresh : key ∉ first.keys := fun isKey => by
              obtain ⟨other, isOther⟩ := mem_keys_iff.1 isKey
              simp [isFirst] at isOther
            have larger : (key :: first.keys).length ≤ second.keys.length := by
              apply length_le_of_nodup (List.nodup_cons.2 ⟨fresh, first.keysNodup⟩)
              intro other listed
              rcases List.mem_cons.1 listed with rfl | isKey
              · exact mem_keys_iff.2 ⟨value, isSecond⟩
              · exact mem_keys_of_get? kept isKey
            simp only [keys, List.length_cons, List.length_map] at larger
            omega
  · intro same
    refine ⟨Nat.le_antisymm ?_ ?_, fun entry listed => ?_⟩
    · exact size_le_of_get? fun key value isValue => (same key) ▸ isValue
    · exact size_le_of_get? fun key value isValue => (same key).symm ▸ isValue
    · rw [← same entry.1]
      exact get?_eq_some_iff.2 listed

/-- A key that comes only once is new to the entries before it. -/
theorem get?_eq_none_of_nodup {map : OrderedMap Key Value} {entry : Key × Value}
    {rest : List (Key × Value)} (nodup : ((map.entries ++ entry :: rest).map Prod.fst).Nodup) :
    map.get? entry.1 = none := by
  rw [List.map_append, List.map_cons, List.nodup_append] at nodup
  exact get?_eq_none_iff.2 fun known => nodup.2.2 _ known _ List.mem_cons_self rfl

/-- Entries under new keys go behind the known ones in their order. -/
theorem entries_extend {map : OrderedMap Key Value} {entries : List (Key × Value)}
    (nodup : ((map.entries ++ entries).map Prod.fst).Nodup) :
    (map.extend entries).entries = map.entries ++ entries := by
  induction entries generalizing map with
  | nil => exact (List.append_nil _).symm
  | cons entry rest inductionHypothesis =>
      have inserted := entries_insert_of_new entry.2 (get?_eq_none_of_nodup nodup)
      rw [List.append_cons, ← inserted] at nodup ⊢
      exact inductionHypothesis nodup

/-- Distinct new entries are all taken when a known key would keep its value. -/
theorem foldl_insertNew_of_new {map : OrderedMap Key Value} {entries : List (Key × Value)}
    (nodup : ((map.entries ++ entries).map Prod.fst).Nodup) :
    entries.foldl (fun map entry => map.insertNew entry.1 entry.2) map = map.extend entries := by
  induction entries generalizing map with
  | nil => rfl
  | cons entry rest inductionHypothesis =>
      have isNew : map.get? entry.1 = none := get?_eq_none_of_nodup nodup
      have taken : map.insertNew entry.1 entry.2 = map.insert entry.1 entry.2 := by
        simp [insertNew, contains, isNew]
      rw [List.append_cons, ← entries_insert_of_new entry.2 isNew] at nodup
      rw [List.foldl_cons, taken, inductionHypothesis nodup]
      rfl

omit [DecidableEq Key] in
theorem eq_of_entries {first second : OrderedMap Key Value}
    (same : first.entries = second.entries) : first = second := by
  cases first
  cases second
  simpa using same

/-- A map is the one that its entries give. -/
theorem ofList_entries (map : OrderedMap Key Value) : ofList map.entries = map := by
  have same : (empty.extend map.entries).entries = empty.entries ++ map.entries :=
    entries_extend map.keysNodup
  exact eq_of_entries same

theorem lookup_append (key : Key) (entries others : List (Key × Value)) :
    lookup key (entries ++ others) = (lookup key entries).or (lookup key others) := by
  induction entries with
  | nil => rfl
  | cons entry rest inductionHypothesis =>
      rw [List.cons_append, lookup, lookup, inductionHypothesis]
      split <;> rfl

theorem get?_foldl_insert (map : OrderedMap Key Value) (entries : List (Key × Value)) (key : Key) :
    (entries.foldl (fun map entry => map.insert entry.1 entry.2) map).get? key =
      (lookup key entries.reverse).or (map.get? key) := by
  induction entries generalizing map with
  | nil => rfl
  | cons entry rest inductionHypothesis =>
      rw [List.foldl_cons, inductionHypothesis, get?_insert, List.reverse_cons, lookup_append,
        lookup, lookup, Option.or_assoc]
      split <;> rfl

/-- Of several values under one key the last one counts. -/
theorem get?_ofList (entries : List (Key × Value)) (key : Key) :
    (ofList entries).get? key = lookup key entries.reverse := by
  rw [ofList, get?_foldl_insert, get?_empty, Option.or_none]

theorem contains_ofList_iff {entries : List (Key × Value)} {key : Key} :
    (ofList entries).contains key = true ↔ key ∈ entries.map Prod.fst := by
  rw [contains, get?_ofList, Option.isSome_iff_ne_none, ne_eq, lookup_eq_none_iff, Decidable.not_not,
    List.map_reverse, List.mem_reverse]

/-- Entries are all found when none has another value under the same key. -/
theorem get?_ofList_eq_some_iff {entries : List (Key × Value)}
    (agree : ∀ key first second, (key, first) ∈ entries → (key, second) ∈ entries →
      first = second) {key : Key} {value : Value} :
    (ofList entries).get? key = some value ↔ (key, value) ∈ entries := by
  rw [get?_ofList]
  constructor
  · intro found
    exact List.mem_reverse.1 (mem_of_lookup found)
  · intro listed
    cases found : lookup key entries.reverse with
    | some other =>
        have isOther := List.mem_reverse.1 (mem_of_lookup found)
        rw [agree key other value isOther listed]
    | none =>
        rw [lookup_eq_none_iff, List.map_reverse, List.mem_reverse] at found
        exact absurd (List.mem_map_of_mem listed) found

end OrderedMap

/-- A set lists its elements in the order of insertion, each once. -/
structure OrderedSet (Element : Type) where
  elements : List Element
  nodup : elements.Nodup
deriving DecidableEq, Repr

namespace OrderedSet

variable {Element : Type} [DecidableEq Element]

def empty : OrderedSet Element := ⟨[], List.nodup_nil⟩

instance : Inhabited (OrderedSet Element) := ⟨empty⟩

def contains (set : OrderedSet Element) (element : Element) : Bool :=
  set.elements.contains element

def isEmpty (set : OrderedSet Element) : Bool := set.elements.isEmpty

def insert (set : OrderedSet Element) (element : Element) : OrderedSet Element :=
  if found : element ∈ set.elements then set
  else ⟨set.elements ++ [element], by
    rw [List.nodup_append]
    exact ⟨set.nodup, by simp, fun first inSet second inNew => by
      rw [List.mem_singleton] at inNew
      exact fun equal => found (inNew ▸ equal ▸ inSet)⟩⟩

def ofList (elements : List Element) : OrderedSet Element :=
  elements.foldl insert empty

theorem mem_insert (set : OrderedSet Element) (element other : Element) :
    other ∈ (set.insert element).elements ↔ other = element ∨ other ∈ set.elements := by
  unfold insert
  split
  · next found => exact ⟨Or.inr, fun either => either.elim (fun equal => equal ▸ found) id⟩
  · simp [or_comm]

omit [DecidableEq Element] in
theorem isEmpty_eq_false_iff {set : OrderedSet Element} :
    set.isEmpty = false ↔ ∃ element, element ∈ set.elements :=
  List.isEmpty_eq_false_iff_exists_mem

theorem mem_foldl_insert (set : OrderedSet Element) (elements : List Element) (other : Element) :
    other ∈ (elements.foldl insert set).elements ↔ other ∈ set.elements ∨ other ∈ elements := by
  induction elements generalizing set with
  | nil => simp
  | cons element rest inductionHypothesis =>
      rw [List.foldl_cons, inductionHypothesis, mem_insert, List.mem_cons, or_assoc,
        or_left_comm]

theorem mem_ofList {elements : List Element} {element : Element} :
    element ∈ (ofList elements).elements ↔ element ∈ elements := by
  simp [ofList, mem_foldl_insert, empty]

theorem find?_insert (accepts : Element → Bool) (set : OrderedSet Element) (element : Element) :
    (set.insert element).elements.find? accepts =
      (set.elements.find? accepts).or ([element].find? accepts) := by
  unfold insert
  split
  · next known =>
    cases found : set.elements.find? accepts with
    | some first => rfl
    | none =>
        have passed := List.find?_eq_none.1 found element known
        rw [List.find?_cons_of_neg passed]
        rfl
  · exact List.find?_append

theorem find?_foldl_insert (accepts : Element → Bool) (set : OrderedSet Element)
    (elements : List Element) :
    (elements.foldl insert set).elements.find? accepts =
      (set.elements.find? accepts).or (elements.find? accepts) := by
  induction elements generalizing set with
  | nil => simp
  | cons element rest inductionHypothesis =>
      rw [List.foldl_cons, inductionHypothesis, find?_insert, Option.or_assoc, ← List.find?_append]
      rfl

/-- A search meets the elements in the order of their first insertion. -/
theorem find?_ofList (accepts : Element → Bool) (elements : List Element) :
    (ofList elements).elements.find? accepts = elements.find? accepts := by
  rw [ofList, find?_foldl_insert]
  rfl

/-- New elements go behind the known ones in their order. -/
theorem elements_foldl_insert {set : OrderedSet Element} {elements : List Element}
    (nodup : (set.elements ++ elements).Nodup) :
    (elements.foldl insert set).elements = set.elements ++ elements := by
  induction elements generalizing set with
  | nil => exact (List.append_nil _).symm
  | cons element rest inductionHypothesis =>
      have isNew : element ∉ set.elements := fun known =>
        (List.nodup_append.1 nodup).2.2 _ known _ List.mem_cons_self rfl
      have inserted : (set.insert element).elements = set.elements ++ [element] := by
        rw [insert, dif_neg isNew]
      rw [List.append_cons, ← inserted] at nodup ⊢
      exact inductionHypothesis nodup

omit [DecidableEq Element] in
theorem eq_of_elements {first second : OrderedSet Element}
    (same : first.elements = second.elements) : first = second := by
  cases first
  cases second
  simpa using same

/-- A set is the one that its elements give. -/
theorem ofList_elements (set : OrderedSet Element) : ofList set.elements = set := by
  have same : (set.elements.foldl insert empty).elements = empty.elements ++ set.elements :=
    elements_foldl_insert set.nodup
  exact eq_of_elements same

end OrderedSet

end Provisioning
