/-
This file proves that the order of its parameters plays no part in the identity of a feature, nor in
the bytes that are hashed for it.
-/

import Mathlib.Data.List.Nodup
import Mathlib.Tactic.TFAE
import Provisioning.Expansion.Admission
import Provisioning.Expansion.Collected
import Provisioning.State

namespace Provisioning

/-! ### The bytes that are hashed -/

namespace HashInput

/-- No text has this byte in its encoding. -/
def mark : UInt8 := 0xFF

/-- A text is followed by the mark. -/
def ofText (text : String) : List UInt8 := text.toUTF8.data.toList ++ [mark]

/-- A number takes eight bytes, the lowest first. -/
def ofSize (size : Nat) : List UInt8 :=
  (List.range 8).map fun place => UInt8.ofNat (size >>> (8 * place))

/-- A list of pairs is preceded by its length. -/
def ofPairs (pairs : List (String × String)) : List UInt8 :=
  ofSize pairs.length ++ pairs.flatMap fun pair => ofText pair.1 ++ ofText pair.2

/-- The bytes of a character lie below the mark, whether it takes one, two, three or four of them. -/
theorem toNat_lt_of_mem_encoding {c : Char} {byte : UInt8}
    (listed : byte ∈ String.utf8EncodeChar c) : byte.toNat < mark.toNat := by
  have isMark : mark.toNat = 255 := rfl
  unfold String.utf8EncodeChar at listed
  generalize c.val.toNat = number at listed
  dsimp only at listed
  split at listed
  · simp only [List.mem_cons, List.not_mem_nil, or_false] at listed
    rw [listed, UInt8.toNat_ofNat', isMark]
    omega
  · split at listed
    · simp only [List.mem_cons, List.not_mem_nil, or_false] at listed
      rcases listed with rfl | rfl <;> rw [UInt8.toNat_ofNat', isMark] <;> omega
    · split at listed
      · simp only [List.mem_cons, List.not_mem_nil, or_false] at listed
        rcases listed with rfl | rfl | rfl <;> rw [UInt8.toNat_ofNat', isMark] <;> omega
      · simp only [List.mem_cons, List.not_mem_nil, or_false] at listed
        rcases listed with rfl | rfl | rfl | rfl <;> rw [UInt8.toNat_ofNat', isMark] <;> omega

/-- The mark is in the encoding of no text. -/
theorem ne_mark_of_mem {text : String} {byte : UInt8}
    (listed : byte ∈ text.toUTF8.data.toList) : byte ≠ mark := by
  obtain ⟨chars, isEncoded⟩ := text.isValidUTF8
  rw [String.toUTF8, isEncoded, List.utf8Encode, List.toList_data_toByteArray,
    List.mem_flatMap] at listed
  obtain ⟨c, _, listed⟩ := listed
  rintro rfl
  exact absurd (toNat_lt_of_mem_encoding listed) (Nat.lt_irrefl _)

/-- The first mark ends the text. -/
theorem ofText_append_inj {first second : String} {rest others : List UInt8}
    (same : ofText first ++ rest = ofText second ++ others) : first = second ∧ rest = others := by
  have bytes (text : String) (after : List UInt8) :
      (ofText text ++ after).takeWhile (· ≠ mark) = text.toUTF8.data.toList := by
    have unmarked : ∀ byte ∈ text.toUTF8.data.toList, decide (byte ≠ mark) = true :=
      fun byte listed => decide_eq_true (ne_mark_of_mem listed)
    rw [ofText, List.append_assoc, List.takeWhile_append_of_pos unmarked]
    simp
  have sameBytes : first.toUTF8.data.toList = second.toUTF8.data.toList := by
    rw [← bytes first rest, same, bytes]
  obtain rfl : first = second :=
    String.toByteArray_inj.1 (ByteArray.ext (Array.toList_inj.1 sameBytes))
  exact ⟨rfl, List.append_cancel_left same⟩

theorem length_ofSize (size : Nat) : (ofSize size).length = 8 := by simp [ofSize]

/-- Pairs can be read back from their bytes. -/
theorem ofPairs_inj {first second : List (String × String)}
    (same : ofPairs first = ofPairs second) : first = second := by
  have sizes : (ofSize first.length).length = (ofSize second.length).length := by
    rw [length_ofSize, length_ofSize]
  have texts := (List.append_inj same sizes).2
  clear same sizes
  induction first generalizing second with
  | nil =>
      cases second with
      | nil => rfl
      | cons pair others => simp [ofText] at texts
  | cons pair rest inductionHypothesis =>
      cases second with
      | nil => simp [ofText] at texts
      | cons other others =>
          simp only [List.flatMap_cons, List.append_assoc] at texts
          obtain ⟨sameName, texts⟩ := ofText_append_inj texts
          obtain ⟨sameValue, texts⟩ := ofText_append_inj texts
          rw [Prod.ext sameName sameValue, inductionHypothesis texts]

end HashInput

/-! ### The key of an id -/

namespace OrderedMap

variable {Key Value : Type} [DecidableEq Key] [DecidableEq Value]

/-- Maps agree when they have the same entries. -/
theorem agrees_iff_mem {first second : OrderedMap Key Value} :
    first.agrees second = true ↔ ∀ entry, entry ∈ first.entries ↔ entry ∈ second.entries := by
  rw [agrees_iff]
  constructor
  · rintro same ⟨key, value⟩
    rw [← get?_eq_some_iff, ← get?_eq_some_iff, same]
  · intro same key
    apply Option.ext
    intro value
    rw [get?_eq_some_iff, get?_eq_some_iff]
    exact same (key, value)

/-- Maps agree when their entries differ at most in their order. -/
theorem agrees_iff_perm {first second : OrderedMap Key Value} :
    first.agrees second = true ↔ first.entries.Perm second.entries := by
  rw [agrees_iff_mem, List.perm_ext_iff_of_nodup first.nodup_entries second.nodup_entries]

/-- Maps that agree with each other agree with the same maps. -/
theorem agrees_congr {first second : OrderedMap Key Value} (same : first.agrees second = true)
    (other : OrderedMap Key Value) :
    first.agrees other = second.agrees other ∧ other.agrees first = other.agrees second := by
  rw [agrees_iff] at same
  constructor <;> rw [Bool.eq_iff_iff, agrees_iff, agrees_iff] <;> simp only [same]

end OrderedMap

namespace IdParams

/-- Pairs are compared by their names and then by their values. -/
theorem pairLe_iff {first second : String × String} :
    pairLe first second = true ↔
      (first.1 = second.1 ∧ first.2 ≤ second.2) ∨ (first.1 ≠ second.1 ∧ first.1 ≤ second.1) := by
  unfold pairLe
  split
  · next same => simp [same]
  · next different => simp [different]

/-- Of two pairs, one comes before the other. -/
theorem pairLe_total (first second : String × String) :
    (pairLe first second || pairLe second first) = true := by
  rw [Bool.or_eq_true, pairLe_iff, pairLe_iff]
  by_cases same : first.1 = second.1
  · simpa [same] using String.le_total first.2 second.2
  · simpa [same, Ne.symm same] using String.le_total first.1 second.1

/-- Pairs that come before each other are the same. -/
theorem pairLe_antisymm {first second : String × String} (below : pairLe first second = true)
    (above : pairLe second first = true) : first = second := by
  rw [pairLe_iff] at below above
  rcases below with ⟨sameName, below⟩ | ⟨different, below⟩
  · rcases above with ⟨_, above⟩ | ⟨different, _⟩
    · exact Prod.ext sameName (String.le_antisymm below above)
    · exact absurd sameName.symm different
  · rcases above with ⟨sameName, _⟩ | ⟨_, above⟩
    · exact absurd sameName.symm different
    · exact absurd (String.le_antisymm below above) different

/-- The comparison of pairs is transitive. -/
theorem pairLe_trans (first second third : String × String) (below : pairLe first second = true)
    (next : pairLe second third = true) : pairLe first third = true := by
  rw [pairLe_iff] at below next ⊢
  rcases below with ⟨sameName, below⟩ | ⟨different, below⟩
  · rw [sameName]
    exact next.imp (fun next => ⟨next.1, String.le_trans below next.2⟩) id
  · rcases next with ⟨sameName, _⟩ | ⟨apart, next⟩
    · exact .inr (sameName ▸ ⟨different, below⟩)
    · refine .inr ⟨fun same => ?_, String.le_trans below next⟩
      exact apart (String.le_antisymm next (same ▸ below))

/-- Parameters are sorted alike when they are the same pairs. -/
theorem sorted_eq_iff {first second : IdParams} :
    first.sorted = second.sorted ↔ first.agrees second = true := by
  rw [OrderedMap.agrees_iff_perm]
  constructor
  · intro same
    have firstSorted : first.sorted.Perm first.entries := List.mergeSort_perm _ _
    have secondSorted : second.sorted.Perm second.entries := List.mergeSort_perm _ _
    exact firstSorted.symm.trans (same ▸ secondSorted)
  · intro arranged
    have ordered (params : IdParams) : params.sorted.Pairwise fun a b => pairLe a b = true :=
      List.pairwise_mergeSort pairLe_trans pairLe_total params.entries
    refine List.Perm.eq_of_pairwise (fun _ _ _ _ => pairLe_antisymm) (ordered first)
      (ordered second) ?_
    exact (List.mergeSort_perm _ _).trans (arranged.trans (List.mergeSort_perm _ _).symm)

end IdParams

/-! ### Ids in tables, rules and filters -/

/-- A table with hashes compares them before it compares the keys. -/
def hits {Id : Type} (hash : List UInt8 → UInt64) (input : Id → List UInt8)
    (same : Id → Id → Bool) (known sought : Id) : Bool :=
  hash (input known) == hash (input sought) && same known sought

namespace FeatureId

variable {first second : FeatureId}

/-- The bytes that are hashed for an id are those of its key. -/
def hashInput (id : FeatureId) : List UInt8 :=
  HashInput.ofText id.key.1 ++ HashInput.ofPairs id.key.2

/-- Ids are the same when their specs are and their parameters agree. -/
theorem same_iff : first.same second = true ↔
    first.spec = second.spec ∧ first.params.agrees second.params = true := by
  rw [same, Bool.and_eq_true, beq_iff_eq]

/-- Ids have one key exactly when they are the same. -/
theorem key_eq_iff : first.key = second.key ↔ first.same second = true := by
  rw [same_iff, ← IdParams.sorted_eq_iff, key, key, Prod.mk.injEq]

/-- The hashed bytes determine the key. -/
theorem hashInput_eq_iff : first.hashInput = second.hashInput ↔ first.key = second.key := by
  constructor
  · intro same
    obtain ⟨sameSpec, samePairs⟩ := HashInput.ofText_append_inj same
    exact Prod.ext sameSpec (HashInput.ofPairs_inj samePairs)
  · intro same
    rw [hashInput, same, hashInput]

/-- One id does for the other in a table, in the rules of a filter and against a feature. -/
structure Interchangeable (first second : FeatureId) : Prop where
  /-- Whatever the hash function, a table that knows one of them finds it by the other. -/
  table : ∀ hash, hits hash hashInput same first second = true
  repeats : ∀ origin (other : FeatureRef),
    FeatureRef.same ⟨origin, first⟩ other = FeatureRef.same ⟨origin, second⟩ other
  matching : ∀ (layout : Layout) scope origin id,
    layout.matchesFeature scope ⟨origin, first⟩ id =
      layout.matchesFeature scope ⟨origin, second⟩ id

/-- The same ids are interchangeable in every lookup. -/
theorem interchangeable (same : first.same second = true) : first.Interchangeable second where
  table hash := by
    have sameInput := hashInput_eq_iff.2 (key_eq_iff.2 same)
    rw [hits, sameInput, same, beq_self_eq_true, Bool.true_and]
  repeats origin other := by
    obtain ⟨sameSpec, agree⟩ := same_iff.1 same
    simp only [FeatureRef.same, FeatureId.same, sameSpec,
      (OrderedMap.agrees_congr agree other.id.params).1]
  matching layout scope origin id := by
    obtain ⟨sameSpec, agree⟩ := same_iff.1 same
    simp only [Layout.matchesFeature, sameSpec, (OrderedMap.agrees_congr agree id.params).1]

end FeatureId

namespace ResolvedId

variable {first second : ResolvedId}

/-- The coordinate and the name of the spec are hashed before the parameters. -/
def hashInput (id : ResolvedId) : List UInt8 :=
  HashInput.ofText id.key.1.gav.group ++ (HashInput.ofText id.key.1.gav.artifact ++
    (HashInput.ofText id.key.1.gav.version ++ (HashInput.ofText id.key.1.name ++
      HashInput.ofPairs id.key.2)))

/-- Ids have one key exactly when they are the same. -/
theorem key_eq_iff : first.key = second.key ↔ first.same second = true := by
  rw [same, Bool.and_eq_true, beq_iff_eq, ← IdParams.sorted_eq_iff, key, key, Prod.mk.injEq]

/-- The hashed bytes determine the key. -/
theorem hashInput_eq_iff : first.hashInput = second.hashInput ↔ first.key = second.key := by
  constructor
  · intro same
    obtain ⟨sameGroup, same⟩ := HashInput.ofText_append_inj same
    obtain ⟨sameArtifact, same⟩ := HashInput.ofText_append_inj same
    obtain ⟨sameVersion, same⟩ := HashInput.ofText_append_inj same
    obtain ⟨sameName, samePairs⟩ := HashInput.ofText_append_inj same
    have sameGav : first.key.1.gav = second.key.1.gav := by
      rw [Gav.mk.injEq]
      exact ⟨sameGroup, sameArtifact, sameVersion⟩
    exact Prod.ext (SpecId.mk.injEq .. ▸ ⟨sameGav, sameName⟩) (HashInput.ofPairs_inj samePairs)
  · intro same
    rw [hashInput, same, hashInput]

/-- What is found under one id is found under the other. -/
theorem same_congr (same : first.same second = true) (known : ResolvedId) :
    known.same first = known.same second :=
  Bool.eq_iff_iff.2 ⟨fun isFirst => same_trans isFirst same,
    fun isSecond => same_trans isSecond (same_symm same)⟩

end ResolvedId

namespace CollectedFeature

/-- A collected feature, with the key of its id in the place of the id. -/
def keyed (feature : CollectedFeature) :
    (SpecId × List (String × String)) × FeatureSpec × Nat × OrderedMap String String :=
  (feature.id.key, feature.spec, feature.index, feature.params)

end CollectedFeature

/-- An occurrence is merged into the same feature whichever of two ids it has. -/
theorem Collected.merge_congr {first second : ResolvedId} (same : first.same second = true)
    (feature : CollectedFeature) (collected : Collected) :
    (collected.merge { feature with id := first }).map (List.map CollectedFeature.keyed) =
      (collected.merge { feature with id := second }).map (List.map CollectedFeature.keyed) := by
  induction collected with
  | nil =>
      have sameKey := ResolvedId.key_eq_iff.2 same
      simp only [Collected.merge, Except.map, List.map_cons, CollectedFeature.keyed, sameKey]
  | cons known rest inductionHypothesis =>
      simp only [Collected.merge, ResolvedId.same_congr same]
      split
      · rfl
      · simp only [bind, Except.bind, pure, Except.pure]
        cases isFirst : Collected.merge { feature with id := first } rest <;>
          cases isSecond : Collected.merge { feature with id := second } rest <;>
            simp_all [Except.map]

namespace ResolvedId

variable {first second : ResolvedId}

/-- One id does for the other in a table, while features are merged, where a reference leads, when
features are checked for repetitions and against the rules of a filter. -/
structure Interchangeable (first second : ResolvedId) : Prop where
  /-- Whatever the hash function, a table that knows one of them finds it by the other. -/
  table : ∀ hash, hits hash hashInput same first second = true
  merging : ∀ (feature : CollectedFeature) (collected : Collected),
    (collected.merge { feature with id := first }).map (List.map CollectedFeature.keyed) =
      (collected.merge { feature with id := second }).map (List.map CollectedFeature.keyed)
  position : ∀ collected : Collected, collected.position? first = collected.position? second
  repeated : ∀ config earlier (feature : ProvisionedFeature),
    (ProvisionedConfig.featureProblem? config earlier { feature with id := first }).isSome =
      (ProvisionedConfig.featureProblem? config earlier { feature with id := second }).isSome
  matching : ∀ (layout : Layout) scope feature,
    layout.matchesFeature scope feature first = layout.matchesFeature scope feature second

/-- The same ids are interchangeable in every lookup. -/
theorem interchangeable (same : first.same second = true) : first.Interchangeable second where
  table hash := by
    have sameInput := hashInput_eq_iff.2 (key_eq_iff.2 same)
    rw [hits, sameInput, same, beq_self_eq_true, Bool.true_and]
  merging feature collected := Collected.merge_congr same feature collected
  position collected := by
    simp only [Collected.position?, same_congr same]
  repeated config earlier feature := by
    simp only [ProvisionedConfig.featureProblem?, same_congr same]
    split <;> rfl
  matching layout scope feature := by
    obtain ⟨sameSpec, agree⟩ : first.specId = second.specId ∧ first.params.agrees second.params := by
      simpa [ResolvedId.same] using same
    simp only [Layout.matchesFeature, ResolvedId.gav, sameSpec,
      (OrderedMap.agrees_congr agree feature.id.params).2]

end ResolvedId

/-- Two ids are the same exactly when they are hashed alike, which is when they have the same spec
and the same pairs in any order; then one does for the other wherever an id is looked up. -/
theorem identity_ignores_order :
    (∀ first second : FeatureId, [
      first.same second = true,
      first.hashInput = second.hashInput,
      first.spec = second.spec ∧ ∀ pair, pair ∈ first.params.entries ↔ pair ∈ second.params.entries,
      first.Interchangeable second].TFAE) ∧
    ∀ first second : ResolvedId, [
      first.same second = true,
      first.hashInput = second.hashInput,
      first.specId = second.specId ∧
        ∀ pair, pair ∈ first.params.entries ↔ pair ∈ second.params.entries,
      first.Interchangeable second].TFAE := by
  have hit {Id : Type} {input : Id → List UInt8} {same : Id → Id → Bool} {first second : Id}
      (table : ∀ hash, hits hash input same first second = true) : same first second = true :=
    (Bool.and_eq_true_iff.1 (table fun _ => 0)).2
  constructor
  · intro first second
    tfae_have 1 ↔ 2 := FeatureId.key_eq_iff.symm.trans FeatureId.hashInput_eq_iff.symm
    tfae_have 1 ↔ 3 := by rw [FeatureId.same_iff, OrderedMap.agrees_iff_mem]
    tfae_have 1 → 4 := FeatureId.interchangeable
    tfae_have 4 → 1 := fun one => hit one.table
    tfae_finish
  · intro first second
    tfae_have 1 ↔ 2 := ResolvedId.key_eq_iff.symm.trans ResolvedId.hashInput_eq_iff.symm
    tfae_have 1 ↔ 3 := by
      rw [ResolvedId.same, Bool.and_eq_true, beq_iff_eq, OrderedMap.agrees_iff_mem]
    tfae_have 1 → 4 := ResolvedId.interchangeable
    tfae_have 4 → 1 := fun one => hit one.table
    tfae_finish

end Provisioning
