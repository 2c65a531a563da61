/-
This file proves what lookups find after any sequence of inserts.
-/

import Mathlib.Data.Finset.Card
import Mathlib.Data.List.Induction
import Provisioning.Proofs.Repository.Latest

namespace Provisioning.Repository

/-- The feature-pack that has been inserted most recently under a coordinate. -/
def lastWith? (gav : Gav) (inserts : List FeaturePack) : Option FeaturePack :=
  inserts.reverse.find? fun pack => pack.gav == gav

/-- The feature-pack that has been inserted most recently for an artifact. -/
def lastFor? (artifact : Gav) (inserts : List FeaturePack) : Option FeaturePack :=
  inserts.reverse.find? fun pack => pack.gav.sameArtifact artifact

/-- What is current for an artifact is what has been inserted most recently for it. -/
def LatestIsLast (inserts : List FeaturePack) : Prop :=
  ∀ artifact : Gav, artifact.isLatest = true →
    (ofList inserts).find? artifact = lastFor? artifact inserts

/-- The coordinates in the order of the inserts. -/
def coordinates (inserts : List FeaturePack) : List Gav := inserts.map fun pack => pack.gav

theorem coordinates_cons (pack : FeaturePack) (rest : List FeaturePack) :
    coordinates (pack :: rest) = pack.gav :: coordinates rest := rfl

theorem coordinates_append (before after : List FeaturePack) :
    coordinates (before ++ after) = coordinates before ++ coordinates after :=
  List.map_append

/-- Of all coordinates of an artifact, this one has been inserted for the first time after all
others. -/
structure ArrivedLast (inserts : List FeaturePack) (artifact gav : Gav) : Prop where
  inserted : gav ∈ coordinates inserts
  isArtifact : gav.sameArtifact artifact = true
  last : ∀ other ∈ coordinates inserts, other.sameArtifact artifact = true →
    (coordinates inserts).idxOf other ≤ (coordinates inserts).idxOf gav

/-- One more insert puts its feature-pack among the others. -/
theorem packs_ofList_snoc (inserts : List FeaturePack) (pack : FeaturePack) :
    (ofList (inserts ++ [pack])).packs = put pack (ofList inserts).packs := by
  rw [ofList, List.foldl_append]
  rfl

/-- The last insert prevails for its coordinates. -/
theorem lastWith?_snoc (gav : Gav) (inserts : List FeaturePack) (pack : FeaturePack) :
    lastWith? gav (inserts ++ [pack]) =
      if pack.gav = gav then some pack else lastWith? gav inserts := by
  rw [lastWith?, List.reverse_append, List.reverse_singleton, List.singleton_append]
  by_cases same : pack.gav = gav
  · rw [List.find?_cons_of_pos (by simpa using same), if_pos same]
  · rw [List.find?_cons_of_neg (by simpa using same), if_neg same, lastWith?]

/-- An insert changes what is known under its own coordinate only. -/
theorem find?_put (gav : Gav) (pack : FeaturePack) (packs : List FeaturePack) :
    ((put pack packs).find? fun known => known.gav == gav) =
      if pack.gav = gav then some pack else packs.find? fun known => known.gav == gav := by
  induction packs with
  | nil =>
      by_cases same : pack.gav = gav
      · simp [put, same]
      · simp [put, same]
  | cons known rest inductionHypothesis =>
      unfold put
      split
      · next replaced =>
        rw [List.find?_cons, List.find?_cons, replaced]
        by_cases same : pack.gav = gav
        · simp [same]
        · simp [same, beq_eq_false_iff_ne.2 same]
      · next kept =>
        rw [List.find?_cons, inductionHypothesis, List.find?_cons]
        by_cases isKnown : known.gav = gav
        · have other : pack.gav ≠ gav := fun same => kept (isKnown.trans same.symm)
          simp [isKnown, other]
        · simp [beq_eq_false_iff_ne.2 isKnown]

/-- Under every coordinate a repository knows what has been inserted last. -/
theorem find?_packs_ofList (gav : Gav) (inserts : List FeaturePack) :
    ((ofList inserts).packs.find? fun pack => pack.gav == gav) = lastWith? gav inserts := by
  induction inserts using List.reverseRecOn with
  | nil => rfl
  | append_singleton inserts pack inductionHypothesis =>
      rw [packs_ofList_snoc, find?_put, inductionHypothesis, lastWith?_snoc]

/-- A coordinate that is new goes behind the others, and one that is known keeps its place. -/
theorem coordinates_put (pack : FeaturePack) (packs : List FeaturePack) :
    coordinates (put pack packs) =
      if pack.gav ∈ coordinates packs then coordinates packs
      else coordinates packs ++ [pack.gav] := by
  induction packs with
  | nil => rfl
  | cons first rest inductionHypothesis =>
      unfold put
      split
      · next same => simp [coordinates_cons, same]
      · next different =>
        have same : pack.gav ∈ coordinates (first :: rest) ↔ pack.gav ∈ coordinates rest := by
          rw [coordinates_cons, List.mem_cons, or_iff_right (Ne.symm different)]
        rw [coordinates_cons, inductionHypothesis]
        by_cases known : pack.gav ∈ coordinates rest
        · rw [if_pos known, if_pos (same.2 known), coordinates_cons]
        · rw [if_neg known, if_neg (known ∘ same.1), coordinates_cons, List.cons_append]

/-- A repository has the coordinates of all inserts. -/
theorem mem_coordinates_packs_iff {gav : Gav} {inserts : List FeaturePack} :
    gav ∈ coordinates (ofList inserts).packs ↔ gav ∈ coordinates inserts := by
  induction inserts using List.reverseRecOn with
  | nil => rfl
  | append_singleton inserts pack inductionHypothesis =>
      rw [packs_ofList_snoc, coordinates, mem_gavs_put, ← coordinates, inductionHypothesis,
        coordinates_append, List.mem_append, or_comm]
      exact or_congr_right List.mem_singleton.symm

/-- A repository lists coordinates in the order of their first inserts. -/
theorem coordinates_packs_pairwise (inserts : List FeaturePack) :
    (coordinates (ofList inserts).packs).Pairwise fun first second =>
      (coordinates inserts).idxOf first ≤ (coordinates inserts).idxOf second := by
  induction inserts using List.reverseRecOn with
  | nil => exact List.Pairwise.nil
  | append_singleton inserts pack inductionHypothesis =>
      have snoc : coordinates (inserts ++ [pack]) = coordinates inserts ++ [pack.gav] :=
        coordinates_append inserts [pack]
      -- Whatever is known already has its first insert where it was.
      have unmoved : ∀ gav ∈ coordinates (ofList inserts).packs,
          (coordinates inserts ++ [pack.gav]).idxOf gav = (coordinates inserts).idxOf gav := by
        intro gav isKnown
        exact List.idxOf_append_of_mem (mem_coordinates_packs_iff.1 isKnown)
      have earlier : (coordinates (ofList inserts).packs).Pairwise fun first second =>
          (coordinates inserts ++ [pack.gav]).idxOf first ≤
            (coordinates inserts ++ [pack.gav]).idxOf second := by
        apply inductionHypothesis.imp_of_mem
        intro first second isFirst isSecond inOrder
        rw [unmoved first isFirst, unmoved second isSecond]
        exact inOrder
      rw [packs_ofList_snoc, coordinates_put, snoc]
      split
      · exact earlier
      · next isNew =>
        rw [List.pairwise_append]
        refine ⟨earlier, List.pairwise_singleton _ _, ?_⟩
        intro gav isKnown last isLast
        obtain rfl := List.mem_singleton.1 isLast
        rw [mem_coordinates_packs_iff] at isNew
        rw [unmoved gav isKnown, List.idxOf_append_of_notMem isNew]
        have inside := List.idxOf_lt_length_of_mem (mem_coordinates_packs_iff.1 isKnown)
        omega

section

variable {inserts : List FeaturePack} {artifact : Gav} {pack : FeaturePack}

/-- A repository has the last insert for each coordinates. -/
theorem mem_packs_ofList_iff :
    pack ∈ (ofList inserts).packs ↔ lastWith? pack.gav inserts = some pack := by
  rw [← find?_packs_ofList, Checks.find?_key_eq_some_iff (ofList inserts).gavsNodup]
  exact (and_iff_left rfl).symm

/-- The current version of an artifact is the one whose first insert came last, as it has been
inserted most recently. -/
theorem find?_ofList_of_latest (isLatest : artifact.isLatest = true) :
    (ofList inserts).find? artifact = some pack ↔
      ArrivedLast inserts artifact pack.gav ∧ lastWith? pack.gav inserts = some pack := by
  have inOrder := List.pairwise_map.1 (coordinates_packs_pairwise inserts)
  -- Entries stand in the order of their first inserts, and the search takes the last one.
  have found : ∀ known ∈ (ofList inserts).packs, known.gav.sameArtifact artifact = true →
      ∃ last ∈ (ofList inserts).packs, (ofList inserts).find? artifact = some last ∧
        last.gav.sameArtifact artifact = true ∧
          (coordinates inserts).idxOf known.gav ≤ (coordinates inserts).idxOf last.gav := by
    intro known isKnown isArtifact
    rw [find?, if_pos isLatest]
    exact find?_reverse_of_pairwise (fun pack => pack.gav.sameArtifact artifact) inOrder
      (fun _ => Nat.le_refl _) isKnown isArtifact
  constructor
  · intro isFound
    obtain ⟨isKnown, isArtifact⟩ := find?_eq_some isFound
    refine ⟨⟨?_, isArtifact, ?_⟩, mem_packs_ofList_iff.1 isKnown⟩
    · exact mem_coordinates_packs_iff.1 (List.mem_map_of_mem isKnown)
    · intro other isInserted sameArtifact
      obtain ⟨known, isKnown, rfl⟩ := List.mem_map.1 (mem_coordinates_packs_iff.2 isInserted)
      obtain ⟨last, _, isLast, _, inOrder⟩ := found known isKnown sameArtifact
      obtain rfl := Option.some.inj (isFound.symm.trans isLast)
      exact inOrder
  · rintro ⟨arrived, isInserted⟩
    have isKnown := mem_packs_ofList_iff.2 isInserted
    obtain ⟨last, isLastKnown, isLast, isArtifact, inOrder⟩ :=
      found pack isKnown arrived.isArtifact
    have lastInserted : last.gav ∈ coordinates inserts :=
      mem_coordinates_packs_iff.1 (List.mem_map_of_mem isLastKnown)
    have notLater := arrived.last last.gav lastInserted isArtifact
    have sameGav : pack.gav = last.gav :=
      (List.idxOf_inj arrived.inserted).1 (Nat.le_antisymm inOrder notLater)
    have isPack := mem_packs_ofList_iff.1 isLastKnown
    rw [← sameGav, isInserted] at isPack
    rw [isLast, isPack]

/-- The latest version is missing when no version was inserted. -/
theorem find?_ofList_eq_none_iff (isLatest : artifact.isLatest = true) :
    (ofList inserts).find? artifact = none ↔
      ∀ other ∈ coordinates inserts, other.sameArtifact artifact = false := by
  rw [find?, if_pos isLatest, List.find?_eq_none]
  simp only [List.mem_reverse, Bool.not_eq_true]
  rw [← List.forall_mem_map (P := fun gav : Gav => gav.sameArtifact artifact = false)]
  constructor
  · intro others other isInserted
    exact others other (mem_coordinates_packs_iff.2 isInserted)
  · intro others other isKnown
    exact others other (mem_coordinates_packs_iff.1 isKnown)

/-- There is no last version when none was inserted. -/
theorem lastFor?_eq_none_iff :
    lastFor? artifact inserts = none ↔
      ∀ other ∈ coordinates inserts, other.sameArtifact artifact = false := by
  simp [lastFor?, coordinates]

/-- Whatever has been inserted last for an artifact has been inserted last under its coordinate. -/
theorem lastWith?_of_lastFor? (isLast : lastFor? artifact inserts = some pack) :
    pack.gav ∈ coordinates inserts ∧ pack.gav.sameArtifact artifact = true ∧
      lastWith? pack.gav inserts = some pack := by
  obtain ⟨isArtifact, later, earlier, split, passed⟩ := List.find?_eq_some_iff_append.1 isLast
  refine ⟨?_, isArtifact, ?_⟩
  · have isInserted : pack ∈ inserts.reverse := by
      rw [split]
      exact List.mem_append_right later List.mem_cons_self
    exact List.mem_map_of_mem (List.mem_reverse.1 isInserted)
  · rw [lastWith?, List.find?_eq_some_iff_append]
    refine ⟨by simp, later, earlier, split, ?_⟩
    intro other isLater
    have otherArtifact := passed other isLater
    by_cases same : other.gav = pack.gav
    · simp [same, isArtifact] at otherArtifact
    · simpa using same

/-- The current version of an artifact is what has been inserted last for it exactly when that has
a coordinate that arrived last. -/
theorem find?_ofList_eq_lastFor?_iff (isLatest : artifact.isLatest = true) :
    (ofList inserts).find? artifact = lastFor? artifact inserts ↔
      ∀ pack, lastFor? artifact inserts = some pack →
        ArrivedLast inserts artifact pack.gav := by
  constructor
  · intro same pack isLast
    exact ((find?_ofList_of_latest isLatest).1 (same.trans isLast)).1
  · intro arrived
    cases isLast : lastFor? artifact inserts with
    | some pack =>
        obtain ⟨_, _, isInserted⟩ := lastWith?_of_lastFor? isLast
        exact (find?_ofList_of_latest isLatest).2 ⟨arrived pack isLast, isInserted⟩
    | none =>
        rw [find?_ofList_eq_none_iff isLatest]
        exact lastFor?_eq_none_iff.1 isLast

/-- A repository has as many entries as there are different coordinates. -/
theorem size_ofList (inserts : List FeaturePack) :
    (ofList inserts).size = (coordinates inserts).toFinset.card := by
  have sameCoordinates : (coordinates (ofList inserts).packs).toFinset =
      (coordinates inserts).toFinset := by
    apply Finset.ext
    intro gav
    rw [List.mem_toFinset, List.mem_toFinset, mem_coordinates_packs_iff]
  have nodup : (coordinates (ofList inserts).packs).Nodup := (ofList inserts).gavsNodup
  rw [← sameCoordinates, List.toFinset_card_of_nodup nodup, coordinates, List.length_map, size]

end

/-- A lookup finds what has been inserted last under a concrete coordinate, and there are as many
entries as different coordinates. The current version of an artifact is the one that arrived last;
a version that is inserted again keeps its place, so that this need not be the last insert. -/
theorem lookups_follow_inserts (inserts : List FeaturePack) :
    (∀ gav : Gav, gav.isLatest = false → (ofList inserts).find? gav = lastWith? gav inserts) ∧
    (∀ artifact : Gav, artifact.isLatest = true →
      (∀ pack, (ofList inserts).find? artifact = some pack ↔
        ArrivedLast inserts artifact pack.gav ∧ lastWith? pack.gav inserts = some pack) ∧
      ((ofList inserts).find? artifact = none ↔ lastFor? artifact inserts = none)) ∧
    (LatestIsLast inserts ↔ ∀ artifact : Gav, artifact.isLatest = true →
      ∀ pack, lastFor? artifact inserts = some pack →
        ArrivedLast inserts artifact pack.gav) ∧
    (ofList inserts).size = (coordinates inserts).toFinset.card := by
  refine ⟨?_, ?_, ?_, size_ofList inserts⟩
  · intro gav isConcrete
    rw [find?, if_neg (by simp [isConcrete])]
    exact find?_packs_ofList gav inserts
  · intro artifact isLatest
    constructor
    · intro pack
      exact find?_ofList_of_latest isLatest
    · rw [find?_ofList_eq_none_iff isLatest, lastFor?_eq_none_iff]
  · constructor
    · intro isLast artifact isLatest
      exact (find?_ofList_eq_lastFor?_iff isLatest).1 (isLast artifact isLatest)
    · intro arrived artifact isLatest
      exact (find?_ofList_eq_lastFor?_iff isLatest).2 (arrived artifact isLatest)

/-! One version of a kiln is inserted again behind another one. -/

namespace Kiln

def pack (version : String) : FeaturePack where
  gav := ⟨"g", "kiln", version⟩
  dependencies := []
  packages := []
  markedDefaults := []
  specs := []
  groups := []
  configs := []
  accepted := by rfl

def inserts : List FeaturePack := [pack "1", pack "2", pack "1"]

def latest : Gav := ⟨"g", "kiln", Gav.latestVersion⟩

end Kiln

/-- The version that is inserted last is not the current one, as it has been known before the
other. -/
theorem not_latestIsLast_kiln :
    (ofList Kiln.inserts).find? Kiln.latest = some (Kiln.pack "2") ∧
      lastFor? Kiln.latest Kiln.inserts = some (Kiln.pack "1") ∧ ¬LatestIsLast Kiln.inserts := by
  have found : (ofList Kiln.inserts).find? Kiln.latest = some (Kiln.pack "2") := by rfl
  have last : lastFor? Kiln.latest Kiln.inserts = some (Kiln.pack "1") := by rfl
  refine ⟨found, last, fun isLast => ?_⟩
  have same : some (Kiln.pack "2") = some (Kiln.pack "1") :=
    found.symm.trans ((isLast Kiln.latest rfl).trans last)
  have sameVersion : "2" = "1" := congrArg (fun pack => pack.gav.version) (Option.some.inj same)
  revert sameVersion
  decide

end Provisioning.Repository
