/-
This file proves that merging joins what is contributed, in whatever order it comes.
-/

import Provisioning.Proofs.Expansion.Contributions

namespace Provisioning

namespace CollectedFeature

variable {spec : SpecId} {params merged : OrderedMap String String}
  {entries : List (String × String)}

/-- Merging adds values to those that are there. -/
theorem get?_mergeParams (isMerged : mergeParams spec params entries = .ok merged) (name : String) :
    merged.get? name = (params.get? name).or (OrderedMap.lookup name entries) := by
  fun_induction mergeParams spec params entries with
  | case1 params =>
      cases isMerged
      rw [OrderedMap.lookup, Option.or_none]
  | case2 params added value rest absent inductionHypothesis =>
      rw [inductionHypothesis isMerged, OrderedMap.get?_insert, OrderedMap.lookup]
      by_cases same : added = name
      · simp [← same, absent]
      · simp [same]
  | case3 params added rest first isFirst inductionHypothesis =>
      rw [inductionHypothesis isMerged, OrderedMap.lookup]
      by_cases same : added = name
      · simp [← same, isFirst]
      · simp [same]
  | case4 => cases isMerged

/-- No value is lost. -/
theorem agrees_mergeParams (isMerged : mergeParams spec params entries = .ok merged) :
    ∀ name value, OrderedMap.lookup name entries = some value → merged.get? name = some value := by
  fun_induction mergeParams spec params entries with
  | case1 params => exact fun name value isValue => by cases isValue
  | case2 params added given rest absent inductionHypothesis =>
      intro name value isValue
      rw [OrderedMap.lookup] at isValue
      split at isValue
      · next same =>
        have inserted := OrderedMap.get?_insert params added name given
        rw [if_pos same, isValue] at inserted
        exact mergeParams_ok isMerged name value inserted
      · exact inductionHypothesis isMerged name value isValue
  | case3 params added rest first isFirst inductionHypothesis =>
      intro name value isValue
      rw [OrderedMap.lookup] at isValue
      split at isValue
      · next same =>
        rw [isValue] at isFirst
        exact mergeParams_ok isMerged name value (same ▸ isFirst)
      · exact inductionHypothesis isMerged name value isValue
  | case4 => cases isMerged

/-- Values merge when none contradicts another. -/
theorem succeeds_mergeParams (nodup : (entries.map Prod.fst).Nodup)
    (agree : ∀ name first value, params.get? name = some first →
      OrderedMap.lookup name entries = some value → first = value) :
    Succeeds (mergeParams spec params entries) := by
  fun_induction mergeParams spec params entries with
  | case1 params => exact succeeds_ok _
  | case2 params added given rest absent inductionHypothesis =>
      rw [List.map_cons, List.nodup_cons] at nodup
      apply inductionHypothesis nodup.2
      intro name first value isFirst isValue
      have different := OrderedMap.ne_of_lookup nodup.1 isValue
      rw [OrderedMap.get?_insert, if_neg different] at isFirst
      exact agree name first value isFirst (by rw [OrderedMap.lookup, if_neg different, isValue])
  | case3 params added rest first isFirst inductionHypothesis =>
      rw [List.map_cons, List.nodup_cons] at nodup
      apply inductionHypothesis nodup.2
      intro name known value isKnown isValue
      have different := OrderedMap.ne_of_lookup nodup.1 isValue
      exact agree name known value isKnown (by rw [OrderedMap.lookup, if_neg different, isValue])
  | case4 params added given rest first isFirst different =>
      exact absurd (agree added first given isFirst (by rw [OrderedMap.lookup, if_pos rfl])) different

/-- Values that are there already change nothing. -/
theorem mergeParams_of_held (held : ∀ pair ∈ entries, params.get? pair.1 = some pair.2) :
    mergeParams spec params entries = .ok params := by
  induction entries with
  | nil => rfl
  | cons pair rest inductionHypothesis =>
      rw [List.forall_mem_cons] at held
      rw [mergeParams, held.1]
      dsimp only
      rw [if_pos rfl]
      exact inductionHypothesis held.2

/-- Two records do not contradict each other when they give the same value to a parameter of the
same feature, or one gives none. -/
def Compatible (first second : CollectedFeature) : Prop :=
  first.id.same second.id = true → ∀ name left right,
    first.params.get? name = some left → second.params.get? name = some right → left = right

end CollectedFeature

namespace Collected

variable {feature : CollectedFeature} {collected merged : Collected}

/-- A feature is added behind the others, or the record of it takes in the new values. -/
theorem merge_ok_cases (merges : collected.merge feature = .ok merged) :
    ((∀ known ∈ collected, known.id.same feature.id = false) ∧ merged = collected ++ [feature]) ∨
    ∃ before known after params, collected = before ++ known :: after ∧
      known.id.same feature.id = true ∧
      CollectedFeature.mergeParams known.id.specId known.params feature.params.entries =
        .ok params ∧
      merged = before ++ { known with params } :: after := by
  induction collected generalizing merged with
  | nil =>
      cases merges
      exact Or.inl ⟨fun known listed => absurd listed List.not_mem_nil, rfl⟩
  | cons known rest inductionHypothesis =>
      rw [merge] at merges
      split at merges
      · next same =>
        simp only [bind_eq_ok_iff, pure_eq_ok_iff] at merges
        obtain ⟨params, isMerged, rfl⟩ := merges
        exact Or.inr ⟨[], known, rest, params, rfl, same, isMerged, rfl⟩
      · next different =>
        simp only [bind_eq_ok_iff, pure_eq_ok_iff] at merges
        obtain ⟨others, restMerges, rfl⟩ := merges
        rcases inductionHypothesis restMerges with ⟨isNew, rfl⟩ |
          ⟨before, record, after, params, rfl, same, isMerged, rfl⟩
        · left
          rw [List.forall_mem_cons]
          exact ⟨⟨by simpa using different, isNew⟩, rfl⟩
        · exact Or.inr ⟨known :: before, record, after, params, rfl, same, isMerged, rfl⟩

theorem succeeds_merge (agree : ∀ known ∈ collected, known.Compatible feature) :
    Succeeds (collected.merge feature) := by
  induction collected with
  | nil => exact succeeds_ok _
  | cons known rest inductionHypothesis =>
      rw [List.forall_mem_cons] at agree
      rw [merge]
      split
      · next same =>
        have merges : Succeeds (CollectedFeature.mergeParams known.id.specId known.params
            feature.params.entries) :=
          CollectedFeature.succeeds_mergeParams feature.params.keysNodup (agree.1 same)
        obtain ⟨params, isMerged⟩ := merges
        exact succeeds_bind_iff.2 ⟨params, isMerged, succeeds_pure _⟩
      · obtain ⟨others, restMerges⟩ := inductionHypothesis agree.2
        exact succeeds_bind_iff.2 ⟨others, restMerges, succeeds_pure _⟩

/-- A feature that is recorded with all its values changes nothing. -/
theorem merge_of_held (recorded : ∃ known ∈ collected, known.id.same feature.id = true)
    (held : ∀ known ∈ collected, known.id.same feature.id = true →
      ∀ name value, feature.params.get? name = some value → known.params.get? name = some value) :
    collected.merge feature = .ok collected := by
  induction collected with
  | nil =>
      obtain ⟨known, listed, _⟩ := recorded
      exact absurd listed List.not_mem_nil
  | cons known rest inductionHypothesis =>
      rw [List.forall_mem_cons] at held
      rw [merge]
      split
      · next same =>
        have unchanged : CollectedFeature.mergeParams known.id.specId known.params
            feature.params.entries = .ok known.params :=
          CollectedFeature.mergeParams_of_held fun pair listed =>
            held.1 same pair.1 pair.2 (OrderedMap.get?_eq_some_iff.2 listed)
        rw [unchanged]
        rfl
      · next different =>
        obtain ⟨record, listed, same⟩ := recorded
        rcases List.mem_cons.1 listed with rfl | inRest
        · exact absurd same different
        · rw [inductionHypothesis ⟨record, inRest, same⟩ held.2]
          rfl

end Collected

/-- What has been merged is recorded once for each feature, with every value that was found for it
and no others. -/
structure Merged (found : List CollectedFeature) (collected : Collected) : Prop where
  distinct : collected.Pairwise fun first second => first.id.same second.id = false
  recorded : ∀ feature ∈ found, ∃ known ∈ collected, known.id.same feature.id = true
  origin : ∀ known ∈ collected, ∃ feature ∈ found,
    feature.id = known.id ∧ feature.spec = known.spec ∧ feature.index = known.index
  value : ∀ known ∈ collected, ∀ name value, known.params.get? name = some value ↔
    ∃ feature ∈ found, feature.id.same known.id = true ∧ feature.params.get? name = some value

namespace Merged

variable {found : List CollectedFeature} {collected merged : Collected}
  {feature : CollectedFeature}

theorem nil : Merged [] [] where
  distinct := List.Pairwise.nil
  recorded _ listed := absurd listed List.not_mem_nil
  origin _ listed := absurd listed List.not_mem_nil
  value _ listed := absurd listed List.not_mem_nil

/-- The records of a feature hold all its values. -/
theorem held (isMerged : Merged found collected) (listed : feature ∈ found) :
    ∀ known ∈ collected, known.id.same feature.id = true →
      ∀ name value, feature.params.get? name = some value → known.params.get? name = some value :=
  fun known isKnown same name value isValue =>
    (isMerged.value known isKnown name value).2
      ⟨feature, listed, ResolvedId.same_symm same, isValue⟩

/-- Features that have been merged do not contradict each other. -/
theorem compatible (isMerged : Merged found collected) {first second : CollectedFeature}
    (isFirst : first ∈ found) (isSecond : second ∈ found) : first.Compatible second := by
  intro same name left right isLeft isRight
  obtain ⟨known, isKnown, sameFirst⟩ := isMerged.recorded first isFirst
  have sameSecond := ResolvedId.same_trans sameFirst same
  have holdsLeft := isMerged.held isFirst known isKnown sameFirst name left isLeft
  have holdsRight := isMerged.held isSecond known isKnown sameSecond name right isRight
  rw [holdsLeft, Option.some.injEq] at holdsRight
  exact holdsRight

/-- A feature of which there is no record starts one. -/
theorem add (isMerged : Merged found collected)
    (isNew : ∀ known ∈ collected, known.id.same feature.id = false) :
    Merged (found ++ [feature]) (collected ++ [feature]) := by
  -- A feature of the same id that was merged before would have a record.
  have unseen : ∀ other ∈ found, other.id.same feature.id = false := by
    intro other isOther
    obtain ⟨known, isKnown, same⟩ := isMerged.recorded other isOther
    refine Bool.eq_false_iff.2 fun alike => ?_
    have sameFeature := ResolvedId.same_trans same alike
    rw [isNew known isKnown] at sameFeature
    cases sameFeature
  constructor
  case distinct =>
    rw [List.pairwise_append]
    refine ⟨isMerged.distinct, List.pairwise_singleton _ _, fun known isKnown other isOther => ?_⟩
    rw [List.mem_singleton] at isOther
    rw [isOther]
    exact isNew known isKnown
  case recorded =>
    simp only [List.forall_mem_append, List.forall_mem_singleton]
    constructor
    · intro other isOther
      obtain ⟨known, isKnown, same⟩ := isMerged.recorded other isOther
      exact ⟨known, List.mem_append_left _ isKnown, same⟩
    · exact ⟨feature, List.mem_append_right _ (List.mem_singleton_self _), feature.id.same_self⟩
  case origin =>
    simp only [List.forall_mem_append, List.forall_mem_singleton]
    constructor
    · intro known isKnown
      obtain ⟨other, isOther, same⟩ := isMerged.origin known isKnown
      exact ⟨other, List.mem_append_left _ isOther, same⟩
    · exact ⟨feature, List.mem_append_right _ (List.mem_singleton_self _), rfl, rfl, rfl⟩
  case value =>
    simp only [List.mem_append, List.mem_singleton, or_and_right, exists_or, exists_eq_left]
    rintro known (isKnown | rfl) name value
    · have different : feature.id.same known.id = false :=
        (ResolvedId.same_comm _ _).trans (isNew known isKnown)
      rw [isMerged.value known isKnown, different]
      simp
    · rw [ResolvedId.same_self]
      constructor
      · exact fun isValue => Or.inr ⟨rfl, isValue⟩
      · rintro (⟨other, isOther, same, _⟩ | ⟨_, isValue⟩)
        · rw [unseen other isOther] at same
          cases same
        · exact isValue

/-- The record of a feature takes in its values. -/
theorem update {before after : Collected} {known : CollectedFeature}
    {params : OrderedMap String String} (isMerged : Merged found (before ++ known :: after))
    (same : known.id.same feature.id = true)
    (merges : CollectedFeature.mergeParams known.id.specId known.params feature.params.entries =
      .ok params) :
    Merged (found ++ [feature]) (before ++ { known with params } :: after) := by
  have mem_middle : ∀ record other : CollectedFeature, other ∈ before ++ record :: after ↔
      other = record ∨ other ∈ before ++ after :=
    fun record other => List.perm_middle.mem_iff.trans List.mem_cons
  have isKnown := (mem_middle known known).2 (Or.inl rfl)
  have isOther : ∀ other ∈ before ++ after, other ∈ before ++ known :: after :=
    fun other listed => (mem_middle known other).2 (Or.inr listed)
  -- No other record has the id, so none of them takes anything from the feature.
  have apart : ∀ other ∈ before ++ after, feature.id.same other.id = false := by
    intro other listed
    have distinct := (List.perm_middle.pairwise_iff fun {first second} different =>
      (ResolvedId.same_comm _ _).trans different).1 isMerged.distinct
    refine Bool.eq_false_iff.2 fun alike => ?_
    have sameKnown := ResolvedId.same_trans same alike
    rw [(List.pairwise_cons.1 distinct).1 other listed] at sameKnown
    cases sameKnown
  constructor
  case distinct =>
    have distinct := isMerged.distinct
    rw [List.pairwise_append, List.pairwise_cons] at distinct ⊢
    simpa only [List.forall_mem_cons] using distinct
  case recorded =>
    simp only [List.forall_mem_append, List.forall_mem_singleton]
    constructor
    · intro other listed
      obtain ⟨record, isRecord, sameOther⟩ := isMerged.recorded other listed
      rcases (mem_middle known record).1 isRecord with rfl | isOther
      · exact ⟨{ record with params }, (mem_middle _ _).2 (Or.inl rfl), sameOther⟩
      · exact ⟨record, (mem_middle _ _).2 (Or.inr isOther), sameOther⟩
    · exact ⟨{ known with params }, (mem_middle _ _).2 (Or.inl rfl), same⟩
  case origin =>
    intro record isRecord
    have origin : ∃ feature ∈ found, feature.id = record.id ∧ feature.spec = record.spec ∧
        feature.index = record.index := by
      rcases (mem_middle _ record).1 isRecord with rfl | listed
      · exact isMerged.origin known isKnown
      · exact isMerged.origin record (isOther record listed)
    obtain ⟨other, listed, sameRecord⟩ := origin
    exact ⟨other, List.mem_append_left _ listed, sameRecord⟩
  case value =>
    intro record isRecord name given
    simp only [List.mem_append, List.mem_singleton, or_and_right, exists_or, exists_eq_left]
    rcases (mem_middle _ record).1 isRecord with rfl | listed
    · have value := CollectedFeature.get?_mergeParams merges name
      have before := isMerged.value known isKnown name given
      constructor
      · intro isGiven
        rw [value, Option.or_eq_some_iff] at isGiven
        rcases isGiven with earlier | ⟨_, added⟩
        · exact Or.inl (before.1 earlier)
        · exact Or.inr ⟨ResolvedId.same_symm same, added⟩
      · rintro (earlier | ⟨_, added⟩)
        · exact CollectedFeature.mergeParams_ok merges name given (before.2 earlier)
        · exact CollectedFeature.agrees_mergeParams merges name given added
    · rw [isMerged.value record (isOther record listed), apart record listed]
      simp

/-- Merging a feature adds it to what has been merged. -/
theorem step (isMerged : Merged found collected) (merges : collected.merge feature = .ok merged) :
    Merged (found ++ [feature]) merged := by
  rcases Collected.merge_ok_cases merges with ⟨isNew, rfl⟩ |
    ⟨before, known, after, params, rfl, same, valuesMerge, rfl⟩
  · exact isMerged.add isNew
  · exact isMerged.update same valuesMerge

theorem run {features : List CollectedFeature} (isMerged : Merged found collected)
    (merges : collected.mergeAll features = .ok merged) : Merged (found ++ features) merged := by
  induction features generalizing found collected with
  | nil =>
      cases merges
      rwa [List.append_nil]
  | cons feature rest inductionHypothesis =>
      obtain ⟨next, first, others⟩ := Collected.mergeAll_cons_eq_ok_iff.1 merges
      have stepped := inductionHypothesis (isMerged.step first) others
      rwa [List.append_assoc] at stepped

/-- The record of a feature has no value that contradicts a compatible feature. -/
theorem compatible_known (isMerged : Merged found collected)
    (compatible : ∀ other ∈ found, other.Compatible feature) :
    ∀ known ∈ collected, known.Compatible feature := by
  intro known isKnown same name left right isLeft isRight
  obtain ⟨other, isOther, sameKnown, isValue⟩ :=
    (isMerged.value known isKnown name left).1 isLeft
  exact compatible other isOther (ResolvedId.same_trans sameKnown same) name left right isValue
    isRight

theorem succeeds {features : List CollectedFeature} (isMerged : Merged found collected)
    (compatible : ∀ first ∈ found ++ features, ∀ second ∈ found ++ features,
      first.Compatible second) : Succeeds (collected.mergeAll features) := by
  induction features generalizing found collected with
  | nil => exact succeeds_ok _
  | cons feature rest inductionHypothesis =>
      have isFeature : feature ∈ found ++ feature :: rest :=
        List.mem_append_right found List.mem_cons_self
      have agrees := isMerged.compatible_known fun other isOther =>
        compatible other (List.mem_append_left _ isOther) feature isFeature
      obtain ⟨next, first⟩ := Collected.succeeds_merge agrees
      have others : Succeeds (next.mergeAll rest) := by
        apply inductionHypothesis (isMerged.step first)
        rwa [List.append_assoc]
      obtain ⟨merged, restMerges⟩ := others
      exact ⟨merged, Collected.mergeAll_cons_eq_ok_iff.2 ⟨next, first, restMerges⟩⟩

/-- Features that have been merged change nothing when they come again. -/
theorem mergeAll_again {features : List CollectedFeature} (isMerged : Merged found collected)
    (included : features ⊆ found) : collected.mergeAll features = .ok collected := by
  induction features with
  | nil => rfl
  | cons feature rest inductionHypothesis =>
      rw [List.cons_subset] at included
      have unchanged := Collected.merge_of_held (isMerged.recorded feature included.1)
        (isMerged.held included.1)
      exact Collected.mergeAll_cons_eq_ok_iff.2
        ⟨collected, unchanged, inductionHypothesis included.2⟩

end Merged

/-- Features merge exactly when no two of them contradict each other. -/
theorem succeeds_mergeAll_iff {features : List CollectedFeature} :
    Succeeds (Collected.mergeAll [] features) ↔
      ∀ first ∈ features, ∀ second ∈ features, first.Compatible second := by
  constructor
  · rintro ⟨merged, merges⟩ first isFirst second isSecond
    have isMerged := Merged.nil.run merges
    exact isMerged.compatible isFirst isSecond
  · intro compatible
    exact Merged.nil.succeeds compatible

end Provisioning
