/-
This file says when the capabilities of collected features can be matched and who provides them.
-/

import Provisioning.Proofs.Success
import Provisioning.Resolution

namespace Provisioning.Resolution

/-- Some capability of a list stands for a concrete text in a feature. -/
def Yields (feature : CollectedFeature) (capabilities : List Capability) (text : String) : Prop :=
  ∃ capability ∈ capabilities, ∃ texts,
    capability.expand feature.spec feature.params = .ok texts ∧ text ∈ texts

/-- Every capability of a list can be filled with the values of a feature. -/
def CanExpand (feature : CollectedFeature) (capabilities : List Capability) : Prop :=
  ∀ capability ∈ capabilities, Succeeds (capability.expand feature.spec feature.params)

/-- The required capabilities that a feature cannot do without. -/
def strictRequirements (spec : FeatureSpec) : List Capability :=
  spec.requires.filter fun capability => !capability.optional

/-- A feature yields what its first capability expands to and what the others yield. -/
theorem yields_cons {feature : CollectedFeature} {capability : Capability}
    {rest : List Capability} {texts : List String}
    (expanded : capability.expand feature.spec feature.params = .ok texts) (text : String) :
    Yields feature (capability :: rest) text ↔ text ∈ texts ∨ Yields feature rest text := by
  simp only [Yields, List.mem_cons, exists_eq_or_imp, expanded, Except.ok.injEq,
    exists_eq_left']

/-- All capabilities are expanded when each of them can be. -/
theorem succeeds_expandAll_iff {feature : CollectedFeature} {capabilities : List Capability} :
    Succeeds (expandAll feature capabilities) ↔ CanExpand feature capabilities := by
  induction capabilities with
  | nil => simp [expandAll, CanExpand]
  | cons capability rest inductionHypothesis =>
      simp only [expandAll, succeeds_bind_iff, ofDescription_eq_ok_iff, succeeds_pure, and_true]
      rw [CanExpand, List.forall_mem_cons, ← CanExpand, ← inductionHypothesis]
      exact exists_and_right

/-- The expanded texts are those that the capabilities yield. -/
theorem mem_expandAll {feature : CollectedFeature} {capabilities : List Capability}
    {pairs : List (Capability × String)} (expanded : expandAll feature capabilities = .ok pairs)
    (text : String) : text ∈ pairs.map Prod.snd ↔ Yields feature capabilities text := by
  induction capabilities generalizing pairs with
  | nil =>
      cases expanded
      simp [Yields]
  | cons capability rest inductionHypothesis =>
      simp only [expandAll, bind_eq_ok_iff, ofDescription_eq_ok_iff, pure_eq_ok_iff] at expanded
      obtain ⟨texts, first, others, tail, rfl⟩ := expanded
      rw [yields_cons first, ← inductionHypothesis tail, List.map_append, List.mem_append]
      simp

/-- Registering a feature adds it under each of its texts. -/
theorem mem_providers_foldl (index : CapabilityIndex Nat) (pairs : List (Capability × String))
    (position other : Nat) (text : String) :
    other ∈ (pairs.foldl (fun index pair => index.provide pair.2 position) index).providers text ↔
      other ∈ index.providers text ∨ (other = position ∧ text ∈ pairs.map Prod.snd) := by
  induction pairs generalizing index with
  | nil => simp
  | cons pair rest inductionHypothesis =>
      rw [List.foldl_cons, inductionHypothesis, CapabilityIndex.mem_providers_provide,
        List.map_cons, List.mem_cons]
      constructor
      · rintro ((listed | ⟨same, isSelf⟩) | ⟨isSelf, listed⟩)
        · exact Or.inl listed
        · exact Or.inr ⟨isSelf, Or.inl same.symm⟩
        · exact Or.inr ⟨isSelf, Or.inr listed⟩
      · rintro (listed | ⟨isSelf, same | listed⟩)
        · exact Or.inl (Or.inl listed)
        · exact Or.inl (Or.inr ⟨same.symm, isSelf⟩)
        · exact Or.inr ⟨isSelf, listed⟩

/-- The providers are registered when every feature can expand what it provides. -/
theorem succeeds_provideAll_iff {index : CapabilityIndex Nat} {position : Nat}
    {features : Collected} :
    Succeeds (provideAll index position features) ↔
      ∀ feature ∈ features, CanExpand feature feature.spec.provides := by
  induction features generalizing index position with
  | nil => simp [provideAll]
  | cons feature rest inductionHypothesis =>
      simp only [provideAll, succeeds_bind_iff, inductionHypothesis, List.forall_mem_cons,
        ← succeeds_expandAll_iff]
      exact exists_and_right

/-- The providers of a text are the positions of the features that provide it. -/
theorem mem_providers_provideAll {index provided : CapabilityIndex Nat} {position : Nat}
    {features : Collected} (registered : provideAll index position features = .ok provided)
    (text : String) (other : Nat) :
    other ∈ provided.providers text ↔ other ∈ index.providers text ∨
      ∃ offset feature, features[offset]? = some feature ∧ other = position + offset ∧
        Yields feature feature.spec.provides text := by
  induction features generalizing index position with
  | nil =>
      cases registered
      simp
  | cons feature rest inductionHypothesis =>
      simp only [provideAll, bind_eq_ok_iff] at registered
      obtain ⟨pairs, expanded, tail⟩ := registered
      rw [inductionHypothesis tail, mem_providers_foldl, mem_expandAll expanded, or_assoc]
      refine or_congr_right ?_
      constructor
      · rintro (⟨rfl, yields⟩ | ⟨offset, later, found, rfl, yields⟩)
        · exact ⟨0, feature, rfl, rfl, yields⟩
        · exact ⟨offset + 1, later, found, by omega, yields⟩
      · rintro ⟨offset, later, found, rfl, yields⟩
        cases offset with
        | zero =>
            cases found
            exact Or.inl ⟨rfl, yields⟩
        | succ offset => exact Or.inr ⟨offset, later, found, by omega, yields⟩

/-- Texts are provided for when each of them has a provider. -/
theorem succeeds_providersFor_iff {index : CapabilityIndex Nat} {feature : CollectedFeature}
    {pairs : List (Capability × String)} :
    Succeeds (providersFor index feature pairs) ↔ ∀ pair ∈ pairs, index.providers pair.2 ≠ [] := by
  induction pairs with
  | nil => simp [providersFor]
  | cons pair rest inductionHypothesis =>
      rw [providersFor, List.forall_mem_cons, ← inductionHypothesis]
      split
      · next none => simp [none]
      · next some =>
        simp only [succeeds_bind_iff, succeeds_pure, and_true]
        exact ⟨fun succeeds => ⟨some, succeeds⟩, And.right⟩

/-- The positions that are found are those of the providers of some text. -/
theorem mem_providersFor {index : CapabilityIndex Nat} {feature : CollectedFeature}
    {pairs : List (Capability × String)} {positions : List Nat}
    (provided : providersFor index feature pairs = .ok positions) (position : Nat) :
    position ∈ positions ↔ ∃ pair ∈ pairs, position ∈ index.providers pair.2 := by
  induction pairs generalizing positions with
  | nil =>
      cases provided
      simp
  | cons pair rest inductionHypothesis =>
      rw [providersFor] at provided
      split at provided
      · cases provided
      · simp only [bind_eq_ok_iff, pure_eq_ok_iff] at provided
        obtain ⟨others, tail, rfl⟩ := provided
        rw [List.mem_append, inductionHypothesis tail]
        simp

/-- What a feature requires is provided for when it can be expanded and every text of it has a
provider. -/
theorem succeeds_requiredProviders_iff {index : CapabilityIndex Nat} {feature : CollectedFeature}
    {capabilities : List Capability} :
    Succeeds (requiredProviders index feature capabilities) ↔
      CanExpand feature capabilities ∧
        ∀ text, Yields feature capabilities text → index.providers text ≠ [] := by
  induction capabilities with
  | nil => simp [requiredProviders, CanExpand, Yields]
  | cons capability rest inductionHypothesis =>
      simp only [requiredProviders, succeeds_bind_iff, ofDescription_eq_ok_iff, succeeds_pure,
        and_true]
      rw [CanExpand, List.forall_mem_cons, ← CanExpand]
      constructor
      · rintro ⟨texts, expanded, own, first, tail⟩
        have provided := succeeds_providersFor_iff.1 ⟨own, first⟩
        have others := inductionHypothesis.1 tail
        refine ⟨⟨⟨texts, expanded⟩, others.1⟩, fun text yields => ?_⟩
        rcases (yields_cons expanded text).1 yields with isOwn | isOther
        · exact provided (capability, text) (List.mem_map_of_mem isOwn)
        · exact others.2 text isOther
      · rintro ⟨⟨⟨texts, expanded⟩, canExpand⟩, provided⟩
        have first : Succeeds
            (providersFor index feature (texts.map fun text => (capability, text))) := by
          rw [succeeds_providersFor_iff]
          intro pair listed
          obtain ⟨text, isOwn, rfl⟩ := List.mem_map.1 listed
          exact provided text ((yields_cons expanded text).2 (Or.inl isOwn))
        have tail : Succeeds (requiredProviders index feature rest) :=
          inductionHypothesis.2 ⟨canExpand, fun text yields =>
            provided text ((yields_cons expanded text).2 (Or.inr yields))⟩
        exact ⟨texts, expanded, first.elim fun own isOwn => ⟨own, isOwn, tail⟩⟩

/-- A feature depends on all providers of every text that it requires. -/
theorem mem_requiredProviders {index : CapabilityIndex Nat} {feature : CollectedFeature}
    {capabilities : List Capability} {positions : List Nat}
    (provided : requiredProviders index feature capabilities = .ok positions) (position : Nat) :
    position ∈ positions ↔
      ∃ text, Yields feature capabilities text ∧ position ∈ index.providers text := by
  induction capabilities generalizing positions with
  | nil =>
      cases provided
      simp [Yields]
  | cons capability rest inductionHypothesis =>
      simp only [requiredProviders, bind_eq_ok_iff, ofDescription_eq_ok_iff, pure_eq_ok_iff]
        at provided
      obtain ⟨texts, expanded, first, own, others, tail, rfl⟩ := provided
      rw [List.mem_append, mem_providersFor own, inductionHypothesis tail]
      simp only [yields_cons expanded, or_and_right, exists_or]
      refine or_congr_left ?_
      constructor
      · rintro ⟨pair, listed, provides⟩
        obtain ⟨text, isOwn, rfl⟩ := List.mem_map.1 listed
        exact ⟨text, isOwn, provides⟩
      · rintro ⟨text, isOwn, provides⟩
        exact ⟨(capability, text), List.mem_map_of_mem isOwn, provides⟩

end Provisioning.Resolution
