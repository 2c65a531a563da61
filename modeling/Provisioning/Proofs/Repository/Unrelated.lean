/-
This file proves that a run does not depend on feature-packs that its request does not lead to.
-/

import Mathlib.Data.List.Permutation
import Provisioning.Proofs.Layout.Correspondence
import Provisioning.Proofs.Layout.Reached
import Provisioning.Provision

namespace Provisioning

namespace Repository

variable {repository other : Repository} {packs before after : List FeaturePack}
  {pack : FeaturePack} {gav excluded : Gav}

/-- The feature-packs of all artifacts but one. -/
def apartFrom (excluded : Gav) (packs : List FeaturePack) : List FeaturePack :=
  packs.filter fun pack => !pack.gav.sameArtifact excluded

theorem apartFrom_put (excluded : Gav) (pack : FeaturePack) (packs : List FeaturePack) :
    apartFrom excluded (put pack packs) =
      if pack.gav.sameArtifact excluded then apartFrom excluded packs
      else put pack (apartFrom excluded packs) := by
  induction packs with
  | nil => cases isExcluded : pack.gav.sameArtifact excluded <;> simp [apartFrom, put, isExcluded]
  | cons known rest inductionHypothesis =>
      rw [apartFrom, apartFrom] at inductionHypothesis
      by_cases same : known.gav = pack.gav
      · cases isExcluded : pack.gav.sameArtifact excluded <;>
          simp [apartFrom, put, same, isExcluded]
      · rw [put, if_neg same, apartFrom, apartFrom, List.filter_cons, List.filter_cons,
          inductionHypothesis]
        cases pack.gav.sameArtifact excluded <;> cases known.gav.sameArtifact excluded <;>
          simp [put, same]

/-- Feature-packs of other artifacts are kept as if there were no others. -/
theorem apartFrom_ofList (excluded : Gav) (packs : List FeaturePack) :
    apartFrom excluded (ofList packs).packs = (ofList (apartFrom excluded packs)).packs := by
  induction packs using List.reverseRecOn with
  | nil => rfl
  | append_singleton packs pack inductionHypothesis =>
      have inserted : ofList (packs ++ [pack]) = (ofList packs).insert pack := by
        simp [ofList]
      have apart : apartFrom excluded (packs ++ [pack]) =
          apartFrom excluded packs ++ apartFrom excluded [pack] := List.filter_append packs [pack]
      rw [inserted, insert, apartFrom_put, inductionHypothesis, apart]
      cases isExcluded : pack.gav.sameArtifact excluded <;>
        simp [apartFrom, isExcluded, ofList, insert]

theorem find?_filter_of_kept {accepts keeps : FeaturePack → Bool}
    (kept : ∀ pack, accepts pack = true → keeps pack = true) (packs : List FeaturePack) :
    (packs.filter keeps).find? accepts = packs.find? accepts := by
  rw [List.find?_filter]
  congr 1
  funext pack
  cases isAccepted : accepts pack with
  | false => simp
  | true => simp [kept pack isAccepted]

/-- Lookups of other artifacts go by the feature-packs of other artifacts. -/
theorem find?_apartFrom (repository : Repository) (apart : gav.sameArtifact excluded = false) :
    repository.find? gav =
      if gav.isLatest then
        (apartFrom excluded repository.packs).reverse.find? fun pack => pack.gav.sameArtifact gav
      else
        (apartFrom excluded repository.packs).find? fun pack => pack.gav == gav := by
  have kept (pack : FeaturePack) (same : pack.gav.sameArtifact gav = true) :
      (!pack.gav.sameArtifact excluded) = true := by
    rw [Bool.not_eq_true', ← Bool.not_eq_true]
    intro isExcluded
    rw [Gav.sameArtifact_trans (Gav.sameArtifact_symm same) isExcluded] at apart
    cases apart
  unfold find? apartFrom
  rw [← List.filter_reverse, find?_filter_of_kept kept, find?_filter_of_kept fun pack same => ?_]
  rw [beq_iff_eq] at same
  exact kept pack (same ▸ Gav.sameArtifact_self pack.gav)

/-- A feature-pack in between is not met by lookups of other artifacts. -/
theorem find?_of_apart (before after : List FeaturePack)
    (apart : gav.sameArtifact pack.gav = false) :
    (ofList (before ++ pack :: after)).find? gav = (ofList (before ++ after)).find? gav := by
  have same : apartFrom pack.gav (before ++ pack :: after) =
      apartFrom pack.gav (before ++ after) := by
    simp [apartFrom]
  rw [find?_apartFrom _ apart, find?_apartFrom _ apart, apartFrom_ofList, apartFrom_ofList, same]

end Repository

/-- A request has nothing to do with the artifact of a feature-pack if neither it nor anything that
it leads to names the artifact. -/
structure Unrelated (repository : Repository) (request : Request) (pack : FeaturePack) : Prop where
  unlisted : ∀ config ∈ request.packs, config.gav.sameArtifact pack.gav = false
  unused : ∀ dependent, Layout.Reached repository request dependent →
    ∀ dependency ∈ dependent.dependencies, dependency.gav.sameArtifact pack.gav = false

namespace Unrelated

variable {before after : List FeaturePack} {request : Request} {pack : FeaturePack}

/-- Whatever is reached is found in both repositories. -/
theorem corresponding (unrelated : Unrelated (.ofList (before ++ after)) request pack)
    {requested others : List Layout.Root}
    (isRequested : Layout.roots (.ofList (before ++ after)) request.packs = .ok requested)
    (sameRoots : List.Forall₂
      (Layout.SameRoot fun known other =>
        known = other ∧ Layout.Reached (.ofList (before ++ after)) request known)
      requested others) :
    Layout.Corresponding
      (fun known other => known = other ∧ Layout.Reached (.ofList (before ++ after)) request known)
      ⟨.ofList (before ++ after), requested⟩ ⟨.ofList (before ++ pack :: after), others⟩ where
  gavs := by
    rintro known _ ⟨rfl, _⟩
    rfl
  requested := sameRoots
  dependencies := by
    rintro known _ ⟨rfl, reached⟩
    rw [List.forall₂_same]
    intro dependency declared
    by_cases isListed : ∃ config ∈ request.packs, config.gav.sameArtifact dependency.gav = true
    · obtain ⟨config, listed, same⟩ := isListed
      exact .of_listed isRequested listed same (Gav.sameArtifact_self _)
    · refine .byRepository ?_
      have unused := unrelated.unused known reached dependency declared
      rw [Repository.find?_of_apart before after unused]
      cases found : (Repository.ofList (before ++ after)).find? dependency.gav with
      | none => exact .none
      | some target =>
          refine .some ⟨rfl, .dependency reached declared ?_⟩
          rw [Layout.chosen?, Layout.lookedUp_of_unlisted, found]
          simpa using isListed

/-- The layout is the same, and so is the reason for which there is none. -/
theorem build_eq (unrelated : Unrelated (.ofList (before ++ after)) request pack) :
    Layout.build (.ofList (before ++ pack :: after)) request =
      Layout.build (.ofList (before ++ after)) request := by
  symm
  have alike := Layout.build_endAlike request ?found
    fun requested others isRequested sameRoots =>
      unrelated.corresponding isRequested sameRoots
  case found =>
    intro config listed
    rw [Repository.find?_of_apart before after (unrelated.unlisted config listed)]
    cases found : (Repository.ofList (before ++ after)).find? config.gav with
    | none => exact .none
    | some target => exact .some ⟨rfl, .requested listed found⟩
  refine endAlike_eq_iff.1 (alike.imp ?_)
  rintro _ _ _ ⟨walked, otherWalked, same, rfl, rfl⟩
  rw [same.eq fun _ _ isSame => isSame.1]

end Unrelated

/-- A feature-pack whose artifact a request does not lead to changes nothing about its run, wherever
it is put among the others. -/
theorem unrelated_pack_is_ignored (before after : List FeaturePack) (request : Request)
    (pack : FeaturePack) (unrelated : Unrelated (.ofList (before ++ after)) request pack) :
    provision (.ofList (before ++ pack :: after)) request =
      provision (.ofList (before ++ after)) request := by
  rw [provision, provision, unrelated.build_eq]

/-! A boat needs the current sail. An anchor between them needs a rope that nobody has. -/

namespace Harbour

def declaration (artifact version : String) (dependencies : List PackDependency) :
    FeaturePack.Declaration where
  gav := ⟨"g", artifact, version⟩
  dependencies := dependencies
  packages := []
  markedDefaults := []
  specs := []
  groups := []
  configs := []

def boat : FeaturePack :=
  ⟨declaration "boat" "1" [⟨none, .ofGav ⟨"g", "sail", Gav.latestVersion⟩⟩], by rfl⟩

def anchor : FeaturePack :=
  ⟨declaration "anchor" "1" [⟨none, .ofGav ⟨"g", "rope", "1"⟩⟩], by rfl⟩

def sail (version : String) : FeaturePack :=
  ⟨declaration "sail" version [], by rfl⟩

def request : Request where
  packs := [.ofGav boat.gav]
  origins := .empty
  configs := .inheritAll
  artifactsDistinct := List.pairwise_singleton _ _

theorem unrelated_anchor :
    Unrelated (.ofList ([boat, sail "1"] ++ [sail "2"])) request anchor where
  unlisted := by decide
  unused := by
    have unused : ∀ dependent ∈ (Repository.ofList ([boat, sail "1"] ++ [sail "2"])).packs,
        ∀ dependency ∈ dependent.dependencies,
          dependency.gav.sameArtifact anchor.gav = false := by decide
    exact fun dependent reached => unused dependent reached.mem_packs

def state : ProvisionedState :=
  ⟨[⟨boat.gav, .empty⟩], []⟩

end Harbour

/-- The boat is provisioned as if the anchor were not there. -/
theorem anchor_is_ignored :
    provision (.ofList ([Harbour.boat, Harbour.sail "1"] ++ Harbour.anchor :: [Harbour.sail "2"]))
        Harbour.request =
      provision (.ofList ([Harbour.boat, Harbour.sail "1"] ++ [Harbour.sail "2"]))
        Harbour.request ∧
    provision (.ofList ([Harbour.boat, Harbour.sail "1"] ++ [Harbour.sail "2"])) Harbour.request =
      .ok Harbour.state :=
  ⟨unrelated_pack_is_ignored _ _ _ _ Harbour.unrelated_anchor, by cbv⟩

end Provisioning
