/-
This file proves when the order in which feature-packs declare their dependencies does not matter
for the layout.
-/

import Mathlib.Data.List.Permutation
import Provisioning.Proofs.Layout.Consistency

namespace Provisioning.Layout

/-- Two feature-packs differ at most in the order of their dependencies. -/
structure IsRearranged (first second : FeaturePack) : Prop where
  dependencies : first.dependencies.Perm second.dependencies
  others : second.toDeclaration = { first.toDeclaration with dependencies := second.dependencies }

/-- Two repositories list feature-packs that differ at most in the order of their dependencies. -/
def Rearranged (first second : Repository) : Prop :=
  List.Forall₂ IsRearranged first.packs second.packs

/-- Two attempts at a layout succeed together and have the same coordinates. -/
structure SameOutcome (first second : Provisioned Layout) : Prop where
  succeeds_iff : Succeeds first ↔ Succeeds second
  sameGavs : ∀ layout other, first = .ok layout → second = .ok other →
    ∀ gav, gav ∈ layout.gavs ↔ gav ∈ other.gavs

section

variable {first second : Repository} {request : Request} {layout : Layout} {pack : FeaturePack}
  {gav dependent target : Gav}

/-- The coordinates stay the same. -/
theorem IsRearranged.gav_eq {pack other : FeaturePack} (isRearranged : IsRearranged pack other) :
    pack.gav = other.gav := by
  rw [isRearranged.others]

theorem IsRearranged.symm {pack other : FeaturePack} (isRearranged : IsRearranged pack other) :
    IsRearranged other pack where
  dependencies := isRearranged.dependencies.symm
  others := by rw [isRearranged.others]

theorem Rearranged.symm (rearranged : Rearranged first second) : Rearranged second first :=
  (rearranged.imp fun _ _ isRearranged => isRearranged.symm).flip

/-- Under the same coordinates, the other repository finds the rearranged feature-pack. -/
theorem Rearranged.exists_of_find? (rearranged : Rearranged first second)
    (found : first.find? gav = some pack) :
    ∃ other, second.find? gav = some other ∧ IsRearranged pack other := by
  have related := rel_find?_of_packs rearranged (fun _ _ same => same.gav_eq) gav
  rw [found] at related
  exact eq_some_of_rel related

/-- The same feature-packs are reached. -/
theorem Rearranged.exists_reached (rearranged : Rearranged first second)
    (reached : Reached first request pack) :
    ∃ other, Reached second request other ∧ IsRearranged pack other := by
  induction reached with
  | requested listed found =>
      obtain ⟨other, isFound, isRearranged⟩ := rearranged.exists_of_find? found
      exact ⟨other, .requested listed isFound, isRearranged⟩
  | dependency _ declared found inductionHypothesis =>
      obtain ⟨dependent, reached, sameDependent⟩ := inductionHypothesis
      obtain ⟨other, isFound, isRearranged⟩ := rearranged.exists_of_find? found
      exact ⟨other, .dependency reached (sameDependent.dependencies.mem_iff.1 declared) isFound,
        isRearranged⟩

/-- The same versions are used by the same feature-packs. -/
theorem Rearranged.uses (rearranged : Rearranged first second)
    (uses : Uses first request dependent target) : Uses second request dependent target := by
  obtain ⟨pack, reached, rfl, dependency, declared, used, found, rfl⟩ := uses
  obtain ⟨other, reachedOther, isRearranged⟩ := rearranged.exists_reached reached
  obtain ⟨also, isFound, sameUsed⟩ := rearranged.exists_of_find? found
  exact ⟨other, reachedOther, isRearranged.gav_eq.symm, dependency,
    isRearranged.dependencies.mem_iff.1 declared, also, isFound, sameUsed.gav_eq.symm⟩

/-- No order of the dependencies makes a request consistent or inconsistent. -/
theorem Rearranged.consistent (rearranged : Rearranged first second)
    (consistent : Consistent first request) : Consistent second request := by
  constructor
  case requestedFound =>
    intro config listed
    obtain ⟨pack, found⟩ := consistent.requestedFound config listed
    obtain ⟨other, isFound, _⟩ := rearranged.exists_of_find? found
    exact ⟨other, isFound⟩
  case dependenciesFound =>
    intro other reached dependency declared
    obtain ⟨pack, reachedPack, isRearranged⟩ := rearranged.symm.exists_reached reached
    obtain ⟨target, found⟩ := consistent.dependenciesFound pack reachedPack dependency
      (isRearranged.dependencies.mem_iff.1 declared)
    obtain ⟨also, isFound, _⟩ := rearranged.exists_of_find? found
    exact ⟨also, isFound⟩
  case oneVersion =>
    intro one other reached reachedOther same
    obtain ⟨pack, reachedPack, isRearranged⟩ := rearranged.symm.exists_reached reached
    obtain ⟨also, reachedAlso, alsoRearranged⟩ := rearranged.symm.exists_reached reachedOther
    rw [isRearranged.gav_eq, alsoRearranged.gav_eq] at same ⊢
    exact consistent.oneVersion pack also reachedPack reachedAlso same
  case acyclic =>
    intro gav uses
    exact consistent.acyclic gav (Relation.TransGen.mono (fun _ _ => rearranged.symm.uses) _ _ uses)

/-- A layout with current versions has the same coordinates in whatever order dependencies are
declared. -/
theorem exists_build_of_rearranged (rearranged : Rearranged first second)
    (built : build first request = .ok layout) (current : LatestIsCurrent first layout) :
    ∃ other, build second request = .ok other ∧ ∀ gav, gav ∈ layout.gavs ↔ gav ∈ other.gavs := by
  have consistent := consistent_of_build built current
  obtain ⟨found, isFound, mem_gavs_iff⟩ := build_of_consistent consistent
  obtain rfl := Except.ok.inj (built.symm.trans isFound)
  obtain ⟨other, isOther, mem_otherGavs_iff⟩ :=
    build_of_consistent (rearranged.consistent consistent)
  refine ⟨other, isOther, fun gav => ?_⟩
  rw [mem_gavs_iff, mem_otherGavs_iff]
  constructor
  · rintro ⟨pack, reached, rfl⟩
    obtain ⟨also, reachedAlso, isRearranged⟩ := rearranged.exists_reached reached
    exact ⟨also, reachedAlso, isRearranged.gav_eq.symm⟩
  · rintro ⟨pack, reached, rfl⟩
    obtain ⟨also, reachedAlso, isRearranged⟩ := rearranged.symm.exists_reached reached
    exact ⟨also, reachedAlso, isRearranged.gav_eq.symm⟩

/-- The order in which dependencies are declared matters only where a dependency on the current
version of an artifact leads to another version of it. -/
theorem sameOutcome_of_rearranged (rearranged : Rearranged first second)
    (current : ∀ layout, build first request = .ok layout → LatestIsCurrent first layout)
    (alsoCurrent : ∀ layout, build second request = .ok layout → LatestIsCurrent second layout) :
    SameOutcome (build first request) (build second request) where
  succeeds_iff := by
    constructor
    · rintro ⟨layout, built⟩
      obtain ⟨other, isOther, _⟩ :=
        exists_build_of_rearranged rearranged built (current layout built)
      exact ⟨other, isOther⟩
    · rintro ⟨layout, built⟩
      obtain ⟨other, isOther, _⟩ :=
        exists_build_of_rearranged rearranged.symm built (alsoCurrent layout built)
      exact ⟨other, isOther⟩
  sameGavs := by
    intro layout other built isOther
    obtain ⟨found, isFound, sameGavs⟩ :=
      exists_build_of_rearranged rearranged built (current layout built)
    obtain rfl := Except.ok.inj (isOther.symm.trans isFound)
    exact sameGavs

/-- A walk has led to current versions if it has placed what the repository has for each dependency
on a current version. -/
theorem latestIsCurrent_ofWalked {repository : Repository} {walked : Walked}
    (current : ∀ placement ∈ walked.placed, ∀ dependency ∈ placement.pack.dependencies,
      dependency.gav.isLatest = true → repository.find? dependency.gav =
        (locate? walked.placed dependency.gav).map fun known => known.1.pack) :
    LatestIsCurrent repository (ofWalked request walked) := by
  intro entry isEntry link isLink target isTarget _ isLatest
  obtain ⟨placement, isPlaced, rfl⟩ := List.mem_map.1 isEntry
  obtain ⟨declared, known, located⟩ := mem_dependencies_link isLink
  obtain ⟨other, isOther, rfl⟩ := (getElem?_entries_ofWalked request).1 isTarget
  obtain rfl := Option.some.inj (isOther.symm.trans (getElem?_of_locate? located).1)
  rw [current placement isPlaced link.2 declared isLatest, located]
  rfl

end

/-! An orchard depends on apples and on a press, which takes the current apples. A cart depends on
the current wheel and the current frame, and each of these on the first version of the other. -/

namespace Yard

def dependency (artifact version : String) : PackDependency :=
  ⟨none, .ofGav ⟨"g", artifact, version⟩⟩

def declaration (artifact version : String) (dependencies : List PackDependency) :
    FeaturePack.Declaration where
  gav := ⟨"g", artifact, version⟩
  dependencies := dependencies
  packages := []
  markedDefaults := []
  specs := []
  groups := []
  configs := []

def apples (version : String) : FeaturePack :=
  ⟨declaration "apples" version [], by rfl⟩

def press : FeaturePack :=
  ⟨declaration "press" "1" [dependency "apples" "LATEST"], by rfl⟩

def applesFirst (version : String) : FeaturePack :=
  ⟨declaration "orchard" "1" [dependency "apples" version, dependency "press" "1"], by rfl⟩

def pressFirst (version : String) : FeaturePack :=
  ⟨declaration "orchard" "1" [dependency "press" "1", dependency "apples" version], by rfl⟩

def orchards (orchard : FeaturePack) (named : orchard.gav = ⟨"g", "orchard", "1"⟩) : Repository :=
  ⟨[orchard, press, apples "1", apples "2"], by simp [named, press, apples, declaration]⟩

def requestFor (artifact : String) : Request :=
  ⟨[.ofGav ⟨"g", artifact, "1"⟩], .empty, .inheritAll, by simp⟩

def requested (pack : FeaturePack) : Placement :=
  ⟨pack, [.ofGav pack.gav], none⟩

def broughtIn (pack : FeaturePack) (parent : Placement) (index : Nat) (version : String) :
    Placement :=
  ⟨pack, parent.chain ++ [.ofGav { pack.gav with version }], some index⟩

def applesFirstLayout (version : String) : Layout :=
  let orchard := requested (applesFirst version)
  .ofWalked (requestFor "orchard")
    ⟨[orchard, broughtIn (apples version) orchard 0 version, broughtIn press orchard 0 "1"],
      [1, 2, 0]⟩

def pressFirstLayout (version : String) : Layout :=
  let orchard := requested (pressFirst version)
  let press := broughtIn press orchard 0 "1"
  .ofWalked (requestFor "orchard")
    ⟨[orchard, press, broughtIn (apples "2") press 1 "LATEST"], [2, 1, 0]⟩

/-- The two repositories list the two dependencies of the orchard in either order. -/
theorem rearranged_orchards (version : String) :
    Rearranged (orchards (applesFirst version) rfl) (orchards (pressFirst version) rfl) :=
  .cons ⟨.swap _ _ _, rfl⟩ (List.forall₂_same.2 fun _ _ => ⟨.refl _, rfl⟩)

/-- With the old version first, the layout is built with that version alone. -/
theorem build_applesFirst_one :
    build (orchards (applesFirst "1") rfl) (requestFor "orchard") =
      .ok (applesFirstLayout "1") := by
  cbv

/-- With the press first, the current version is met before the old one. -/
theorem build_pressFirst_one :
    build (orchards (pressFirst "1") rfl) (requestFor "orchard") =
      .error (.versionConflict "g:apples" "2" "1") := by
  cbv

theorem build_applesFirst_two :
    build (orchards (applesFirst "2") rfl) (requestFor "orchard") =
      .ok (applesFirstLayout "2") := by
  cbv

theorem build_pressFirst_two :
    build (orchards (pressFirst "2") rfl) (requestFor "orchard") = .ok (pressFirstLayout "2") := by
  cbv

/-- Only the apples are wanted in their current version. -/
theorem current_of_orchard {orchard : FeaturePack} (named : orchard.gav = ⟨"g", "orchard", "1"⟩)
    (request : Request) {walked : Walked}
    (wanted : ∀ placement ∈ walked.placed, ∀ dependency ∈ placement.pack.dependencies,
      dependency.gav.isLatest = true → dependency.gav = ⟨"g", "apples", "LATEST"⟩)
    (placed : (locate? walked.placed ⟨"g", "apples", "LATEST"⟩).map (fun known => known.1.pack) =
      some (apples "2")) :
    LatestIsCurrent (orchards orchard named) (ofWalked request walked) := by
  refine latestIsCurrent_ofWalked fun placement isPlaced dependency declared isLatest => ?_
  rw [wanted placement isPlaced dependency declared isLatest, placed]
  rfl

theorem current_applesFirst :
    LatestIsCurrent (orchards (applesFirst "2") rfl) (applesFirstLayout "2") :=
  current_of_orchard rfl _ (by decide) rfl

theorem current_pressFirst :
    LatestIsCurrent (orchards (pressFirst "2") rfl) (pressFirstLayout "2") :=
  current_of_orchard rfl _ (by decide) rfl

def wheel (version : String) (dependencies : List PackDependency)
    (accepted : (declaration "wheel" version dependencies).problem? = none) : FeaturePack :=
  ⟨declaration "wheel" version dependencies, accepted⟩

def frame (version : String) (dependencies : List PackDependency)
    (accepted : (declaration "frame" version dependencies).problem? = none) : FeaturePack :=
  ⟨declaration "frame" version dependencies, accepted⟩

def wheelFirst : FeaturePack :=
  ⟨declaration "cart" "1" [dependency "wheel" "LATEST", dependency "frame" "LATEST"], by rfl⟩

def frameFirst : FeaturePack :=
  ⟨declaration "cart" "1" [dependency "frame" "LATEST", dependency "wheel" "LATEST"], by rfl⟩

def carts (cart : FeaturePack) (named : cart.gav = ⟨"g", "cart", "1"⟩) : Repository :=
  ⟨[cart, wheel "1" [] rfl, frame "1" [] rfl, wheel "2" [dependency "frame" "1"] rfl,
    frame "2" [dependency "wheel" "1"] rfl], by simp [named, wheel, frame, declaration]⟩

def wheelFirstLayout : Layout :=
  let cart := requested wheelFirst
  let wheel := broughtIn (wheel "2" [dependency "frame" "1"] rfl) cart 0 "LATEST"
  .ofWalked (requestFor "cart") ⟨[cart, wheel, broughtIn (frame "1" [] rfl) wheel 1 "1"], [2, 1, 0]⟩

def frameFirstLayout : Layout :=
  let cart := requested frameFirst
  let frame := broughtIn (frame "2" [dependency "wheel" "1"] rfl) cart 0 "LATEST"
  .ofWalked (requestFor "cart") ⟨[cart, frame, broughtIn (wheel "1" [] rfl) frame 1 "1"], [2, 1, 0]⟩

/-- The two repositories list the two dependencies of the cart in either order. -/
theorem rearranged_carts : Rearranged (carts wheelFirst rfl) (carts frameFirst rfl) :=
  .cons ⟨.swap _ _ _, rfl⟩ (List.forall₂_same.2 fun _ _ => ⟨.refl _, rfl⟩)

theorem build_wheelFirst :
    build (carts wheelFirst rfl) (requestFor "cart") = .ok wheelFirstLayout := by
  cbv

theorem build_frameFirst :
    build (carts frameFirst rfl) (requestFor "cart") = .ok frameFirstLayout := by
  cbv

end Yard

/-- When the orchard wants the current apples itself, either order leads to the same layout. -/
theorem sameOutcome_orchards :
    SameOutcome (build (Yard.orchards (Yard.applesFirst "2") rfl) (Yard.requestFor "orchard"))
      (build (Yard.orchards (Yard.pressFirst "2") rfl) (Yard.requestFor "orchard")) := by
  refine sameOutcome_of_rearranged (Yard.rearranged_orchards "2") ?_ ?_
  · intro layout built
    obtain rfl := Except.ok.inj (Yard.build_applesFirst_two.symm.trans built)
    exact Yard.current_applesFirst
  · intro layout built
    obtain rfl := Except.ok.inj (Yard.build_pressFirst_two.symm.trans built)
    exact Yard.current_pressFirst

/-- When it wants other apples, the press is content with them after the orchard but conflicts with
them before it. The cart comes with the wheel or the frame that is wanted first. -/
theorem not_sameOutcome_yard :
    (Rearranged (Yard.orchards (Yard.applesFirst "1") rfl)
        (Yard.orchards (Yard.pressFirst "1") rfl) ∧
      build (Yard.orchards (Yard.applesFirst "1") rfl) (Yard.requestFor "orchard") =
        .ok (Yard.applesFirstLayout "1") ∧
      build (Yard.orchards (Yard.pressFirst "1") rfl) (Yard.requestFor "orchard") =
        .error (.versionConflict "g:apples" "2" "1") ∧
      ¬SameOutcome (build (Yard.orchards (Yard.applesFirst "1") rfl) (Yard.requestFor "orchard"))
        (build (Yard.orchards (Yard.pressFirst "1") rfl) (Yard.requestFor "orchard"))) ∧
    Rearranged (Yard.carts Yard.wheelFirst rfl) (Yard.carts Yard.frameFirst rfl) ∧
      build (Yard.carts Yard.wheelFirst rfl) (Yard.requestFor "cart") = .ok Yard.wheelFirstLayout ∧
      build (Yard.carts Yard.frameFirst rfl) (Yard.requestFor "cart") = .ok Yard.frameFirstLayout ∧
      ⟨"g", "wheel", "2"⟩ ∈ Yard.wheelFirstLayout.gavs ∧
      ⟨"g", "wheel", "2"⟩ ∉ Yard.frameFirstLayout.gavs := by
  refine ⟨⟨Yard.rearranged_orchards "1", Yard.build_applesFirst_one, Yard.build_pressFirst_one,
    fun same => ?_⟩, Yard.rearranged_carts, Yard.build_wheelFirst, Yard.build_frameFirst,
    by decide, by decide⟩
  have succeeds := same.succeeds_iff.1 ⟨_, Yard.build_applesFirst_one⟩
  rw [Yard.build_pressFirst_one] at succeeds
  exact not_succeeds_error _ succeeds

end Provisioning.Layout
