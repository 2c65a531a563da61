/-
This file proves that walks whose dependencies lead to corresponding feature-packs end alike.
-/

import Provisioning.Proofs.Layout.Contract
import Provisioning.Proofs.Related

namespace Provisioning.Layout

section

variable (Alike : FeaturePack → FeaturePack → Prop)

/-- Corresponding feature-packs are placed for the same reasons. -/
structure SamePlacement (first second : Placement) : Prop where
  pack : Alike first.pack second.pack
  chain : first.chain = second.chain
  parent : first.parent = second.parent

structure SameRoot (first second : Root) : Prop where
  config : first.config = second.config
  pack : Alike first.pack second.pack

/-- Two dependencies lead to what is requested of one artifact, or a dependency leads to
corresponding feature-packs of two repositories. -/
inductive SameTarget (first second : Sources) : PackDependency → PackDependency → Prop where
  | byRequest {root : Root} {dependency other : PackDependency} (isRoot : root ∈ first.requested)
      (same : root.pack.gav.sameArtifact dependency.gav = true)
      (also : root.pack.gav.sameArtifact other.gav = true) :
      SameTarget first second dependency other
  | byRepository {dependency : PackDependency}
      (found : Option.Rel Alike (first.repository.find? dependency.gav)
        (second.repository.find? dependency.gav)) :
      SameTarget first second dependency dependency

/-- Two walks start from corresponding feature-packs and are led to corresponding ones. -/
structure Corresponding (first second : Sources) : Prop where
  gavs : ∀ pack other, Alike pack other → pack.gav = other.gav
  requested : List.Forall₂ (SameRoot Alike) first.requested second.requested
  dependencies : ∀ pack other, Alike pack other →
    List.Forall₂ (SameTarget Alike first second) pack.dependencies other.dependencies

structure SameVisit (first second : Sources) (visit other : Visit) : Prop where
  index : visit.index = other.index
  placement : SamePlacement Alike visit.placement other.placement
  remaining : List.Forall₂ (SameTarget Alike first second) visit.remaining other.remaining

structure SameWalked (first second : Walked) : Prop where
  placed : List.Forall₂ (SamePlacement Alike) first.placed second.placed
  postOrder : first.postOrder = second.postOrder

end

variable {Alike : FeaturePack → FeaturePack → Prop} {first second : Sources} {walked other : Walked}
  {path otherPath outer : List Visit} {placed others : List Placement} {index : Nat}
  {placement next : Placement} {dependency also : PackDependency} {rest : List PackDependency}

/-! What a walk does next, by what its innermost visit still has to follow. -/

/-- A walk ends with the problem of a dependency that was placed before. -/
theorem walk_problem {known : Placement × Nat} {problem : ProvisioningError}
    (located : locate? walked.placed dependency.gav = some known)
    (isProblem : revisitProblem? (⟨index, placement, dependency :: rest⟩ :: outer) known
      dependency = some problem) :
    walk first walked (⟨index, placement, dependency :: rest⟩ :: outer) = .error problem := by
  rw [walk]
  split
  · next found isFound =>
    obtain rfl := Option.some.inj (located.symm.trans isFound)
    rw [isProblem]
  · next absent => simp [located] at absent

/-- A walk goes on past a dependency that was placed before. -/
theorem walk_revisit {known : Placement × Nat}
    (located : locate? walked.placed dependency.gav = some known)
    (noProblem : revisitProblem? (⟨index, placement, dependency :: rest⟩ :: outer) known
      dependency = none) :
    walk first walked (⟨index, placement, dependency :: rest⟩ :: outer) =
      walk first walked (⟨index, placement, rest⟩ :: outer) := by
  rw [walk]
  split
  · next found isFound =>
    obtain rfl := Option.some.inj (located.symm.trans isFound)
    rw [noProblem]
  · next absent => simp [located] at absent

/-- A walk ends at a dependency that is not found. -/
theorem walk_notFound (absent : locate? walked.placed dependency.gav = none)
    (notFound : first.placementFor? ⟨index, placement, rest⟩ dependency = none) :
    walk first walked (⟨index, placement, dependency :: rest⟩ :: outer) =
      .error (.packNotFound dependency.gav) := by
  rw [walk]
  split
  · next located => simp [absent] at located
  · split
    · rfl
    · next found => simp [notFound] at found

/-- A walk places a dependency that is found and descends into it. -/
theorem walk_descend (absent : locate? walked.placed dependency.gav = none)
    (found : first.placementFor? ⟨index, placement, rest⟩ dependency = some next) :
    walk first walked (⟨index, placement, dependency :: rest⟩ :: outer) =
      walk first { walked with placed := walked.placed ++ [next] }
        (⟨walked.placed.length, next, next.pack.dependencies⟩ ::
          ⟨index, placement, rest⟩ :: outer) := by
  rw [walk]
  split
  · next located => simp [absent] at located
  · split
    · next notFound => simp [found] at notFound
    · next isFound =>
      obtain rfl := Option.some.inj (found.symm.trans isFound)
      rfl

/-- Corresponding placements have the same coordinates. -/
theorem SamePlacement.gav_eq (gavs : ∀ pack other, Alike pack other → pack.gav = other.gav)
    {placement other : Placement} (same : SamePlacement Alike placement other) :
    placement.gav = other.gav :=
  gavs _ _ same.pack

/-- Corresponding dependencies name versions of one artifact. -/
theorem SameTarget.sameArtifact (target : SameTarget Alike first second dependency also) :
    dependency.gav.sameArtifact also.gav = true := by
  cases target with
  | byRequest _ same other => exact Gav.sameArtifact_trans (Gav.sameArtifact_symm same) other
  | byRepository => exact Gav.sameArtifact_self _

/-- Coordinates of one artifact are located at the same index, if at all. -/
theorem rel_locate? (gavs : ∀ pack other, Alike pack other → pack.gav = other.gav)
    (samePlaced : List.Forall₂ (SamePlacement Alike) placed others) {gav otherGav : Gav}
    (sameArtifact : gav.sameArtifact otherGav = true) :
    Option.Rel (fun known other => SamePlacement Alike known.1 other.1 ∧ known.2 = other.2)
      (locate? placed gav) (locate? others otherGav) := by
  refine rel_find? (rel_zipIdx samePlaced 0) fun known other same => ?_
  rw [same.1.gav_eq gavs, Bool.eq_iff_iff]
  exact ⟨fun isKnown => Gav.sameArtifact_trans isKnown sameArtifact,
    fun isKnown => Gav.sameArtifact_trans isKnown (Gav.sameArtifact_symm sameArtifact)⟩

/-- Paths through corresponding feature-packs close the same cycles. -/
theorem cycle?_congr (corresponding : Corresponding Alike first second)
    (samePath : List.Forall₂ (SameVisit Alike first second) path otherPath) (index : Nat) :
    cycle? path index = cycle? otherPath index := by
  have sameDepth : (path.findIdx? fun visit => visit.index == index) =
      otherPath.findIdx? fun visit => visit.index == index :=
    findIdx?_eq_of_related samePath fun _ _ same => by rw [same.index]
  have sameGavs : path.map (fun visit => visit.placement.gav) =
      otherPath.map fun visit => visit.placement.gav :=
    map_eq_map_of_related samePath fun _ _ same => same.placement.gav_eq corresponding.gavs
  unfold cycle?
  rw [sameDepth]
  simp only [List.map_take, sameGavs]

/-- Corresponding dependencies on a placed artifact meet the same problem. -/
theorem revisitProblem?_congr (corresponding : Corresponding Alike first second)
    (walking : Walking first walked path)
    (samePath : List.Forall₂ (SameVisit Alike first second) path otherPath)
    (target : SameTarget Alike first second dependency also) {known otherKnown : Placement × Nat}
    (located : locate? walked.placed dependency.gav = some known)
    (same : SamePlacement Alike known.1 otherKnown.1 ∧ known.2 = otherKnown.2) :
    revisitProblem? path known dependency = revisitProblem? otherPath otherKnown also := by
  obtain ⟨samePlacement, sameIndex⟩ := same
  have sameRequested : known.1.isRequested = otherKnown.1.isRequested := by
    rw [Placement.isRequested, samePlacement.parent, Placement.isRequested]
  unfold revisitProblem?
  rw [cycle?_congr corresponding samePath, sameIndex, samePlacement.gav_eq corresponding.gavs,
    sameRequested]
  cases target with
  | byRequest isRoot sameRoot sameOther =>
      obtain ⟨isKnown, isArtifact⟩ := getElem?_of_locate? located
      have isRequested : known.1.isRequested = true :=
        (walking.justified _ (List.mem_of_getElem? isKnown)).requested_iff.2
          ⟨_, isRoot, Gav.sameArtifact_trans sameRoot (Gav.sameArtifact_symm isArtifact)⟩
      rw [← sameRequested, isRequested]
      simp
  | byRepository => rfl

/-- Corresponding dependencies on an artifact that is not placed yet lead to corresponding
feature-packs. -/
theorem rel_placementFor? (corresponding : Corresponding Alike first second)
    (target : SameTarget Alike first second dependency also) (visit otherVisit : Visit)
    (sameIndex : visit.index = otherVisit.index)
    (samePlacement : SamePlacement Alike visit.placement otherVisit.placement) :
    Option.Rel (SamePlacement Alike) (first.placementFor? visit dependency)
      (second.placementFor? otherVisit also) := by
  have sameArtifact := target.sameArtifact
  have sameRoots : Option.Rel (SameRoot Alike)
      (first.requested.find? fun root => root.pack.gav.sameArtifact dependency.gav)
      (second.requested.find? fun root => root.pack.gav.sameArtifact also.gav) := by
    refine rel_find? corresponding.requested fun root other same => ?_
    rw [corresponding.gavs _ _ same.pack, Bool.eq_iff_iff]
    exact ⟨fun isKnown => Gav.sameArtifact_trans isKnown sameArtifact,
      fun isKnown => Gav.sameArtifact_trans isKnown (Gav.sameArtifact_symm sameArtifact)⟩
  unfold Sources.placementFor?
  revert sameRoots
  generalize isRoot :
    (first.requested.find? fun root => root.pack.gav.sameArtifact dependency.gav) = root
  generalize (second.requested.find? fun root => root.pack.gav.sameArtifact also.gav) = otherRoot
  rintro (sameRoot | _)
  · exact .some ⟨sameRoot.pack, by rw [sameRoot.config], rfl⟩
  · cases target with
    | byRequest isListed same =>
        exact absurd same (List.find?_eq_none.1 isRoot _ isListed)
    | byRepository found =>
        refine rel_cases found .none fun _ _ alike => ?_
        exact .some ⟨alike, by rw [samePlacement.chain], by rw [sameIndex]⟩

/-- What is not found is not requested either. -/
theorem not_sameArtifact_of_notFound {visit : Visit}
    (notFound : first.placementFor? visit dependency = none) {root : Root}
    (isRoot : root ∈ first.requested) : ¬root.pack.gav.sameArtifact dependency.gav = true := by
  unfold Sources.placementFor? at notFound
  split at notFound
  · cases notFound
  · next absent => exact List.find?_eq_none.1 absent root isRoot

/-- Placing corresponding feature-packs keeps the walks together. -/
theorem SameWalked.place (same : SameWalked Alike walked other) {otherNext : Placement}
    (sameNext : SamePlacement Alike next otherNext) :
    SameWalked Alike { walked with placed := walked.placed ++ [next] }
      { other with placed := other.placed ++ [otherNext] } where
  placed := List.rel_append same.placed (.cons sameNext .nil)
  postOrder := same.postOrder

/-- Placements of identical feature-packs are identical. -/
theorem SamePlacement.eq (identical : ∀ pack other, Alike pack other → pack = other)
    {otherPlacement : Placement} (same : SamePlacement Alike placement otherPlacement) :
    placement = otherPlacement := by
  obtain ⟨pack, chain, parent⟩ := placement
  obtain ⟨otherPack, otherChain, otherParent⟩ := otherPlacement
  obtain ⟨alike, rfl, rfl⟩ := same
  obtain rfl : pack = otherPack := identical _ _ alike
  rfl

/-- Walks that place the same feature-packs for the same reasons place the same. -/
theorem SameWalked.eq (identical : ∀ pack other, Alike pack other → pack = other)
    (same : SameWalked Alike walked other) : walked = other := by
  obtain ⟨placed, postOrder⟩ := walked
  obtain ⟨otherPlaced, otherPostOrder⟩ := other
  obtain ⟨samePlaced, rfl⟩ := same
  have equal := samePlaced.imp fun _ _ samePlacement => samePlacement.eq identical
  rw [List.forall₂_eq_eq_eq] at equal
  obtain rfl : placed = otherPlaced := equal
  rfl

/-- Visits of the like begin with the dependencies of corresponding feature-packs. -/
theorem SameWalked.visit (corresponding : Corresponding Alike first second)
    (same : SameWalked Alike walked other) {otherNext : Placement}
    (sameNext : SamePlacement Alike next otherNext) :
    SameVisit Alike first second ⟨walked.placed.length, next, next.pack.dependencies⟩
      ⟨other.placed.length, otherNext, otherNext.pack.dependencies⟩ where
  index := same.placed.length_eq
  placement := sameNext
  remaining := corresponding.dependencies _ _ sameNext.pack

/-- The innermost visits of corresponding paths follow corresponding dependencies. -/
theorem eq_cons_of_samePath
    (samePath : List.Forall₂ (SameVisit Alike first second)
      (⟨index, placement, dependency :: rest⟩ :: outer) otherPath) :
    ∃ otherPlacement also otherRest otherOuter,
      otherPath = ⟨index, otherPlacement, also :: otherRest⟩ :: otherOuter ∧
      SamePlacement Alike placement otherPlacement ∧
      SameTarget Alike first second dependency also ∧
      List.Forall₂ (SameTarget Alike first second) rest otherRest ∧
      List.Forall₂ (SameVisit Alike first second) outer otherOuter := by
  obtain _ | @⟨_, ⟨otherIndex, otherPlacement, remaining⟩, _, otherOuter, sameVisit, sameOuter⟩ :=
    samePath
  obtain ⟨sameIndex, samePlacement, sameRemaining⟩ := sameVisit
  obtain _ | @⟨_, also, _, otherRest, target, sameRest⟩ := sameRemaining
  obtain rfl : index = otherIndex := sameIndex
  exact ⟨otherPlacement, also, otherRest, otherOuter, rfl, samePlacement, target, sameRest,
    sameOuter⟩

/-- A walk through corresponding feature-packs meets the same problem or places the like. -/
theorem walk_endAlike (corresponding : Corresponding Alike first second) (sound : first.Sound)
    (walking : Walking first walked path) (same : SameWalked Alike walked other)
    (samePath : List.Forall₂ (SameVisit Alike first second) path otherPath) :
    EndAlike (SameWalked Alike) (walk first walked path) (walk second other otherPath) := by
  fun_induction walk first walked path generalizing other otherPath with
  | case1 walked =>
      cases samePath
      rw [walk]
      exact .ok same
  | case2 walked index placement outer inductionHypothesis =>
      obtain _ | @⟨_, ⟨otherIndex, otherPlacement, remaining⟩, _, otherOuter, sameVisit,
        sameOuter⟩ := samePath
      obtain ⟨sameIndex, samePlacement, sameRemaining⟩ := sameVisit
      obtain rfl : index = otherIndex := sameIndex
      cases sameRemaining
      rw [walk]
      exact inductionHypothesis walking.finish ⟨same.placed, by rw [same.postOrder]⟩ sameOuter
  | case3 walked index placement dependency rest outer known located problem isProblem =>
      obtain ⟨otherPlacement, also, otherRest, otherOuter, rfl, _, target, _, _⟩ :=
        eq_cons_of_samePath samePath
      have sameLocated := rel_locate? corresponding.gavs same.placed target.sameArtifact
      rw [located] at sameLocated
      obtain ⟨otherKnown, otherLocated, sameKnown⟩ := eq_some_of_rel sameLocated
      have sameProblem :=
        revisitProblem?_congr corresponding walking samePath target located sameKnown
      rw [walk_problem otherLocated (sameProblem.symm.trans isProblem), isProblem]
      exact .error problem
  | case4 walked index placement dependency rest outer known located noProblem
      inductionHypothesis =>
      obtain ⟨otherPlacement, also, otherRest, otherOuter, rfl, samePlacement, target, sameRest,
        sameOuter⟩ := eq_cons_of_samePath samePath
      have sameLocated := rel_locate? corresponding.gavs same.placed target.sameArtifact
      rw [located] at sameLocated
      obtain ⟨otherKnown, otherLocated, sameKnown⟩ := eq_some_of_rel sameLocated
      have sameProblem :=
        revisitProblem?_congr corresponding walking samePath target located sameKnown
      rw [walk_revisit otherLocated (sameProblem.symm.trans noProblem), noProblem]
      exact inductionHypothesis (walking.revisit located noProblem) same
        (.cons ⟨rfl, samePlacement, sameRest⟩ sameOuter)
  | case5 walked index placement dependency rest outer absent notFound =>
      obtain ⟨otherPlacement, also, otherRest, otherOuter, rfl, samePlacement, target, _, _⟩ :=
        eq_cons_of_samePath samePath
      have sameLocated := rel_locate? corresponding.gavs same.placed target.sameArtifact
      have sameFound := rel_placementFor? corresponding target ⟨index, placement, rest⟩
        ⟨index, otherPlacement, otherRest⟩ rfl samePlacement
      rw [absent] at sameLocated
      rw [notFound] at sameFound
      rw [walk_notFound (eq_none_of_rel sameLocated) (eq_none_of_rel sameFound)]
      cases target with
      | byRequest isRoot sameRoot =>
          -- Whatever is requested has been found.
          exact absurd sameRoot (not_sameArtifact_of_notFound notFound isRoot)
      | byRepository => exact .error _
  | case6 walked index placement dependency rest outer absent next found inductionHypothesis =>
      obtain ⟨otherPlacement, also, otherRest, otherOuter, rfl, samePlacement, target, sameRest,
        sameOuter⟩ := eq_cons_of_samePath samePath
      have sameLocated := rel_locate? corresponding.gavs same.placed target.sameArtifact
      have sameFound := rel_placementFor? corresponding target ⟨index, placement, rest⟩
        ⟨index, otherPlacement, otherRest⟩ rfl samePlacement
      rw [absent] at sameLocated
      rw [found] at sameFound
      obtain ⟨otherNext, otherFound, sameNext⟩ := eq_some_of_rel sameFound
      rw [walk_descend (eq_none_of_rel sameLocated) otherFound]
      exact inductionHypothesis (walking.descend sound absent found) (same.place sameNext)
        (.cons (same.visit corresponding sameNext)
          (.cons ⟨rfl, samePlacement, sameRest⟩ sameOuter))

/-- Walks from corresponding roots end alike. -/
theorem walkRoots_endAlike (corresponding : Corresponding Alike first second) (sound : first.Sound)
    (walking : Walking first walked []) (same : SameWalked Alike walked other)
    {roots otherRoots : List Root} (sameRoots : List.Forall₂ (SameRoot Alike) roots otherRoots)
    (areRoots : ∀ root ∈ roots, root ∈ first.requested) :
    EndAlike (SameWalked Alike) (walkRoots first walked roots)
      (walkRoots second other otherRoots) := by
  induction sameRoots generalizing walked other with
  | nil => exact .ok same
  | @cons root otherRoot rest otherRest sameRoot _ inductionHypothesis =>
      rw [List.forall_mem_cons] at areRoots
      have sameGav := corresponding.gavs _ _ sameRoot.pack
      have sameLocated :=
        rel_locate? corresponding.gavs same.placed (Gav.sameArtifact_self root.pack.gav)
      rw [walkRoots, walkRoots, ← sameGav]
      revert sameLocated
      cases isLocated : locate? walked.placed root.pack.gav with
      | some known =>
          intro sameLocated
          obtain ⟨otherKnown, otherLocated, _⟩ := eq_some_of_rel sameLocated
          rw [otherLocated]
          exact inductionHypothesis walking same areRoots.2
      | none =>
          intro sameLocated
          rw [eq_none_of_rel sameLocated]
          have started := walking.start sound areRoots.1 isLocated
          have samePlacement : SamePlacement Alike ⟨root.pack, [root.config], none⟩
              ⟨otherRoot.pack, [otherRoot.config], none⟩ :=
            ⟨sameRoot.pack, by rw [sameRoot.config], rfl⟩
          have endsAlike := walk_endAlike corresponding sound started (same.place samePlacement)
            (.cons (same.visit corresponding samePlacement) .nil)
          refine endsAlike.bind fun next otherNext isNext sameNext => ?_
          have fulfilled := walk_fulfilled sound started
          rw [isNext] at fulfilled
          exact inductionHypothesis fulfilled sameNext areRoots.2

section

variable {repository another : Repository} {request : Request} {requested : List Root}

/-- What the request lists leads two dependencies to the same feature-pack. -/
theorem SameTarget.of_listed (isRequested : roots repository request.packs = .ok requested)
    {others : List Root} {config : PackConfig} (listed : config ∈ request.packs)
    (same : config.gav.sameArtifact dependency.gav = true)
    (sameArtifact : dependency.gav.sameArtifact also.gav = true) :
    SameTarget Alike ⟨repository, requested⟩ ⟨another, others⟩ dependency also := by
  obtain ⟨root, isRoot, sameRoot⟩ := (exists_root_iff isRequested).2 ⟨config, listed, same⟩
  exact .byRequest isRoot sameRoot (Gav.sameArtifact_trans sameRoot sameArtifact)

/-- Both repositories have corresponding feature-packs for the request, or both lack the same. -/
theorem roots_endAlike {configs : List PackConfig}
    (found : ∀ config ∈ configs,
      Option.Rel Alike (repository.find? config.gav) (another.find? config.gav)) :
    EndAlike (List.Forall₂ (SameRoot Alike)) (roots repository configs)
      (roots another configs) := by
  induction configs with
  | nil => exact .ok .nil
  | cons config rest inductionHypothesis =>
      rw [List.forall_mem_cons] at found
      obtain ⟨sameFound, foundRest⟩ := found
      rw [roots, roots]
      refine rel_cases sameFound (.error _) fun _ _ alike => ?_
      exact (inductionHypothesis foundRest).bind fun _ _ _ sameRest =>
        .ok (.cons ⟨rfl, alike⟩ sameRest)

/-- Layouts of corresponding feature-packs are built in the same order, or fail alike. -/
theorem build_endAlike (request : Request)
    (found : ∀ config ∈ request.packs,
      Option.Rel Alike (repository.find? config.gav) (another.find? config.gav))
    (corresponding : ∀ requested others, roots repository request.packs = .ok requested →
      List.Forall₂ (SameRoot Alike) requested others →
        Corresponding Alike ⟨repository, requested⟩ ⟨another, others⟩) :
    EndAlike
      (fun layout other => ∃ walked otherWalked, SameWalked Alike walked otherWalked ∧
        layout = ofWalked request walked ∧ other = ofWalked request otherWalked)
      (build repository request) (build another request) := by
  refine (roots_endAlike found).bind fun requested others isRequested sameRoots => ?_
  have nothing : SameWalked Alike ⟨[], []⟩ ⟨[], []⟩ := ⟨.nil, rfl⟩
  have walksAlike := walkRoots_endAlike (corresponding requested others isRequested sameRoots)
    (sound_of_roots isRequested) (walking_initial _) nothing sameRoots fun _ isRoot => isRoot
  exact walksAlike.bind fun walked otherWalked _ same => .ok ⟨walked, otherWalked, same, rfl, rfl⟩

end

end Provisioning.Layout
