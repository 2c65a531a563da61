/-
This file proves that a layout is built where everything that a request leads to is there, in one
version and without cycles, and that a layout with current versions is built nowhere else.
-/

import Provisioning.Proofs.Layout.Reached

namespace Provisioning.Layout

/-- A reached feature-pack depends on the feature-pack that another coordinate belongs to. -/
def Uses (repository : Repository) (request : Request) (dependent target : Gav) : Prop :=
  ∃ pack, Reached repository request pack ∧ pack.gav = dependent ∧
    ∃ dependency ∈ pack.dependencies, ∃ other,
      chosen? repository request dependency.gav = some other ∧ other.gav = target

/-- Everything that a request leads to is there, in one version, and without cycles. -/
structure Consistent (repository : Repository) (request : Request) : Prop where
  requestedFound : ∀ config ∈ request.packs, ∃ pack, repository.find? config.gav = some pack
  dependenciesFound : ∀ pack, Reached repository request pack → ∀ dependency ∈ pack.dependencies,
    ∃ target, chosen? repository request dependency.gav = some target
  oneVersion : ∀ first second, Reached repository request first →
    Reached repository request second → first.gav.sameArtifact second.gav = true →
      first.gav = second.gav
  acyclic : ∀ gav, ¬Relation.TransGen (Uses repository request) gav gav

/-- The coordinates of a layout. -/
def gavs (layout : Layout) : List Gav := layout.entries.map fun entry => entry.gav

/-- A dependency on the current version of what is not requested has led to that version. -/
def LatestIsCurrent (repository : Repository) (layout : Layout) : Prop :=
  ∀ entry ∈ layout.entries, ∀ link ∈ entry.dependencies, ∀ target,
    layout.entries[link.1]? = some target → target.isRequested = false →
      link.2.gav.isLatest = true → repository.find? link.2.gav = some target.pack

/-- What holds between the steps of a walk that nothing stands in the way of. -/
structure OnCourse (repository : Repository) (request : Request) (walked : Walked)
    (path : List Visit) : Prop where
  reached : ∀ placement ∈ walked.placed, Reached repository request placement.pack
  uses : (path.map fun visit => visit.placement.gav).IsChain fun inner outer =>
    Uses repository request outer inner

variable {repository : Repository} {request : Request} {requested : List Root}
  {walked : Walked} {path outer : List Visit} {index : Nat} {placement next : Placement}
  {dependency : PackDependency} {rest : List PackDependency} {layout : Layout} {gav : Gav}
  {entry : LayoutEntry}

/-- The feature-pack of an artifact is reached in one version only. -/
theorem Consistent.chosen_eq (consistent : Consistent repository request)
    {pack target : FeaturePack} (found : chosen? repository request gav = some target)
    (reachedTarget : Reached repository request target) (reached : Reached repository request pack)
    (same : pack.gav.sameArtifact gav = true) : target = pack := by
  have sameArtifact := Gav.sameArtifact_trans same (Gav.sameArtifact_symm (chosen?_eq_some found).2)
  exact eq_of_gav reachedTarget.mem_packs reached.mem_packs
    (consistent.oneVersion pack target reached reachedTarget sameArtifact).symm

/-- The innermost visit of a path is used, directly or through others, by everything around it. -/
theorem OnCourse.transGen_uses {visit : Visit}
    (onCourse : OnCourse repository request walked (visit :: path)) {other : Visit}
    (listed : other ∈ path) :
    Relation.TransGen (Uses repository request) other.placement.gav visit.placement.gav := by
  have chain := onCourse.uses.imp fun inner outer uses =>
    Relation.TransGen.single (r := Function.swap (Uses repository request)) uses
  exact Relation.transGen_swap.1 (chain.rel_cons (List.mem_map_of_mem listed))

/-- The dependency that is followed next leads to a feature-pack that is used. -/
theorem OnCourse.follows (consistent : Consistent repository request)
    (onCourse : OnCourse repository request walked path)
    (isPlaced : placement ∈ walked.placed) (declared : dependency ∈ placement.pack.dependencies) :
    ∃ target, chosen? repository request dependency.gav = some target ∧
      Reached repository request target ∧
      Uses repository request placement.gav target.gav := by
  have reached := onCourse.reached placement isPlaced
  obtain ⟨target, found⟩ := consistent.dependenciesFound _ reached dependency declared
  exact ⟨target, found, .dependency reached declared found,
    placement.pack, reached, rfl, dependency, declared, target, found, rfl⟩

/-- An artifact that is met again is neither on the path nor wanted in another version. -/
theorem OnCourse.revisitProblem?_eq_none (consistent : Consistent repository request)
    (isRequested : roots repository request.packs = .ok requested)
    (walking : Walking ⟨repository, requested⟩ walked
      (⟨index, placement, dependency :: rest⟩ :: outer))
    (onCourse : OnCourse repository request walked
      (⟨index, placement, dependency :: rest⟩ :: outer))
    {known : Placement × Nat} (located : locate? walked.placed dependency.gav = some known) :
    revisitProblem? (⟨index, placement, dependency :: rest⟩ :: outer) known dependency = none := by
  have isPlaced := List.mem_of_getElem? (walking.onPath _ List.mem_cons_self)
  have declared := walking.declared _ List.mem_cons_self dependency List.mem_cons_self
  obtain ⟨isKnown, same⟩ := getElem?_of_locate? located
  obtain ⟨target, found, reachedTarget, uses⟩ := onCourse.follows consistent isPlaced declared
  have isTarget : target = known.1.pack := consistent.chosen_eq found reachedTarget
    (onCourse.reached _ (List.mem_of_getElem? isKnown)) same
  subst isTarget
  unfold revisitProblem?
  split
  · next gavs isCycle =>
    exfalso
    obtain ⟨inner, visit, beyond, split, isIndex, _⟩ := cycle?_eq_some isCycle
    have listed : visit ∈ (⟨index, placement, dependency :: rest⟩ :: outer : List Visit) := by
      simp [split]
    have isVisit := walking.onPath visit listed
    rw [isIndex, isKnown, Option.some.injEq] at isVisit
    rw [isVisit] at uses
    -- An artifact that is open again would be reached from itself.
    rcases List.mem_cons.1 listed with rfl | further
    · exact consistent.acyclic _ (.single uses)
    · exact consistent.acyclic _ ((onCourse.transGen_uses further).tail uses)
  · rw [if_neg]
    intro conflict
    simp only [Bool.and_eq_true, Bool.not_eq_true', bne_iff_ne] at conflict
    obtain ⟨⟨concrete, different⟩, unrequested⟩ := conflict
    rw [← Bool.not_eq_true,
      (walking.justified _ (List.mem_of_getElem? isKnown)).requested_iff] at unrequested
    -- What the request does not list comes from the repository, in the version that is asked for.
    rw [chosen?_of_unrequested isRequested fun root isRoot also => unrequested
      ⟨root, isRoot, Gav.sameArtifact_trans also (Gav.sameArtifact_symm same)⟩] at found
    exact different ((find?_eq_some_iff_of_concrete concrete).1 found).2.symm

/-- A walk meets no problem and places what is reached. -/
theorem walk_of_consistent (consistent : Consistent repository request)
    (isRequested : roots repository request.packs = .ok requested)
    (walking : Walking ⟨repository, requested⟩ walked path)
    (onCourse : OnCourse repository request walked path) :
    ∃ final, walk ⟨repository, requested⟩ walked path = .ok final ∧
      OnCourse repository request final [] := by
  have sound := sound_of_roots isRequested
  fun_induction walk ⟨repository, requested⟩ walked path with
  | case1 walked => exact ⟨walked, rfl, onCourse⟩
  | case2 walked index placement outer inductionHypothesis =>
      exact inductionHypothesis walking.finish ⟨onCourse.reached, onCourse.uses.tail⟩
  | case3 walked index placement dependency rest outer known located problem isProblem =>
      rw [onCourse.revisitProblem?_eq_none consistent isRequested walking located] at isProblem
      cases isProblem
  | case4 walked index placement dependency rest outer known located noProblem
      inductionHypothesis =>
      rw [noProblem]
      exact inductionHypothesis (walking.revisit located noProblem)
        ⟨onCourse.reached, by simpa using onCourse.uses⟩
  | case5 walked index placement dependency rest outer absent notFound =>
      have isPlaced := List.mem_of_getElem? (walking.onPath _ List.mem_cons_self)
      have declared := walking.declared _ List.mem_cons_self dependency List.mem_cons_self
      obtain ⟨target, found, _⟩ := onCourse.follows consistent isPlaced declared
      rw [← map_pack_placementFor? isRequested ⟨index, placement, rest⟩, notFound] at found
      cases found
  | case6 walked index placement dependency rest outer absent next found inductionHypothesis =>
      have isPlaced := List.mem_of_getElem? (walking.onPath _ List.mem_cons_self)
      have declared := walking.declared _ List.mem_cons_self dependency List.mem_cons_self
      obtain ⟨target, isTarget, reached, uses⟩ := onCourse.follows consistent isPlaced declared
      rw [← map_pack_placementFor? isRequested ⟨index, placement, rest⟩, found] at isTarget
      obtain rfl := Option.some.inj isTarget
      refine inductionHypothesis (walking.descend sound absent found) ⟨?_, ?_⟩
      · rw [List.forall_mem_append]
        exact ⟨onCourse.reached, by simpa using reached⟩
      · simpa using ⟨uses, onCourse.uses⟩

theorem walkRoots_of_consistent (consistent : Consistent repository request)
    (isRequested : roots repository request.packs = .ok requested)
    (walking : Walking ⟨repository, requested⟩ walked [])
    (onCourse : OnCourse repository request walked []) {listed : List Root}
    (areRoots : ∀ root ∈ listed, root ∈ requested) :
    ∃ final, walkRoots ⟨repository, requested⟩ walked listed = .ok final ∧
      OnCourse repository request final [] := by
  have sound := sound_of_roots isRequested
  obtain ⟨sameConfigs, found⟩ := roots_eq_ok isRequested
  induction listed generalizing walked with
  | nil => exact ⟨walked, rfl, onCourse⟩
  | cons root rest inductionHypothesis =>
      rw [List.forall_mem_cons] at areRoots
      rw [walkRoots]
      split
      · exact inductionHypothesis walking onCourse areRoots.2
      · next absent =>
        have started := walking.start sound areRoots.1 absent
        have reached : Reached repository request root.pack :=
          .requested (sameConfigs ▸ List.mem_map_of_mem areRoots.1) (found root areRoots.1)
        obtain ⟨next, isNext, nextOnCourse⟩ := walk_of_consistent consistent isRequested started
          ⟨by simpa [or_imp, forall_and] using ⟨onCourse.reached, reached⟩, by simp⟩
        have fulfilled := walk_fulfilled sound started
        rw [isNext] at fulfilled
        obtain ⟨final, isFinal, finalOnCourse⟩ :=
          inductionHypothesis fulfilled nextOnCourse areRoots.2
        exact ⟨final, bind_eq_ok_iff.2 ⟨next, isNext, isFinal⟩, finalOnCourse⟩

theorem roots_of_found {configs : List PackConfig}
    (found : ∀ config ∈ configs, ∃ pack, repository.find? config.gav = some pack) :
    ∃ requested, roots repository configs = .ok requested := by
  induction configs with
  | nil => exact ⟨[], rfl⟩
  | cons config rest inductionHypothesis =>
      rw [List.forall_mem_cons] at found
      obtain ⟨⟨pack, isPack⟩, foundRest⟩ := found
      obtain ⟨requested, isRest⟩ := inductionHypothesis foundRest
      exact ⟨⟨config, pack⟩ :: requested, by rw [roots, isPack, isRest]; rfl⟩

/-- Whatever is reached is in a layout that has nothing else. -/
theorem mem_gavs_of_reached (built : build repository request = .ok layout)
    (consistent : Consistent repository request)
    (allReached : ∀ entry ∈ layout.entries, Reached repository request entry.pack)
    {pack : FeaturePack} (reached : Reached repository request pack) : pack.gav ∈ layout.gavs := by
  have contract := contract_of_build built
  have located : ∀ {pack : FeaturePack}, Reached repository request pack →
      Needed (request.packs.map PackConfig.gav) (layout.entries.map fun entry => entry.pack)
        pack.gav → ∃ entry ∈ layout.entries, entry.pack = pack := by
    intro pack reached needed
    obtain ⟨entry, isEntry, same⟩ := (contract.present_iff pack.gav).2 needed
    refine ⟨entry, isEntry, ?_⟩
    exact eq_of_gav (allReached entry isEntry).mem_packs reached.mem_packs
      (consistent.oneVersion _ _ (allReached entry isEntry) reached same)
  have needed : Needed (request.packs.map PackConfig.gav)
      (layout.entries.map fun entry => entry.pack) pack.gav := by
    induction reached with
    | requested listed found =>
        exact .requested (List.mem_map_of_mem listed)
          (Gav.sameArtifact_symm (Repository.find?_eq_some found).2)
    | dependency reached declared found inductionHypothesis =>
        obtain ⟨entry, isEntry, rfl⟩ := located reached inductionHypothesis
        exact .dependency (List.mem_map_of_mem isEntry) inductionHypothesis declared
          (Gav.sameArtifact_symm (chosen?_eq_some found).2)
  obtain ⟨entry, isEntry, rfl⟩ := located reached needed
  exact List.mem_map_of_mem isEntry

/-- A layout is built, and it has exactly what is reached. -/
theorem build_of_consistent (consistent : Consistent repository request) :
    ∃ layout, build repository request = .ok layout ∧
      ∀ gav, gav ∈ layout.gavs ↔ ∃ pack, Reached repository request pack ∧ pack.gav = gav := by
  obtain ⟨requested, isRequested⟩ := roots_of_found consistent.requestedFound
  obtain ⟨walked, isWalked, onCourse⟩ := walkRoots_of_consistent consistent isRequested
    (walking_initial _) ⟨by simp, .nil⟩ fun _ isRoot => isRoot
  have built : build repository request = .ok (ofWalked request walked) := by
    rw [build, isRequested]
    change (walkRoots _ _ requested >>= _) = _
    rw [isWalked]
    rfl
  have allReached : ∀ entry ∈ (ofWalked request walked).entries,
      Reached repository request entry.pack := List.forall_mem_map.2 onCourse.reached
  refine ⟨_, built, fun gav => ⟨fun listed => ?_, ?_⟩⟩
  · obtain ⟨entry, isEntry, rfl⟩ := List.mem_map.1 listed
    exact ⟨entry.pack, allReached entry isEntry, rfl⟩
  · rintro ⟨pack, reached, rfl⟩
    exact mem_gavs_of_reached built consistent allReached reached

section

variable (built : build repository request = .ok layout)
include built

theorem pack_mem_packs_of_build {entry : LayoutEntry} (isEntry : entry ∈ layout.entries) :
    entry.pack ∈ repository.packs := by
  obtain ⟨requested, walked, rfl, builtBy⟩ := builtBy_of_build built
  obtain ⟨placement, isPlaced, rfl⟩ := List.mem_map.1 isEntry
  exact (builtBy.walking.justified placement isPlaced).known

/-- Where the current versions are chosen, every dependency leads to what it stands for. -/
theorem chosen?_of_link (current : LatestIsCurrent repository layout) {entry target : LayoutEntry}
    (isEntry : entry ∈ layout.entries) {link : Nat × PackDependency}
    (isLink : link ∈ entry.dependencies) (isTarget : layout.entries[link.1]? = some target) :
    chosen? repository request link.2.gav = some target.pack := by
  have contract := contract_of_build built
  have listed := List.mem_of_getElem? isTarget
  have declared : link.2 ∈ entry.pack.dependencies :=
    contract.dependenciesListed entry isEntry ▸ List.mem_map_of_mem isLink
  obtain ⟨placed, isPlaced, same⟩ := contract.dependenciesPlaced entry isEntry link isLink
  obtain rfl := Option.some.inj (isTarget.symm.trans isPlaced)
  cases isRequested : target.isRequested with
  | true =>
      obtain ⟨config, isConfig, also⟩ := (contract.requested_iff target listed).1 isRequested
      rw [chosen?, lookedUp_of_listed isConfig (Gav.sameArtifact_trans also same)]
      exact contract.requestedPack target listed config isConfig also
  | false =>
      have unlisted : ∀ config ∈ request.packs, config.gav.sameArtifact link.2.gav = false := by
        intro config isConfig
        rw [← Bool.not_eq_true]
        intro also
        have requested := (contract.requested_iff target listed).2
          ⟨config, isConfig, Gav.sameArtifact_trans also (Gav.sameArtifact_symm same)⟩
        simp [isRequested] at requested
      rw [chosen?, lookedUp_of_unlisted unlisted]
      cases latest : link.2.gav.isLatest with
      | true => exact current entry isEntry link isLink target isTarget isRequested latest
      | false =>
          have sameGav := contract.versionsAgree target listed isRequested entry isEntry link.2
            declared (Gav.sameArtifact_symm same) latest
          exact (find?_eq_some_iff_of_concrete latest).2
            ⟨pack_mem_packs_of_build built listed, sameGav.symm⟩

/-- Every dependency of an entry leads to an entry with what the dependency stands for. -/
theorem exists_target_of_declared (current : LatestIsCurrent repository layout)
    (isEntry : layout.entries[index]? = some entry)
    (declared : dependency ∈ entry.pack.dependencies) :
    ∃ position target, (graphOf layout.entries).Edge index position ∧
      layout.entries[position]? = some target ∧
        chosen? repository request dependency.gav = some target.pack := by
  have contract := contract_of_build built
  have listed := List.mem_of_getElem? isEntry
  rw [← contract.dependenciesListed entry listed] at declared
  obtain ⟨link, isLink, rfl⟩ := List.mem_map.1 declared
  obtain ⟨target, isTarget, _⟩ := contract.dependenciesPlaced entry listed link isLink
  exact ⟨link.1, target, edge_graphOf_iff.2 ⟨entry, isEntry, link, isLink, rfl⟩, isTarget,
    chosen?_of_link built current listed isLink isTarget⟩

theorem exists_entry_of_reached (current : LatestIsCurrent repository layout) {pack : FeaturePack}
    (reached : Reached repository request pack) : ∃ entry ∈ layout.entries, entry.pack = pack := by
  have contract := contract_of_build built
  induction reached with
  | @requested config pack listed found =>
      obtain ⟨entry, isEntry, same⟩ := (contract.present_iff config.gav).2
        (.requested (List.mem_map_of_mem listed) (Gav.sameArtifact_self _))
      have isFound :=
        contract.requestedPack entry isEntry config listed (Gav.sameArtifact_symm same)
      exact ⟨entry, isEntry, Option.some.inj (isFound.symm.trans found)⟩
  | dependency _ declared found inductionHypothesis =>
      obtain ⟨entry, isEntry, rfl⟩ := inductionHypothesis
      obtain ⟨index, isIndex⟩ := List.getElem?_of_mem isEntry
      obtain ⟨_, target, _, isTarget, isFound⟩ :=
        exists_target_of_declared built current isIndex declared
      exact ⟨target, List.mem_of_getElem? isTarget, Option.some.inj (isFound.symm.trans found)⟩

/-- What uses a feature-pack in a layout depends on it in the graph of the layout. -/
theorem dependsOn_of_uses (current : LatestIsCurrent repository layout) {dependent target : Gav}
    (uses : Relation.TransGen (Uses repository request) dependent target) :
    ∃ first last node other, layout.entries[node]? = some first ∧ first.gav = dependent ∧
      layout.entries[other]? = some last ∧ last.gav = target ∧
        (graphOf layout.entries).DependsOn node other := by
  have step : ∀ {dependent target : Gav}, Uses repository request dependent target →
      ∀ {node : Nat} {entry : LayoutEntry}, layout.entries[node]? = some entry →
        entry.gav = dependent → ∃ last other, layout.entries[other]? = some last ∧
          last.gav = target ∧ (graphOf layout.entries).Edge node other := by
    rintro _ _ ⟨pack, reached, rfl, dependency, declared, _, found, rfl⟩ node entry isEntry same
    have known := pack_mem_packs_of_build built (List.mem_of_getElem? isEntry)
    have isPack : entry.pack = pack := eq_of_gav known reached.mem_packs same
    rw [← isPack] at declared
    obtain ⟨position, target, edge, isTarget, isFound⟩ :=
      exists_target_of_declared built current isEntry declared
    exact ⟨target, position, isTarget,
      congrArg (fun pack : FeaturePack => pack.gav) (Option.some.inj (isFound.symm.trans found)),
      edge⟩
  induction uses with
  | single uses =>
      obtain ⟨pack, reached, same, _⟩ := id uses
      obtain ⟨entry, listed, rfl⟩ := exists_entry_of_reached built current reached
      obtain ⟨node, isEntry⟩ := List.getElem?_of_mem listed
      obtain ⟨last, other, isLast, sameLast, edge⟩ := step uses isEntry same
      exact ⟨entry, last, node, other, isEntry, same, isLast, sameLast, .single edge⟩
  | tail _ uses inductionHypothesis =>
      obtain ⟨first, between, node, position, isFirst, sameFirst, isBetween, sameBetween,
        depends⟩ := inductionHypothesis
      obtain ⟨last, other, isLast, sameLast, edge⟩ := step uses isBetween sameBetween
      exact ⟨first, last, node, other, isFirst, sameFirst, isLast, sameLast, depends.tail edge⟩

/-- A layout with current versions shows that nothing stood in its way. -/
theorem consistent_of_build (current : LatestIsCurrent repository layout) :
    Consistent repository request := by
  have contract := contract_of_build built
  constructor
  case requestedFound =>
    intro config listed
    obtain ⟨entry, isEntry, same⟩ := (contract.present_iff config.gav).2
      (.requested (List.mem_map_of_mem listed) (Gav.sameArtifact_self _))
    exact ⟨entry.pack,
      contract.requestedPack entry isEntry config listed (Gav.sameArtifact_symm same)⟩
  case dependenciesFound =>
    intro pack reached dependency declared
    obtain ⟨entry, isEntry, rfl⟩ := exists_entry_of_reached built current reached
    obtain ⟨index, isIndex⟩ := List.getElem?_of_mem isEntry
    obtain ⟨_, target, _, _, isFound⟩ := exists_target_of_declared built current isIndex declared
    exact ⟨target.pack, isFound⟩
  case oneVersion =>
    intro first second reachedFirst reachedSecond same
    obtain ⟨entry, isEntry, rfl⟩ := exists_entry_of_reached built current reachedFirst
    obtain ⟨other, isOther, rfl⟩ := exists_entry_of_reached built current reachedSecond
    rw [contract.distinct.eq isEntry isOther same]
  case acyclic =>
    intro gav uses
    obtain ⟨first, last, node, other, isFirst, rfl, isLast, same, depends⟩ :=
      dependsOn_of_uses built current uses
    have sameNode := contract.distinct.position_eq isFirst isLast (by
      rw [same]
      exact Gav.sameArtifact_self _)
    exact contract.acyclic node (sameNode ▸ depends)

end

end Provisioning.Layout
