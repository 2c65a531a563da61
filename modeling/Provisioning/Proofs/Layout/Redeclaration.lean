/-
This file proves that a layout looks the same whatever is declared for what the request lists.
-/

import Provisioning.Proofs.Expansion.Names
import Provisioning.Proofs.Layout.Correspondence
import Provisioning.Proofs.Layout.Reached

namespace Provisioning

/-- Two dependencies on one artifact under one alias are the same unless the request lists the
artifact. -/
structure SameUnlessListed (request : Request) (dependency other : PackDependency) : Prop where
  origin : dependency.origin = other.origin
  artifact : dependency.gav.sameArtifact other.gav = true
  listed : dependency = other ∨
    ∃ config ∈ request.packs, config.gav.sameArtifact dependency.gav = true

/-- A feature-pack differs from another at most in how it depends on what the request lists. -/
structure Redeclares (request : Request) (pack other : FeaturePack) : Prop where
  dependencies : List.Forall₂ (SameUnlessListed request) pack.dependencies other.dependencies
  others : other.toDeclaration = { pack.toDeclaration with dependencies := other.dependencies }

/-- Two repositories have the same feature-packs in the same order apart from how these depend on
what the request lists. -/
def Redeclared (request : Request) (first second : Repository) : Prop :=
  List.Forall₂ (Redeclares request) first.packs second.packs

namespace Layout

/-- Two links lead to one entry under one alias, and with the same config unless the entry is
requested. -/
structure SameLink (layout : Layout) (link other : Nat × PackDependency) : Prop where
  index : link.1 = other.1
  origin : link.2.origin = other.2.origin
  config : link.2.config = other.2.config ∨
    ∃ target, layout.entries[link.1]? = some target ∧ target.isRequested = true

structure SameEntry (layout : Layout) (entry other : LayoutEntry) : Prop where
  chain : entry.chain = other.chain
  parent : entry.parent = other.parent
  shipped : other.pack.toDeclaration =
    { entry.pack.toDeclaration with dependencies := other.pack.dependencies }
  dependencies : List.Forall₂ (SameLink layout) entry.dependencies other.dependencies

/-- Two layouts differ at most in how entries depend on what is requested. -/
structure SameLayout (first second : Layout) : Prop where
  request : first.request = second.request
  entries : List.Forall₂ (SameEntry first) first.entries second.entries
  requested : first.requested = second.requested
  postOrder : first.postOrder = second.postOrder
  reach : first.reach = second.reach
  installationReach : first.installationReach = second.installationReach

end Layout

theorem Redeclares.gav_eq {request : Request} {pack other : FeaturePack}
    (redeclares : Redeclares request pack other) : pack.gav = other.gav := by
  rw [redeclares.others]

namespace Layout

section

variable {request : Request} {repository another : Repository} {requested others : List Root}

/-- Dependencies on what the request lists lead to the same, whatever they ask for. -/
theorem corresponding_of_redeclared (redeclared : Redeclared request repository another)
    (isRequested : roots repository request.packs = .ok requested)
    (sameRoots : List.Forall₂ (SameRoot (Redeclares request)) requested others) :
    Corresponding (Redeclares request) ⟨repository, requested⟩ ⟨another, others⟩ where
  gavs := fun _ _ redeclares => redeclares.gav_eq
  requested := sameRoots
  dependencies := by
    intro pack other redeclares
    refine redeclares.dependencies.imp fun dependency replacement same => ?_
    rcases same.listed with rfl | ⟨config, listed, sameArtifact⟩
    · exact .byRepository (rel_find?_of_packs redeclared (fun _ _ same => same.gav_eq) _)
    · exact .of_listed isRequested listed sameArtifact same.artifact

end

section

variable {request : Request} {repository : Repository} {walked otherWalked : Walked}

/-- Coordinates of one artifact have the same index among corresponding placements. -/
theorem indexIn?_congr (same : SameWalked (Redeclares request) walked otherWalked)
    {gav otherGav : Gav} (sameArtifact : gav.sameArtifact otherGav = true) :
    indexIn? walked.placed gav = indexIn? otherWalked.placed otherGav := by
  have sameLocated := rel_locate? (fun _ _ same => same.gav_eq) same.placed sameArtifact
  exact map_eq_map_of_rel sameLocated fun _ _ sameKnown => sameKnown.2

/-- A link to what the request lists leads to a requested entry. -/
theorem requested_of_listed (contract : Contract repository request (ofWalked request walked))
    {gav : Gav} {index : Nat} (isIndex : indexIn? walked.placed gav = some index)
    {config : PackConfig} (listed : config ∈ request.packs)
    (sameArtifact : config.gav.sameArtifact gav = true) :
    ∃ target, (ofWalked request walked).entries[index]? = some target ∧
      target.isRequested = true := by
  obtain ⟨⟨known, index⟩, located, rfl⟩ := Option.map_eq_some_iff.1 isIndex
  obtain ⟨isKnown, same⟩ := getElem?_of_locate? located
  have isEntry := (getElem?_entries_ofWalked request).2 ⟨known, isKnown, rfl⟩
  exact ⟨_, isEntry, (contract.requested_iff _ (List.mem_of_getElem? isEntry)).2
    ⟨config, listed, Gav.sameArtifact_trans sameArtifact (Gav.sameArtifact_symm same)⟩⟩

/-- Entries of the like are linked alike. -/
theorem sameEntry_of_walked (contract : Contract repository request (ofWalked request walked))
    (same : SameWalked (Redeclares request) walked otherWalked) {placement other : Placement}
    (samePlacement : SamePlacement (Redeclares request) placement other) :
    SameEntry (ofWalked request walked) (link walked.placed placement)
      (link otherWalked.placed other) where
  chain := samePlacement.chain
  parent := samePlacement.parent
  shipped := samePlacement.pack.others
  dependencies := by
    refine List.rel_filterMap (fun dependency replacement sameDependency => ?_)
      samePlacement.pack.dependencies
    rw [indexIn?_congr same sameDependency.artifact]
    cases isIndex : indexIn? otherWalked.placed replacement.gav with
    | none => exact .none
    | some index =>
        refine .some ⟨rfl, sameDependency.origin, sameDependency.listed.imp ?_ ?_⟩
        · rintro rfl
          rfl
        · rintro ⟨config, listed, sameArtifact⟩
          rw [← indexIn?_congr same sameDependency.artifact] at isIndex
          exact requested_of_listed contract isIndex listed sameArtifact

theorem sameLayout_of_walked (contract : Contract repository request (ofWalked request walked))
    (same : SameWalked (Redeclares request) walked otherWalked) :
    SameLayout (ofWalked request walked) (ofWalked request otherWalked) := by
  have sameEntries : List.Forall₂ (SameEntry (ofWalked request walked))
      (ofWalked request walked).entries (ofWalked request otherWalked).entries :=
    List.rel_map (fun _ _ samePlacement => sameEntry_of_walked contract same samePlacement)
      same.placed
  have sameGraph : graphOf (ofWalked request walked).entries =
      graphOf (ofWalked request otherWalked).entries :=
    map_eq_map_of_related sameEntries fun _ _ sameEntry =>
      map_eq_map_of_related sameEntry.dependencies fun _ _ sameLink => sameLink.index
  have sameRequested : (ofWalked request walked).requested =
      (ofWalked request otherWalked).requested := by
    simp only [ofWalked, indexIn?_congr same (Gav.sameArtifact_self _)]
  have sameLength := sameEntries.length_eq
  simp only [ofWalked] at sameGraph sameRequested sameLength
  constructor
  case request => rfl
  case entries => exact sameEntries
  case requested => exact sameRequested
  case postOrder => exact same.postOrder
  case reach => simp only [ofWalked, sameGraph, sameLength]
  case installationReach => simp only [ofWalked, sameGraph, sameRequested]

/-- A layout is built that differs at most in how entries depend on what is requested, or the same
problem stands in the way. -/
theorem build_of_redeclared {another : Repository}
    (redeclared : Redeclared request repository another) :
    EndAlike SameLayout (build repository request) (build another request) := by
  have alike := build_endAlike request
    (fun config _ => rel_find?_of_packs redeclared (fun _ _ same => same.gav_eq) config.gav)
    fun requested others isRequested sameRoots =>
      corresponding_of_redeclared redeclared isRequested sameRoots
  refine alike.imp ?_
  rintro _ _ built ⟨walked, otherWalked, same, rfl, rfl⟩
  exact sameLayout_of_walked (contract_of_build built) same

end

section

variable {first second : Layout} {entry other : LayoutEntry}

theorem SameEntry.gav_eq (same : SameEntry first entry other) : entry.gav = other.gav := by
  unfold Placement.gav
  rw [same.shipped]

theorem SameEntry.isRequested_eq (same : SameEntry first entry other) :
    entry.isRequested = other.isRequested := by
  rw [Placement.isRequested, same.parent, Placement.isRequested]

/-- Searches that meet the same definitions in corresponding feature-packs find the same. -/
theorem findFrom?_congr {Definition : Type} (same : SameLayout first second) (scope : Scope)
    {definition? : FeaturePack → Option Definition}
    (agree : ∀ entry other, SameEntry first entry other →
      definition? entry.pack = definition? other.pack) :
    first.findFrom? scope definition? = second.findFrom? scope definition? := by
  have sameSearch : first.search scope = second.search scope := by
    cases scope with
    | installation => exact same.installationReach
    | pack index => rw [search, search, same.reach]
  unfold findFrom?
  rw [sameSearch]
  congr 1
  funext index
  exact bind_eq_bind_of_rel (rel_getElem? same.entries index) fun entry other sameEntry => by
    rw [agree entry other sameEntry, sameEntry.gav_eq]

/-- An alias leads to the same entry in both layouts. -/
theorem originIndex?_congr (same : SameLayout first second) :
    first.originIndex? = second.originIndex? := by
  funext scope origin
  cases scope with
  | installation =>
      have sameIndexOf : first.indexOf? = second.indexOf? := by
        funext gav
        exact findIdx?_eq_of_related same.entries fun _ _ sameEntry => by rw [sameEntry.gav_eq]
      rw [originIndex?, originIndex?, same.request, sameIndexOf]
  | pack index =>
      refine bind_eq_bind_of_rel (rel_getElem? same.entries index) fun entry other sameEntry => ?_
      have sameLinks := rel_find? sameEntry.dependencies fun link other sameLink =>
        show (link.2.origin == some origin) = (other.2.origin == some origin) by
          rw [sameLink.origin]
      exact map_eq_map_of_rel sameLinks fun _ _ sameLink => sameLink.index

theorem describe_congr (same : SameLayout first second) : first.describe = second.describe := by
  funext scope
  cases scope with
  | installation => rfl
  | pack index =>
      refine congrArg (Option.getD · "") ?_
      exact map_eq_map_of_rel (rel_getElem? same.entries index) fun _ _ sameEntry => by
        rw [sameEntry.gav_eq]

/-- Lookups of what corresponding feature-packs define alike end alike. -/
theorem findDefinition_congr {Definition : Type} (same : SameLayout first second)
    (sameOrigins : first.resolveOrigin = second.resolveOrigin) (scope : Scope)
    (origin : Option String) {definition? : FeaturePack → Option Definition}
    (agree : ∀ entry other, SameEntry first entry other →
      definition? entry.pack = definition? other.pack) (missing : String → ProvisioningError) :
    first.findDefinition scope origin definition? missing =
      second.findDefinition scope origin definition? missing := by
  have sameSearches (start : Scope) := findFrom?_congr same start agree
  simp only [findDefinition, qualify_congr sameOrigins, sameSearches, describe_congr same]

/-- Both layouts find the same under every name. -/
theorem SameLayout.sameNames (same : SameLayout first second) : SameNames first second := by
  have sameOrigins : first.resolveOrigin = second.resolveOrigin := by
    funext scope origin
    rw [resolveOrigin, resolveOrigin, originIndex?_congr same, describe_congr same]
  refine ⟨sameOrigins, ?_, ?_⟩
  · funext scope spec
    refine findDefinition_congr same sameOrigins scope spec.origin (fun _ _ sameEntry => ?_) _
    unfold FeaturePack.spec?
    rw [sameEntry.shipped]
  · funext scope group
    refine findDefinition_congr same sameOrigins scope group.origin (fun _ _ sameEntry => ?_) _
    unfold FeaturePack.group?
    rw [sameEntry.shipped]

end

end Layout

end Provisioning
