/-
This file proves which definition a name leads to.
-/

import Mathlib.Data.List.Permutation
import Provisioning.Proofs.Layout.SearchOrder

namespace Provisioning.Layout

/-- A definition is the first one that the entries have in a given order of them. -/
structure IsFirstIn {Definition : Type} (layout : Layout) (order : List Nat)
    (definition? : FeaturePack → Option Definition) (found : Found Definition) : Prop where
  defined : ∃ entry, layout.entries[found.index]? = some entry ∧ entry.gav = found.gav ∧
    definition? entry.pack = some found.definition
  first : ∃ before after, order = before ++ found.index :: after ∧
    ∀ earlier ∈ before, ∀ entry, layout.entries[earlier]? = some entry →
      definition? entry.pack = none

/-- A name that is looked up from an entry leads to the definition that the entry has or else to the
first one in the recursive search from it. -/
structure LooksUp {Definition : Type} (layout : Layout) (index : Nat) (entry : LayoutEntry)
    (definition? : FeaturePack → Option Definition) (attempt : Provisioned (Found Definition)) :
    Prop where
  own : ∀ definition, definition? entry.pack = some definition →
    attempt = .ok ⟨index, entry.gav, definition⟩
  first : ∀ order, (graphOf layout.entries).Preorder [] [index] order →
    ∀ found, attempt = .ok found ↔ IsFirstIn layout order definition? found

/-- The searches of a layout are recursive depth-first searches. -/
structure SearchesInPreorder (repository : Repository) (request : Request) (layout : Layout) :
    Prop where
  /-- The entries stand in the order in which the walk has placed them. -/
  created : ∃ requested walked, roots repository request.packs = .ok requested ∧
    walkRoots ⟨repository, requested⟩ ⟨[], []⟩ requested = .ok walked ∧
      layout.entries.map LayoutEntry.toPlacement = walked.placed
  /-- An entry points at its dependencies in the order of their declarations. -/
  declared : ∀ entry ∈ layout.entries,
    entry.dependencies.map Prod.snd = entry.pack.dependencies
  search_iff : ∀ nodes, (∀ node ∈ nodes, node < layout.entries.length) → ∀ order,
    (graphOf layout.entries).searchOrder nodes = order ↔
      (graphOf layout.entries).Preorder [] nodes order
  once : ∀ nodes, (∀ node ∈ nodes, node < layout.entries.length) →
    ((graphOf layout.entries).searchOrder nodes).Nodup
  reached_iff : ∀ nodes, (∀ node ∈ nodes, node < layout.entries.length) → ∀ index,
    index ∈ (graphOf layout.entries).searchOrder nodes ↔
      ∃ node ∈ nodes, (graphOf layout.entries).Reaches node index
  fromInstallation :
    layout.search .installation = (graphOf layout.entries).searchOrder layout.requested
  inOrder : layout.search .installation = List.range layout.entries.length
  fromPack : ∀ index < layout.entries.length,
    layout.search (.pack index) = (graphOf layout.entries).searchOrder [index]
  spec : ∀ scope (spec : SpecRef) index entry, layout.qualify scope spec.origin = .ok (.pack index) →
    layout.entries[index]? = some entry →
      LooksUp layout index entry (fun pack => pack.spec? spec.name) (layout.findSpec scope spec)
  group : ∀ scope (group : SpecRef) index entry,
    layout.qualify scope group.origin = .ok (.pack index) →
      layout.entries[index]? = some entry →
        LooksUp layout index entry (fun pack => pack.group? group.name)
          (layout.findGroup scope group)

section

variable {layout : Layout} {Definition : Type} {definition? : FeaturePack → Option Definition}
  {found : Found Definition} {scope start : Scope} {index : Nat} {entry : LayoutEntry}
  {order : List Nat} {repository : Repository} {request : Request}

/-- A search finds the first feature-pack with the definition, in the order of the scope. -/
theorem findFrom?_eq_some_iff :
    layout.findFrom? scope definition? = some found ↔
      IsFirstIn layout (layout.search scope) definition? found := by
  unfold findFrom?
  rw [List.findSome?_eq_some_iff]
  constructor
  · rintro ⟨before, index, after, isSplit, isFound, undefined⟩
    obtain ⟨entry, isEntry, isDefined⟩ := Option.bind_eq_some_iff.1 isFound
    obtain ⟨definition, inPack, rfl⟩ := Option.map_eq_some_iff.1 isDefined
    refine ⟨⟨entry, isEntry, rfl, inPack⟩, before, after, isSplit, ?_⟩
    intro earlier isEarlier other isOther
    simpa [isOther] using undefined earlier isEarlier
  · rintro ⟨⟨entry, isEntry, sameGav, isDefined⟩, before, after, isSplit, undefined⟩
    refine ⟨before, found.index, after, isSplit, by simp [isEntry, sameGav, isDefined], ?_⟩
    intro earlier isEarlier
    cases isOther : layout.entries[earlier]? with
    | none => rfl
    | some other => simp [undefined earlier isEarlier other isOther]

/-- A lookup succeeds with the first definition that is found from where its alias leads. -/
theorem findDefinition_eq_ok_iff {origin : Option String} {missing : String → ProvisioningError}
    (isStart : layout.qualify scope origin = .ok start) :
    layout.findDefinition scope origin definition? missing = .ok found ↔
      IsFirstIn layout (layout.search start) definition? found := by
  rw [← findFrom?_eq_some_iff, findDefinition_of_qualify isStart]
  split
  · next known isKnown => simp [isKnown]
  · next unknown => simp [unknown]

variable (built : build repository request = .ok layout)
include built

/-- The installation is searched from the requested feature-packs. -/
theorem search_installation :
    layout.search .installation = (graphOf layout.entries).searchOrder layout.requested := by
  obtain ⟨requested, walked, rfl, _⟩ := builtBy_of_build built
  rfl

/-- A feature-pack is searched from itself. -/
theorem search_pack (inside : index < layout.entries.length) :
    layout.search (.pack index) = (graphOf layout.entries).searchOrder [index] := by
  obtain ⟨requested, walked, rfl, _⟩ := builtBy_of_build built
  rw [entries_ofWalked, List.length_map] at inside
  simp [search, ofWalked, List.getElem?_range inside]

/-- The installation is searched in the order of the layout. -/
theorem search_eq_range : layout.search .installation = List.range layout.entries.length := by
  have preorder := preorder_of_build built
  rw [search_installation built, searchOrder_eq_iff_of_build built]
  · exact preorder
  · intro root isRoot
    exact List.mem_range.1 (preorder.finds.1 root isRoot)

/-- The search from a feature-pack is the preorder of its dependencies. -/
theorem preorder_search_pack (inside : index < layout.entries.length) :
    (graphOf layout.entries).Preorder [] [index] (layout.search (.pack index)) := by
  rw [search_pack built inside, ← searchOrder_eq_iff_of_build built (by simpa using inside)]

/-- The first definition in the search order of an entry is what a name leads to from there. -/
theorem looksUp_of_eq_ok_iff (isEntry : layout.entries[index]? = some entry)
    {attempt : Provisioned (Found Definition)}
    (eq_ok_iff : ∀ found, attempt = .ok found ↔
      IsFirstIn layout (layout.search (.pack index)) definition? found) :
    LooksUp layout index entry definition? attempt := by
  have preorder := preorder_search_pack built (List.getElem?_eq_some_iff.1 isEntry).1
  constructor
  case own =>
    intro definition isDefined
    obtain ⟨others, isSearch⟩ := preorder.eq_cons
    exact (eq_ok_iff _).2 ⟨⟨entry, isEntry, rfl, isDefined⟩, [], others, isSearch, by simp⟩
  case first =>
    intro order also
    rw [also.unique preorder]
    exact eq_ok_iff

/-- Names are looked up in the order of the recursive search in every layout that is built. -/
theorem searchesInPreorder_of_build : SearchesInPreorder repository request layout where
  created := by
    simp only [build, bind_eq_ok_iff, pure_eq_ok_iff] at built
    obtain ⟨requested, isRequested, walked, isWalked, rfl⟩ := built
    refine ⟨requested, walked, isRequested, isWalked, ?_⟩
    rw [entries_ofWalked, List.map_map]
    exact List.map_id _
  declared := (contract_of_build built).dependenciesListed
  search_iff := fun _ inside _ => searchOrder_eq_iff_of_build built inside
  once := fun _ inside => ((searchOrder_eq_iff_of_build built inside).1 rfl).nodup List.nodup_nil
  reached_iff := fun _ inside _ => ((searchOrder_eq_iff_of_build built inside).1 rfl).mem_iff
  fromInstallation := search_installation built
  inOrder := search_eq_range built
  fromPack := fun _ inside => search_pack built inside
  spec := fun _ _ _ _ isStart isEntry =>
    looksUp_of_eq_ok_iff built isEntry fun _ => findDefinition_eq_ok_iff isStart
  group := fun _ _ _ _ isStart isEntry =>
    looksUp_of_eq_ok_iff built isEntry fun _ => findDefinition_eq_ok_iff isStart

end

/-! A quay is requested together with a crane that it depends on after a ship. Ship and crane share a
rope, and both rope and crane have hooks. -/

namespace Harbour

def gav (artifact : String) : Gav :=
  ⟨"g", artifact, "1"⟩

def config (artifact : String) : PackConfig :=
  PackConfig.ofGav (gav artifact)

def hook (material : String) : FeatureSpec where
  name := "hook"
  params := [⟨"load", .id, some material, .scalar⟩]
  references := []
  providedPatterns := []
  requiredPatterns := []
  provides := []
  requires := []
  accepted := by cbv

def declaration (artifact : String) (dependencies : List String) (specs : List FeatureSpec) :
    FeaturePack.Declaration where
  gav := gav artifact
  dependencies := dependencies.map fun target => ⟨none, config target⟩
  packages := []
  markedDefaults := []
  specs := specs
  groups := []
  configs := []

def quay : FeaturePack :=
  ⟨declaration "quay" ["ship", "crane"] [], by rfl⟩

def ship : FeaturePack :=
  ⟨declaration "ship" ["rope"] [], by rfl⟩

def crane : FeaturePack :=
  ⟨declaration "crane" ["rope"] [hook "steel"], by rfl⟩

def rope : FeaturePack :=
  ⟨declaration "rope" [] [hook "hemp"], by rfl⟩

def repository : Repository :=
  ⟨[crane, quay, rope, ship], by decide⟩

def request : Request :=
  ⟨[config "quay", config "crane"], .empty, .inheritAll, by decide⟩

/-- The crane is placed as requested, but only where the quay leads to it. -/
def layout : Layout :=
  .ofWalked request
    ⟨[⟨quay, [config "quay"], none⟩,
      ⟨ship, [config "quay", config "ship"], some 0⟩,
      ⟨rope, [config "quay", config "ship", config "rope"], some 1⟩,
      ⟨crane, [config "crane"], none⟩],
     [2, 1, 3, 0]⟩

theorem build_eq : build repository request = .ok layout := by
  cbv

end Harbour

/-- The rope is further away from the quay than the crane, but its hook is found first. The crane
finds its own. -/
theorem searchesInPreorder_harbour :
    build Harbour.repository Harbour.request = .ok Harbour.layout ∧
      SearchesInPreorder Harbour.repository Harbour.request Harbour.layout ∧
      Harbour.layout.requested = [0, 3] ∧
      Harbour.layout.search .installation = [0, 1, 2, 3] ∧
      Harbour.layout.findSpec (.pack 0) ⟨none, "hook"⟩ =
        .ok ⟨2, Harbour.gav "rope", Harbour.hook "hemp"⟩ ∧
      Harbour.layout.findSpec (.pack 3) ⟨none, "hook"⟩ =
        .ok ⟨3, Harbour.gav "crane", Harbour.hook "steel"⟩ :=
  ⟨Harbour.build_eq, searchesInPreorder_of_build Harbour.build_eq, by cbv, by cbv, by cbv, by cbv⟩

end Provisioning.Layout
