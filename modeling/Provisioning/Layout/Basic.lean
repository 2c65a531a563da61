/-
This file defines the layout of a run and looks names up in it.
-/

import Provisioning.Graph.SearchOrder
import Provisioning.Layout.Walk

namespace Provisioning

/-- An entry of the layout knows where each of its dependencies is. -/
structure LayoutEntry extends Placement where
  /-- The dependencies in declaration order, each with its index. -/
  dependencies : List (Nat × PackDependency)

/-- A layout lists feature-packs in the order in which the walk met them. -/
structure Layout where
  request : Request
  entries : List LayoutEntry
  /-- The requested feature-packs, in the order of the request. -/
  requested : List Nat
  /-- Dependencies come before the feature-packs that need them. -/
  postOrder : List Nat
  /-- The feature-packs in reach of each entry, nearest first. -/
  reach : List (List Nat)
  installationReach : List Nat

/-- A definition is found in the feature-pack at an index. -/
structure Found (Definition : Type) where
  index : Nat
  gav : Gav
  definition : Definition

namespace Layout

def indexIn? (placed : List Placement) (gav : Gav) : Option Nat :=
  (locate? placed gav).map Prod.snd

def link (placed : List Placement) (placement : Placement) : LayoutEntry :=
  { placement with
    dependencies := placement.pack.dependencies.filterMap fun dependency =>
      (indexIn? placed dependency.gav).map fun index => (index, dependency) }

/-- The graph of the dependencies. -/
def graphOf (entries : List LayoutEntry) : Graph :=
  entries.map fun entry => entry.dependencies.map Prod.fst

def ofWalked (request : Request) (walked : Walked) : Layout :=
  let entries := walked.placed.map (link walked.placed)
  let graph := graphOf entries
  let requested := request.packs.filterMap fun config => indexIn? walked.placed config.gav
  { request
    entries
    requested
    postOrder := walked.postOrder
    reach := (List.range entries.length).map fun index => graph.searchOrder [index]
    installationReach := graph.searchOrder requested }

def build (repository : Repository) (request : Request) : Provisioned Layout := do
  let requested ← roots repository request.packs
  let walked ← walkRoots ⟨repository, requested⟩ ⟨[], []⟩ requested
  return ofWalked request walked

def indexOf? (layout : Layout) (gav : Gav) : Option Nat :=
  layout.entries.findIdx? fun entry => entry.gav.sameArtifact gav

def describe (layout : Layout) : Scope → String
  | .installation => "the installation"
  | .pack index => ((layout.entries[index]?).map fun entry => entry.gav.text).getD ""

/-- The feature-pack that an alias stands for in a scope. -/
def originIndex? (layout : Layout) (scope : Scope) (origin : String) : Option Nat :=
  match scope with
  | .installation => (layout.request.origin? origin).bind layout.indexOf?
  | .pack index =>
      (layout.entries[index]?).bind fun entry =>
        (entry.dependencies.find? fun dependency => dependency.2.origin == some origin).map Prod.fst

def resolveOrigin (layout : Layout) (scope : Scope) (origin : String) : Provisioned Nat :=
  match layout.originIndex? scope origin with
  | some index => .ok index
  | none => .error (.unknownOrigin origin (layout.describe scope))

/-- An alias leads to the scope of its feature-pack. -/
def qualify (layout : Layout) (scope : Scope) : Option String → Provisioned Scope
  | none => .ok scope
  | some origin => do
      return .pack (← layout.resolveOrigin scope origin)

/-- The feature-packs in reach of a scope, nearest first. -/
def search (layout : Layout) : Scope → List Nat
  | .installation => layout.installationReach
  | .pack index => (layout.reach[index]?).getD []

/-- The first definition that a feature-pack in reach has. -/
def findFrom? {Definition : Type} (layout : Layout) (scope : Scope)
    (definition? : FeaturePack → Option Definition) : Option (Found Definition) :=
  (layout.search scope).findSome? fun index =>
    (layout.entries[index]?).bind fun entry =>
      (definition? entry.pack).map fun definition => ⟨index, entry.gav, definition⟩

/-- Whatever is found is defined in the entry at its index. -/
theorem findFrom?_eq_some {Definition : Type} {layout : Layout} {scope : Scope}
    {definition? : FeaturePack → Option Definition} {found : Found Definition}
    (isFound : layout.findFrom? scope definition? = some found) :
    ∃ entry, layout.entries[found.index]? = some entry ∧ entry.gav = found.gav ∧
      definition? entry.pack = some found.definition := by
  obtain ⟨index, _, inEntry⟩ := List.exists_of_findSome?_eq_some isFound
  obtain ⟨entry, inLayout, inPack⟩ := Option.bind_eq_some_iff.1 inEntry
  obtain ⟨definition, isDefined, rfl⟩ := Option.map_eq_some_iff.1 inPack
  exact ⟨entry, inLayout, rfl, isDefined⟩

/-- A definition is looked up behind an alias if there is one. An error says where it is missing. -/
def findDefinition {Definition : Type} (layout : Layout) (scope : Scope) (origin : Option String)
    (definition? : FeaturePack → Option Definition) (missing : String → ProvisioningError) :
    Provisioned (Found Definition) := do
  let start ← layout.qualify scope origin
  match layout.findFrom? start definition? with
  | some found => .ok found
  | none => .error (missing (layout.describe start))

def findSpec (layout : Layout) (scope : Scope) (spec : SpecRef) :
    Provisioned (Found FeatureSpec) :=
  layout.findDefinition scope spec.origin (fun pack => pack.spec? spec.name)
    (.specNotFound spec.text)

def findGroup (layout : Layout) (scope : Scope) (group : SpecRef) :
    Provisioned (Found FeatureGroup) :=
  layout.findDefinition scope group.origin (fun pack => pack.group? group.name)
    (.groupNotFound group.text)

section

variable {Definition : Type} {layout : Layout} {scope start : Scope} {origin : Option String}
  {definition? : FeaturePack → Option Definition} {missing : String → ProvisioningError}

/-- Behind a known alias a lookup is the search from the scope to which the alias leads. -/
theorem findDefinition_of_qualify (isStart : layout.qualify scope origin = .ok start) :
    layout.findDefinition scope origin definition? missing =
      match layout.findFrom? start definition? with
      | some found => .ok found
      | none => .error (missing (layout.describe start)) := by
  rw [findDefinition, isStart]
  rfl

/-- Whatever a lookup finds is defined in the entry at its index. -/
theorem findDefinition_ok {found : Found Definition}
    (isFound : layout.findDefinition scope origin definition? missing = .ok found) :
    ∃ entry, layout.entries[found.index]? = some entry ∧ entry.gav = found.gav ∧
      definition? entry.pack = some found.definition := by
  cases qualified : layout.qualify scope origin with
  | error problem =>
      rw [findDefinition, qualified] at isFound
      cases isFound
  | ok start =>
      rw [findDefinition_of_qualify qualified] at isFound
      split at isFound
      · next isKnown =>
        cases isFound
        exact findFrom?_eq_some isKnown
      · cases isFound

theorem findSpec_ok {spec : SpecRef} {found : Found FeatureSpec}
    (isFound : layout.findSpec scope spec = .ok found) :
    ∃ entry, layout.entries[found.index]? = some entry ∧ entry.gav = found.gav ∧
      entry.pack.spec? spec.name = some found.definition :=
  findDefinition_ok isFound

theorem findGroup_ok {group : SpecRef} {found : Found FeatureGroup}
    (isFound : layout.findGroup scope group = .ok found) :
    ∃ entry, layout.entries[found.index]? = some entry ∧ entry.gav = found.gav ∧
      entry.pack.group? group.name = some found.definition :=
  findDefinition_ok isFound

end

end Layout

end Provisioning
