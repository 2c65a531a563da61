/-
This file decides which features and groups the active filters let pass.
-/

import Provisioning.Selection.Configs

namespace Provisioning

/-- A feature is kept out, or let in with the overrides of the rule that names it. -/
inductive Admission where
  | excluded
  | included (rule : Option IncludedFeature)
deriving DecidableEq, Repr

namespace Layout

/-- The outcome of a search for a spec is compared with the feature-pack of a known spec. -/
def leadsTo (gav : Gav) : Provisioned (Found FeatureSpec) → Provisioned Bool
  | .ok found => .ok (found.gav == gav)
  | .error (.specNotFound ..) => .ok false
  | .error problem => .error problem

/-- A spec reference matches what it leads to; one that leads nowhere matches nothing. -/
def matchesSpec (layout : Layout) (scope : Scope) (spec : SpecRef) (id : SpecId) :
    Provisioned Bool :=
  if spec.name == id.name then
    leadsTo id.gav (layout.findSpec scope spec)
  else
    .ok false

def matchesFeature (layout : Layout) (scope : Scope) (feature : FeatureRef) (id : ResolvedId) :
    Provisioned Bool :=
  if feature.id.spec == id.specId.name && feature.id.params.agrees id.params then
    leadsTo id.gav (layout.findSpec scope ⟨feature.origin, feature.id.spec⟩)
  else
    .ok false

/-- The first element that a test accepts. -/
def firstMatch {Element : Type} (accepts : Element → Provisioned Bool) :
    List Element → Provisioned (Option Element)
  | [] => .ok none
  | element :: rest => do
      if ← accepts element then return some element else firstMatch accepts rest

/-- One filter has an opinion when a rule matches or when it inherits nothing. -/
def opinion (layout : Layout) (level : ScopedFilter) (id : ResolvedId) :
    Provisioned (Option Admission) := do
  let filter := level.filter
  match ← firstMatch (layout.matchesFeature level.scope · id) filter.excludedFeatures with
  | some _ => return some .excluded
  | none =>
      match ← firstMatch (fun included => layout.matchesFeature level.scope included.feature id)
          filter.includedFeatures with
      | some included => return some (.included (some included))
      | none =>
          match ← firstMatch (layout.matchesSpec level.scope · id.specId) filter.excludedSpecs with
          | some _ => return some .excluded
          | none =>
              match ← firstMatch (layout.matchesSpec level.scope · id.specId)
                  filter.includedSpecs with
              | some _ => return some (.included none)
              | none => return if filter.inherit then none else some .excluded

/-- The innermost filter with an opinion decides, and without one the feature is let in. -/
def admission (layout : Layout) (id : ResolvedId) : List ScopedFilter → Provisioned Admission
  | [] => .ok (.included none)
  | level :: outer => do
      match ← layout.opinion level id with
      | some decided => return decided
      | none => layout.admission id outer

/-- A rule excludes a group when it leads to the feature-pack that defines the group. -/
def excludesGroup (layout : Layout) (index : Nat) (name : String) (scope : Scope)
    (excluded : SpecRef) : Provisioned Bool :=
  if excluded.name == name then
    match layout.findGroup scope excluded with
    | .ok found => .ok (found.index == index)
    | .error (.groupNotFound ..) => .ok false
    | .error problem => .error problem
  else
    .ok false

/-- Any active filter may exclude a group; the outermost is asked first. -/
def isGroupExcluded (layout : Layout) (index : Nat) (name : String) (filters : List ScopedFilter) :
    Provisioned Bool := do
  let rules := filters.reverse.flatMap fun level =>
    level.filter.excludedGroups.map fun excluded => (level.scope, excluded)
  let found ← firstMatch (fun rule => layout.excludesGroup index name rule.1 rule.2) rules
  return found.isSome

/-- The aliases in the rules of a filter. -/
def filterOrigins (filter : FeatureFilter) : List String :=
  ((filter.includedSpecs ++ filter.excludedSpecs ++ filter.excludedGroups).map SpecRef.origin ++
    filter.includedFeatures.map (fun included => included.feature.origin) ++
    filter.excludedFeatures.map FeatureRef.origin).filterMap id

/-- Every alias leads somewhere. -/
def resolveOrigins (layout : Layout) (scope : Scope) : List String → Provisioned Unit
  | [] => .ok ()
  | origin :: rest => do
      let _ ← layout.resolveOrigin scope origin
      layout.resolveOrigins scope rest

/-- A filter becomes active once its aliases are known; one that changes nothing is left out. -/
def activate (layout : Layout) (filter : FeatureFilter) (scope : Scope) :
    Provisioned (Option ScopedFilter) :=
  if filter.isPassThrough then
    .ok none
  else do
    layout.resolveOrigins scope (filterOrigins filter)
    return some ⟨filter, scope⟩

end Layout

end Provisioning
