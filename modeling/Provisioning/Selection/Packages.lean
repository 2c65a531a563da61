/-
This file selects the packages of every feature-pack in a layout.
-/

import Provisioning.Layout.Basic
import Provisioning.Remaining

namespace Provisioning

namespace Layout

/-- The config that the request gives to an entry. -/
def requestedConfig? (layout : Layout) (index : Nat) : Option PackConfig :=
  (layout.entries[index]?).bind fun entry =>
    if entry.isRequested then entry.chain.head? else none

/-- Every declaration of the layout that depends on an entry. -/
def declarationsOf (layout : Layout) (index : Nat) : List PackConfig :=
  layout.entries.flatMap fun entry =>
    entry.dependencies.filterMap fun dependency =>
      if dependency.1 == index then some dependency.2.config else none

/-- The request alone excludes packages of what it asks for, and its inclusions overrule it. -/
def isPackageExcluded (layout : Layout) (index : Nat) (package : String) : Bool :=
  match layout.requestedConfig? index with
  | some config => config.excludes package && !config.includes package
  | none => (layout.declarationsOf index).any fun config => config.excludes package

end Layout

namespace PackageSelection

/-- The selection meets one demand after the other. -/
inductive Demand where
  /-- A config asks for a package, and may do so against an exclusion. -/
  | pick (index : Nat) (package : String) (overExclusion : Bool)
  /-- A selected package depends on a package. -/
  | dependency (index : Nat) (dependency : PackageDependency) (requiredBy : String)
  /-- A selected package depends on packages of another feature-pack. -/
  | externals (index : Nat) (origin : String) (dependencies : List PackageDependency)
      (requiredBy : String)

/-- A package is known by the index of its feature-pack and its name. -/
abbrev Selected := List (Nat × String)

/-- Packages that are defined in the layout. -/
def definedIn (layout : Layout) : Selected :=
  layout.entries.zipIdx.flatMap fun entry =>
    entry.1.pack.packages.map fun package => (entry.2, package.name)

/-- The number of packages that may still be selected. -/
def openCount (layout : Layout) (selected : Selected) : Nat :=
  (definedIn layout).countP fun package => !selected.contains package

def Demand.weight : Demand → Nat
  | pick .. => 1
  | dependency .. => 1
  | externals _ _ dependencies _ => 1 + dependencies.length

def weight (demands : List Demand) : Nat := totalSize Demand.weight demands

/-- The demands that a package makes when it is selected. -/
def demandsOf (index : Nat) (gav : Gav) (package : Package) : List Demand :=
  let requiredBy := s!"{gav.text}#{package.name}"
  package.locals.map (fun dependency => .dependency index dependency requiredBy) ++
    package.externals.entries.map fun group => .externals index group.1 group.2 requiredBy

/-- A package is selected once, and only if its feature-pack defines it. -/
def define? (layout : Layout) (index : Nat) (package : String) : Option (Gav × Package) :=
  (layout.entries[index]?).bind fun entry =>
    (entry.pack.package? package).map fun definition => (entry.gav, definition)

theorem openCount_lt {layout : Layout} {selected : Selected} {index : Nat} {package : String}
    {defined : Gav × Package} (isNew : selected.contains (index, package) = false)
    (found : define? layout index package = some defined) :
    openCount layout (selected ++ [(index, package)]) < openCount layout selected := by
  obtain ⟨entry, inLayout, known⟩ := Option.bind_eq_some_iff.1 found
  obtain ⟨definition, inPack, rfl⟩ := Option.map_eq_some_iff.1 known
  have named : definition.name = package := by
    simpa using List.find?_some inPack
  have listed : (index, package) ∈ definedIn layout := by
    refine List.mem_flatMap.2 ⟨(entry, index), List.mk_mem_zipIdx_iff_getElem?.2 inLayout, ?_⟩
    exact List.mem_map.2 ⟨definition, List.mem_of_find?_eq_some inPack, by rw [named]⟩
  apply countP_lt_of_settled listed
  · simpa using isNew
  · simp
  · intro other stillOpen
    simp only [Bool.not_eq_true', List.contains_eq_mem, List.mem_append, List.mem_singleton,
      decide_eq_false_iff_not, not_or] at stillOpen ⊢
    exact stillOpen.1

/-- What becomes of a demand before any package is selected for it. -/
inductive Answer where
  | select (index : Nat) (package : String)
  | demand (demands : List Demand)

/-- An exclusion stops a pick silently and a required dependency with an error. -/
def answer (layout : Layout) : Demand → Provisioned Answer
  | .pick index package overExclusion =>
      if !overExclusion && layout.isPackageExcluded index package then
        .ok (.demand [])
      else
        .ok (.select index package)
  | .dependency index dependency requiredBy =>
      if layout.isPackageExcluded index dependency.name then
        if dependency.optional then
          .ok (.demand [])
        else
          .error (.requiredPackageExcluded dependency.name (gavAt index) requiredBy)
      else
        .ok (.select index dependency.name)
  | .externals index origin dependencies requiredBy => do
      let target ← layout.resolveOrigin (.pack index) origin
      return .demand (dependencies.map fun dependency => .dependency target dependency requiredBy)
where
  gavAt (index : Nat) : Gav :=
    match layout.entries[index]? with
    | some entry => entry.gav
    | none => ⟨"", "", ""⟩

theorem weight_lt_of_answer {layout : Layout} {demand : Demand} {demands : List Demand}
    (answered : answer layout demand = .ok (.demand demands)) : weight demands < demand.weight := by
  cases demand with
  | pick index package overExclusion =>
      simp only [answer] at answered
      split at answered <;> cases answered
      simp [weight, totalSize, Demand.weight]
  | dependency index dependency requiredBy =>
      simp only [answer] at answered
      split at answered
      · split at answered <;> cases answered
        simp [weight, totalSize, Demand.weight]
      · cases answered
  | externals index origin dependencies requiredBy =>
      simp only [answer] at answered
      cases resolved : layout.resolveOrigin (.pack index) origin with
      | error problem =>
          rw [resolved] at answered
          cases answered
      | ok target =>
          rw [resolved] at answered
          cases answered
          have ones (some : List PackageDependency) :
              weight (some.map fun dependency => .dependency target dependency requiredBy) =
                some.length := by
            induction some with
            | nil => rfl
            | cons first rest inductionHypothesis =>
                simp only [weight, List.map_cons, totalSize, Demand.weight,
                  List.length_cons] at inductionHypothesis ⊢
                omega
          rw [ones, Demand.weight]
          omega

def packageNotFound (layout : Layout) (index : Nat) (package : String) : ProvisioningError :=
  match layout.entries[index]? with
  | some entry => .packageNotFound package entry.gav
  | none => .packageNotFound package ⟨"", "", ""⟩

/-- A selected package makes its own demands before the others are met. -/
def meet (layout : Layout) (selected : Selected) : List Demand → Provisioned Selected
  | [] => .ok selected
  | demand :: rest =>
      match _answered : answer layout demand with
      | .error problem => .error problem
      | .ok (.demand demands) => meet layout selected (demands ++ rest)
      | .ok (.select index package) =>
          if _isNew : selected.contains (index, package) = false then
            match _found : define? layout index package with
            | none => .error (packageNotFound layout index package)
            | some (gav, definition) =>
                meet layout (selected ++ [(index, package)])
                  (demandsOf index gav definition ++ rest)
          else
            meet layout selected rest
termination_by demands => (openCount layout selected, weight demands)
decreasing_by
  · apply Prod.Lex.right
    have less := weight_lt_of_answer _answered
    simp only [weight, totalSize_append, totalSize] at less ⊢
    omega
  · apply Prod.Lex.left
    exact openCount_lt _isNew _found
  · apply Prod.Lex.right
    have positive : 0 < demand.weight := by
      cases demand <;> simp only [Demand.weight] <;> omega
    simp only [weight, totalSize]
    omega

/-- A config picks the default packages that it inherits and the packages that it includes. -/
def picks (index : Nat) (pack : FeaturePack) (config : PackConfig) (byRequest : Bool) :
    List Demand :=
  (if config.inheritPackages then
    pack.defaultPackages.map fun package => .pick index package false
  else
    []) ++ config.includedPackages.map fun package => .pick index package byRequest

/-- The request picks first, and then each declaration in the order of the layout. -/
def initialDemands (layout : Layout) : List Demand :=
  (layout.requested.flatMap fun index =>
    match layout.entries[index]?, layout.requestedConfig? index with
    | some entry, some config => picks index entry.pack config true
    | _, _ => []) ++
  layout.entries.flatMap fun entry =>
    entry.dependencies.flatMap fun dependency =>
      match layout.entries[dependency.1]? with
      | some target =>
          if target.isRequested then []
          else picks dependency.1 target.pack dependency.2.config false
      | none => []

end PackageSelection

/-- The packages of each feature-pack come in the order of their selection. -/
def Layout.selectPackages (layout : Layout) : Provisioned (List (OrderedSet String)) := do
  let selected ← PackageSelection.meet layout [] (PackageSelection.initialDemands layout)
  return (List.range layout.entries.length).map fun index =>
    .ofList ((selected.filter fun package => package.1 == index).map Prod.snd)

end Provisioning
