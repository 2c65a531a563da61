/-
This file proves that the aliases of accepted feature-packs never fail a run.
-/

import Provisioning.Proofs.Expansion.Collected
import Provisioning.Proofs.Layout.Aliases
import Provisioning.Proofs.Resolution.Failures

namespace Provisioning

open PackageSelection ProvisioningError Resolution

/-- An attempt does not fail for an alias that is unknown. -/
def KnowsAliases {Result : Type} (attempt : Provisioned Result) : Prop :=
  FailsWithin (fun problem => ¬problem.IsUnknownOrigin) attempt

/-- A package that is called for depends on a package of another feature-pack. -/
def CalledFromOutside (layout : Layout) (target : Nat) (package : String) : Prop :=
  ∃ index name definition origin dependencies dependency, Reachable layout index name ∧
    Defines layout index name definition ∧ (origin, dependencies) ∈ definition.externals.entries ∧
      dependency ∈ dependencies ∧ dependency.name = package ∧
        layout.resolveOrigin (.pack index) origin = .ok target

/-- What accepted feature-packs promise to every run on a layout. -/
structure AliasesKnown (layout : Layout) : Prop where
  /-- Each alias that a feature-pack goes by leads to the entry of the artifact that its dependency
  under the alias names. -/
  leads : ∀ index entry origin, layout.entries[index]? = some entry → entry.pack.GoesBy origin →
    ∃ dependency target, layout.AliasLeads index entry.pack origin dependency target
  selection : KnowsAliases layout.selectPackages
  /-- What a package needs of its own feature-pack is defined there. -/
  locals : ∀ index name package, Defines layout index name package →
    ∀ dependency ∈ package.locals, ∃ other, Defines layout index dependency.name other
  /-- A package that is missing has been picked or is needed by another feature-pack. -/
  missing : ∀ package gav, layout.selectPackages = .error (.packageNotFound package gav) →
    ∃ index entry, layout.entries[index]? = some entry ∧ entry.gav = gav ∧
      entry.pack.package? package = none ∧
        (IsSeed layout index package ∨ CalledFromOutside layout index package)
  /-- The reference to a parent is looked up from the feature-pack that declares the spec. -/
  parents : ∀ index entry spec, layout.entries[index]? = some entry → spec ∈ entry.pack.specs →
    ∀ id config parent params,
      KnowsAliases (initFromParent layout index id spec config parent params)
  initialized : ∀ scope config parent feature problem,
    identify layout scope config parent = .error (.foreignKeyInit feature problem) →
      ¬problem.IsUnknownOrigin
  /-- So is every other reference. -/
  references : ∀ feature : CollectedFeature, feature.Grounded layout →
    ∀ reference ∈ feature.spec.references, ∀ features,
      KnowsAliases (resolveReference layout features feature reference)
  resolution : ∀ parts collected, Expansion.expandParts layout [] [] [] parts = .ok collected →
    KnowsAliases (resolveFeatures layout collected)

/-- A feature is linked to its parent by one of the references of its spec. -/
theorem FeatureSpec.mem_of_referenceTo? {spec : FeatureSpec} {config : FeatureConfig}
    {parent : ResolvedId} {reference : FeatureReference}
    (isReference : spec.referenceTo? config parent = some reference) :
    reference ∈ spec.references := by
  unfold referenceTo? at isReference
  split at isReference
  · exact List.mem_of_find?_eq_some isReference
  · rcases Option.or_eq_some_iff.1 isReference with isParent | ⟨_, isNamed⟩
    · exact List.mem_of_find?_eq_some isParent
    · exact List.mem_of_find?_eq_some isNamed

/-- A spec is missing behind an alias that is known. -/
theorem Layout.findSpec_beyondAliases {layout : Layout} {scope : Scope} {spec : SpecRef}
    (qualifies : Succeeds (layout.qualify scope spec.origin)) :
    FailsWithin IsBeyondAliases (layout.findSpec scope spec) :=
  failsWithin_findDefinition (.of_succeeds qualifies) fun _ => ⟨trivial, not_false⟩

section

variable {repository : Repository} {request : Request} {layout : Layout} {index : Nat}
  {spec : FeatureSpec} {reference : FeatureReference}
  (built : Layout.build repository request = .ok layout)
include built

/-- The target of a reference is looked up behind a known alias. -/
theorem findSpec_of_reference {entry : LayoutEntry} (isEntry : layout.entries[index]? = some entry)
    (declared : spec ∈ entry.pack.specs) (listed : reference ∈ spec.references) :
    FailsWithin IsBeyondAliases
      (layout.findSpec (.pack index) ⟨reference.origin, reference.target⟩) := by
  refine Layout.findSpec_beyondAliases ?_
  cases isOrigin : reference.origin with
  | none => exact ⟨_, rfl⟩
  | some origin =>
      have goesBy : entry.pack.GoesBy origin := .reference declared listed isOrigin
      obtain ⟨_, target, leads⟩ := Layout.aliasLeads_of_goesBy built isEntry goesBy
      exact ⟨.pack target, bind_eq_ok_iff.2 ⟨target, leads.resolves, rfl⟩⟩

/-- Taking over the id of a parent fails over no alias. -/
theorem initFromParent_beyondAliases {entry : LayoutEntry}
    (isEntry : layout.entries[index]? = some entry) (declared : spec ∈ entry.pack.specs)
    (id : SpecId) (config : FeatureConfig) (parent : ResolvedId)
    (params : OrderedMap String String) :
    FailsWithin IsBeyondAliases (initFromParent layout index id spec config parent params) :=
  failsWithin_initFromParent (fun _ isBeyond => isBeyond)
    (fun _ isReference =>
      findSpec_of_reference built isEntry declared (FeatureSpec.mem_of_referenceTo? isReference))
    _ _

/-- A feature takes over the id of its parent along an alias of the feature-pack that declares its
spec. -/
theorem identify_beyondAliases {scope : Scope} {config : FeatureConfig}
    {parent : Option ResolvedId} {feature : String} {problem : ProvisioningError}
    (failed : identify layout scope config parent = .error (.foreignKeyInit feature problem)) :
    problem.IsBeyondAliases := by
  have noFinding {Result : Type} {attempt : Provisioned Result} (fails : FailsWithin IsFinding attempt)
      (isProblem : attempt = .error (.foreignKeyInit feature problem)) : False :=
    fails _ isProblem
  rcases bind_eq_error_iff.1 failed with failed | ⟨found, isFound, failed⟩
  · exact (noFinding (Layout.failsWithin_findSpec layout _ _) failed).elim
  · obtain ⟨entry, isEntry, _, isSpec⟩ := Layout.findSpec_ok isFound
    have declared := List.mem_of_find?_eq_some isSpec
    have settles (params : OrderedMap String String) :=
      (failsWithin_settled found params).mono fun _ => And.left
    dsimp only at failed
    split at failed
    · cases failed
    · cases parent with
      | none => exact (noFinding (settles config.params) failed).elim
      | some parent =>
          rcases bind_eq_error_iff.1 failed with failed | ⟨params, _, failed⟩
          · obtain ⟨cause, isCause, same⟩ := wrapWith_eq_error_iff.1 failed
            cases same
            exact initFromParent_beyondAliases built isEntry declared _ _ _ _ _ isCause
          · exact (noFinding (settles params) failed).elim

/-- The references of a collected feature are looked up from the feature-pack that declares its
spec. -/
theorem CollectedFeature.Grounded.findSpec {feature : CollectedFeature}
    (grounded : feature.Grounded layout) (listed : reference ∈ feature.spec.references) :
    FailsWithin IsBeyondAliases
      (layout.findSpec (.pack feature.index) ⟨reference.origin, reference.target⟩) := by
  obtain ⟨entry, isEntry, _, isSpec⟩ := grounded.declared
  exact findSpec_of_reference built isEntry (List.mem_of_find?_eq_some isSpec) listed

/-- Whatever is called for is called for in an entry, and if it is not defined there, then no package
of the same feature-pack calls for it. -/
theorem called_of_undefined {package : String} (reachable : Reachable layout index package)
    (undefined : ∀ definition, ¬Defines layout index package definition) :
    (∃ entry, layout.entries[index]? = some entry) ∧
      (IsSeed layout index package ∨ CalledFromOutside layout index package) := by
  cases reachable with
  | seed isSeed =>
      have ⟨entry, _, isEntry, _⟩ := isSeed
      exact ⟨⟨entry, isEntry⟩, .inl isSeed⟩
  | @dependency _ _ _ _ needed reachable isDefined depends kept =>
      cases depends with
      | inside declared =>
          obtain ⟨other, isOther⟩ := exists_defines_local isDefined declared
          exact absurd isOther (undefined other)
      | @outside origin dependencies _ _ isGroup declared leads =>
          have ⟨entry, isEntry, isPackage⟩ := isDefined
          have goesBy : entry.pack.GoesBy origin :=
            .package (List.mem_of_find?_eq_some isPackage) (List.mem_map_of_mem isGroup)
          obtain ⟨_, found, aliasLeads⟩ := Layout.aliasLeads_of_goesBy built isEntry goesBy
          have resolves := Layout.resolveOrigin_eq_ok_iff.2 leads
          obtain rfl : found = index := Except.ok.inj (aliasLeads.resolves.symm.trans resolves)
          obtain ⟨target, isTarget, _⟩ := (aliasLeads.isArtifact found).2 rfl
          exact ⟨⟨target, isTarget⟩, .inr ⟨_, _, _, origin, dependencies, needed, reachable,
            isDefined, isGroup, declared, rfl, resolves⟩⟩

/-- In a layout that is built, all aliases are known. -/
theorem aliasesKnown_of_build : AliasesKnown layout where
  leads := fun index entry origin isEntry goesBy => Layout.aliasLeads_of_goesBy built isEntry goesBy
  selection := by
    refine (concernsSelection_of_selectPackages built).mono fun problem concerns isUnknown => ?_
    cases concerns.concernsPacks <;> exact isUnknown
  locals := fun index name package isDefined dependency declared =>
    exists_defines_local isDefined declared
  missing := by
    intro package gav failed
    have concerns := concernsSelection_of_selectPackages built _ failed
    generalize isProblem : ProvisioningError.packageNotFound package gav = problem at concerns
    cases concerns with
    | @missing index called reachable undefined =>
        obtain ⟨⟨entry, isEntry⟩, isCalled⟩ := called_of_undefined built reachable undefined
        rw [PackageSelection.packageNotFound, isEntry] at isProblem
        cases isProblem
        refine ⟨index, entry, isEntry, rfl, ?_, isCalled⟩
        exact Option.eq_none_iff_forall_ne_some.2 fun definition isPackage =>
          undefined definition ⟨entry, isEntry, isPackage⟩
    | excluded => cases isProblem
  parents := fun index entry spec isEntry declared id config parent params =>
    (initFromParent_beyondAliases built isEntry declared id config parent params).mono
      fun _ => And.right
  initialized := fun scope config parent feature problem failed =>
    (identify_beyondAliases built failed).2
  references := fun feature grounded reference listed features =>
    (failsWithin_resolveReference (fun _ isBeyond => isBeyond) (grounded.findSpec built listed)
      features).mono fun _ => And.right
  resolution := by
    intro parts collected expanded
    have grounded := Expansion.grounded_of_expandParts expanded
    refine failsWithin_resolveFeatures ?_ fun feature isFeature reference listed =>
      ((grounded feature isFeature).findSpec built listed).mono fun _ => And.right
    rintro problem (isBeyond | ⟨_, _, _, _, _, rfl, _⟩)
    · exact isBeyond.2
    · exact not_false

end

/-! A bakery whose oven needs stones from a mill, and whose loaves need flour from there. -/

namespace Bakery

def gav (artifact : String) : Gav :=
  ⟨"g", artifact, "1"⟩

def flour : FeatureSpec where
  name := "flour"
  params := [⟨"kind", .id, none, .scalar⟩]
  references := []
  providedPatterns := []
  requiredPatterns := []
  provides := []
  requires := []
  accepted := by rfl

def loaf : FeatureSpec where
  name := "loaf"
  params := [⟨"name", .id, none, .scalar⟩, ⟨"flour", .required, none, .scalar⟩]
  references := [⟨"ground", "flour", some "mill", false, false, .ofList [("flour", "kind")]⟩]
  providedPatterns := []
  requiredPatterns := []
  provides := []
  requires := []
  accepted := by rfl

def bakery : FeaturePack where
  gav := gav "bakery"
  dependencies := [⟨some "mill", .ofGav (gav "mill")⟩]
  packages :=
    [⟨"oven", [⟨"door", false⟩], ⟨[("mill", [⟨"stones", false⟩])], by decide⟩, []⟩,
     ⟨"door", [], .empty, []⟩]
  markedDefaults := ["oven"]
  specs := [loaf]
  groups := []
  configs := []
  accepted := by rfl

def mill : FeaturePack where
  gav := gav "mill"
  dependencies := []
  packages := [⟨"stones", [], .empty, []⟩]
  markedDefaults := []
  specs := [flour]
  groups := []
  configs := []
  accepted := by rfl

def repository : Repository :=
  ⟨[bakery, mill], by decide⟩

def request : Request :=
  ⟨[.ofGav (gav "bakery")], .empty, .inheritAll, by simp⟩

def layout : Layout :=
  .ofWalked request
    ⟨[⟨bakery, [.ofGav (gav "bakery")], none⟩,
      ⟨mill, [.ofGav (gav "bakery"), .ofGav (gav "mill")], some 0⟩], [1, 0]⟩

theorem build_eq : Layout.build repository request = .ok layout := by
  cbv

end Bakery

theorem aliasesKnown_bakery :
    Layout.build Bakery.repository Bakery.request = .ok Bakery.layout ∧
      Bakery.bakery.GoesBy "mill" ∧ AliasesKnown Bakery.layout :=
  ⟨Bakery.build_eq, .reference List.mem_cons_self List.mem_cons_self rfl,
    aliasesKnown_of_build Bakery.build_eq⟩

end Provisioning
