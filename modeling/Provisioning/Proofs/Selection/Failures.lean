/-
This file proves for which reasons feature-packs cannot be laid out and packages cannot be selected.
-/

import Provisioning.Proofs.Failure
import Provisioning.Proofs.Selection.Demands

namespace Provisioning

/-- The feature-packs of a request and their packages cannot be brought together. -/
inductive ConcernsPacks : ProvisioningError → Prop where
  | packNotFound (gav : Gav) : ConcernsPacks (.packNotFound gav)
  | versionConflict (artifact first second : String) :
      ConcernsPacks (.versionConflict artifact first second)
  | cyclicPackDependency (path : List Gav) : ConcernsPacks (.cyclicPackDependency path)
  | packageNotFound (package : String) (gav : Gav) : ConcernsPacks (.packageNotFound package gav)
  | requiredPackageExcluded (package : String) (gav : Gav) (requiredBy : String) :
      ConcernsPacks (.requiredPackageExcluded package gav requiredBy)

namespace Layout

/-- Collecting the requested feature-packs fails only over feature-packs. -/
theorem failsWithin_roots (repository : Repository) (configs : List PackConfig) :
    FailsWithin ConcernsPacks (roots repository configs) := by
  induction configs with
  | nil => exact .ok _
  | cons config rest inductionHypothesis =>
      unfold roots
      split
      · exact .error (.packNotFound _)
      · exact inductionHypothesis.bind fun _ _ => .pure _

/-- The walk through the dependencies fails only over feature-packs. -/
theorem failsWithin_walk (sources : Sources) (walked : Walked) (path : List Visit) :
    FailsWithin ConcernsPacks (walk sources walked path) := by
  fun_induction walk sources walked path with
  | case1 => exact .ok _
  | case2 walked index _ outer inductionHypothesis => exact inductionHypothesis
  | case3 walked index placement dependency rest outer known located problem isProblem =>
      rw [isProblem]
      refine .error ?_
      unfold revisitProblem? at isProblem
      split at isProblem
      · cases isProblem
        exact .cyclicPackDependency _
      · split at isProblem <;> cases isProblem
        exact .versionConflict _ _ _
  | case4 walked index placement dependency rest outer known located noProblem
      inductionHypothesis =>
      rw [noProblem]
      exact inductionHypothesis
  | case5 => exact .error (.packNotFound _)
  | case6 walked index placement dependency rest outer absent next found inductionHypothesis =>
      exact inductionHypothesis

/-- So does the walk from all roots. -/
theorem failsWithin_walkRoots (sources : Sources) (walked : Walked) (roots : List Root) :
    FailsWithin ConcernsPacks (walkRoots sources walked roots) := by
  induction roots generalizing walked with
  | nil => exact .ok _
  | cons root rest inductionHypothesis =>
      unfold walkRoots
      split
      · exact inductionHypothesis walked
      · exact (failsWithin_walk _ _ _).bind fun next _ => inductionHypothesis next

/-- A layout fails for want of a feature-pack, on a conflict of versions or on a cycle. -/
theorem failsWithin_build (repository : Repository) (request : Request) :
    FailsWithin ConcernsPacks (build repository request) := by
  refine (failsWithin_roots repository request.packs).bind fun requested _ => ?_
  exact (failsWithin_walkRoots _ _ _).bind fun _ _ => .pure _

end Layout

namespace PackageSelection

variable {repository : Repository} {request : Request} {layout : Layout} {selected : Selected}
  {demand : Demand} {demands : List Demand}

/-- A selection fails where a package that is called for is not defined, or where a package that
is required is excluded. -/
inductive ConcernsSelection (layout : Layout) : ProvisioningError → Prop where
  | missing {index : Nat} {package : String} (reachable : Reachable layout index package)
      (undefined : ∀ definition, ¬Defines layout index package definition) :
      ConcernsSelection layout (packageNotFound layout index package)
  | excluded (package : String) (gav : Gav) (requiredBy : String) :
      ConcernsSelection layout (.requiredPackageExcluded package gav requiredBy)

/-- A justified demand fails only where a package that is required is excluded: the aliases that it
goes by are known. -/
theorem failsWithin_answer (built : Layout.build repository request = .ok layout)
    (justified : Justified layout demand) :
    FailsWithin (ConcernsSelection layout) (answer layout demand) := by
  cases demand with
  | pick index package overExclusion =>
      rw [answer]
      split
      · exact .ok _
      · exact .ok _
  | dependency index dependency requiredBy =>
      rw [answer]
      split
      · split
        · exact .ok _
        · exact .error (.excluded _ _ _)
      · exact .ok _
  | externals index origin dependencies requiredBy =>
      obtain ⟨_, _, _, isDefined, isGroup⟩ := justified
      obtain ⟨target, leads⟩ := exists_originIndex? built isDefined (List.mem_map_of_mem isGroup)
      simp only [answer, Layout.resolveOrigin, leads]
      exact .pure _

/-- Meeting demands fails only over packages and where they come from. -/
theorem failsWithin_meet (built : Layout.build repository request = .ok layout)
    (selecting : Selecting layout selected demands) :
    FailsWithin (ConcernsSelection layout) (meet layout selected demands) := by
  fun_induction meet layout selected demands with
  | case1 => exact .ok _
  | case2 selected demand rest problem answered =>
      have justified := (List.forall_mem_cons.1 selecting.justified).1
      exact .error (failsWithin_answer built justified problem answered)
  | case3 selected demand rest demands answered inductionHypothesis =>
      exact inductionHypothesis (selecting.answer built answered)
  | case4 selected demand rest index name answered isNew absent =>
      have justified := (List.forall_mem_cons.1 selecting.justified).1
      refine .error (.missing (reachable_of_answer built justified answered) ?_)
      intro definition isDefined
      obtain ⟨gav, found⟩ := exists_define? isDefined
      rw [absent] at found
      cases found
  | case5 selected demand rest index name answered isNew gav package found
      inductionHypothesis =>
      exact inductionHypothesis (selecting.select built answered isNew found)
  | case6 selected demand rest index name answered known inductionHypothesis =>
      exact inductionHypothesis selecting.skip

/-- A selection fails for want of a package or where a package that is required is excluded. -/
theorem concernsSelection_of_selectPackages (built : Layout.build repository request = .ok layout) :
    FailsWithin (ConcernsSelection layout) layout.selectPackages :=
  (failsWithin_meet built (selecting_initial built)).bind fun _ _ => .pure _

/-- These are problems of feature-packs. -/
theorem ConcernsSelection.concernsPacks {problem : ProvisioningError}
    (concerns : ConcernsSelection layout problem) : ConcernsPacks problem := by
  cases concerns with
  | missing reachable undefined =>
      unfold packageNotFound
      split
      · exact .packageNotFound _ _
      · exact .packageNotFound _ _
  | excluded => exact .requiredPackageExcluded _ _ _

/-- The selection of packages fails only over feature-packs. -/
theorem failsWithin_selectPackages (built : Layout.build repository request = .ok layout) :
    FailsWithin ConcernsPacks layout.selectPackages :=
  (concernsSelection_of_selectPackages built).mono fun _ => ConcernsSelection.concernsPacks

end PackageSelection

end Provisioning
