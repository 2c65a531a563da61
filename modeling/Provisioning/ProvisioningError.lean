/-
This file names what can go wrong in a provisioning run and words it.
-/

import Provisioning.Feature.ResolvedId

namespace Provisioning

/-- A feature group is qualified by the feature-pack that defines it. -/
structure GroupId where
  gav : Gav
  name : String
deriving DecidableEq, Repr

def GroupId.text (id : GroupId) : String := s!"{id.gav.text}#{id.name}"

/-- A wrapper names the step that failed and holds the cause. -/
inductive ProvisioningError where
  | description (source : DescriptionError)
  | packNotFound (gav : Gav)
  | cyclicPackDependency (path : List Gav)
  /-- Two versions of an artifact are wanted and the request names none. -/
  | versionConflict (artifact first second : String)
  | specNotFound (spec scope : String)
  | groupNotFound (group scope : String)
  | unknownOrigin (origin scope : String)
  | parentReferenceNotFound (spec parent : SpecId) (reference : Option String)
  | unknownParameter (spec : SpecId) (param : String)
  | unsetRequiredParameter (feature param : String)
  | unsatisfiedReference (feature : ResolvedId) (reference : String) (target : ResolvedId)
  | nonNillableReferenceUnset (feature : ResolvedId) (reference param : String)
  | capabilityProviderNotFound (capability : String) (requiredBy : ResolvedId) (pattern : String)
  | cyclicGroup (path : List GroupId)
  | packageNotFound (package : String) (gav : Gav)
  | requiredPackageExcluded (package : String) (gav : Gav) (requiredBy : String)
  | valueConflict (spec : SpecId) (param first second : String)
  | internal (detail : String)
  | configBuild (config : String) (source : ProvisioningError)
  | groupProcessing (group : GroupId) (source : ProvisioningError)
  | featureProcessing (feature : String) (source : ProvisioningError)
  | foreignKeyInit (feature : String) (source : ProvisioningError)
deriving DecidableEq, Repr

namespace ProvisioningError

/-- Errors fall into five classes. -/
inductive Category where
  /-- A description is invalid or inconsistent. -/
  | description
  /-- Something that a description names cannot be found or satisfied. -/
  | reference
  /-- Two sources disagree about a value. -/
  | conflict
  /-- A wrapper that says where a config build failed. -/
  | configBuild
  /-- The feature-packs cannot be laid out. -/
  | layout
deriving DecidableEq, Repr

def arrows (steps : List String) : String := " -> ".intercalate steps

/-- The text of the outermost level. -/
def message : ProvisioningError → String
  | description source => s!"Invalid description: {source.message}"
  | packNotFound gav => s!"Feature-pack {gav.text} was not found in the repository"
  | cyclicPackDependency path => s!"Cyclic feature-pack dependency: {arrows (path.map Gav.text)}"
  | versionConflict artifact first second =>
      s!"Feature-pack {artifact} is required in version {first} and in version {second}"
  | specNotFound spec scope => s!"Failed to locate feature spec {spec} in {scope}"
  | groupNotFound group scope => s!"Failed to locate feature group {group} in {scope}"
  | unknownOrigin origin scope => s!"Origin {origin} is not declared by {scope}"
  | parentReferenceNotFound spec parent reference =>
      let named := match reference with
        | some name => s!" named {name}"
        | none => ""
      s!"Failed to locate a reference of {spec.text} to parent feature spec {parent.text}{named}"
  | unknownParameter spec param => s!"Feature spec {spec.text} does not define parameter {param}"
  | unsetRequiredParameter feature param => s!"Required parameter {param} of {feature} is not set"
  | unsatisfiedReference feature reference target =>
      s!"{feature.text} references unresolved feature {target.text} via {reference}"
  | nonNillableReferenceUnset feature reference param =>
      s!"Reference {reference} of {feature.text} cannot be resolved: parameter {param} is not set"
  | capabilityProviderNotFound capability requiredBy pattern =>
      s!"No provider found for capability {capability} required by {requiredBy.text} as {pattern}"
  | cyclicGroup path => s!"Cyclic feature group dependency: {arrows (path.map GroupId.text)}"
  | packageNotFound package gav => s!"Package {package} was not found in feature-pack {gav.text}"
  | requiredPackageExcluded package gav requiredBy =>
      s!"Package {package} of {gav.text} is excluded but required by {requiredBy}"
  | valueConflict spec param first second =>
      s!"Parameter {param} of {spec.text} has already been initialized to {first}, " ++
        s!"new value {second}"
  | internal detail => s!"Internal resolver error: {detail}"
  | configBuild config _ => s!"Failed to build config {config}"
  | groupProcessing group _ => s!"Failed to process feature group {group.text}"
  | featureProcessing feature _ => s!"Failed to process feature config {feature}"
  | foreignKeyInit feature _ => s!"Failed to initialize foreign key parameters of {feature}"

/-- The class of the outermost level. -/
def category : ProvisioningError → Category
  | description _ | internal _ => .description
  | packNotFound _ | cyclicPackDependency _ | versionConflict .. => .layout
  | valueConflict .. => .conflict
  | configBuild .. | groupProcessing .. | featureProcessing .. | foreignKeyInit .. => .configBuild
  | _ => .reference

/-- The error inside a wrapper. -/
def wrapped? : ProvisioningError → Option ProvisioningError
  | configBuild _ source | groupProcessing _ source | featureProcessing _ source
  | foreignKeyInit _ source => some source
  | _ => none

/-- The error and everything wrapped in it, outermost first. -/
def levels : ProvisioningError → List ProvisioningError
  | configBuild config source => configBuild config source :: source.levels
  | groupProcessing group source => groupProcessing group source :: source.levels
  | featureProcessing feature source => featureProcessing feature source :: source.levels
  | foreignKeyInit feature source => foreignKeyInit feature source :: source.levels
  | leaf => [leaf]

/-- The innermost error. -/
def rootCause : ProvisioningError → ProvisioningError
  | configBuild _ source | groupProcessing _ source | featureProcessing _ source
  | foreignKeyInit _ source => source.rootCause
  | leaf => leaf

/-- The text of every level, ending with that of an invalid description. -/
def messages (error : ProvisioningError) : List String :=
  error.levels.flatMap fun level =>
    match level with
    | description source => [level.message, source.message]
    | _ => [level.message]

end ProvisioningError

/-- A run fails with the first error it meets. -/
abbrev Provisioned := Except ProvisioningError

/-- An invalid description stops a run. -/
def ofDescription {Result : Type} : Except DescriptionError Result → Provisioned Result
  | .ok result => .ok result
  | .error error => .error (.description error)

/-- An error is wrapped on its way out. -/
def wrapWith {Result : Type} (wrapper : ProvisioningError → ProvisioningError) :
    Provisioned Result → Provisioned Result
  | .ok result => .ok result
  | .error error => .error (wrapper error)

end Provisioning
