import Provisioning.Text.Blank
import Provisioning.Text.Split
import Provisioning.Text.Alphanumeric
import Provisioning.OrderedMap
import Provisioning.Checks
import Provisioning.DescriptionError
import Provisioning.Gav
import Provisioning.Feature.Id
import Provisioning.Feature.ResolvedId
import Provisioning.Feature.ListValue
import Provisioning.Capability.Pattern
import Provisioning.Feature.Reference
import Provisioning.Feature.Spec
import Provisioning.Feature.Filter
import Provisioning.Feature.Item
import Provisioning.Package
import Provisioning.Config.Id
import Provisioning.Config.Spec
import Provisioning.Config.Customization
import Provisioning.Pack.Config
import Provisioning.Pack.FeaturePack
import Provisioning.Request
import Provisioning.State
import Provisioning.ProvisioningError
import Provisioning.Repository
import Provisioning.Remaining
import Provisioning.Graph.Basic
import Provisioning.Graph.SearchOrder
import Provisioning.Graph.DependencyOrder
import Provisioning.Layout.Walk
import Provisioning.Layout.Basic
import Provisioning.Selection.Packages
import Provisioning.Selection.Configs
import Provisioning.Expansion.Collected
import Provisioning.Expansion.Admission
import Provisioning.Expansion.Occurrence
import Provisioning.Expansion.Frames
import Provisioning.Capability.Expansion
import Provisioning.Capability.Index
import Provisioning.Resolution
import Provisioning.Provision
import Provisioning.StateWalk
import Provisioning.Json.Number
import Provisioning.Json.Reader
import Provisioning.Json.Writer
import Provisioning.Json.Value
import Provisioning.Json.Decoder
import Provisioning.Json.State
import Provisioning.Report
import Provisioning.CommandLine.Arguments
import Provisioning.CommandLine.Run
import Provisioning.Logging.Directive
import Provisioning.Logging.Level
import Provisioning.Logging.Pattern
import Provisioning.Logging.Settings
import Provisioning.Logging.Setup
import Provisioning.Manifest.Config
import Provisioning.Manifest.Descriptor
import Provisioning.Manifest.FeaturePack
import Provisioning.Manifest.Fields
import Provisioning.Manifest.Filter
import Provisioning.Manifest.Item
import Provisioning.Manifest.Package
import Provisioning.Manifest.Spec
import Provisioning.Settings.Basic
import Provisioning.Settings.Coercion
import Provisioning.Settings.Environment
import Provisioning.Settings.File
import Provisioning.Settings.Format
import Provisioning.Settings.Layers
import Provisioning.Settings.Path
import Provisioning.Settings.Value
import Provisioning.Storage.Contents
import Provisioning.Storage.Disk
import Provisioning.Storage.Error
import Provisioning.Storage.Manifests
import Provisioning.Storage.Memory
import Provisioning.Storage.Path
import Provisioning.Storage.Provision
import Provisioning.Storage.StateFile
import Provisioning.Text.Digits
import Provisioning.Number.Fraction
import Provisioning.Number.Double
import Provisioning.Number.Decimal
import Provisioning.Number.Shortest
import Provisioning.Toml.Datetime
import Provisioning.Toml.Quoted
import Provisioning.Toml.Reader
import Provisioning.Toml.Scalar
import Provisioning.Toml.Table
import Provisioning.Toml.Value
import Provisioning.Ini.Reader
import Provisioning.Json5.Reader
import Provisioning.Ron.Reader
import Provisioning.Yaml.Cursor
import Provisioning.Yaml.Reader
import Provisioning.Yaml.Scalar
import Provisioning.Yaml.Value
import Provisioning.Version
import Provisioning.Main
import Provisioning.Proofs.Graph.DependencyOrder
import Provisioning.Proofs.Success
import Provisioning.Proofs.Resolution.References
import Provisioning.Proofs.Resolution.Capabilities
import Provisioning.Proofs.Resolution.Resolvable
import Provisioning.Proofs.Expansion.Collected
import Provisioning.Proofs.Expansion.Lexical
import Provisioning.Proofs.Layout.Contract
import Provisioning.Proofs.Resolution.Order
import Provisioning.Proofs.Resolution.Provisioned
import Provisioning.Proofs.Selection.Packages
import Provisioning.Proofs.Selection.Assembly
import Provisioning.Proofs.Selection.Definitions
import Provisioning.Proofs.Repository.Latest
import Provisioning.Proofs.Expansion.Values
import Provisioning.Proofs.Expansion.Contributions
import Provisioning.Proofs.Expansion.Occurrences
import Provisioning.Proofs.Expansion.Merging
import Provisioning.Proofs.Expansion.Records
import Provisioning.Proofs.Resolution.Parameters
import Provisioning.Proofs.Resolution.Config
import Provisioning.Proofs.Resolution.Provenance
import Provisioning.Proofs.Resolution.ParentKeys
import Provisioning.Proofs.Resolution.Reordering
import Provisioning.Proofs.Related
import Provisioning.Proofs.Failure
import Provisioning.Proofs.Layout.Reached
import Provisioning.Proofs.Layout.Consistency
import Provisioning.Proofs.Layout.Rearrangement
import Provisioning.Proofs.Layout.Correspondence
import Provisioning.Proofs.Layout.Redeclaration
import Provisioning.Proofs.Selection.Redeclaration
import Provisioning.Proofs.Expansion.Names
import Provisioning.Proofs.Repository.Unrelated
import Provisioning.Proofs.Selection.Failures
import Provisioning.Proofs.Expansion.Failures
import Provisioning.Proofs.Resolution.Failures
import Provisioning.Proofs.Expansion.Steps
import Provisioning.Proofs.Expansion.Cycles
import Provisioning.Proofs.Layout.Aliases
import Provisioning.Proofs.Resolution.Aliases
import Provisioning.Proofs.Resolution.ErrorChain
import Provisioning.Proofs.Gav
import Provisioning.Proofs.Json.Text
import Provisioning.Proofs.Json.State
import Provisioning.Proofs.Feature.Id
import Provisioning.Proofs.Feature.ResolvedId
import Provisioning.Proofs.Json.Acceptance
import Provisioning.Proofs.Feature.QualifiedName
import Provisioning.Proofs.Feature.ListValue
import Provisioning.Proofs.Capability.Pattern
import Provisioning.Proofs.Capability.Choices
import Provisioning.Proofs.Capability.Expansion
import Provisioning.Proofs.Graph.SearchOrder
import Provisioning.Proofs.Layout.SearchOrder
import Provisioning.Proofs.Layout.Lookup
import Provisioning.Proofs.StateWalk
import Provisioning.Proofs.Repository.History
import Provisioning.Proofs.Feature.Spec
import Provisioning.Proofs.Config.Customization
import Provisioning.Proofs.Feature.ParameterOrder
import Provisioning.Proofs.Feature.Identity
import Provisioning.Proofs.Expansion.Activation
import Provisioning.Proofs.Expansion.Filters
import Provisioning.Proofs.Storage.Places
import Provisioning.Proofs.Storage.Siblings
import Provisioning.Proofs.Storage.FaultyDisk
import Provisioning.Proofs.Storage.Replacement
import Provisioning.Proofs.Storage.StateFile
