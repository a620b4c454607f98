import JobContainers.Binary64
import JobContainers.Binary64.Order
import JobContainers.Codec
import JobContainers.Command
import JobContainers.Compilation
import JobContainers.CompileError
import JobContainers.Conversion
import JobContainers.Decimal
import JobContainers.Dict
import JobContainers.Disk
import JobContainers.DnsLabel
import JobContainers.Drain
import JobContainers.FileName
import JobContainers.FileTree
import JobContainers.Gathering
import JobContainers.JobSpec
import JobContainers.Kube.Container
import JobContainers.Kube.EnvVar
import JobContainers.Kube.Probe
import JobContainers.Kube.SecurityContext
import JobContainers.Linking
import JobContainers.Logging
import JobContainers.Manifest
import JobContainers.Placement
import JobContainers.ProcessContainer
import JobContainers.Progress
import JobContainers.Proofs.BareLimits
import JobContainers.Proofs.CachedSpecs
import JobContainers.Proofs.CodecLaws
import JobContainers.Proofs.Collection
import JobContainers.Proofs.CollectionOutcome
import JobContainers.Proofs.Configurations
import JobContainers.Proofs.ConsumerFaults
import JobContainers.Proofs.Consumption
import JobContainers.Proofs.ContainerMounts
import JobContainers.Proofs.ContainerNames
import JobContainers.Proofs.ConversionFaults
import JobContainers.Proofs.ConversionShape
import JobContainers.Proofs.Declarations
import JobContainers.Proofs.DerivedData
import JobContainers.Proofs.DocumentPlaces
import JobContainers.Proofs.Environments
import JobContainers.Proofs.ErrandConversion
import JobContainers.Proofs.FloatText
import JobContainers.Proofs.HookReading
import JobContainers.Proofs.HookRuns
import JobContainers.Proofs.HookText
import JobContainers.Proofs.IdleJobs
import JobContainers.Proofs.InstanceIdentity
import JobContainers.Proofs.InstanceLayout
import JobContainers.Proofs.Interruption
import JobContainers.Proofs.Isolation
import JobContainers.Proofs.Labels
import JobContainers.Proofs.LinkProperties
import JobContainers.Proofs.LinkResolution
import JobContainers.Proofs.LoadedNodes
import JobContainers.Proofs.NumberText
import JobContainers.Proofs.Passes
import JobContainers.Proofs.PodRuns
import JobContainers.Proofs.ProcessDefaults
import JobContainers.Proofs.PropertyExpansion
import JobContainers.Proofs.PropertyFunction
import JobContainers.Proofs.PropertyPaths
import JobContainers.Proofs.PropertyUpdates
import JobContainers.Proofs.QuantityGrammar
import JobContainers.Proofs.QuantityNumber
import JobContainers.Proofs.RecordLaws
import JobContainers.Proofs.RecordReading
import JobContainers.Proofs.RefusedDocuments
import JobContainers.Proofs.RenderingOutcome
import JobContainers.Proofs.Rendezvous
import JobContainers.Proofs.Rereading
import JobContainers.Proofs.SanitizedLabels
import JobContainers.Proofs.ShellLayout
import JobContainers.Proofs.ShellReading
import JobContainers.Proofs.ShellRuns
import JobContainers.Proofs.ShellSteps
import JobContainers.Proofs.Shutdown
import JobContainers.Proofs.StampFiles
import JobContainers.Proofs.SupervisorLine
import JobContainers.Proofs.TwinRuns
import JobContainers.Property
import JobContainers.Quantity
import JobContainers.Registry
import JobContainers.Rendering
import JobContainers.RuntimeConfig
import JobContainers.Settings
import JobContainers.Shell
import JobContainers.Sidecar
import JobContainers.SpecCache
import JobContainers.Template.Arguments
import JobContainers.Template.Ast
import JobContainers.Template.Call
import JobContainers.Template.Condition
import JobContainers.Template.Context
import JobContainers.Template.Error
import JobContainers.Template.Evaluation
import JobContainers.Template.Filter
import JobContainers.Template.Filter.Collection
import JobContainers.Template.Filter.Number
import JobContainers.Template.Filter.Text
import JobContainers.Template.FreeNames
import JobContainers.Template.Function
import JobContainers.Template.Grammar.Expression
import JobContainers.Template.Grammar.Statement
import JobContainers.Template.Heap
import JobContainers.Template.Operator
import JobContainers.Template.Reading
import JobContainers.Template.Scope
import JobContainers.Template.Token
import JobContainers.Template.Value
import JobContainers.Template.Value.Access
import JobContainers.Template.Value.Order
import JobContainers.Template.Value.Text
import JobContainers.Text.Base64
import JobContainers.Text.Blank
import JobContainers.Text.CharRange
import JobContainers.Text.LetterCase
import JobContainers.Text.LetterCase.Mapping
import JobContainers.Text.LetterCase.Property
import JobContainers.Text.Shapeless
import JobContainers.Tree
import JobContainers.TypedDocument
import JobContainers.Volume
import JobContainers.Width
import JobContainers.Yaml.Document
import JobContainers.Yaml.Event
import JobContainers.Yaml.Input
import JobContainers.Yaml.Lexer
import JobContainers.Yaml.Node
import JobContainers.Yaml.Scalar.Block
import JobContainers.Yaml.Scalar.Plain
import JobContainers.Yaml.Scalar.Quoted
import JobContainers.Yaml.Tag
import JobContainers.Yaml.Token
