import Shipshape.CommandLine
import Shipshape.Create.Basic
import Shipshape.Create.Request
import Shipshape.Decimal.Binary64
import Shipshape.Decimal.Integer
import Shipshape.Decimal.Shortest
import Shipshape.Dict
import Shipshape.Dimension
import Shipshape.Drift.Attribute
import Shipshape.Drift.Comparator
import Shipshape.Drift.Comparison
import Shipshape.Drift.Report
import Shipshape.Drift.Rule.Image
import Shipshape.Drift.Rule.Privilege
import Shipshape.Drift.Rule.Runtime
import Shipshape.Drift.Rule.Storage
import Shipshape.Drift.Secret
import Shipshape.Drift.Trace
import Shipshape.Engine.Call
import Shipshape.Engine.Program
import Shipshape.Engine.Request
import Shipshape.Environment
import Shipshape.Error
import Shipshape.Healthcheck
import Shipshape.Inspection
import Shipshape.Json.Basic
import Shipshape.Json.Decode
import Shipshape.Json.Number
import Shipshape.Json.Parser
import Shipshape.Json.Printer
import Shipshape.Json.Token
import Shipshape.Memory.Document
import Shipshape.Memory.Engine
import Shipshape.Memory.HostTree
import Shipshape.Memory.Scenario
import Shipshape.Memory.World
import Shipshape.Name
import Shipshape.Outcome
import Shipshape.Proofs.Capability
import Shipshape.Proofs.CommandLine
import Shipshape.Proofs.CommandLine.Balance
import Shipshape.Proofs.Create.Podman.Entry
import Shipshape.Proofs.Create.Podman.Translation
import Shipshape.Proofs.Create.Request
import Shipshape.Proofs.Create.Requestable
import Shipshape.Proofs.Create.Resources
import Shipshape.Proofs.Decimal
import Shipshape.Proofs.Dict
import Shipshape.Proofs.Dimension
import Shipshape.Proofs.Drift.Comparison
import Shipshape.Proofs.Drift.Defaults
import Shipshape.Proofs.Drift.Diff
import Shipshape.Proofs.Drift.Environment
import Shipshape.Proofs.Drift.NewContainer
import Shipshape.Proofs.Drift.OpenFields
import Shipshape.Proofs.Drift.Rearrangement
import Shipshape.Proofs.Drift.Redaction
import Shipshape.Proofs.Drift.Rule.Absent
import Shipshape.Proofs.Drift.Rule.Capabilities
import Shipshape.Proofs.Drift.Rule.Command
import Shipshape.Proofs.Drift.Rule.Dimensions
import Shipshape.Proofs.Drift.Rule.Echo
import Shipshape.Proofs.Drift.Rule.Entrypoint
import Shipshape.Proofs.Drift.Rule.HostManaged
import Shipshape.Proofs.Drift.Rule.Image
import Shipshape.Proofs.Drift.Rule.Limits
import Shipshape.Proofs.Drift.Rule.Privilege
import Shipshape.Proofs.Drift.Rule.Runtime
import Shipshape.Proofs.Drift.Rule.Sizes
import Shipshape.Proofs.Drift.Rule.Storage
import Shipshape.Proofs.Drift.Rule.Ulimits
import Shipshape.Proofs.Drift.Rule.Unset
import Shipshape.Proofs.Drift.Rule.Volume
import Shipshape.Proofs.Drift.Secrecy
import Shipshape.Proofs.Drift.Views
import Shipshape.Proofs.Drift.Visibility
import Shipshape.Proofs.Drift.VolumeSets
import Shipshape.Proofs.Engine.Responder
import Shipshape.Proofs.Engine.Run
import Shipshape.Proofs.Environment
import Shipshape.Proofs.Memory.Calm
import Shipshape.Proofs.Memory.Document
import Shipshape.Proofs.Memory.Engine
import Shipshape.Proofs.Memory.Frame
import Shipshape.Proofs.Memory.Run
import Shipshape.Proofs.Memory.Supervisor
import Shipshape.Proofs.Memory.Things
import Shipshape.Proofs.Name
import Shipshape.Proofs.Permutation
import Shipshape.Proofs.Reconcile.Asks
import Shipshape.Proofs.Reconcile.Assessment
import Shipshape.Proofs.Reconcile.Configuration
import Shipshape.Proofs.Reconcile.Convergence
import Shipshape.Proofs.Reconcile.Creation
import Shipshape.Proofs.Reconcile.Deadline
import Shipshape.Proofs.Reconcile.DryRun
import Shipshape.Proofs.Reconcile.Order
import Shipshape.Proofs.Reconcile.Outcome
import Shipshape.Proofs.Reconcile.Repetition
import Shipshape.Proofs.Reconcile.Silent
import Shipshape.Proofs.Reconcile.StartFlags
import Shipshape.Proofs.Reconcile.StartRecord
import Shipshape.Proofs.Reconcile.Targets
import Shipshape.Proofs.Reconcile.Unchanged
import Shipshape.Proofs.Reconcile.Verbosity
import Shipshape.Proofs.Reconcile.Verdict
import Shipshape.Proofs.Refusal
import Shipshape.Proofs.Result
import Shipshape.Proofs.Spec.Parameters
import Shipshape.Proofs.Text
import Shipshape.Proofs.Ulimit
import Shipshape.Proofs.Volume
import Shipshape.Proofs.Volume.Canonical
import Shipshape.Proofs.Volume.Entry
import Shipshape.Proofs.Volume.Mount
import Shipshape.Proofs.Worker.Errors
import Shipshape.Proofs.Worker.LocalImage
import Shipshape.Reconcile.Assessment
import Shipshape.Reconcile.Decision
import Shipshape.Reconcile.Lifecycle
import Shipshape.Reconcile.Run
import Shipshape.Reconcile.Wait
import Shipshape.SortedSet
import Shipshape.Spec.Action
import Shipshape.Spec.Basic
import Shipshape.Spec.Parameters
import Shipshape.Text.Blank
import Shipshape.Text.Pieces
import Shipshape.Text.Quoted
import Shipshape.Ulimit
import Shipshape.Volume.Basic
import Shipshape.Volume.Canonical
import Shipshape.Worker.Container
import Shipshape.Worker.Image
import Shipshape.Worker.Volume
import Shipshape.Yaml.Character
import Shipshape.Yaml.Document
import Shipshape.Yaml.Layout
import Shipshape.Yaml.Scalar
import Shipshape.Yaml.Text
