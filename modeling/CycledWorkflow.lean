import CycledWorkflow.Binary64
import CycledWorkflow.Binary64.Shortest
import CycledWorkflow.Calendar.Cadence
import CycledWorkflow.Calendar.Derive
import CycledWorkflow.Calendar.Json
import CycledWorkflow.Catalog.Build
import CycledWorkflow.Catalog.Context
import CycledWorkflow.Catalog.Env
import CycledWorkflow.Catalog.FanOut
import CycledWorkflow.Catalog.Features
import CycledWorkflow.Catalog.Json
import CycledWorkflow.Catalog.Mode.Cycled
import CycledWorkflow.Catalog.Mode.EnsRegrid
import CycledWorkflow.Catalog.Mode.ForecastOnly
import CycledWorkflow.Catalog.Mode.Omf
import CycledWorkflow.Catalog.Mode.Replay
import CycledWorkflow.Catalog.Plan
import CycledWorkflow.Catalog.Products
import CycledWorkflow.Catalog.Staging
import CycledWorkflow.Catalog.Task
import CycledWorkflow.Config.Experiment
import CycledWorkflow.Config.Json
import CycledWorkflow.Config.Scope
import CycledWorkflow.Config.Toml
import CycledWorkflow.Config.Value
import CycledWorkflow.Dependency.Builder
import CycledWorkflow.Dependency.Expr
import CycledWorkflow.Dependency.Json
import CycledWorkflow.Dependency.Template
import CycledWorkflow.Error
import CycledWorkflow.Graph.Assemble
import CycledWorkflow.Graph.Basic
import CycledWorkflow.Graph.Json
import CycledWorkflow.Graph.Order
import CycledWorkflow.Graph.Validate
import CycledWorkflow.Json.Read
import CycledWorkflow.Json.Value
import CycledWorkflow.Json.Write
import CycledWorkflow.Report.DryRun
import CycledWorkflow.Report.Summary
import CycledWorkflow.Resources
import CycledWorkflow.Text.Blank
import CycledWorkflow.Text.Case
import CycledWorkflow.Text.CaseTable
import CycledWorkflow.Text.Numeral
import CycledWorkflow.Time.Moment
import CycledWorkflow.Time.Span
import CycledWorkflow.Toml.Read
import CycledWorkflow.Toml.Scalar
import CycledWorkflow.Toml.Tree
import CycledWorkflow.Proofs.Outcome
import CycledWorkflow.Proofs.Dependency.Leaves
import CycledWorkflow.Proofs.Catalog.Entries
import CycledWorkflow.Proofs.Catalog.Described
import CycledWorkflow.Proofs.Catalog.Targets
import CycledWorkflow.Proofs.Catalog.Mode.Cycled
import CycledWorkflow.Proofs.Catalog.Mode.Replay
import CycledWorkflow.Proofs.Catalog.Mode.ForecastOnly
import CycledWorkflow.Proofs.Catalog.Mode.SingleGroup
import CycledWorkflow.Proofs.Calendar.Layout
import CycledWorkflow.Proofs.Calendar.Nesting
import CycledWorkflow.Proofs.Graph.Assembly
import CycledWorkflow.Proofs.Catalog.Closure
import CycledWorkflow.Proofs.Graph.LoopSearch
import CycledWorkflow.Proofs.Graph.Precedence
import CycledWorkflow.Proofs.Catalog.SameCycle
import CycledWorkflow.Proofs.Catalog.Cadences
import CycledWorkflow.Proofs.Catalog.PlanOrder
import CycledWorkflow.Proofs.Graph.Listing
import CycledWorkflow.Proofs.Dependency.Placeholders
import CycledWorkflow.Proofs.Calendar.Plain
import CycledWorkflow.Proofs.Catalog.Placeholders
import CycledWorkflow.Proofs.Graph.Placeholders
import CycledWorkflow.Proofs.Resources
import CycledWorkflow.Proofs.Graph.LoopFound
import CycledWorkflow.Proofs.Graph.Validation
import CycledWorkflow.Proofs.Calendar.Secondary
import CycledWorkflow.Proofs.Catalog.ArchiveGate
import CycledWorkflow.Proofs.Catalog.FanOutDomains
import CycledWorkflow.Proofs.Catalog.HourGroups
import CycledWorkflow.Proofs.Time.Stamp
import CycledWorkflow.Proofs.Calendar.Derived
import CycledWorkflow.Proofs.Time.Offset
import CycledWorkflow.Proofs.Calendar.Cycles
import CycledWorkflow.Proofs.Dependency.Meaning
import CycledWorkflow.Proofs.Config.Layers
import CycledWorkflow.Proofs.Time.Timestamp
