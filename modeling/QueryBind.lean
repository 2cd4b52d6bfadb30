import QueryBind.Binding.Family
import QueryBind.Cache.Session
import QueryBind.Config.Environment
import QueryBind.Converter.Shared
import QueryBind.Execution.Executor
import QueryBind.Execution.Reported
import QueryBind.Observe.Logger
import QueryBind.Observe.Metrics
import QueryBind.Observe.Trace
import QueryBind.Statement.Template
import QueryBind.Proofs.Placeholder.Grammar
import QueryBind.Proofs.Text.Octets
import QueryBind.Proofs.Placeholder.Cut
import QueryBind.Proofs.Cache.Holdings
import QueryBind.Proofs.Converter.Transparency
import QueryBind.Proofs.Placeholder.Acceptance
import QueryBind.Proofs.Statement.Markers
import QueryBind.Proofs.Placeholder.Keys
import QueryBind.Proofs.Placeholder.Nameless
import QueryBind.Proofs.Statement.Fitting
import QueryBind.Proofs.Statement.Expansion
import QueryBind.Proofs.Statement.Rereading
import QueryBind.Proofs.Params.Selection
import QueryBind.Proofs.Statement.Agreement
import QueryBind.Proofs.Statement.Numbering
import QueryBind.Proofs.Binding.Denotation
import QueryBind.Proofs.Binding.Refusals
import QueryBind.Proofs.Value.Offered
import QueryBind.Proofs.Binding.Stumbles
import QueryBind.Proofs.Binding.Failure
import QueryBind.Proofs.Binding.Isolation
import QueryBind.Proofs.Binding.Rebinding
import QueryBind.Proofs.Sql.Reading
import QueryBind.Proofs.Sql.Narrowing
import QueryBind.Proofs.Transform.Literal
import QueryBind.Proofs.Sql.Composition
import QueryBind.Proofs.Cache.Recency
import QueryBind.Proofs.Binding.Consistency
import QueryBind.Proofs.Execution.Accounting
import QueryBind.Proofs.Execution.Confidentiality
import QueryBind.Proofs.Execution.Attribution
import QueryBind.Proofs.Binding.Wording
import QueryBind.Proofs.Converter.Reconciliation
import QueryBind.Proofs.Observe.Redaction
import QueryBind.Proofs.Value.Serialized
import QueryBind.Proofs.Observe.Exposure
import QueryBind.Proofs.Transform.Content
import QueryBind.Proofs.Transform.Pointwise
import QueryBind.Proofs.Params.Answers
import QueryBind.Proofs.Cache.Inclusion
import QueryBind.Proofs.Cache.Balance
import QueryBind.Proofs.Binding.Mappings
import QueryBind.Proofs.Statement.Characters
import QueryBind.Proofs.Statement.Readback
import QueryBind.Proofs.Sql.Names
import QueryBind.Proofs.Config.Standing
import QueryBind.Proofs.Binding.LastStep
import QueryBind.Proofs.Binding.Handover
import QueryBind.Proofs.Placeholder.Modes
import QueryBind.Proofs.Statement.FixedPoint
import QueryBind.Proofs.Observe.Labels
import QueryBind.Proofs.Observe.Collected
import QueryBind.Proofs.Text.Mended
