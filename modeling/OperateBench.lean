import OperateBench.Foundation.Dict
import OperateBench.Foundation.Registry
import OperateBench.Foundation.Fallible
import OperateBench.Foundation.Transition
import OperateBench.Foundation.Naming
import OperateBench.Foundation.Text
import OperateBench.Foundation.Decimal
import OperateBench.Foundation.Raising
import OperateBench.Core.Timeliness
import OperateBench.Core.Value
import OperateBench.Core.Waits
import OperateBench.Core.Clock
import OperateBench.Core.Calendar
import OperateBench.Core.Events
import OperateBench.Core.Outcomes
import OperateBench.Core.Retrieval
import OperateBench.Core.ReadContract
import OperateBench.Core.Evaluation
import OperateBench.Core.Protocol
import OperateBench.Core.Ledger
import OperateBench.Core.EngineState
import OperateBench.Core.Engine
import OperateBench.Core.Bookkeeping
import OperateBench.Core.Consultation
import OperateBench.Core.Finality
import OperateBench.Core.Status
import OperateBench.Core.Horizon
import OperateBench.Core.Stages
import OperateBench.Core.Conservation
import OperateBench.Core.Journal
import OperateBench.Core.Passes
import OperateBench.Core.Scenes
import OperateBench.Core.Spending
import OperateBench.Core.Termination
import OperateBench.Core.Budgets
import OperateBench.Core.Delivery
import OperateBench.Core.Spelling
import OperateBench.Maintenance.State
import OperateBench.Maintenance.Spec
import OperateBench.Maintenance.Transaction
import OperateBench.Maintenance.Reducers
import OperateBench.Maintenance.Actions
import OperateBench.Maintenance.Operation
import OperateBench.Maintenance.Commit
import OperateBench.Maintenance.Inversion
import OperateBench.Maintenance.Proposals
import OperateBench.Maintenance.Fixture
import OperateBench.Maintenance.Agreement
import OperateBench.Maintenance.Lifecycle
import OperateBench.Maintenance.Identities
import OperateBench.Maintenance.Billing
import OperateBench.Maintenance.Closing
import OperateBench.Maintenance.Window
import OperateBench.Maintenance.Evidence
import OperateBench.Maintenance.Evaluator
import OperateBench.Maintenance.Messages
import OperateBench.Maintenance.Duties
import OperateBench.Maintenance.Overdue
import OperateBench.Maintenance.Checkpoints
import OperateBench.Maintenance.Pages
import OperateBench.Maintenance.Docket
import OperateBench.Maintenance.Dispatch
import OperateBench.Maintenance.Standing
import OperateBench.Maintenance.Customers
import OperateBench.Maintenance.Deliveries
import OperateBench.Maintenance.Established
import OperateBench.Boundary.Pricing
import OperateBench.Boundary.Budget
import OperateBench.Boundary.Cap
import OperateBench.Boundary.Coverage
import OperateBench.Providers.Telemetry
import OperateBench.Providers.Executor
import OperateBench.Providers.Exits
import OperateBench.ReturnRefund.Phases
import OperateBench.ReturnRefund.Fixture
import OperateBench.ReturnRefund.Summary
import OperateBench.ReturnRefund.Deadlines
import OperateBench.ReturnRefund.Recovery
import OperateBench.ReturnRefund.Claims
import OperateBench.Profiles.Notices
import OperateBench.Cubes.Symmetry
import OperateBench.Cubes.Legible
import OperateBench.Cubes.Followed
import OperateBench.ExecutionLedger.Durability
import OperateBench.Maintenance.Scope
import OperateBench.Core.AuditOccurrences
import OperateBench.Core.AuditEvidence
import OperateBench.Core.Releases
import OperateBench.Maintenance.Bindings
import OperateBench.ExecutionLedger.Scored
import OperateBench.ExecutionLedger.Torn
import OperateBench.JsonSafety.Canonical
import OperateBench.Boundary.Resumption
import OperateBench.ExecutionLedger.Amounts
import OperateBench.Agents.LedgerSums
import OperateBench.Agents.Survival
import OperateBench.Providers.Deadlines
import OperateBench.Core.PersistentMap
import OperateBench.Core.BatchSets
import OperateBench.Runner.Fingerprints
import OperateBench.Providers.TurnScripts
import OperateBench.Core.Projection
import OperateBench.Core.Refusals
import OperateBench.Agents.Replay
