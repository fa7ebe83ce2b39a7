import Acgps.Lib.Checked
import Acgps.Lib.HashChain
import Acgps.Lib.History
import Acgps.Lib.Interleaving
import Acgps.Lib.RelyGuarantee
import Acgps.Lib.Lines
import Acgps.Data.TextBytes
import Acgps.Data.Json
import Acgps.Data.JsonText
import Acgps.Data.JsonGrammar
import Acgps.Data.Text
import Acgps.Data.JsonCode
import Acgps.Data.Loads
import Acgps.Data.PyEq
import Acgps.Contracts.Vocabulary
import Acgps.Contracts.Spec
import Acgps.Contracts.Records
import Acgps.Contracts.Completeness
import Acgps.Contracts.FieldPasses
import Acgps.Contracts.ClosedTables
import Acgps.Workflow.Checks
import Acgps.Workflow.Bindings
import Acgps.Workflow.Records
import Acgps.Workflow.AuditEvent
import Acgps.Workflow.Requests
import Acgps.Workflow.Results
import Acgps.Workflow.TransitionTransactions
import Acgps.Workflow.RecoveryRecords
import Acgps.Workflow.RecoveryTransactions
import Acgps.Store.ControlStore
import Acgps.Store.Sizes
import Acgps.Store.CommitHistory
import Acgps.Store.AuditReaders
import Acgps.Store.Idempotency
import Acgps.Store.WriteOnce
import Acgps.Store.RecoveryIdempotency
import Acgps.Store.DepthGuard
import Acgps.Store.AuditExports
import Acgps.Store.TaskLocks
import Acgps.Store.LockSteps
import Acgps.Store.LockPrograms
import Acgps.Store.LockProtocol
import Acgps.Platform
import Acgps.Policy.Evaluation
import Acgps.Policy.Documents
import Acgps.Policy.Loader
import Acgps.Policy.RiskLevels
import Acgps.Policy.Evaluator
import Acgps.Policy.RecordContracts
import Acgps.Policy.ResultRules
import Acgps.Policy.Decision
import Acgps.Policy.DecisionContracts
import Acgps.Policy.Escalation
import Acgps.Policy.Envelope
import Acgps.Policy.Evaluable
import Acgps.Policy.Repository
import Acgps.Policy.Reference
import Acgps.Engine.Lineage
import Acgps.Engine.ReadBack
import Acgps.Engine.Walkers
import Acgps.Engine.Recoveries
import Acgps.Engine.Freshness
import Acgps.Engine.World
import Acgps.Engine.EvidenceFiles
import Acgps.Engine.Handoff
import Acgps.Engine.Decisions
import Acgps.Engine.GateChecks
import Acgps.Engine.GateEvidence
import Acgps.Engine.Transition
import Acgps.Engine.Intake
import Acgps.Engine.Packets
import Acgps.Engine.Trusted
import Acgps.Engine.Commits
import Acgps.Engine.Runs
import Acgps.Engine.Prepared
import Acgps.Engine.GateFacts
import Acgps.Engine.FrozenPlan
import Acgps.Engine.Closure
import Acgps.Engine.Acceptance
import Acgps.Engine.Advances
import Acgps.Engine.Previews
import Acgps.Engine.FirstMoves
import Acgps.Engine.PreviewAgreement
import Acgps.Engine.NextActions
import Acgps.Engine.PlannedCommits
import Acgps.Engine.ReleaseManifests
import Acgps.Engine.OpenRuns
import Acgps.Engine.Legality
import Acgps.Engine.FixCycles
import Acgps.Engine.BoundEvidence
import Acgps.Engine.Reviews
import Acgps.Coding.Record
import Acgps.Coding.Events
import Acgps.Coding.EventLines
import Acgps.Coding.EventSoundness
import Acgps.Coding.Promotion
import Acgps.Coding.Slot
import Acgps.Coding.SlotRuns
import Acgps.Coding.SlotPhases
import Acgps.Coding.Prelaunch
import Acgps.Coding.Builders
import Acgps.Coding.Publication
import Acgps.Coding.Recordable
