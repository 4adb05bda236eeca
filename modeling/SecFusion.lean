import SecFusion.TaskRuntime.Depth
import SecFusion.Knowledge.Convergence
import SecFusion.Investigation.Waking
import SecFusion.Intelligence.Coverage
import SecFusion.Intelligence.Partition
import SecFusion.Intelligence.EvidenceReplay
import SecFusion.Investigation.ObjectAliases
import SecFusion.Monitoring.Cursors
import SecFusion.Monitoring.DisabledSchedules
import SecFusion.Monitoring.Scheduling
import SecFusion.Evaluation.Authority
import SecFusion.Monitoring.Outbox
import SecFusion.Policy.Enforcement
import SecFusion.Sandbox.Leases
import SecFusion.TaskRuntime.Lineage
import SecFusion.Sources.Discovery
import SecFusion.Budget.Children
import SecFusion.Experience.Lifecycle
import SecFusion.Normalization.LastObservation
import SecFusion.Application.Resolution
import SecFusion.Application.ProductCommands
import SecFusion.Normative.Publication
import SecFusion.Application.Ownership
import SecFusion.Investigation.Invalidation
import SecFusion.Investigation.RoleExits
import SecFusion.Investigation.StateReplay
import SecFusion.TaskRuntime.ContextChains
import SecFusion.TaskRuntime.PromptIntegrity
import SecFusion.TaskRuntime.RecoveryRetries
import SecFusion.Monitoring.RateLimits
import SecFusion.Application.Conversations
import SecFusion.Investigation.ContinuationGate
import SecFusion.Intelligence.IncidentPromotion
import SecFusion.Enrichment.State
import SecFusion.Intelligence.Chunking
import SecFusion.Enrichment.CpeVersions
import SecFusion.Intelligence.HotRanking
import SecFusion.ContentIdentities
import SecFusion.Evaluation.Adjudication
import SecFusion.Evaluation.Regression
import SecFusion.Evaluation.QaScoring
import SecFusion.Evaluation.MonitoringWindow
import SecFusion.Sources.Arxiv
import SecFusion.Sources.HtmlIndex
import SecFusion.Sources.OssSecurity
import SecFusion.Execution.BoundedLoop
import SecFusion.Execution.Redaction
import SecFusion.Capability.Replay
