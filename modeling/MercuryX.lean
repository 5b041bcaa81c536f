import MercuryX.Foundation.Text
import MercuryX.Foundation.Canonical
import MercuryX.Foundation.Fallible
import MercuryX.Foundation.Dict
import MercuryX.Foundation.Registry
import MercuryX.Foundation.Json
import MercuryX.Foundation.Digest
import MercuryX.Foundation.Digraph
import MercuryX.Foundation.Kahn
import MercuryX.Foundation.Search
import MercuryX.Contracts
import MercuryX.Contracts.ExecutionGraph
import MercuryX.LiveMigration.Contracts
import MercuryX.LiveMigration.Planning
import MercuryX.LiveMigration.Restore
import MercuryX.LiveMigration.Cutover
import MercuryX.GlobalMemory.Contracts
import MercuryX.GlobalMemory.Consolidation
import MercuryX.GlobalMemory.Store
import MercuryX.GlobalMemory.Governance
import MercuryX.GlobalMemory.Retrieval
import MercuryX.SessionMemory.Contracts
import MercuryX.SessionMemory.Store
import MercuryX.SessionMemory.Retrieval
import MercuryX.SessionMemory.Lifecycle
import MercuryX.Speculation.Commit
import MercuryX.Speculation.Contracts
import MercuryX.Speculation.Ledger
import MercuryX.Gateway.Constraints
import MercuryX.Intelligence.Models
import MercuryX.Intelligence.Signals
import MercuryX.Intelligence.Inference
import MercuryX.Intelligence.Calibration
import MercuryX.Intelligence.Pipeline
import MercuryX.Graph.Models
import MercuryX.Graph.Validation
import MercuryX.Graph.Order
import MercuryX.Graph.Builder
import MercuryX.Graph.Coverage
import MercuryX.Graph.Splitting
import MercuryX.Graph.Transformation
import MercuryX.Graph.Preservation
import MercuryX.SessionMemory.Isolation
import MercuryX.SessionMemory.Noninterference
import MercuryX.SemanticKVCache.Compatibility
import MercuryX.SemanticKVCache.Governance
import MercuryX.SemanticKVCache.Lookup
import MercuryX.SemanticKVCache.Retirement
import MercuryX.SemanticKVCache.Keys
import MercuryX.DisaggregatedExecution.Admission
import MercuryX.DisaggregatedExecution.Progress
import MercuryX.DisaggregatedExecution.Retry
import MercuryX.ComputeNegotiator.Concurrency
import MercuryX.ComputeNegotiator.Commit
import MercuryX.Models.Discovery
import MercuryX.Composition.Agreement
import MercuryX.Foundation.Comparison
import MercuryX.IntelligenceSlo.Compiler
import MercuryX.IntelligenceSlo.Integration
import MercuryX.IntelligenceSlo.Lifecycle
import MercuryX.IntelligenceSlo.Policy
import MercuryX.Foundation.Routes
import MercuryX.HardwarePersonality.Compatibility
import MercuryX.Placement.Candidates
import MercuryX.Placement.Eligibility
import MercuryX.FederatedExecution.Contracts
import MercuryX.FederatedExecution.Engine
import MercuryX.Foundation.Chains
import MercuryX.Foundation.Rounding
import MercuryX.QualityScheduler.Contracts
import MercuryX.QualityScheduler.Scheduler
import MercuryX.ReasoningBudget.Contracts
import MercuryX.ReasoningBudget.Lifecycle
import MercuryX.Gateway.Session
import MercuryX.Gateway.Admission
import MercuryX.Gateway.Handoff
import MercuryX.Foundation.Merging
import MercuryX.Gateway.Canonicalization
import MercuryX.Intelligence.Agreement
import MercuryX.ContextPrediction.Candidates
import MercuryX.ContextPrediction.Withdrawal
import MercuryX.Foundation.Product
import MercuryX.Precision.Contracts
import MercuryX.Precision.Generation
import MercuryX.HardwarePersonality.Evidence
import MercuryX.HardwarePersonality.Lifecycle
import MercuryX.HardwarePersonality.Lineage
import MercuryX.Composition.Enumeration
import MercuryX.Composition.Generation
import MercuryX.Topology.Routing
import MercuryX.Topology.Results
import MercuryX.Placement.Predictions
import MercuryX.Foundation.Frontier
import MercuryX.ReasoningBudget.Envelope
import MercuryX.ReasoningBudget.Frontier
import MercuryX.IntelligenceSlo.Compilation
import MercuryX.ComputeNegotiator.Negotiator
import MercuryX.DisaggregatedExecution.Stitching
import MercuryX.Foundation.Walks
import MercuryX.IntelligenceSlo.Objectives
import MercuryX.SemanticKVCache.Propagation
import MercuryX.Graph.Idempotence
import MercuryX.Speculation.Events
import MercuryX.GlobalMemory.Identity
import MercuryX.GlobalMemory.Summaries
import MercuryX.SessionMemory.Compaction
import MercuryX.SessionMemory.Fingerprints
import MercuryX.Composition.Blocking
import MercuryX.Composition.Semilattice
import MercuryX.Gateway.Security
import MercuryX.Foundation.Reordering
import MercuryX.Gateway.Reordering
import MercuryX.Gateway.Normalization
import MercuryX.Morphing.Generation
import MercuryX.ContextPrediction.Ranking
import MercuryX.DisaggregatedExecution.Execution
import MercuryX.ComputeNegotiator.History
import MercuryX.ContextPrediction.Integration
import MercuryX.Precision.Derivation
import MercuryX.Graph.Readiness
import MercuryX.Placement.Pipeline
import MercuryX.HardwarePersonality.Assessment
import MercuryX.LiveMigration.Lifecycle
import MercuryX.SelfHealing.Engine
import MercuryX.SelfHealing.Lifecycle
import MercuryX.ComputeNegotiator.Bargain
import MercuryX.ComputeNegotiator.Constraints
import MercuryX.ComputeNegotiator.Lifecycle
import MercuryX.Speculation.Placed
import MercuryX.QualityScheduler.Fairness
import MercuryX.Foundation.Means
import MercuryX.ReasoningBudget.Difficulty
