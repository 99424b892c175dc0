import GraphHelm.Execution.Transition
import GraphHelm.Projection.Fold
import GraphHelm.Library.ErrorState
import GraphHelm.Library.Runs
import GraphHelm.Projection.Lifecycle
import GraphHelm.Projection.Effects
import GraphHelm.Library.HashChain
import GraphHelm.Protocol.Integrity
import GraphHelm.Projection.Replay
import GraphHelm.Store.Envelopes
import GraphHelm.Projection.Paging
import GraphHelm.Projection.History
import GraphHelm.Projection.Customs
import GraphHelm.Library.Chunks
import GraphHelm.Runtime.ProjectionCache
import GraphHelm.Library.Interleaving
import GraphHelm.Runtime.Pausing
import GraphHelm.Projection.Overdue
import GraphHelm.Store.Sweeping
import GraphHelm.Runtime.Outcomes
import GraphHelm.Library.Meters
import GraphHelm.Store.Batches
import GraphHelm.Store.Loaded
import GraphHelm.Store.Committed
import GraphHelm.Store.Tally
import GraphHelm.Store.Verification
import GraphHelm.Store.Verified
import GraphHelm.Store.VerifiedBatch
import GraphHelm.Store.Segments
import GraphHelm.Store.Append
import GraphHelm.Store.Admitted
import GraphHelm.Store.Appending
import GraphHelm.Store.Loading
import GraphHelm.Store.Contract
import GraphHelm.Store.Heads
import GraphHelm.Store.Segmented
import GraphHelm.Library.Lines
import GraphHelm.Store.Journal
import GraphHelm.Store.Resumed
import GraphHelm.Store.TornTail
import GraphHelm.Execution.Dispatch
import GraphHelm.Runtime.Resuming
import GraphHelm.Runtime.Writers
import GraphHelm.Runtime.Redispatch
import GraphHelm.Runtime.Cancelling
import GraphHelm.Projection.Waits
import GraphHelm.Runtime.Retries
import GraphHelm.Governor.Drafts
import GraphHelm.Governor.Policy
import GraphHelm.Governor.Requests
import GraphHelm.Governor.Applying
import GraphHelm.Governor.Grammar
import GraphHelm.Governor.Retrying
import GraphHelm.Library.Json
import GraphHelm.Library.Contests
import GraphHelm.Policy.CodeContract
import GraphHelm.Policy.RuleFates
import GraphHelm.Policy.Accounting
import GraphHelm.Policy.Tightening
import GraphHelm.Library.Renaming
import GraphHelm.Policy.KeyOutcomes
import GraphHelm.Policy.Refusals
import GraphHelm.Policy.Precedence
import GraphHelm.Governor.Calls
import GraphHelm.Governor.Overrides
import GraphHelm.Governor.Protection
import GraphHelm.Policy.KeelLines
import GraphHelm.Evolution.Pricing
import GraphHelm.Library.Positions
import GraphHelm.Externalize.Topology
import GraphHelm.Externalize.Disclosure
import GraphHelm.Library.FlatObjects
import GraphHelm.Keys.Crashes
import GraphHelm.Credentials.Identities
import GraphHelm.Credentials.Tampering
import GraphHelm.Library.Loops
import GraphHelm.Governor.Acyclicity
import GraphHelm.Governor.Additive
import GraphHelm.Governor.Lineage
import GraphHelm.Governor.Bypasses
import GraphHelm.Runtime.Exclusivity
import GraphHelm.Simulation.Prediction
import GraphHelm.Runtime.Fitting
import GraphHelm.Evolution.RemoteReferences
import GraphHelm.Evolution.Planning
import GraphHelm.Tasks.Rounds
import GraphHelm.Tasks.Durations
import GraphHelm.Tasks.Blocking
import GraphHelm.Tasks.Spending
import GraphHelm.Evolution.Disjointness
import GraphHelm.Projection.Holds
import GraphHelm.Projection.Wakes
import GraphHelm.Library.Ranks
import GraphHelm.Execution.Candidates
import GraphHelm.Execution.View
import GraphHelm.Projection.Episodes
import GraphHelm.Runtime.Boundaries
import GraphHelm.Protocol.Canonical
import GraphHelm.Runtime.Provenance
import GraphHelm.Runtime.Measured
import GraphHelm.Runtime.Claims
import GraphHelm.Extensions.Versions
