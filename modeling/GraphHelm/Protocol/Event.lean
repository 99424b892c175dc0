import GraphHelm.Protocol.Vocabulary

/-!
# The event vocabulary

The closed set of replay-safe production events (`core/protocols/src/event.rs`),
the payloads the fold reads or stores, and the hash-chained envelope around
them.  A payload nothing interprets is carried as its canonical JSON text, so
that two events differing only there stay two events.
-/

namespace GraphHelm

open Std

abbrev LedgerData := String

/-!
## Payload vocabularies
-/

inductive MemoryAdmissionRefusalCode where
  | scopeMismatch
  | recaptureLoop
  | secretDetected
  | selfValidated
deriving DecidableEq

inductive MemoryAdmissionLocal where
  | content
  | scope
  | validators
  | origin
deriving DecidableEq

inductive PersistedMemoryPublicationTransition where
  | propose
  | publish
  | withdraw
deriving DecidableEq

inductive PersistedMemoryPublicationState where
  | unpublished
  | proposed
  | published
  | withdrawn
deriving DecidableEq

inductive PersistedMemorySemanticState where
  | candidate
  | validated
  | contradicted
  | deprecated
  | expired
deriving DecidableEq

inductive PersistedSupersessionReason where
  | contradicted
  | deprecated
deriving DecidableEq

inductive LegalHoldState where
  | placed
  | released
deriving DecidableEq

inductive WakeConsumeReason where
  | rung
  | staleRendezvous
deriving DecidableEq

/-- The stages an overdue exception can name on the wire. -/
inductive WireCustomsStage where
  | parked
  | claimed
  | deadLettered
deriving DecidableEq

inductive SweepCaller where
  | tick
  | operator
deriving DecidableEq

inductive DriveFailureSite where
  | drive
  | workspaceRelease
deriving DecidableEq

inductive SubagentKind where
  | explorer
  | implementer
  | reviewer
  | verifier
deriving DecidableEq

inductive DelegationTier where
  | small
  | standard
  | large
deriving DecidableEq

inductive DelegationEffort where
  | low
  | medium
  | high
deriving DecidableEq

inductive DelegationPolicyId where
  | routed
deriving DecidableEq

inductive SubagentBasis where
  | reused
  | noEligibleSubagent
  | authorUnderReview
  | boundUnavailable
  | boundExceeded
  | sessionUnavailable
deriving DecidableEq

inductive ClaimAttestationMode where
  | operatorAttested
  | machineVerified
deriving DecidableEq

inductive Severity where
  | error
  | warning
deriving DecidableEq

inductive DiagnosticComponent where
  | «schema»
  | graph
  | policy
  | governor
  | simulation
  | events
  | evidence
  | artifact
  | retention
  | projection
  | integrity
  | repository
deriving DecidableEq

inductive PersistedObligationStatus where
  | satisfied
  | unsatisfied
  | waived
  | impossible
deriving DecidableEq

inductive WaiverScope where
  | node
  | branch
  | execution
deriving DecidableEq

/-!
## Persisted graph versions

Of a published version the fold, the store and the governor read the lineage
fields, the creator and the instant it was created at, the execution it belongs
to, each node's customs budgets and the content slots; the rest of the version
travels as its canonical text.
-/

structure PersistedCustoms where
  waitWithinSeconds : Nat
  clearanceWithinSeconds : Nat
  dlqWithinSeconds : Option Nat
deriving DecidableEq

/-- `CustomsBudgets`, the form the same block has in a declaration. -/
structure CustomsBudgets where
  waitWithinSeconds : Nat
  clearanceWithinSeconds : Nat
  dlqWithinSeconds : Option Nat
deriving DecidableEq

structure PersistedNode where
  customs : Option PersistedCustoms
  body : LedgerData
deriving DecidableEq

structure PersistedTopology where
  executionId : OpaqueId
  nodes : ExtTreeMap String PersistedNode
deriving DecidableEq

structure PersistedPredecessor where
  number : Nat
  semanticHash : WireHash
deriving DecidableEq

structure ContentSlot where
  evidenceId : EvidenceId
  body : LedgerData
deriving DecidableEq

structure PersistedGraphVersion where
  number : Nat
  semanticHash : WireHash
  predecessor : Option PersistedPredecessor
  createdBy : PersistedActor
  createdAt : PersistedTimestamp
  topology : PersistedTopology
  contentSlots : List ContentSlot
  body : LedgerData
deriving DecidableEq

/-!
## Payloads
-/

structure MemoryAdmissionRefused where
  code : MemoryAdmissionRefusalCode
  «local» : MemoryAdmissionLocal
  bytes : Nat
deriving DecidableEq

structure MemoryPublicationTransitioned where
  recordId : OpaqueId
  transition : PersistedMemoryPublicationTransition
  resultingState : PersistedMemoryPublicationState
deriving DecidableEq

structure MemoryValidationRecorded where
  recordId : OpaqueId
  validatorSignalId : OpaqueId
  sourceExecutionId : OpaqueId
  contentDigest : RawSha256
  sourceSemanticHash : WireHash
deriving DecidableEq

structure MemoryRecordSuperseded where
  predecessorId : OpaqueId
  successorId : OpaqueId
  reason : PersistedSupersessionReason
  predecessorNewSemanticState : PersistedMemorySemanticState
deriving DecidableEq

structure DreamShadowRecorded where
  runId : OpaqueId
  body : LedgerData
deriving DecidableEq

structure GraphAuthoringSnapshotStored where
  executionId : OpaqueId
  graphVersion : Nat
  graphHash : WireHash
deriving DecidableEq

structure DraftProposed where
  draftId : OpaqueId
  expectedVersion : Nat
  expectedHash : Option WireHash
  expectedSafeHash : Option WireHash
  operationCount : Nat
  proposalSha256 : Option RawSha256
deriving DecidableEq

structure PersistedDiagnostic where
  code : String
  severity : Severity
  path : String
  component : DiagnosticComponent
  sourceContentSha256 : Option RawSha256
  detailEvidenceId : Option EvidenceId
deriving DecidableEq

structure DraftRejected where
  draftId : OpaqueId
  reasonCode : SafeCode
  diagnostics : List PersistedDiagnostic
  detailEvidenceId : Option EvidenceId
deriving DecidableEq

structure DraftApplied where
  draftId : OpaqueId
  graphVersion : Nat
  graphHash : WireHash
deriving DecidableEq

structure PolicyObligationEvaluated where
  draftId : OpaqueId
  requirementId : OpaqueId
  status : PersistedObligationStatus
  evidenceIds : List EvidenceId
  reasonCode : SafeCode
  overrideable : Bool
deriving DecidableEq

structure PolicyWaiver where
  id : String
  requirement : String
  executionId : String
  graphVersion : Nat
  actor : String
  reason : Option String
  acknowledgedRisks : List String
  scope : WaiverScope
  createdAt : PersistedTimestamp
  expiresAt : Option PersistedTimestamp
deriving DecidableEq

structure SimulationStarted where
  simulationId : OpaqueId
  graphVersion : Nat
  graphHash : WireHash
deriving DecidableEq

structure NodeStateChanged where
  simulationId : OpaqueId
  nodeId : OpaqueId
  previousState : Option NodeState
  nextState : NodeState
deriving DecidableEq

structure SimulationCompleted where
  simulationId : OpaqueId
  status : SimulationStatus
deriving DecidableEq

structure ExecutionStarted where
  executionId : OpaqueId
  graphVersion : Nat
  graphHash : WireHash
  mode : ExecutionMode
deriving DecidableEq

structure ExecutionFormDeclared where
  executionId : OpaqueId
  nodeCustomsBudgets : ExtTreeMap String CustomsBudgets
  body : LedgerData
deriving DecidableEq

structure ExecutionFormAmended where
  executionId : OpaqueId
  computedAtSequence : Nat
  nodeTimeoutSeconds : ExtTreeMap String Nat
  observedSilenceSeconds : ExtTreeMap String Nat
deriving DecidableEq

structure ExecutionModeChanged where
  executionId : OpaqueId
  previousMode : Option ExecutionMode
  mode : ExecutionMode
deriving DecidableEq

structure NodeOutcomeRecorded where
  executionId : OpaqueId
  nodeId : OpaqueId
  outcome : NodeOutcome
  nextState : NodeState
  /-- `executor`, `crash_site` and `reason`, which explain the outcome to a reader. -/
  cause : LedgerData
deriving DecidableEq

structure ExecutionCompleted where
  executionId : OpaqueId
  status : SimulationStatus
deriving DecidableEq

structure SignalRecorded where
  executionId : OpaqueId
  signalId : OpaqueId
  body : LedgerData
deriving DecidableEq

structure GhostNodeProposed where
  executionId : OpaqueId
  nodeId : OpaqueId
  draftId : OpaqueId
deriving DecidableEq

structure NodeAssigned where
  executionId : OpaqueId
  nodeId : OpaqueId
  assignedActor : PersistedActor
  proposalSha256 : RawSha256
deriving DecidableEq

structure MutationAccepted where
  executionId : OpaqueId
  draftId : OpaqueId
  mode : ExecutionMode
  graphVersion : Nat
deriving DecidableEq

structure ExecutionPaused where
  executionId : OpaqueId
deriving DecidableEq

structure ExecutionResumed where
  executionId : OpaqueId
deriving DecidableEq

structure RetentionRecord where
  evidenceScope : RepositoryScope
  evidenceId : EvidenceId
  body : LedgerData
deriving DecidableEq

structure EvidenceLegalHoldChanged where
  evidenceScope : RepositoryScope
  holdId : OpaqueId
  evidenceId : EvidenceId
  state : LegalHoldState
  body : LedgerData
deriving DecidableEq

structure WakeLease where
  executionId : OpaqueId
  sessionId : OpaqueId
  cursor : Nat
  rendezvousId : OpaqueId
  maturesInSeconds : Option Nat
deriving DecidableEq

structure WakeLeaseConsumed where
  executionId : OpaqueId
  sessionId : OpaqueId
  reason : WakeConsumeReason
  capturedArming : Option Nat
deriving DecidableEq

structure GateVerdict where
  executionId : OpaqueId
  nodeId : OpaqueId
  gateId : OpaqueId
  passed : Bool
  findings : LedgerData
deriving DecidableEq

structure GateCertified where
  executionId : OpaqueId
  gateId : OpaqueId
  suiteDigest : WireHash
  specimens : Nat
deriving DecidableEq

structure ClaimEvidence where
  kind : String
  contentHash : WireHash
  size : Nat
deriving DecidableEq

structure ClaimAttestation where
  asserter : OpaqueId
  mode : ClaimAttestationMode
deriving DecidableEq

structure CompletionClaimed where
  executionId : OpaqueId
  node : OpaqueId
  completesWaitSeq : Nat
  evidence : List ClaimEvidence
  attestation : ClaimAttestation
deriving DecidableEq

inductive ClearanceVerifier where
  | machineReplay (manifestHash : WireHash)
  | countersign (identity : OpaqueId) (keyFingerprint : WireHash)
deriving DecidableEq

structure CompletionCleared where
  executionId : OpaqueId
  claimSeq : Nat
  verifier : ClearanceVerifier
deriving DecidableEq

structure CompletionRejected where
  executionId : OpaqueId
  claimSeq : Nat
  verifier : ClearanceVerifier
  reasonCode : SafeCode
deriving DecidableEq

structure CompletionRefused where
  executionId : OpaqueId
  node : OpaqueId
  claimedWaitSeq : Nat
  reasonCode : SafeCode
deriving DecidableEq

structure ClearanceIdentityRegistered where
  executionId : OpaqueId
  identity : OpaqueId
  keyFingerprint : WireHash
deriving DecidableEq

structure ClearanceIdentityRevoked where
  executionId : OpaqueId
  identity : OpaqueId
deriving DecidableEq

structure DlqRouted where
  executionId : OpaqueId
  nodeId : OpaqueId
  episodeSequence : Nat
  reason : SafeCode
deriving DecidableEq

structure DlqRedrive where
  executionId : OpaqueId
  nodeId : OpaqueId
  dlqEpisodeSequence : Nat
deriving DecidableEq

structure DlqReturned where
  executionId : OpaqueId
  nodeId : OpaqueId
  dlqEpisodeSequence : Nat
  waitWithinSeconds : Option Nat
deriving DecidableEq

structure SweepPerformed where
  executionId : OpaqueId
  asOf : PersistedTimestamp
  caller : SweepCaller
deriving DecidableEq

structure OverdueException where
  executionId : OpaqueId
  nodeId : OpaqueId
  episodeSequence : Nat
  stage : WireCustomsStage
  deadline : PersistedTimestamp
deriving DecidableEq

structure AgentPresenceDeclared where
  actorId : ActorId
  actorType : PersistedActorType
  model : Option String
  effort : Option DelegationEffort
  session : Option String
deriving DecidableEq

structure DelegationChosen where
  nodeId : OpaqueId
  policy : DelegationPolicyId
  kind : SubagentKind
  tier : DelegationTier
  effort : DelegationEffort
  escalated : Bool
  redChecks : Nat
deriving DecidableEq

structure SubagentReused where
  nodeId : OpaqueId
  subagentId : OpaqueId
  kind : SubagentKind
  graphVersion : Nat
  basis : SubagentBasis
  fromNodeId : Option OpaqueId
  fromKind : Option SubagentKind
  tokensUsed : Option Nat
  tokensAllocated : Option Nat
deriving DecidableEq

structure DriveFailed where
  executionId : OpaqueId
  site : DriveFailureSite
  cause : String
deriving DecidableEq

/-!
## Events
-/

inductive EventKind where
  | graphImported (data : LedgerData)
  | graphValidationFailed (data : LedgerData)
  | memoryAdmissionRefused (payload : MemoryAdmissionRefused)
  | memoryPublicationTransitioned (payload : MemoryPublicationTransitioned)
  | memoryValidationRecorded (payload : MemoryValidationRecorded)
  | memoryRecordSuperseded (payload : MemoryRecordSuperseded)
  | dreamShadowRecorded (payload : DreamShadowRecorded)
  | graphVersionPublished (version : PersistedGraphVersion)
  | graphAuthoringSnapshotStored (payload : GraphAuthoringSnapshotStored)
  | draftProposed (payload : DraftProposed)
  | draftRejected (payload : DraftRejected)
  | draftApplied (payload : DraftApplied)
  | policyObligationEvaluated (payload : PolicyObligationEvaluated)
  | policyWaiverCreated (waiver : PolicyWaiver)
  | simulationStarted (payload : SimulationStarted)
  | nodeStateChanged (payload : NodeStateChanged)
  | simulationCompleted (payload : SimulationCompleted)
  | executionStarted (payload : ExecutionStarted)
  | executionFormDeclared (payload : ExecutionFormDeclared)
  | executionFormAmended (payload : ExecutionFormAmended)
  | executionModeChanged (payload : ExecutionModeChanged)
  | nodeOutcomeRecorded (payload : NodeOutcomeRecorded)
  | executionCompleted (payload : ExecutionCompleted)
  | signalRecorded (payload : SignalRecorded)
  | ghostNodeProposed (payload : GhostNodeProposed)
  | nodeAssigned (payload : NodeAssigned)
  | mutationAccepted (payload : MutationAccepted)
  | executionPaused (payload : ExecutionPaused)
  | executionResumed (payload : ExecutionResumed)
  | integrityCheckpointCreated (data : LedgerData)
  | evidenceErasureRequested (payload : RetentionRecord)
  | evidenceErasureCompleted (payload : RetentionRecord)
  | evidenceCiphertextDeleted (payload : RetentionRecord)
  | evidenceLegalHoldChanged (payload : EvidenceLegalHoldChanged)
  | reuseDecision (data : LedgerData)
  | wakeLease (payload : WakeLease)
  | wakeLeaseConsumed (payload : WakeLeaseConsumed)
  | gateVerdict (payload : GateVerdict)
  | gateCertified (payload : GateCertified)
  | completionClaimed (payload : CompletionClaimed)
  | completionCleared (payload : CompletionCleared)
  | completionRejected (payload : CompletionRejected)
  | completionRefused (payload : CompletionRefused)
  | clearanceIdentityRegistered (payload : ClearanceIdentityRegistered)
  | clearanceIdentityRevoked (payload : ClearanceIdentityRevoked)
  | dlqRouted (payload : DlqRouted)
  | dlqRedrive (payload : DlqRedrive)
  | dlqReturned (payload : DlqReturned)
  | sweepPerformed (payload : SweepPerformed)
  | overdueException (payload : OverdueException)
  | agentPresenceDeclared (payload : AgentPresenceDeclared)
  | delegationChosen (payload : DelegationChosen)
  | subagentReused (payload : SubagentReused)
  | driveFailed (payload : DriveFailed)
deriving DecidableEq

/-- The kinds that live on a project stream, outside any execution. -/
def EventKind.isProjectLevel : EventKind -> Bool
  | .integrityCheckpointCreated _
  | .memoryAdmissionRefused _
  | .memoryPublicationTransitioned _
  | .memoryValidationRecorded _
  | .memoryRecordSuperseded _
  | .dreamShadowRecorded _
  | .evidenceErasureRequested _
  | .evidenceErasureCompleted _
  | .evidenceCiphertextDeleted _
  | .evidenceLegalHoldChanged _ => true
  | _ => false

/-- A safe event before the repository assigns identity, instant, sequence and hashes. -/
structure NewEvent where
  idempotencyKey : OpaqueId
  actor : PersistedActor
  sensitivity : Sensitivity
  kind : EventKind
  evidenceRefs : List EvidenceReference
  artifactRefs : List ArtifactReference
deriving DecidableEq

structure EventEnvelope where
  eventId : OpaqueId
  scope : RepositoryScope
  streamId : OpaqueId
  sequence : Nat
  occurredAt : PersistedTimestamp
  idempotencyKey : OpaqueId
  actor : PersistedActor
  sensitivity : Sensitivity
  kind : EventKind
  evidenceRefs : List EvidenceReference
  artifactRefs : List ArtifactReference
  previousHash : EventHash
  eventHash : EventHash
deriving DecidableEq

namespace EventEnvelope

def new (eventId : OpaqueId) (scope : RepositoryScope) (streamId : OpaqueId)
    (sequence : Nat) (occurredAt : PersistedTimestamp) (event : NewEvent)
    (previousHash eventHash : EventHash) : EventEnvelope :=
  { eventId := eventId
    scope := scope
    streamId := streamId
    sequence := sequence
    occurredAt := occurredAt
    idempotencyKey := event.idempotencyKey
    actor := event.actor
    sensitivity := event.sensitivity
    kind := event.kind
    evidenceRefs := event.evidenceRefs
    artifactRefs := event.artifactRefs
    previousHash := previousHash
    eventHash := eventHash }

/-- The event a reader rebuilds from an envelope, to digest the request it came from. -/
def toNewEvent (event : EventEnvelope) : NewEvent :=
  { idempotencyKey := event.idempotencyKey
    actor := event.actor
    sensitivity := event.sensitivity
    kind := event.kind
    evidenceRefs := event.evidenceRefs
    artifactRefs := event.artifactRefs }

/-- The envelope as the hash sees it: its JSON object without the `eventHash` member. -/
def unhashed (event : EventEnvelope) : EventEnvelope :=
  { event with eventHash := "" }

end EventEnvelope

end GraphHelm
