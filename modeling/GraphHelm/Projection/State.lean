import GraphHelm.Protocol.Event

/-!
# The execution projection

The state `core/events/src/projection.rs` folds a stream's history into.  Maps
and sets are ordered ones, as in the source, keyed by the text of the
identifier they index.
-/

namespace GraphHelm

open Std

/-!
## Evidence keys

`ScopedEvidenceId` orders by workspace, project, execution (absent first) and
evidence identifier; a hold orders by its evidence and then its own identifier.
-/

structure ScopedEvidenceId where
  scope : RepositoryScope
  evidenceId : EvidenceId
deriving DecidableEq

namespace ScopedEvidenceId

/-- The tuple of texts the source compares, as one list. -/
def orderKey (key : ScopedEvidenceId) : List (Option String) :=
  [some key.scope.workspaceId.text, some key.scope.projectId.text,
    key.scope.executionId.map OpaqueId.text, some key.evidenceId.text]

theorem orderKey_injective {a b : ScopedEvidenceId}
    (h : a.orderKey = b.orderKey) : a = b := by
  rcases a with ⟨⟨workspaceA, projectA, executionA⟩, evidenceA⟩
  rcases b with ⟨⟨workspaceB, projectB, executionB⟩, evidenceB⟩
  simp only [orderKey, List.cons.injEq, Option.some.injEq, and_true] at h
  rcases h with ⟨hworkspace, hproject, hexecution, hevidence⟩
  have hexec : executionA = executionB :=
    Option.map_injective (fun _ _ => OpaqueId.text_injective) hexecution
  rw [OpaqueId.text_injective hworkspace, OpaqueId.text_injective hproject, hexec,
    OpaqueId.text_injective hevidence]

instance : Ord ScopedEvidenceId where
  compare a b := compare a.orderKey b.orderKey

instance : TransOrd ScopedEvidenceId :=
  inferInstanceAs (TransCmp (compareOn orderKey))

instance : LawfulEqOrd ScopedEvidenceId where
  compare_self := compare_self (α := List (Option String))
  eq_of_compare h := orderKey_injective (LawfulEqOrd.eq_of_compare h)

end ScopedEvidenceId

/-- One legal hold: the evidence it protects and its own identifier. -/
structure LegalHold where
  evidence : ScopedEvidenceId
  holdId : String
deriving DecidableEq

namespace LegalHold

def orderKey (hold : LegalHold) : List (Option String) :=
  hold.evidence.orderKey ++ [some hold.holdId]

theorem orderKey_injective {a b : LegalHold} (h : a.orderKey = b.orderKey) : a = b := by
  rcases a with ⟨evidenceA, idA⟩
  rcases b with ⟨evidenceB, idB⟩
  have hparts := List.append_inj' h rfl
  have hevidence : evidenceA = evidenceB :=
    ScopedEvidenceId.orderKey_injective hparts.left
  have hid : idA = idB := by simpa using hparts.right
  rw [hevidence, hid]

instance : Ord LegalHold where
  compare a b := compare a.orderKey b.orderKey

instance : TransOrd LegalHold :=
  inferInstanceAs (TransCmp (compareOn orderKey))

instance : LawfulEqOrd LegalHold where
  compare_self := compare_self (α := List (Option String))
  eq_of_compare h := orderKey_injective (LawfulEqOrd.eq_of_compare h)

end LegalHold

inductive EvidenceAvailability where
  | available
  | erasurePending
  | erased
  | deleted
deriving DecidableEq

/-!
## Customs
-/

/-- One stage a node passed through in the customs pipeline. -/
inductive CustomsStage where
  | parked
  | claimed
  | cleared
  | rejected
  | refused
  | overdue
  | deadLettered
deriving DecidableEq

structure CustomsScan where
  atSequence : Nat
  stage : CustomsStage
  claimSeq : Option Nat
  reasonCode : Option String
  deadline : Option PersistedTimestamp
deriving DecidableEq

structure OpenWait where
  atSequence : Nat
  deadline : Option PersistedTimestamp
deriving DecidableEq

/-- A claim in quarantine: testimony recorded, clearance owed. -/
structure OpenClaim where
  node : String
  completesWaitSeq : Nat
  stageEnteredAt : Nat
  deadline : Option PersistedTimestamp
  evidenceDigest : WireHash
deriving DecidableEq

inductive ClearanceOutcome where
  | cleared
  | refused (reasonCode : SafeCode)
deriving DecidableEq

/-!
## Records kept per key
-/

structure MemoryAdmissionRefusalReceipt where
  sequence : Nat
  code : MemoryAdmissionRefusalCode
  «local» : MemoryAdmissionLocal
  bytes : Nat
deriving DecidableEq

structure MemoryRecordProjection where
  publication : Option PersistedMemoryPublicationState
  lastTransitionSequence : Option Nat
  semantic : Option PersistedMemorySemanticState
  supersedes : Option OpaqueId
  evidenceRefs : List EvidenceReference
deriving DecidableEq

def MemoryRecordProjection.default : MemoryRecordProjection :=
  { publication := none
    lastTransitionSequence := none
    semantic := none
    supersedes := none
    evidenceRefs := [] }

structure SubagentRecord where
  atSequence : Nat
  record : SubagentReused
deriving DecidableEq

structure DelegationRecord where
  atSequence : Nat
  chosen : DelegationChosen
deriving DecidableEq

structure AgentPresence where
  atSequence : Nat
  declared : AgentPresenceDeclared
deriving DecidableEq

structure DriveFailureRecord where
  atSequence : Nat
  site : DriveFailureSite
  cause : String
deriving DecidableEq

structure WakeMisBurn where
  atSequence : Nat
  capturedArming : Nat
  liveArming : Nat
deriving DecidableEq

structure WakeConsumptionReceipt where
  reason : WakeConsumeReason
  sequence : Nat
deriving DecidableEq

structure WakeLeaseState where
  cursor : Nat
  rendezvousId : String
  armedAtSequence : Nat
  maturesAt : Option PersistedTimestamp
deriving DecidableEq

/-!
## The projection

`red_checks` and `started_graph_version` are marked `serde(skip)`: a stored
projection carries every other field and loads these two empty.  The split
into the stored part and the whole makes that visible in the type.
-/

structure StoredProjection where
  streamId : Option String
  currentGraph : Option PersistedGraphVersion
  authoringSnapshots : ExtTreeMap Nat EvidenceReference
  declaredForm : Option ExecutionFormDeclared
  formAmendments : List (Nat × ExecutionFormAmended)
  memoryAdmissionRefusalCount : Nat
  lastMemoryAdmissionRefusal : Option MemoryAdmissionRefusalReceipt
  memoryRecords : ExtTreeMap String MemoryRecordProjection
  dreamRuns : ExtTreeMap String DreamShadowRecorded
  proposedDrafts : List String
  proposedDraftSha256 : ExtTreeMap String RawSha256
  rejectedDrafts : List String
  appliedDrafts : List String
  waivers : List PolicyWaiver
  nodeStates : ExtTreeMap String NodeState
  nodeAssignments : ExtTreeMap String PersistedActor
  ghostDrafts : ExtTreeMap String String
  openWaits : ExtTreeMap String OpenWait
  openClaims : ExtTreeMap Nat OpenClaim
  exceptionMarked : ExtTreeSet Nat
  customsScans : ExtTreeMap String (List CustomsScan)
  clearanceRegistry : ExtTreeMap String WireHash
  clearances : ExtTreeMap Nat ClearanceOutcome
  simulationStatus : Option SimulationStatus
  evidenceAvailability : ExtTreeMap ScopedEvidenceId EvidenceAvailability
  legalHolds : ExtTreeSet ScopedEvidenceId
  executionId : Option String
  mode : Option ExecutionMode
  nodeAttempts : ExtTreeMap String Nat
  lastOutcome : ExtTreeMap String NodeOutcome
  identicalOutcomes : ExtTreeMap String Nat
  signalsRecorded : Nat
  acceptedMutations : Nat
  gateCertifications : ExtTreeMap String String
  wakeLeases : ExtTreeMap String WakeLeaseState
  wakeLastConsumed : ExtTreeMap String WakeConsumptionReceipt
  wakeMisBurns : ExtTreeMap String WakeMisBurn
  driveFailure : Option DriveFailureRecord
  agentPresence : ExtTreeMap String AgentPresence
  delegationChoices : ExtTreeMap String DelegationRecord
  subagents : ExtTreeMap String SubagentRecord
deriving DecidableEq

structure ExecutionProjection extends StoredProjection where
  redChecks : ExtTreeMap String Nat
  startedGraphVersion : Option Nat
deriving DecidableEq

namespace ExecutionProjection

def default : ExecutionProjection :=
  { streamId := none
    currentGraph := none
    authoringSnapshots := ∅
    declaredForm := none
    formAmendments := []
    memoryAdmissionRefusalCount := 0
    lastMemoryAdmissionRefusal := none
    memoryRecords := ∅
    dreamRuns := ∅
    proposedDrafts := []
    proposedDraftSha256 := ∅
    rejectedDrafts := []
    appliedDrafts := []
    waivers := []
    nodeStates := ∅
    nodeAssignments := ∅
    ghostDrafts := ∅
    openWaits := ∅
    openClaims := ∅
    exceptionMarked := ∅
    customsScans := ∅
    clearanceRegistry := ∅
    clearances := ∅
    simulationStatus := none
    evidenceAvailability := ∅
    legalHolds := ∅
    executionId := none
    mode := none
    nodeAttempts := ∅
    lastOutcome := ∅
    identicalOutcomes := ∅
    signalsRecorded := 0
    acceptedMutations := 0
    gateCertifications := ∅
    wakeLeases := ∅
    wakeLastConsumed := ∅
    wakeMisBurns := ∅
    driveFailure := none
    agentPresence := ∅
    delegationChoices := ∅
    subagents := ∅
    redChecks := ∅
    startedGraphVersion := none }

/-- Writing a projection out and reading it back: the two skipped fields come back empty. -/
def reload (projection : ExecutionProjection) : ExecutionProjection :=
  { toStoredProjection := projection.toStoredProjection
    redChecks := ∅
    startedGraphVersion := none }

/-- `identical_outcomes_for`: the length of the trailing run of `outcome`, 0 when it differs. -/
def identicalOutcomesFor (projection : ExecutionProjection) (node : String)
    (outcome : NodeOutcome) : Nat :=
  if projection.lastOutcome[node]? = some outcome then
    projection.identicalOutcomes[node]?.getD 0
  else
    0

end ExecutionProjection

end GraphHelm
