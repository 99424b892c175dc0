import GraphHelm.Protocol.Environment
import GraphHelm.Projection.State

/-!
# The projection fold

`apply_projection_event` of `core/events/src/projection.rs`, one definition an
arm.  The fold mutates its state in place and may refuse half-way, so it runs
in `EStateM`, which hands the state back as it stood when the refusal was
raised.
-/

namespace GraphHelm

open Std

inductive ReplayError where
  | limitExceeded
  | corrupt
  | budgetExceeded (walked : Nat) (limitMillis : Int)
deriving DecidableEq

def maxProjectionNodes : Nat := 10000

def u32Max : Nat := 4294967295

def u64Max : Nat := 18446744073709551615

/-- What the fold mutates: the projection, and the holds that are still placed. -/
structure FoldState where
  projection : ExecutionProjection
  activeLegalHolds : ExtTreeSet LegalHold
deriving DecidableEq

namespace FoldState

def initial : FoldState :=
  { projection := ExecutionProjection.default
    activeLegalHolds := ∅ }

end FoldState

abbrev FoldM := EStateM ReplayError FoldState

/-!
## Primitives of the fold
-/

def getProjection : FoldM ExecutionProjection := fun st => .ok st.projection st

def modifyProjection (f : ExecutionProjection -> ExecutionProjection) : FoldM Unit :=
  fun st => .ok () { st with projection := f st.projection }

def refuse {α : Type} (error : ReplayError) : FoldM α := fun st => .error error st

def require (condition : Bool) (error : ReplayError) : FoldM Unit :=
  if condition then pure () else refuse error

/-- `checked_add(1)` on a counter of the given width. -/
def checkedIncrement (bound value : Nat) : FoldM Nat := do
  require (decide (value < bound)) .limitExceeded
  pure (value + 1)

/-- The event must name the execution this stream started. -/
def requireExecution (executionId : OpaqueId) : FoldM Unit := do
  let projection <- getProjection
  require (projection.executionId = some executionId.text) .corrupt

/-- A new key may not take a keyed collection past `MAX_PROJECTION_NODES`. -/
def requireRoom (size : Nat) (present : Bool) : FoldM Unit :=
  require (decide (size < maxProjectionNodes) || present) .limitExceeded

/-- `stage_deadline`: the entering instant plus the budget declared for the stage. -/
def stageDeadline (projection : StoredProjection) (node : String)
    (enteredAt : PersistedTimestamp) (budget : PersistedCustoms -> Nat)
    (declared : CustomsBudgets -> Nat) : Option PersistedTimestamp := do
  -- A published graph is the only source once there is one.
  let seconds <-
    match projection.currentGraph with
    | some graph => do
        let publishedNode <- graph.topology.nodes[node]?
        let customs <- publishedNode.customs
        pure (budget customs)
    | none => do
        let form <- projection.declaredForm
        let budgets <- form.nodeCustomsBudgets[node]?
        pure (declared budgets)
  horizonAfter enteredAt seconds

def recordScan (node : String) (scan : CustomsScan) : FoldM Unit := do
  let projection <- getProjection
  requireRoom projection.customsScans.size (projection.customsScans.contains node)
  let history := projection.customsScans[node]?.getD []
  require (decide (history.length < maxProjectionNodes)) .limitExceeded
  modifyProjection fun projection =>
    { projection with
      customsScans := projection.customsScans.insert node (history ++ [scan]) }

/-!
## Memory
-/

def foldMemoryAdmissionRefused (event : EventEnvelope) (payload : MemoryAdmissionRefused) :
    FoldM Unit := do
  let projection <- getProjection
  let count <- checkedIncrement u64Max projection.memoryAdmissionRefusalCount
  modifyProjection fun projection =>
    { projection with
      memoryAdmissionRefusalCount := count
      lastMemoryAdmissionRefusal :=
        some
          { sequence := event.sequence
            code := payload.code
            «local» := payload.local
            bytes := payload.bytes } }

/-- Updates the record under `recordId`, starting from the default when it is new. -/
def updateMemoryRecord (recordId : String)
    (f : MemoryRecordProjection -> MemoryRecordProjection) : FoldM Unit :=
  modifyProjection fun projection =>
    { projection with
      memoryRecords :=
        projection.memoryRecords.insert recordId
          (f (projection.memoryRecords[recordId]?.getD MemoryRecordProjection.default)) }

def foldMemoryPublicationTransitioned (event : EventEnvelope)
    (payload : MemoryPublicationTransitioned) : FoldM Unit := do
  let projection <- getProjection
  requireRoom projection.memoryRecords.size
    (projection.memoryRecords.contains payload.recordId.text)
  updateMemoryRecord payload.recordId.text fun record =>
    { record with
      publication := some payload.resultingState
      lastTransitionSequence := some event.sequence
      evidenceRefs := event.evidenceRefs }

/-- A validation receipt cannot revive a superseded or expired record. -/
def validatedSemantic :
    Option PersistedMemorySemanticState -> Option PersistedMemorySemanticState
  | none => some .validated
  | some .candidate => some .validated
  | some .validated => some .validated
  | some other => some other

def foldMemoryValidationRecorded (payload : MemoryValidationRecorded) : FoldM Unit := do
  let projection <- getProjection
  requireRoom projection.memoryRecords.size
    (projection.memoryRecords.contains payload.recordId.text)
  updateMemoryRecord payload.recordId.text fun record =>
    { record with semantic := validatedSemantic record.semantic }

def foldMemoryRecordSuperseded (payload : MemoryRecordSuperseded) : FoldM Unit := do
  let projection <- getProjection
  -- Counted together: one event may add both of its keys.
  let newKeys :=
    (!projection.memoryRecords.contains payload.predecessorId.text).toNat +
      (!projection.memoryRecords.contains payload.successorId.text).toNat
  require (decide (projection.memoryRecords.size + newKeys <= maxProjectionNodes))
    .limitExceeded
  updateMemoryRecord payload.predecessorId.text fun record =>
    { record with semantic := some payload.predecessorNewSemanticState }
  updateMemoryRecord payload.successorId.text fun record =>
    { record with supersedes := some payload.predecessorId }

def foldDreamShadowRecorded (payload : DreamShadowRecorded) : FoldM Unit := do
  let projection <- getProjection
  requireRoom projection.dreamRuns.size (projection.dreamRuns.contains payload.runId.text)
  modifyProjection fun projection =>
    { projection with dreamRuns := projection.dreamRuns.insert payload.runId.text payload }

/-!
## Graph versions and drafts
-/

def foldExecutionFormDeclared (payload : ExecutionFormDeclared) : FoldM Unit := do
  let projection <- getProjection
  require projection.declaredForm.isNone .corrupt
  modifyProjection fun projection => { projection with declaredForm := some payload }

/-- `is_graph_successor`, as the fold spells it against its current graph. -/
def extendsCurrentGraph (current : Option PersistedGraphVersion)
    (version : PersistedGraphVersion) : Bool :=
  match current with
  | some active =>
      decide (active.number + 1 = version.number) &&
        version.predecessor.any fun prior =>
          prior.number = active.number && prior.semanticHash = active.semanticHash
  | none => decide (version.number = 1) && version.predecessor.isNone

def foldGraphVersionPublished (env : Environment) (event : EventEnvelope)
    (version : PersistedGraphVersion) : FoldM Unit := do
  require (env.validatePersistedProjection version) .corrupt
  require
    (event.actor = version.createdBy &&
      event.scope.executionId = some version.topology.executionId &&
      env.validatePublicationEvidenceIds event.scope version &&
      env.validateEvidenceBijection version.contentSlots event.evidenceRefs) .corrupt
  let projection <- getProjection
  require (extendsCurrentGraph projection.currentGraph version) .corrupt
  modifyProjection fun projection =>
    { projection with
      currentGraph := some version
      evidenceAvailability :=
        version.contentSlots.foldl
          (fun known slot =>
            known.insertIfNew
              { scope := event.scope, evidenceId := slot.evidenceId } .available)
          projection.evidenceAvailability }

def authoringSnapshotPrefix (graphVersion : Nat) : List Char :=
  s!"graph-authoring-snapshot-{graphVersion}-".toList

def foldGraphAuthoringSnapshotStored (event : EventEnvelope)
    (payload : GraphAuthoringSnapshotStored) : FoldM Unit := do
  let projection <- getProjection
  require
    (event.scope.executionId = some payload.executionId &&
      projection.currentGraph.any fun graph =>
        graph.number = payload.graphVersion && graph.semanticHash = payload.graphHash) .corrupt
  match event.evidenceRefs with
  | [reference] =>
      require
        ((authoringSnapshotPrefix payload.graphVersion).isPrefixOf
          reference.evidenceId.text.toList) .corrupt
      modifyProjection fun projection =>
        { projection with
          authoringSnapshots :=
            projection.authoringSnapshots.insert payload.graphVersion reference }
      require (!projection.authoringSnapshots.contains payload.graphVersion) .corrupt
  | _ => refuse .corrupt

def foldDraftProposed (payload : DraftProposed) : FoldM Unit := do
  modifyProjection fun projection =>
    { projection with proposedDrafts := projection.proposedDrafts ++ [payload.draftId.text] }
  match payload.proposalSha256 with
  | some digest =>
      let projection <- getProjection
      modifyProjection fun projection =>
        { projection with
          proposedDraftSha256 :=
            projection.proposedDraftSha256.insert payload.draftId.text digest }
      require (!projection.proposedDraftSha256.contains payload.draftId.text) .corrupt
  | none => pure ()

/-!
## Executions and node outcomes
-/

def foldExecutionStarted (payload : ExecutionStarted) : FoldM Unit := do
  let projection <- getProjection
  require projection.executionId.isNone .corrupt
  modifyProjection fun projection =>
    { projection with
      executionId := some payload.executionId.text
      mode := some payload.mode
      startedGraphVersion := some payload.graphVersion }

def foldExecutionModeChanged (payload : ExecutionModeChanged) : FoldM Unit := do
  requireExecution payload.executionId
  let projection <- getProjection
  require (projection.mode = payload.previousMode) .corrupt
  modifyProjection fun projection => { projection with mode := some payload.mode }

def countAttempt (payload : NodeOutcomeRecorded) : FoldM Unit := do
  let node := payload.nodeId.text
  let projection <- getProjection
  requireRoom projection.nodeAttempts.size (projection.nodeAttempts.contains node)
  let attempts := projection.nodeAttempts[node]?.getD 0
  modifyProjection fun projection =>
    { projection with nodeAttempts := projection.nodeAttempts.insert node attempts }
  if payload.outcome = .started && payload.nextState = .running then
    let attempts <- checkedIncrement u32Max attempts
    modifyProjection fun projection =>
      { projection with nodeAttempts := projection.nodeAttempts.insert node attempts }
  else
    pure ()

/-- `Started` neither extends nor breaks a run of identical work outcomes. -/
def countIdenticalOutcome (payload : NodeOutcomeRecorded) : FoldM Unit := do
  let node := payload.nodeId.text
  if payload.outcome = .started then
    pure ()
  else
    let projection <- getProjection
    modifyProjection fun projection =>
      { projection with lastOutcome := projection.lastOutcome.insert node payload.outcome }
    let run <-
      if projection.lastOutcome[node]? = some payload.outcome then
        checkedIncrement u32Max (projection.identicalOutcomes[node]?.getD 0)
      else
        pure 1
    modifyProjection fun projection =>
      { projection with identicalOutcomes := projection.identicalOutcomes.insert node run }

/-- Opens a wait for `node`, identified by the event that parked it. -/
def park (event : EventEnvelope) (node : String) (deadline : Option PersistedTimestamp) :
    FoldM Unit := do
  modifyProjection fun projection =>
    { projection with
      openWaits :=
        projection.openWaits.insert node
          { atSequence := event.sequence, deadline := deadline } }
  recordScan node
    { atSequence := event.sequence
      stage := .parked
      claimSeq := none
      reasonCode := none
      deadline := deadline }

def closeWait (node : String) : FoldM Unit :=
  modifyProjection fun projection =>
    { projection with openWaits := projection.openWaits.erase node }

def setNodeState (node : String) (state : NodeState) : FoldM Unit :=
  modifyProjection fun projection =>
    { projection with nodeStates := projection.nodeStates.insert node state }

def foldNodeOutcomeRecorded (event : EventEnvelope) (payload : NodeOutcomeRecorded) :
    FoldM Unit := do
  let node := payload.nodeId.text
  requireExecution payload.executionId
  countAttempt payload
  countIdenticalOutcome payload
  -- Parking mints a wait and supersedes the previous one; anything else closes it.
  if payload.nextState = .waitingInput then
    let projection <- getProjection
    requireRoom projection.openWaits.size (projection.openWaits.contains node)
    park event node
      (stageDeadline projection.toStoredProjection node event.occurredAt
        PersistedCustoms.waitWithinSeconds CustomsBudgets.waitWithinSeconds)
  else
    closeWait node
  setNodeState node payload.nextState

/-!
## Claims and clearances
-/

def foldCompletionClaimed (env : Environment) (event : EventEnvelope)
    (payload : CompletionClaimed) : FoldM Unit := do
  requireExecution payload.executionId
  let node := payload.node.text
  let projection <- getProjection
  require (decide (projection.openClaims.size < maxProjectionNodes)) .limitExceeded
  -- A claim naming another wait is spent testimony against nothing.
  if (projection.openWaits[node]?.map OpenWait.atSequence) = some payload.completesWaitSeq then
    let deadline :=
      stageDeadline projection.toStoredProjection node event.occurredAt
        PersistedCustoms.clearanceWithinSeconds CustomsBudgets.clearanceWithinSeconds
    modifyProjection fun projection =>
      { projection with
        openClaims :=
          projection.openClaims.insert event.sequence
            { node := node
              completesWaitSeq := payload.completesWaitSeq
              stageEnteredAt := event.sequence
              deadline := deadline
              evidenceDigest := claimEvidenceDigest env payload.evidence } }
    recordScan node
      { atSequence := event.sequence
        stage := .claimed
        claimSeq := some event.sequence
        reasonCode := none
        deadline := deadline }
  else
    pure ()

def clearanceVerdict (registry : ExtTreeMap String WireHash) (claim : OpenClaim) :
    ClearanceVerifier -> ClearanceOutcome
  | .machineReplay manifestHash =>
      if manifestHash = claim.evidenceDigest then .cleared else .refused "hash_mismatch"
  | .countersign identity keyFingerprint =>
      if registry[identity.text]? = some keyFingerprint then
        .cleared
      else
        .refused "unknown_identity"

def foldCompletionCleared (event : EventEnvelope) (payload : CompletionCleared) :
    FoldM Unit := do
  requireExecution payload.executionId
  let projection <- getProjection
  match projection.openClaims[payload.claimSeq]? with
  | none => refuse .corrupt
  | some claim =>
      let verdict := clearanceVerdict projection.clearanceRegistry claim payload.verifier
      modifyProjection fun projection =>
        { projection with
          openClaims := projection.openClaims.erase payload.claimSeq
          clearances := projection.clearances.insert payload.claimSeq verdict }
      match verdict with
      | .refused _ =>
          recordScan claim.node
            { atSequence := event.sequence
              stage := .rejected
              claimSeq := some payload.claimSeq
              reasonCode := none
              deadline := none }
      | .cleared =>
          closeWait claim.node
          recordScan claim.node
            { atSequence := event.sequence
              stage := .cleared
              claimSeq := some payload.claimSeq
              reasonCode := none
              deadline := none }
          setNodeState claim.node .succeeded

def foldCompletionRejected (event : EventEnvelope) (payload : CompletionRejected) :
    FoldM Unit := do
  requireExecution payload.executionId
  let projection <- getProjection
  match projection.openClaims[payload.claimSeq]? with
  | none => refuse .corrupt
  | some claim =>
      modifyProjection fun projection =>
        { projection with openClaims := projection.openClaims.erase payload.claimSeq }
      recordScan claim.node
        { atSequence := event.sequence
          stage := .rejected
          claimSeq := some payload.claimSeq
          reasonCode := none
          deadline := none }

def foldCompletionRefused (event : EventEnvelope) (payload : CompletionRefused) :
    FoldM Unit := do
  requireExecution payload.executionId
  recordScan payload.node.text
    { atSequence := event.sequence
      stage := .refused
      claimSeq := none
      reasonCode := some payload.reasonCode
      deadline := none }

def foldClearanceIdentityRegistered (payload : ClearanceIdentityRegistered) :
    FoldM Unit := do
  requireExecution payload.executionId
  let projection <- getProjection
  requireRoom projection.clearanceRegistry.size
    (projection.clearanceRegistry.contains payload.identity.text)
  modifyProjection fun projection =>
    { projection with
      clearanceRegistry :=
        projection.clearanceRegistry.insert payload.identity.text payload.keyFingerprint }

def foldClearanceIdentityRevoked (payload : ClearanceIdentityRevoked) : FoldM Unit := do
  requireExecution payload.executionId
  modifyProjection fun projection =>
    { projection with
      clearanceRegistry := projection.clearanceRegistry.erase payload.identity.text }

/-!
## Status, ghosts and mutations
-/

def foldExecutionCompleted (payload : ExecutionCompleted) : FoldM Unit := do
  requireExecution payload.executionId
  modifyProjection fun projection =>
    { projection with simulationStatus := some payload.status }

def foldSignalRecorded (payload : SignalRecorded) : FoldM Unit := do
  requireExecution payload.executionId
  let projection <- getProjection
  let count <- checkedIncrement u32Max projection.signalsRecorded
  modifyProjection fun projection => { projection with signalsRecorded := count }

def foldGhostNodeProposed (payload : GhostNodeProposed) : FoldM Unit := do
  requireExecution payload.executionId
  let projection <- getProjection
  require (!projection.nodeStates.contains payload.nodeId.text) .corrupt
  require (decide (projection.nodeStates.size < maxProjectionNodes)) .limitExceeded
  modifyProjection fun projection =>
    { projection with
      nodeStates := projection.nodeStates.insert payload.nodeId.text .ghost
      ghostDrafts :=
        projection.ghostDrafts.insert payload.nodeId.text payload.draftId.text }

def foldNodeAssigned (payload : NodeAssigned) : FoldM Unit := do
  let projection <- getProjection
  let node := payload.nodeId.text
  let recordedDigest : Option RawSha256 := do
    let draft <- projection.ghostDrafts[node]?
    projection.proposedDraftSha256[draft]?
  require
    (payload.assignedActor.actorType = .agent &&
      projection.executionId = some payload.executionId.text &&
      projection.nodeStates[node]? = some .ghost &&
      !projection.nodeAssignments.contains node &&
      recordedDigest = some payload.proposalSha256) .corrupt
  modifyProjection fun projection =>
    { projection with
      nodeAssignments := projection.nodeAssignments.insert node payload.assignedActor }

def foldMutationAccepted (payload : MutationAccepted) : FoldM Unit := do
  requireExecution payload.executionId
  let projection <- getProjection
  require (projection.mode = some payload.mode) .corrupt
  let count <- checkedIncrement u32Max projection.acceptedMutations
  modifyProjection fun projection => { projection with acceptedMutations := count }

/-- The statuses an execution can be paused from. -/
def isPausable : Option SimulationStatus -> Bool
  | none => true
  | some .running => true
  | _ => false

def foldExecutionPaused (payload : ExecutionPaused) : FoldM Unit := do
  requireExecution payload.executionId
  let projection <- getProjection
  require (isPausable projection.simulationStatus) .corrupt
  modifyProjection fun projection => { projection with simulationStatus := some .paused }

def foldExecutionResumed (payload : ExecutionResumed) : FoldM Unit := do
  requireExecution payload.executionId
  let projection <- getProjection
  require (projection.simulationStatus = some .paused) .corrupt
  modifyProjection fun projection =>
    { projection with
      driveFailure := none
      simulationStatus := some .running }

/-!
## Retention
-/

def setAvailability (payload : RetentionRecord) (state : EvidenceAvailability) :
    FoldM Unit :=
  modifyProjection fun projection =>
    { projection with
      evidenceAvailability :=
        projection.evidenceAvailability.insert
          { scope := payload.evidenceScope, evidenceId := payload.evidenceId } state }

/-- `update_legal_hold_projection`: evidence stays held while any of its holds is placed. -/
def foldEvidenceLegalHoldChanged (payload : EvidenceLegalHoldChanged) : FoldM Unit :=
  fun st =>
    let evidence : ScopedEvidenceId :=
      { scope := payload.evidenceScope, evidenceId := payload.evidenceId }
    let hold : LegalHold := { evidence := evidence, holdId := payload.holdId.text }
    match payload.state with
    | .placed =>
        .ok ()
          { projection :=
              { st.projection with legalHolds := st.projection.legalHolds.insert evidence }
            activeLegalHolds := st.activeLegalHolds.insert hold }
    | .released =>
        let active := st.activeLegalHolds.erase hold
        .ok ()
          { projection :=
              if active.any fun other => other.evidence = evidence then
                st.projection
              else
                { st.projection with
                  legalHolds := st.projection.legalHolds.erase evidence }
            activeLegalHolds := active }

/-!
## Wake leases, gates and delegation
-/

def foldWakeLease (event : EventEnvelope) (payload : WakeLease) : FoldM Unit :=
  modifyProjection fun projection =>
    { projection with
      wakeLeases :=
        projection.wakeLeases.insert payload.sessionId.text
          { cursor := payload.cursor
            rendezvousId := payload.rendezvousId.text
            armedAtSequence := event.sequence
            maturesAt := payload.maturesInSeconds.bind (horizonAfter event.occurredAt) } }

def foldWakeLeaseConsumed (event : EventEnvelope) (payload : WakeLeaseConsumed) :
    FoldM Unit := do
  let session := payload.sessionId.text
  let projection <- getProjection
  match projection.wakeLeases[session]? with
  | none => refuse .corrupt
  | some burned =>
      modifyProjection fun projection =>
        { projection with
          wakeLeases := projection.wakeLeases.erase session
          wakeMisBurns :=
            match payload.capturedArming with
            | some captured =>
                if captured = burned.armedAtSequence then
                  projection.wakeMisBurns
                else
                  projection.wakeMisBurns.insert session
                    { atSequence := event.sequence
                      capturedArming := captured
                      liveArming := burned.armedAtSequence }
            | none => projection.wakeMisBurns
          wakeLastConsumed :=
            projection.wakeLastConsumed.insert session
              { reason := payload.reason, sequence := event.sequence } }

def foldGateVerdict (payload : GateVerdict) : FoldM Unit := do
  if payload.passed then
    pure ()
  else
    let node := payload.nodeId.text
    let projection <- getProjection
    requireRoom projection.redChecks.size (projection.redChecks.contains node)
    let count := projection.redChecks[node]?.getD 0
    modifyProjection fun projection =>
      { projection with redChecks := projection.redChecks.insert node count }
    let count <- checkedIncrement u32Max count
    modifyProjection fun projection =>
      { projection with redChecks := projection.redChecks.insert node count }

def foldDelegationChosen (event : EventEnvelope) (payload : DelegationChosen) :
    FoldM Unit := do
  let node := payload.nodeId.text
  let projection <- getProjection
  requireRoom projection.delegationChoices.size (projection.delegationChoices.contains node)
  modifyProjection fun projection =>
    { projection with
      delegationChoices :=
        projection.delegationChoices.insert node
          { atSequence := event.sequence, chosen := payload } }

def foldSubagentReused (event : EventEnvelope) (payload : SubagentReused) :
    FoldM Unit := do
  let node := payload.nodeId.text
  let projection <- getProjection
  requireRoom projection.subagents.size (projection.subagents.contains node)
  modifyProjection fun projection =>
    { projection with
      subagents :=
        projection.subagents.insert node
          { atSequence := event.sequence, record := payload } }

def foldGateCertified (payload : GateCertified) : FoldM Unit :=
  modifyProjection fun projection =>
    { projection with
      gateCertifications :=
        projection.gateCertifications.insert payload.gateId.text payload.suiteDigest }

def foldAgentPresenceDeclared (event : EventEnvelope) (payload : AgentPresenceDeclared) :
    FoldM Unit := do
  let projection <- getProjection
  requireRoom projection.agentPresence.size
    (projection.agentPresence.contains payload.actorId)
  modifyProjection fun projection =>
    { projection with
      agentPresence :=
        projection.agentPresence.insert payload.actorId
          { atSequence := event.sequence, declared := payload } }

def foldDriveFailed (event : EventEnvelope) (payload : DriveFailed) : FoldM Unit := do
  requireExecution payload.executionId
  modifyProjection fun projection =>
    { projection with
      driveFailure :=
        some
          { atSequence := event.sequence
            site := payload.site
            cause := payload.cause } }

/-!
## Dead letters and overdue episodes
-/

/-- The clock of a claim of `node` stops while the node is out of play. -/
def stopClock (node : String) (claim : OpenClaim) : OpenClaim :=
  if claim.node = node then { claim with deadline := none } else claim

/-- A redrive keeps the testimony and restarts its clock at this event. -/
def rebase (event : EventEnvelope) (node : String) (deadline : Option PersistedTimestamp)
    (claim : OpenClaim) : OpenClaim :=
  if claim.node = node then
    { claim with stageEnteredAt := event.sequence, deadline := deadline }
  else
    claim

def foldDlqRouted (event : EventEnvelope) (payload : DlqRouted) : FoldM Unit := do
  requireExecution payload.executionId
  let node := payload.nodeId.text
  closeWait node
  modifyProjection fun projection =>
    { projection with openClaims := projection.openClaims.map fun _ => stopClock node }
  recordScan node
    { atSequence := event.sequence
      stage := .deadLettered
      claimSeq := none
      reasonCode := some payload.reason
      deadline := none }

def foldDlqReturned (event : EventEnvelope) (payload : DlqReturned) : FoldM Unit := do
  requireExecution payload.executionId
  let node := payload.nodeId.text
  let projection <- getProjection
  requireRoom projection.openWaits.size (projection.openWaits.contains node)
  park event node (payload.waitWithinSeconds.bind (horizonAfter event.occurredAt))

def foldDlqRedrive (event : EventEnvelope) (payload : DlqRedrive) : FoldM Unit := do
  requireExecution payload.executionId
  let node := payload.nodeId.text
  let projection <- getProjection
  let deadline :=
    stageDeadline projection.toStoredProjection node event.occurredAt
      PersistedCustoms.clearanceWithinSeconds CustomsBudgets.clearanceWithinSeconds
  let rebased := projection.openClaims.any fun _ claim => claim.node = node
  modifyProjection fun projection =>
    { projection with
      openClaims := projection.openClaims.map fun _ => rebase event node deadline }
  recordScan node
    { atSequence := event.sequence
      stage := .claimed
      claimSeq := if rebased then some event.sequence else none
      reasonCode := none
      deadline := deadline }

def foldOverdueException (payload : OverdueException) : FoldM Unit := do
  requireExecution payload.executionId
  let projection <- getProjection
  requireRoom projection.exceptionMarked.size
    (projection.exceptionMarked.contains payload.episodeSequence)
  modifyProjection fun projection =>
    { projection with
      exceptionMarked := projection.exceptionMarked.insert payload.episodeSequence }

/-!
## The fold
-/

def foldKind (env : Environment) (event : EventEnvelope) : FoldM Unit :=
  match event.kind with
  | .memoryAdmissionRefused payload => foldMemoryAdmissionRefused event payload
  | .memoryPublicationTransitioned payload => foldMemoryPublicationTransitioned event payload
  | .memoryValidationRecorded payload => foldMemoryValidationRecorded payload
  | .memoryRecordSuperseded payload => foldMemoryRecordSuperseded payload
  | .dreamShadowRecorded payload => foldDreamShadowRecorded payload
  | .executionFormDeclared payload => foldExecutionFormDeclared payload
  | .executionFormAmended payload =>
      modifyProjection fun projection =>
        { projection with
          formAmendments := projection.formAmendments ++ [(event.sequence, payload)] }
  | .graphVersionPublished version => foldGraphVersionPublished env event version
  | .graphAuthoringSnapshotStored payload => foldGraphAuthoringSnapshotStored event payload
  | .draftProposed payload => foldDraftProposed payload
  | .draftRejected payload =>
      modifyProjection fun projection =>
        { projection with
          rejectedDrafts := projection.rejectedDrafts ++ [payload.draftId.text] }
  | .draftApplied payload =>
      modifyProjection fun projection =>
        { projection with
          appliedDrafts := projection.appliedDrafts ++ [payload.draftId.text] }
  | .policyWaiverCreated waiver =>
      modifyProjection fun projection =>
        { projection with waivers := projection.waivers ++ [waiver] }
  | .simulationStarted _ =>
      modifyProjection fun projection =>
        { projection with simulationStatus := some .running }
  | .nodeStateChanged payload => setNodeState payload.nodeId.text payload.nextState
  | .executionStarted payload => foldExecutionStarted payload
  | .executionModeChanged payload => foldExecutionModeChanged payload
  | .nodeOutcomeRecorded payload => foldNodeOutcomeRecorded event payload
  | .completionClaimed payload => foldCompletionClaimed env event payload
  | .completionCleared payload => foldCompletionCleared event payload
  | .completionRejected payload => foldCompletionRejected event payload
  | .completionRefused payload => foldCompletionRefused event payload
  | .clearanceIdentityRegistered payload => foldClearanceIdentityRegistered payload
  | .clearanceIdentityRevoked payload => foldClearanceIdentityRevoked payload
  | .executionCompleted payload => foldExecutionCompleted payload
  | .signalRecorded payload => foldSignalRecorded payload
  | .ghostNodeProposed payload => foldGhostNodeProposed payload
  | .nodeAssigned payload => foldNodeAssigned payload
  | .mutationAccepted payload => foldMutationAccepted payload
  | .executionPaused payload => foldExecutionPaused payload
  | .executionResumed payload => foldExecutionResumed payload
  | .simulationCompleted payload =>
      modifyProjection fun projection =>
        { projection with simulationStatus := some payload.status }
  | .evidenceErasureRequested payload => setAvailability payload .erasurePending
  | .evidenceErasureCompleted payload => setAvailability payload .erased
  | .evidenceCiphertextDeleted payload => setAvailability payload .deleted
  | .evidenceLegalHoldChanged payload => foldEvidenceLegalHoldChanged payload
  | .wakeLease payload => foldWakeLease event payload
  | .wakeLeaseConsumed payload => foldWakeLeaseConsumed event payload
  | .gateVerdict payload => foldGateVerdict payload
  | .delegationChosen payload => foldDelegationChosen event payload
  | .subagentReused payload => foldSubagentReused event payload
  | .gateCertified payload => foldGateCertified payload
  | .dlqRouted payload => foldDlqRouted event payload
  | .dlqReturned payload => foldDlqReturned event payload
  | .dlqRedrive payload => foldDlqRedrive event payload
  | .agentPresenceDeclared payload => foldAgentPresenceDeclared event payload
  | .driveFailed payload => foldDriveFailed event payload
  | .overdueException payload => foldOverdueException payload
  -- Ledger lines: recorded, and folded into nothing.
  | .reuseDecision _ | .graphImported _ | .graphValidationFailed _
  | .policyObligationEvaluated _ | .integrityCheckpointCreated _ | .sweepPerformed _ =>
      pure ()

def nameStream (event : EventEnvelope) : FoldM Unit :=
  modifyProjection fun projection =>
    { projection with streamId := some (projection.streamId.getD event.streamId.text) }

def applyProjectionEvent (env : Environment) (event : EventEnvelope) : FoldM Unit := do
  nameStream event
  foldKind env event

end GraphHelm
