import GraphHelm.Library.ErrorState
import GraphHelm.Library.OrderedMap
import GraphHelm.Projection.Fold

/-!
# What an accepted event does to the lifecycle of an execution

The lifecycle is the part of the projection the drivers, the owner verbs and the
customs verbs decide on: the status, the node states with their counters, the
waits and claims, the stream's name, and the two fields a stored projection
forgets.  One event the fold accepts changes it as the pure function
`lifecycleAfter` says, and everything proved about runs rests on that function
instead of on the fold.
-/

namespace GraphHelm

open Std
open ErrorState

structure Lifecycle where
  streamId : Option String
  executionId : Option String
  simulationStatus : Option SimulationStatus
  nodeStates : ExtTreeMap String NodeState
  openWaits : ExtTreeMap String OpenWait
  openClaims : ExtTreeMap Nat OpenClaim
  exceptionMarked : ExtTreeSet Nat
  clearanceRegistry : ExtTreeMap String WireHash
  nodeAttempts : ExtTreeMap String Nat
  lastOutcome : ExtTreeMap String NodeOutcome
  identicalOutcomes : ExtTreeMap String Nat
  redChecks : ExtTreeMap String Nat
  startedGraphVersion : Option Nat
deriving DecidableEq

namespace ExecutionProjection

def lifecycle (projection : ExecutionProjection) : Lifecycle :=
  { streamId := projection.streamId
    executionId := projection.executionId
    simulationStatus := projection.simulationStatus
    nodeStates := projection.nodeStates
    openWaits := projection.openWaits
    openClaims := projection.openClaims
    exceptionMarked := projection.exceptionMarked
    clearanceRegistry := projection.clearanceRegistry
    nodeAttempts := projection.nodeAttempts
    lastOutcome := projection.lastOutcome
    identicalOutcomes := projection.identicalOutcomes
    redChecks := projection.redChecks
    startedGraphVersion := projection.startedGraphVersion }

end ExecutionProjection

/-!
## The effect of one event
-/

def waitDeadline (projection : ExecutionProjection) (event : EventEnvelope)
    (node : String) : Option PersistedTimestamp :=
  stageDeadline projection.toStoredProjection node event.occurredAt
    PersistedCustoms.waitWithinSeconds CustomsBudgets.waitWithinSeconds

def clearanceDeadline (projection : ExecutionProjection) (event : EventEnvelope)
    (node : String) : Option PersistedTimestamp :=
  stageDeadline projection.toStoredProjection node event.occurredAt
    PersistedCustoms.clearanceWithinSeconds CustomsBudgets.clearanceWithinSeconds

def attemptsAfter (attempts : Nat) (payload : NodeOutcomeRecorded) : Nat :=
  if payload.outcome = .started && payload.nextState = .running then
    attempts + 1
  else
    attempts

def runAfter (projection : ExecutionProjection) (payload : NodeOutcomeRecorded) : Nat :=
  if projection.lastOutcome[payload.nodeId.text]? = some payload.outcome then
    projection.identicalOutcomes[payload.nodeId.text]?.getD 0 + 1
  else
    1

def outcomeEffect (event : EventEnvelope) (payload : NodeOutcomeRecorded)
    (projection : ExecutionProjection) : Lifecycle :=
  let node := payload.nodeId.text
  let before := projection.lifecycle
  { before with
    nodeAttempts :=
      before.nodeAttempts.insert node
        (attemptsAfter (before.nodeAttempts[node]?.getD 0) payload)
    lastOutcome :=
      if payload.outcome = .started then
        before.lastOutcome
      else
        before.lastOutcome.insert node payload.outcome
    identicalOutcomes :=
      if payload.outcome = .started then
        before.identicalOutcomes
      else
        before.identicalOutcomes.insert node (runAfter projection payload)
    openWaits :=
      if payload.nextState = .waitingInput then
        before.openWaits.insert node
          { atSequence := event.sequence
            deadline := waitDeadline projection event node }
      else
        before.openWaits.erase node
    nodeStates := before.nodeStates.insert node payload.nextState }

def answersOpenWait (projection : ExecutionProjection) (payload : CompletionClaimed) : Bool :=
  projection.openWaits[payload.node.text]?.map OpenWait.atSequence =
    some payload.completesWaitSeq

def claimEffect (env : Environment) (event : EventEnvelope) (payload : CompletionClaimed)
    (projection : ExecutionProjection) : Lifecycle :=
  let node := payload.node.text
  let before := projection.lifecycle
  if answersOpenWait projection payload then
    { before with
      openClaims :=
        before.openClaims.insert event.sequence
          { node := node
            completesWaitSeq := payload.completesWaitSeq
            stageEnteredAt := event.sequence
            deadline := clearanceDeadline projection event node
            evidenceDigest := claimEvidenceDigest env payload.evidence } }
  else
    before

def clearanceEffect (payload : CompletionCleared) (projection : ExecutionProjection) :
    Lifecycle :=
  let before := projection.lifecycle
  let spent := { before with openClaims := before.openClaims.erase payload.claimSeq }
  match projection.openClaims[payload.claimSeq]? with
  | none => spent
  | some claim =>
      match clearanceVerdict projection.clearanceRegistry claim payload.verifier with
      | .refused _ => spent
      | .cleared =>
          { spent with
            openWaits := before.openWaits.erase claim.node
            nodeStates := before.nodeStates.insert claim.node .succeeded }

def verdictEffect (payload : GateVerdict) (projection : ExecutionProjection) : Lifecycle :=
  let node := payload.nodeId.text
  let before := projection.lifecycle
  if payload.passed then
    before
  else
    { before with
      redChecks := before.redChecks.insert node (before.redChecks[node]?.getD 0 + 1) }

def lifecycleAfter (env : Environment) (event : EventEnvelope)
    (projection : ExecutionProjection) : Lifecycle :=
  let before := projection.lifecycle
  match event.kind with
  | .simulationStarted _ => { before with simulationStatus := some .running }
  | .simulationCompleted payload =>
      { before with simulationStatus := some payload.status }
  | .nodeStateChanged payload =>
      { before with
        nodeStates := before.nodeStates.insert payload.nodeId.text payload.nextState }
  | .executionStarted payload =>
      { before with
        executionId := some payload.executionId.text
        startedGraphVersion := some payload.graphVersion }
  | .nodeOutcomeRecorded payload => outcomeEffect event payload projection
  | .executionCompleted payload =>
      { before with simulationStatus := some payload.status }
  | .ghostNodeProposed payload =>
      { before with nodeStates := before.nodeStates.insert payload.nodeId.text .ghost }
  | .executionPaused _ => { before with simulationStatus := some .paused }
  | .executionResumed _ => { before with simulationStatus := some .running }
  | .gateVerdict payload => verdictEffect payload projection
  | .completionClaimed payload => claimEffect env event payload projection
  | .completionCleared payload => clearanceEffect payload projection
  | .completionRejected payload =>
      { before with openClaims := before.openClaims.erase payload.claimSeq }
  | .clearanceIdentityRegistered payload =>
      { before with
        clearanceRegistry :=
          before.clearanceRegistry.insert payload.identity.text payload.keyFingerprint }
  | .clearanceIdentityRevoked payload =>
      { before with
        clearanceRegistry := before.clearanceRegistry.erase payload.identity.text }
  | .dlqRouted payload =>
      { before with
        openWaits := before.openWaits.erase payload.nodeId.text
        openClaims := before.openClaims.map fun _ => stopClock payload.nodeId.text }
  | .dlqReturned payload =>
      { before with
        openWaits :=
          before.openWaits.insert payload.nodeId.text
            { atSequence := event.sequence
              deadline := payload.waitWithinSeconds.bind (horizonAfter event.occurredAt) } }
  | .dlqRedrive payload =>
      { before with
        openClaims :=
          before.openClaims.map fun _ =>
            rebase event payload.nodeId.text
              (clearanceDeadline projection event payload.nodeId.text) }
  | .overdueException payload =>
      { before with
        exceptionMarked := before.exceptionMarked.insert payload.episodeSequence }
  | _ => before

/-!
## What the compound effects leave alone
-/

section Spares

variable {env : Environment} {event : EventEnvelope} {projection : ExecutionProjection}

theorem claimEffect_spares {payload : CompletionClaimed} :
    claimEffect env event payload projection =
      { projection.lifecycle with
        openClaims := (claimEffect env event payload projection).openClaims } := by
  unfold claimEffect
  dsimp only
  split <;> rfl

theorem clearanceEffect_spares {payload : CompletionCleared} :
    clearanceEffect payload projection =
      { projection.lifecycle with
        openClaims := (clearanceEffect payload projection).openClaims
        openWaits := (clearanceEffect payload projection).openWaits
        nodeStates := (clearanceEffect payload projection).nodeStates } := by
  unfold clearanceEffect
  dsimp only
  split
  · rfl
  · split <;> rfl

theorem verdictEffect_spares {payload : GateVerdict} :
    verdictEffect payload projection =
      { projection.lifecycle with
        redChecks := (verdictEffect payload projection).redChecks } := by
  unfold verdictEffect
  dsimp only
  split <;> rfl

end Spares

/-!
## Accepting runs of the primitives
-/

@[simp] theorem getProjection_bind {α : Type} (f : ExecutionProjection -> FoldM α)
    (st : FoldState) : (getProjection >>= f) st = f st.projection st := rfl

@[simp] theorem modifyProjection_bind {α : Type}
    (g : ExecutionProjection -> ExecutionProjection) (f : Unit -> FoldM α)
    (st : FoldState) :
    (modifyProjection g >>= f) st = f () { st with projection := g st.projection } := rfl

variable {st st' : FoldState}

@[simp] theorem modifyProjection_eq_ok {g : ExecutionProjection -> ExecutionProjection} :
    modifyProjection g st = .ok () st' <->
      { st with projection := g st.projection } = st' := by
  constructor
  · intro h
    cases h
    rfl
  · intro h
    rw [← h]
    rfl

@[simp] theorem refuse_ne_ok {α : Type} {error : ReplayError} {a : α} :
    (refuse error : FoldM α) st = .ok a st' <-> False := by
  constructor
  · intro h
    cases h
  · intro h
    exact h.elim

@[simp] theorem require_bind_eq_ok {α : Type} {condition : Bool} {error : ReplayError}
    {f : Unit -> FoldM α} {a : α} :
    (require condition error >>= f) st = .ok a st' <->
      condition = true ∧ f () st = .ok a st' := by
  cases condition with
  | true =>
      exact Iff.intro (fun h => And.intro rfl h) fun h => h.right
  | false =>
      constructor
      · intro h
        cases h
      · intro h
        cases h.left

@[simp] theorem requireRoom_bind_eq_ok {α : Type} {size : Nat} {present : Bool}
    {f : Unit -> FoldM α} {a : α} :
    (requireRoom size present >>= f) st = .ok a st' <->
      (size < maxProjectionNodes ∨ present = true) ∧ f () st = .ok a st' := by
  unfold requireRoom
  rw [require_bind_eq_ok]
  simp

@[simp] theorem requireExecution_bind_eq_ok {α : Type} {executionId : OpaqueId}
    {f : Unit -> FoldM α} {a : α} :
    (requireExecution executionId >>= f) st = .ok a st' <->
      st.projection.executionId = some executionId.text ∧ f () st = .ok a st' := by
  unfold requireExecution
  simp only [bind_assoc, getProjection_bind]
  rw [require_bind_eq_ok]
  simp

@[simp] theorem checkedIncrement_bind_eq_ok {α : Type} {bound value : Nat} {f : Nat -> FoldM α}
    {a : α} :
    (checkedIncrement bound value >>= f) st = .ok a st' <->
      value < bound ∧ f (value + 1) st = .ok a st' := by
  unfold checkedIncrement
  simp only [bind_assoc]
  rw [require_bind_eq_ok]
  simp

/-!
## Events that leave the lifecycle alone
-/

/-- Every accepting run of `m` leaves what `view` shows as it was. -/
def Keeps {α β : Type} (view : FoldState -> β) (m : FoldM α) : Prop :=
  Relates (fun st st' => view st' = view st) m

/-- Every accepting run of `m` leaves the lifecycle as it was. -/
def KeepsLifecycle {α : Type} (m : FoldM α) : Prop :=
  Relates (fun st st' : FoldState =>
    st'.projection.lifecycle = st.projection.lifecycle) m

namespace Keeps

variable {α β γ : Type} {view : FoldState -> γ}

theorem pure (a : α) : Keeps view (Pure.pure a : FoldM α) := by
  intro st b st' h
  cases h
  rfl

theorem bind {m : FoldM α} {f : α -> FoldM β} (hm : Keeps view m)
    (hf : forall a, Keeps view (f a)) : Keeps view (m >>= f) :=
  Relates.bind (fun hfirst hsecond => hsecond.trans hfirst) hm hf

theorem read : Keeps view getProjection := by
  intro st a st' h
  cases h
  rfl

theorem refusal (error : ReplayError) : Keeps view (refuse error : FoldM α) := by
  intro st a st' h
  cases h

theorem guarded (condition : Bool) (error : ReplayError) :
    Keeps view (require condition error) :=
  Relates.ite (pure ()) (refusal error)

theorem room (size : Nat) (present : Bool) : Keeps view (requireRoom size present) :=
  guarded _ _

theorem execution (executionId : OpaqueId) : Keeps view (requireExecution executionId) :=
  bind read fun _ => guarded _ _

theorem increment (bound value : Nat) : Keeps view (checkedIncrement bound value) :=
  bind (guarded _ _) fun _ => pure _

theorem modify {g : ExecutionProjection -> ExecutionProjection}
    (h : forall st : FoldState, view { st with projection := g st.projection } = view st) :
    Keeps view (modifyProjection g) := by
  intro st a st' hrun
  cases hrun
  exact h st

theorem scan (h : forall (st : FoldState) scans,
      view { st with projection := { st.projection with customsScans := scans } } = view st)
    (node : String) (entry : CustomsScan) : Keeps view (recordScan node entry) := by
  unfold recordScan
  refine bind read fun _ => ?_
  refine bind (room _ _) fun _ => ?_
  refine bind (guarded _ _) fun _ => ?_
  exact modify fun _ => h _ _

end Keeps

theorem recordScan_keeps (node : String) (scan : CustomsScan) :
    KeepsLifecycle (recordScan node scan) := by
  show Keeps (fun st => st.projection.lifecycle) (recordScan node scan)
  exact Keeps.scan (fun _ _ => rfl) node scan

/-- The kinds whose fold never reaches a field of the lifecycle. -/
def EventKind.sparesLifecycle : EventKind -> Bool
  | .simulationStarted _ | .simulationCompleted _ | .nodeStateChanged _
  | .executionStarted _ | .nodeOutcomeRecorded _ | .executionCompleted _
  | .ghostNodeProposed _ | .executionPaused _ | .executionResumed _ | .gateVerdict _
  | .completionClaimed _ | .completionCleared _ | .completionRejected _
  | .clearanceIdentityRegistered _ | .clearanceIdentityRevoked _
  | .dlqRouted _ | .dlqReturned _ | .dlqRedrive _ | .overdueException _ => false
  | _ => true

def EventKind.spared (kind : EventKind) (projection : ExecutionProjection) :
    ExecutionProjection :=
  match kind with
  | .memoryAdmissionRefused _ =>
      { projection with memoryAdmissionRefusalCount := 0, lastMemoryAdmissionRefusal := none }
  | .memoryPublicationTransitioned _ | .memoryValidationRecorded _
  | .memoryRecordSuperseded _ => { projection with memoryRecords := ∅ }
  | .dreamShadowRecorded _ => { projection with dreamRuns := ∅ }
  | .executionFormDeclared _ => { projection with declaredForm := none }
  | .executionFormAmended _ => { projection with formAmendments := [] }
  | .graphVersionPublished _ =>
      { projection with currentGraph := none, evidenceAvailability := ∅ }
  | .graphAuthoringSnapshotStored _ => { projection with authoringSnapshots := ∅ }
  | .draftProposed _ => { projection with proposedDrafts := [], proposedDraftSha256 := ∅ }
  | .draftRejected _ => { projection with rejectedDrafts := [] }
  | .draftApplied _ => { projection with appliedDrafts := [] }
  | .policyWaiverCreated _ => { projection with waivers := [] }
  | .simulationStarted _ | .simulationCompleted _ | .executionCompleted _
  | .executionPaused _ => { projection with simulationStatus := none }
  | .executionResumed _ => { projection with simulationStatus := none, driveFailure := none }
  | .nodeStateChanged _ => { projection with nodeStates := ∅ }
  | .executionStarted _ =>
      { projection with executionId := none, mode := none, startedGraphVersion := none }
  | .executionModeChanged _ => { projection with mode := none }
  | .nodeOutcomeRecorded _ =>
      { projection with
        nodeStates := ∅
        nodeAttempts := ∅
        lastOutcome := ∅
        identicalOutcomes := ∅
        openWaits := ∅
        customsScans := ∅ }
  | .completionCleared _ =>
      { projection with
        openClaims := ∅
        clearances := ∅
        openWaits := ∅
        customsScans := ∅
        nodeStates := ∅ }
  | .completionClaimed _ | .completionRejected _ | .dlqRedrive _ =>
      { projection with openClaims := ∅, customsScans := ∅ }
  | .completionRefused _ => { projection with customsScans := ∅ }
  | .clearanceIdentityRegistered _ | .clearanceIdentityRevoked _ =>
      { projection with clearanceRegistry := ∅ }
  | .signalRecorded _ => { projection with signalsRecorded := 0 }
  | .ghostNodeProposed _ => { projection with nodeStates := ∅, ghostDrafts := ∅ }
  | .nodeAssigned _ => { projection with nodeAssignments := ∅ }
  | .mutationAccepted _ => { projection with acceptedMutations := 0 }
  | .evidenceErasureRequested _ | .evidenceErasureCompleted _
  | .evidenceCiphertextDeleted _ => { projection with evidenceAvailability := ∅ }
  | .evidenceLegalHoldChanged _ => { projection with legalHolds := ∅ }
  | .wakeLease _ => { projection with wakeLeases := ∅ }
  | .wakeLeaseConsumed _ =>
      { projection with wakeLeases := ∅, wakeMisBurns := ∅, wakeLastConsumed := ∅ }
  | .gateVerdict _ => { projection with redChecks := ∅ }
  | .delegationChosen _ => { projection with delegationChoices := ∅ }
  | .subagentReused _ => { projection with subagents := ∅ }
  | .gateCertified _ => { projection with gateCertifications := ∅ }
  | .dlqRouted _ => { projection with openWaits := ∅, openClaims := ∅, customsScans := ∅ }
  | .dlqReturned _ => { projection with openWaits := ∅, customsScans := ∅ }
  | .agentPresenceDeclared _ => { projection with agentPresence := ∅ }
  | .driveFailed _ => { projection with driveFailure := none }
  | .overdueException _ => { projection with exceptionMarked := ∅ }
  | _ => projection

def EventKind.sparedState (kind : EventKind) (st : FoldState) : FoldState :=
  { projection := kind.spared st.projection
    activeLegalHolds :=
      match kind with
      | .evidenceLegalHoldChanged _ => ∅
      | _ => st.activeLegalHolds }

section Spared

open Keeps

theorem park_spares {γ : Type} {view : FoldState -> γ}
    (hwaits : forall (st : FoldState) waits,
      view { st with projection := { st.projection with openWaits := waits } } = view st)
    (hscans : forall (st : FoldState) scans,
      view { st with projection := { st.projection with customsScans := scans } } = view st)
    (event : EventEnvelope) (node : String) (deadline : Option PersistedTimestamp) :
    Keeps view (park event node deadline) :=
  bind (modify fun _ => hwaits _ _) fun _ => scan hscans _ _

theorem countAttempt_spares (payload : NodeOutcomeRecorded) :
    Keeps (EventKind.nodeOutcomeRecorded payload).sparedState (countAttempt payload) := by
  unfold countAttempt
  refine bind read fun _ => ?_
  refine bind (room _ _) fun _ => ?_
  refine bind (modify fun _ => rfl) fun _ => ?_
  split
  · exact bind (increment _ _) fun _ => modify fun _ => rfl
  · exact pure ()

theorem countIdenticalOutcome_spares (payload : NodeOutcomeRecorded) :
    Keeps (EventKind.nodeOutcomeRecorded payload).sparedState (countIdenticalOutcome payload) := by
  unfold countIdenticalOutcome
  dsimp only
  split
  · exact pure ()
  · refine bind read fun _ => ?_
    refine bind (modify fun _ => rfl) fun _ => ?_
    split
    · exact bind (increment _ _) fun _ => modify fun _ => rfl
    · exact bind (pure _) fun _ => modify fun _ => rfl

theorem foldNodeOutcomeRecorded_spares (event : EventEnvelope) (payload : NodeOutcomeRecorded) :
    Keeps (EventKind.nodeOutcomeRecorded payload).sparedState
      (foldNodeOutcomeRecorded event payload) := by
  unfold foldNodeOutcomeRecorded
  refine bind (execution _) fun _ => ?_
  refine bind (countAttempt_spares payload) fun _ => ?_
  refine bind (countIdenticalOutcome_spares payload) fun _ => ?_
  split
  · refine bind read fun _ => ?_
    refine bind (room _ _) fun _ => ?_
    exact bind (park_spares (fun _ _ => rfl) (fun _ _ => rfl) _ _ _) fun _ => modify fun _ => rfl
  · exact bind (modify fun _ => rfl) fun _ => modify fun _ => rfl

theorem foldCompletionClaimed_spares (env : Environment) (event : EventEnvelope)
    (payload : CompletionClaimed) :
    Keeps (EventKind.completionClaimed payload).sparedState
      (foldCompletionClaimed env event payload) := by
  unfold foldCompletionClaimed
  refine bind (execution _) fun _ => ?_
  refine bind read fun _ => ?_
  refine bind (guarded _ _) fun _ => ?_
  split
  · exact bind (modify fun _ => rfl) fun _ => scan (fun _ _ => rfl) _ _
  · exact pure ()

theorem foldCompletionCleared_spares (event : EventEnvelope) (payload : CompletionCleared) :
    Keeps (EventKind.completionCleared payload).sparedState (foldCompletionCleared event payload) := by
  unfold foldCompletionCleared
  refine bind (execution _) fun _ => ?_
  refine bind read fun projection => ?_
  cases projection.openClaims[payload.claimSeq]? with
  | none =>
      exact refusal _
  | some claim =>
      refine bind (modify fun _ => rfl) fun _ => ?_
      split
      · exact scan (fun _ _ => rfl) _ _
      · refine bind (modify fun _ => rfl) fun _ => ?_
        exact bind (scan (fun _ _ => rfl) _ _) fun _ => modify fun _ => rfl

theorem foldCompletionRejected_spares (event : EventEnvelope) (payload : CompletionRejected) :
    Keeps (EventKind.completionRejected payload).sparedState
      (foldCompletionRejected event payload) := by
  unfold foldCompletionRejected
  refine bind (execution _) fun _ => ?_
  refine bind read fun projection => ?_
  cases projection.openClaims[payload.claimSeq]? with
  | none =>
      exact refusal _
  | some claim =>
      exact bind (modify fun _ => rfl) fun _ => scan (fun _ _ => rfl) _ _

theorem foldGateVerdict_spares (payload : GateVerdict) :
    Keeps (EventKind.gateVerdict payload).sparedState (foldGateVerdict payload) := by
  unfold foldGateVerdict
  split
  · exact pure ()
  · refine bind read fun _ => ?_
    refine bind (room _ _) fun _ => ?_
    refine bind (modify fun _ => rfl) fun _ => ?_
    exact bind (increment _ _) fun _ => modify fun _ => rfl

theorem foldGraphAuthoringSnapshotStored_spares (event : EventEnvelope)
    (payload : GraphAuthoringSnapshotStored) :
    Keeps (EventKind.graphAuthoringSnapshotStored payload).sparedState
      (foldGraphAuthoringSnapshotStored event payload) := by
  unfold foldGraphAuthoringSnapshotStored
  refine bind read fun _ => ?_
  refine bind (guarded _ _) fun _ => ?_
  split
  · refine bind (guarded _ _) fun _ => ?_
    exact bind (modify fun _ => rfl) fun _ => guarded _ _
  · exact refusal _

theorem foldDraftProposed_spares (payload : DraftProposed) :
    Keeps (EventKind.draftProposed payload).sparedState (foldDraftProposed payload) := by
  unfold foldDraftProposed
  refine bind (modify fun _ => rfl) fun _ => ?_
  split
  · refine bind read fun _ => ?_
    exact bind (modify fun _ => rfl) fun _ => guarded _ _
  · exact pure ()

theorem foldWakeLeaseConsumed_spares (event : EventEnvelope) (payload : WakeLeaseConsumed) :
    Keeps (EventKind.wakeLeaseConsumed payload).sparedState (foldWakeLeaseConsumed event payload) := by
  unfold foldWakeLeaseConsumed
  refine bind read fun projection => ?_
  cases projection.wakeLeases[payload.sessionId.text]? with
  | none =>
      exact refusal _
  | some burned =>
      exact modify fun _ => rfl

theorem foldEvidenceLegalHoldChanged_spares (payload : EvidenceLegalHoldChanged) :
    Keeps (EventKind.evidenceLegalHoldChanged payload).sparedState
      (foldEvidenceLegalHoldChanged payload) := by
  intro st a st' h
  unfold foldEvidenceLegalHoldChanged at h
  cases hstate : payload.state with
  | placed =>
      simp only [hstate] at h
      cases h
      rfl
  | released =>
      simp only [hstate] at h
      cases h
      unfold EventKind.sparedState
      dsimp only
      split
      · rfl
      · rfl

theorem foldKind_spares (env : Environment) (event : EventEnvelope) :
    Keeps event.kind.sparedState (foldKind env event) := by
  unfold foldKind
  cases event.kind
  case memoryAdmissionRefused =>
    exact bind read fun _ => bind (increment _ _) fun _ => modify fun _ => rfl
  case memoryPublicationTransitioned =>
    exact bind read fun _ => bind (room _ _) fun _ => modify fun _ => rfl
  case memoryValidationRecorded =>
    exact bind read fun _ => bind (room _ _) fun _ => modify fun _ => rfl
  case memoryRecordSuperseded =>
    exact bind read fun _ => bind (guarded _ _) fun _ =>
      bind (modify fun _ => rfl) fun _ => modify fun _ => rfl
  case graphVersionPublished =>
    exact bind (guarded _ _) fun _ => bind (guarded _ _) fun _ => bind read fun _ =>
      bind (guarded _ _) fun _ => modify fun _ => rfl
  case graphAuthoringSnapshotStored payload =>
    exact foldGraphAuthoringSnapshotStored_spares event payload
  case draftProposed payload =>
    exact foldDraftProposed_spares payload
  case nodeOutcomeRecorded payload =>
    exact foldNodeOutcomeRecorded_spares event payload
  case completionClaimed payload =>
    exact foldCompletionClaimed_spares env event payload
  case completionCleared payload =>
    exact foldCompletionCleared_spares event payload
  case completionRejected payload =>
    exact foldCompletionRejected_spares event payload
  case completionRefused =>
    exact bind (execution _) fun _ => scan (fun _ _ => rfl) _ _
  case signalRecorded =>
    exact bind (execution _) fun _ => bind read fun _ =>
      bind (increment _ _) fun _ => modify fun _ => rfl
  case ghostNodeProposed =>
    exact bind (execution _) fun _ => bind read fun _ => bind (guarded _ _) fun _ =>
      bind (guarded _ _) fun _ => modify fun _ => rfl
  case mutationAccepted =>
    exact bind (execution _) fun _ => bind read fun _ => bind (guarded _ _) fun _ =>
      bind (increment _ _) fun _ => modify fun _ => rfl
  case evidenceLegalHoldChanged payload =>
    exact foldEvidenceLegalHoldChanged_spares payload
  case wakeLeaseConsumed payload =>
    exact foldWakeLeaseConsumed_spares event payload
  case gateVerdict payload =>
    exact foldGateVerdict_spares payload
  case dlqRouted =>
    exact bind (execution _) fun _ => bind (modify fun _ => rfl) fun _ =>
      bind (modify fun _ => rfl) fun _ => scan (fun _ _ => rfl) _ _
  case dlqReturned =>
    exact bind (execution _) fun _ => bind read fun _ => bind (room _ _) fun _ =>
      park_spares (fun _ _ => rfl) (fun _ _ => rfl) _ _ _
  case dlqRedrive =>
    exact bind (execution _) fun _ => bind read fun _ => bind (modify fun _ => rfl) fun _ =>
      scan (fun _ _ => rfl) _ _
  -- What is left updates some fields behind its guards, or records nothing.
  all_goals first
    | exact pure ()
    | exact modify fun _ => rfl
    | exact bind (execution _) fun _ => modify fun _ => rfl
    | exact bind read fun _ => bind (guarded _ _) fun _ => modify fun _ => rfl
    | exact bind (execution _) fun _ => bind read fun _ => bind (guarded _ _) fun _ =>
        modify fun _ => rfl

theorem keeps_of_spared {γ : Type} {view : FoldState -> γ} {env : Environment}
    {event : EventEnvelope} (h : forall st, view (event.kind.sparedState st) = view st) :
    Keeps view (foldKind env event) := by
  intro st a st' hrun
  have hview := congrArg view (foldKind_spares env event st a st' hrun)
  rwa [h, h] at hview

theorem foldKind_keeps {env : Environment} {event : EventEnvelope}
    (h : event.kind.sparesLifecycle = true) : KeepsLifecycle (foldKind env event) := by
  show Keeps (fun st => st.projection.lifecycle) (foldKind env event)
  apply keeps_of_spared
  intro st
  cases hkind : event.kind <;> rw [hkind] at h <;> first
    | rfl
    | exact absurd h Bool.false_ne_true

end Spared

end GraphHelm
