import GraphHelm.Projection.Lifecycle

/-!
# One accepted event, as a pure step

Each arm of the fold that reaches the lifecycle is inverted once: what it must
have found to accept, and the lifecycle it leaves.  `lifecycle_of_accepted`
assembles the arms; runs are reasoned about through it alone.
-/

namespace GraphHelm

open Std
open ErrorState

/-!
## Node outcomes
-/

variable {payload : NodeOutcomeRecorded} {st st' : FoldState} {event : EventEnvelope}
    {env : Environment} {projection : ExecutionProjection}

theorem countAttempt_effect (h : countAttempt payload st = .ok () st') :
    st'.projection =
      { st.projection with
        nodeAttempts :=
          st.projection.nodeAttempts.insert payload.nodeId.text
            (attemptsAfter (st.projection.nodeAttempts[payload.nodeId.text]?.getD 0)
              payload) } := by
  unfold countAttempt at h
  rw [getProjection_bind, requireRoom_bind_eq_ok] at h
  have hrest := h.right
  rw [modifyProjection_bind] at hrest
  unfold attemptsAfter
  by_cases hentered : payload.outcome = .started && payload.nextState = .running
  · rw [if_pos hentered] at hrest ⊢
    rw [checkedIncrement_bind_eq_ok, modifyProjection_eq_ok] at hrest
    rw [← hrest.right]
    simp only [OrderedMap.insert_insert_self]
  · rw [if_neg hentered] at hrest ⊢
    cases hrest
    rfl

theorem countIdenticalOutcome_effect (h : countIdenticalOutcome payload st = .ok () st') :
    st'.projection =
      { st.projection with
        lastOutcome :=
          if payload.outcome = .started then
            st.projection.lastOutcome
          else
            st.projection.lastOutcome.insert payload.nodeId.text payload.outcome
        identicalOutcomes :=
          if payload.outcome = .started then
            st.projection.identicalOutcomes
          else
            st.projection.identicalOutcomes.insert payload.nodeId.text
              (runAfter st.projection payload) } := by
  unfold countIdenticalOutcome at h
  by_cases hstarted : payload.outcome = .started
  · rw [if_pos hstarted] at h
    cases h
    simp only [if_pos hstarted]
  · simp only [if_neg hstarted] at h ⊢
    rw [getProjection_bind, modifyProjection_bind] at h
    unfold runAfter
    by_cases hrun : st.projection.lastOutcome[payload.nodeId.text]? = some payload.outcome
    · simp only [if_pos hrun] at h ⊢
      rw [checkedIncrement_bind_eq_ok, modifyProjection_eq_ok] at h
      rw [← h.right]
    · simp only [if_neg hrun] at h ⊢
      cases h
      rfl

theorem park_effect {node : String} {deadline : Option PersistedTimestamp}
    (h : park event node deadline st = .ok () st') :
    st'.projection.lifecycle =
      { st.projection.lifecycle with
        openWaits :=
          st.projection.openWaits.insert node
            { atSequence := event.sequence, deadline := deadline } } := by
  unfold park at h
  rw [modifyProjection_bind] at h
  exact recordScan_keeps _ _ _ _ _ h

/-- The outcome arm with its wait branch singled out: the counters, then the wait. -/
theorem foldNodeOutcomeRecorded_effect
    (h : foldNodeOutcomeRecorded event payload st = .ok () st') :
    st.projection.executionId = some payload.executionId.text ∧
      st'.projection.lifecycle = outcomeEffect event payload st.projection := by
  unfold foldNodeOutcomeRecorded at h
  rw [requireExecution_bind_eq_ok] at h
  refine And.intro h.left ?_
  rcases bind_eq_ok.mp h.right with ⟨_, counted, hcount, hrest⟩
  rcases bind_eq_ok.mp hrest with ⟨_, folded, hrun, hrest⟩
  have hcounted := countAttempt_effect hcount
  have hfolded := countIdenticalOutcome_effect hrun
  rw [hcounted] at hfolded
  unfold outcomeEffect
  by_cases hparks : payload.nextState = .waitingInput
  · simp only [if_pos hparks] at hrest ⊢
    rw [getProjection_bind] at hrest
    rw [requireRoom_bind_eq_ok] at hrest
    rcases bind_eq_ok.mp hrest.right with ⟨_, parked, hpark, hset⟩
    have hwait := park_effect hpark
    unfold setNodeState at hset
    rw [modifyProjection_eq_ok] at hset
    rw [← hset]
    have hnodes : parked.projection.nodeStates = folded.projection.nodeStates :=
      congrArg Lifecycle.nodeStates hwait
    change ({ parked.projection.lifecycle with
      nodeStates := parked.projection.nodeStates.insert _ _ } : Lifecycle) = _
    rw [hwait, hnodes, hfolded]
    rfl
  · simp only [if_neg hparks] at hrest ⊢
    unfold closeWait setNodeState at hrest
    rw [modifyProjection_bind, modifyProjection_eq_ok] at hrest
    rw [← hrest, hfolded]
    rfl

/-!
## Claims and clearances
-/

theorem foldCompletionClaimed_effect {payload : CompletionClaimed}
    (h : foldCompletionClaimed env event payload st = .ok () st') :
    st'.projection.lifecycle = claimEffect env event payload st.projection := by
  unfold foldCompletionClaimed at h
  rw [requireExecution_bind_eq_ok] at h
  have hrest := h.right
  rw [getProjection_bind, require_bind_eq_ok] at hrest
  have hbranch := hrest.right
  unfold claimEffect answersOpenWait
  by_cases hanswers : st.projection.openWaits[payload.node.text]?.map OpenWait.atSequence =
      some payload.completesWaitSeq
  · rw [if_pos hanswers, modifyProjection_bind] at hbranch
    rw [if_pos (decide_eq_true hanswers)]
    exact recordScan_keeps _ _ _ _ _ hbranch
  · rw [if_neg hanswers] at hbranch
    rw [if_neg (by simpa using hanswers)]
    cases hbranch
    rfl

theorem foldCompletionCleared_effect {payload : CompletionCleared}
    (h : foldCompletionCleared event payload st = .ok () st') :
    (exists claim, st.projection.openClaims[payload.claimSeq]? = some claim) ∧
      st'.projection.lifecycle = clearanceEffect payload st.projection := by
  unfold foldCompletionCleared at h
  rw [requireExecution_bind_eq_ok, getProjection_bind] at h
  have hrest := h.right
  unfold clearanceEffect
  cases hclaim : st.projection.openClaims[payload.claimSeq]? with
  | none =>
      rw [hclaim] at hrest
      exact absurd hrest (by simp)
  | some claim =>
      refine And.intro ⟨claim, rfl⟩ ?_
      simp only [hclaim] at hrest
      rw [modifyProjection_bind] at hrest
      cases hverdict : clearanceVerdict st.projection.clearanceRegistry claim
          payload.verifier with
      | refused reason =>
          simp only [hverdict] at hrest
          simp only [hverdict]
          exact recordScan_keeps _ _ _ _ _ hrest
      | cleared =>
          simp only [hverdict] at hrest
          simp only [hverdict]
          unfold closeWait setNodeState at hrest
          rw [modifyProjection_bind] at hrest
          rcases bind_eq_ok.mp hrest with ⟨_, scanned, hscan, hset⟩
          have hkept := recordScan_keeps _ _ _ _ _ hscan
          rw [modifyProjection_eq_ok] at hset
          rw [← hset]
          have hnodes : scanned.projection.nodeStates = st.projection.nodeStates :=
            congrArg Lifecycle.nodeStates hkept
          change ({ scanned.projection.lifecycle with
            nodeStates := scanned.projection.nodeStates.insert _ _ } : Lifecycle) = _
          rw [hkept, hnodes]
          rfl

theorem foldCompletionRejected_effect {payload : CompletionRejected}
    (h : foldCompletionRejected event payload st = .ok () st') :
    (exists claim, st.projection.openClaims[payload.claimSeq]? = some claim) ∧
      st'.projection.lifecycle =
        { st.projection.lifecycle with
          openClaims := st.projection.openClaims.erase payload.claimSeq } := by
  unfold foldCompletionRejected at h
  rw [requireExecution_bind_eq_ok, getProjection_bind] at h
  have hrest := h.right
  cases hclaim : st.projection.openClaims[payload.claimSeq]? with
  | none =>
      rw [hclaim] at hrest
      exact absurd hrest (by simp)
  | some claim =>
      refine And.intro ⟨claim, rfl⟩ ?_
      simp only [hclaim] at hrest
      rw [modifyProjection_bind] at hrest
      exact recordScan_keeps _ _ _ _ _ hrest

/-!
## Status, ghosts and verdicts
-/

theorem foldExecutionPaused_eq_ok {payload : ExecutionPaused} :
    foldExecutionPaused payload st = .ok () st' <->
      st.projection.executionId = some payload.executionId.text ∧
        isPausable st.projection.simulationStatus = true ∧
        { st with
          projection := { st.projection with simulationStatus := some .paused } } = st' := by
  unfold foldExecutionPaused
  rw [requireExecution_bind_eq_ok, getProjection_bind, require_bind_eq_ok,
    modifyProjection_eq_ok]

theorem foldExecutionResumed_eq_ok {payload : ExecutionResumed} :
    foldExecutionResumed payload st = .ok () st' <->
      st.projection.executionId = some payload.executionId.text ∧
        st.projection.simulationStatus = some .paused ∧
        { st with
          projection :=
            { st.projection with
              driveFailure := none
              simulationStatus := some .running } } = st' := by
  unfold foldExecutionResumed
  rw [requireExecution_bind_eq_ok, getProjection_bind, require_bind_eq_ok,
    modifyProjection_eq_ok, decide_eq_true_iff]

theorem foldExecutionCompleted_eq_ok {payload : ExecutionCompleted} :
    foldExecutionCompleted payload st = .ok () st' <->
      st.projection.executionId = some payload.executionId.text ∧
        { st with
          projection :=
            { st.projection with simulationStatus := some payload.status } } = st' := by
  unfold foldExecutionCompleted
  rw [requireExecution_bind_eq_ok, modifyProjection_eq_ok]

theorem foldGhostNodeProposed_effect {payload : GhostNodeProposed}
    (h : foldGhostNodeProposed payload st = .ok () st') :
    st.projection.nodeStates[payload.nodeId.text]? = none ∧
      st'.projection.lifecycle =
        { st.projection.lifecycle with
          nodeStates := st.projection.nodeStates.insert payload.nodeId.text .ghost } := by
  unfold foldGhostNodeProposed at h
  rw [requireExecution_bind_eq_ok, getProjection_bind, require_bind_eq_ok,
    require_bind_eq_ok, modifyProjection_eq_ok] at h
  rcases h with ⟨_, habsent, _, heq⟩
  constructor
  · rw [Bool.not_eq_true'] at habsent
    exact ExtTreeMap.getElem?_eq_none_of_contains_eq_false habsent
  · rw [← heq]
    rfl

theorem foldGateVerdict_effect {payload : GateVerdict}
    (h : foldGateVerdict payload st = .ok () st') :
    st'.projection.lifecycle = verdictEffect payload st.projection := by
  unfold foldGateVerdict at h
  unfold verdictEffect
  by_cases hpassed : payload.passed
  · rw [if_pos hpassed] at h
    simp only [if_pos hpassed]
    cases h
    rfl
  · rw [if_neg hpassed] at h
    simp only [if_neg hpassed]
    rw [getProjection_bind, requireRoom_bind_eq_ok, modifyProjection_bind,
      checkedIncrement_bind_eq_ok, modifyProjection_eq_ok] at h
    rw [← h.right.right]
    simp only [ExecutionProjection.lifecycle, OrderedMap.insert_insert_self]

/-!
## Identities, dead letters and overdue episodes
-/

theorem foldClearanceIdentityRegistered_effect {payload : ClearanceIdentityRegistered}
    (h : foldClearanceIdentityRegistered payload st = .ok () st') :
    st'.projection.lifecycle =
      { st.projection.lifecycle with
        clearanceRegistry :=
          st.projection.clearanceRegistry.insert payload.identity.text
            payload.keyFingerprint } := by
  unfold foldClearanceIdentityRegistered at h
  rw [requireExecution_bind_eq_ok, getProjection_bind, requireRoom_bind_eq_ok,
    modifyProjection_eq_ok] at h
  rw [← h.right.right]
  rfl

theorem foldClearanceIdentityRevoked_effect {payload : ClearanceIdentityRevoked}
    (h : foldClearanceIdentityRevoked payload st = .ok () st') :
    st'.projection.lifecycle =
      { st.projection.lifecycle with
        clearanceRegistry :=
          st.projection.clearanceRegistry.erase payload.identity.text } := by
  unfold foldClearanceIdentityRevoked at h
  rw [requireExecution_bind_eq_ok, modifyProjection_eq_ok] at h
  rw [← h.right]
  rfl

theorem foldDlqRouted_effect {payload : DlqRouted}
    (h : foldDlqRouted event payload st = .ok () st') :
    st'.projection.lifecycle =
      { st.projection.lifecycle with
        openWaits := st.projection.openWaits.erase payload.nodeId.text
        openClaims :=
          st.projection.openClaims.map fun _ => stopClock payload.nodeId.text } := by
  unfold foldDlqRouted closeWait at h
  rw [requireExecution_bind_eq_ok, modifyProjection_bind, modifyProjection_bind] at h
  exact recordScan_keeps _ _ _ _ _ h.right

theorem foldDlqReturned_effect {payload : DlqReturned}
    (h : foldDlqReturned event payload st = .ok () st') :
    st'.projection.lifecycle =
      { st.projection.lifecycle with
        openWaits :=
          st.projection.openWaits.insert payload.nodeId.text
            { atSequence := event.sequence
              deadline := payload.waitWithinSeconds.bind
                (horizonAfter event.occurredAt) } } := by
  unfold foldDlqReturned at h
  rw [requireExecution_bind_eq_ok, getProjection_bind, requireRoom_bind_eq_ok] at h
  exact park_effect h.right.right

theorem foldDlqRedrive_effect {payload : DlqRedrive}
    (h : foldDlqRedrive event payload st = .ok () st') :
    st'.projection.lifecycle =
      { st.projection.lifecycle with
        openClaims :=
          st.projection.openClaims.map fun _ =>
            rebase event payload.nodeId.text
              (clearanceDeadline st.projection event payload.nodeId.text) } := by
  unfold foldDlqRedrive at h
  rw [requireExecution_bind_eq_ok, getProjection_bind, modifyProjection_bind] at h
  exact recordScan_keeps _ _ _ _ _ h.right

theorem foldOverdueException_effect {payload : OverdueException}
    (h : foldOverdueException payload st = .ok () st') :
    st'.projection.lifecycle =
      { st.projection.lifecycle with
        exceptionMarked :=
          st.projection.exceptionMarked.insert payload.episodeSequence } := by
  unfold foldOverdueException at h
  rw [requireExecution_bind_eq_ok, getProjection_bind, requireRoom_bind_eq_ok,
    modifyProjection_eq_ok] at h
  rw [← h.right.right]
  rfl

theorem foldExecutionStarted_effect {payload : ExecutionStarted}
    (h : foldExecutionStarted payload st = .ok () st') :
    st.projection.executionId = none ∧
      st'.projection.lifecycle =
        { st.projection.lifecycle with
          executionId := some payload.executionId.text
          startedGraphVersion := some payload.graphVersion } := by
  unfold foldExecutionStarted at h
  rw [getProjection_bind, require_bind_eq_ok, modifyProjection_eq_ok] at h
  constructor
  · exact Option.isNone_iff_eq_none.mp h.left
  · rw [← h.right]
    rfl

/-!
## The step
-/

/-- What the arm of `event` must find in the projection in order to accept. -/
def lifecycleGuard (event : EventEnvelope) (projection : ExecutionProjection) : Prop :=
  match event.kind with
  | .executionStarted _ => projection.executionId = none
  | .nodeOutcomeRecorded payload =>
      projection.executionId = some payload.executionId.text
  | .executionCompleted payload =>
      projection.executionId = some payload.executionId.text
  | .ghostNodeProposed payload => projection.nodeStates[payload.nodeId.text]? = none
  | .executionPaused payload =>
      projection.executionId = some payload.executionId.text ∧
        isPausable projection.simulationStatus = true
  | .executionResumed payload =>
      projection.executionId = some payload.executionId.text ∧
        projection.simulationStatus = some .paused
  | .completionCleared payload =>
      exists claim, projection.openClaims[payload.claimSeq]? = some claim
  | .completionRejected payload =>
      exists claim, projection.openClaims[payload.claimSeq]? = some claim
  | _ => True

theorem lifecycleGuard_of_spared (h : event.kind.sparesLifecycle = true) :
    lifecycleGuard event projection := by
  unfold lifecycleGuard
  cases hkind : event.kind <;> rw [hkind] at h <;> trivial

theorem lifecycleAfter_of_spared (h : event.kind.sparesLifecycle = true) :
    lifecycleAfter env event projection = projection.lifecycle := by
  unfold lifecycleAfter
  cases hkind : event.kind <;> rw [hkind] at h <;> first
    | rfl
    | exact absurd h Bool.false_ne_true

theorem foldKind_effect (h : foldKind env event st = .ok () st') :
    lifecycleGuard event st.projection ∧
      st'.projection.lifecycle = lifecycleAfter env event st.projection := by
  by_cases hspared : event.kind.sparesLifecycle = true
  · constructor
    · exact lifecycleGuard_of_spared hspared
    · rw [lifecycleAfter_of_spared hspared]
      exact foldKind_keeps hspared _ _ _ h
  · unfold lifecycleGuard lifecycleAfter
    unfold foldKind at h
    cases hkind : event.kind <;> rw [hkind] at hspared h <;> first
      | exact absurd rfl hspared
      | skip
    case simulationStarted =>
      cases h
      exact And.intro trivial rfl
    case simulationCompleted =>
      cases h
      exact And.intro trivial rfl
    case nodeStateChanged =>
      cases h
      exact And.intro trivial rfl
    case executionStarted =>
      exact foldExecutionStarted_effect h
    case nodeOutcomeRecorded =>
      exact foldNodeOutcomeRecorded_effect h
    case executionCompleted =>
      rcases foldExecutionCompleted_eq_ok.mp h with ⟨hexecution, heq⟩
      rw [← heq]
      exact And.intro hexecution rfl
    case ghostNodeProposed =>
      exact foldGhostNodeProposed_effect h
    case executionPaused =>
      rcases foldExecutionPaused_eq_ok.mp h with ⟨hexecution, hstatus, heq⟩
      rw [← heq]
      exact And.intro ⟨hexecution, hstatus⟩ rfl
    case executionResumed =>
      rcases foldExecutionResumed_eq_ok.mp h with ⟨hexecution, hstatus, heq⟩
      rw [← heq]
      exact And.intro ⟨hexecution, hstatus⟩ rfl
    case gateVerdict =>
      exact And.intro trivial (foldGateVerdict_effect h)
    case completionClaimed =>
      exact And.intro trivial (foldCompletionClaimed_effect h)
    case completionCleared =>
      exact foldCompletionCleared_effect h
    case completionRejected =>
      exact foldCompletionRejected_effect h
    case clearanceIdentityRegistered =>
      exact And.intro trivial (foldClearanceIdentityRegistered_effect h)
    case clearanceIdentityRevoked =>
      exact And.intro trivial (foldClearanceIdentityRevoked_effect h)
    case dlqRouted =>
      exact And.intro trivial (foldDlqRouted_effect h)
    case dlqReturned =>
      exact And.intro trivial (foldDlqReturned_effect h)
    case dlqRedrive =>
      exact And.intro trivial (foldDlqRedrive_effect h)
    case overdueException =>
      exact And.intro trivial (foldOverdueException_effect h)

/-- Naming the stream, which comes first, reaches nothing the guards or the effects read. -/
theorem lifecycleGuard_named {name : Option String} :
    lifecycleGuard event { projection with streamId := name } <->
      lifecycleGuard event projection := by
  unfold lifecycleGuard
  cases event.kind <;> exact Iff.rfl

theorem lifecycleAfter_named {name : Option String} :
    lifecycleAfter env event { projection with streamId := name } =
      { lifecycleAfter env event projection with streamId := name } := by
  unfold lifecycleAfter
  cases event.kind with
  | completionClaimed payload =>
      unfold claimEffect answersOpenWait
      dsimp only
      split <;> rfl
  | completionCleared payload =>
      unfold clearanceEffect
      dsimp only
      split
      · rfl
      · split <;> rfl
  | gateVerdict payload =>
      unfold verdictEffect
      dsimp only
      split <;> rfl
  | _ =>
      rfl

/-- The stream's name once `event` has been folded: the first event's, for good. -/
def streamNameAfter (event : EventEnvelope) (projection : ExecutionProjection) : Option String :=
  some (projection.streamId.getD event.streamId.text)

theorem lifecycle_of_accepted (h : applyProjectionEvent env event st = .ok () st') :
    lifecycleGuard event st.projection ∧
      st'.projection.lifecycle =
        { lifecycleAfter env event st.projection with
          streamId := streamNameAfter event st.projection } := by
  unfold applyProjectionEvent nameStream at h
  rw [modifyProjection_bind] at h
  have heffect := foldKind_effect h
  exact And.intro (lifecycleGuard_named.mp heffect.left)
    (heffect.right.trans lifecycleAfter_named)

end GraphHelm
