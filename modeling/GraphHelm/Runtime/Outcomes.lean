import GraphHelm.Library.Interleaving
import GraphHelm.Projection.Customs
import GraphHelm.Runtime.ProjectionCache

/-!
# Recording node outcomes

The writers of `NodeOutcomeRecorded`: `record_outcome_cached`
(`core/runtime/src/driver.rs`; the synchronous driver of `apps/cli` reads and
appends in the same three steps), `record_outcome_with_key` of the owner verbs,
which appends at the head it decided on, and the governor's acceptance of a
draft (`core/governor/src/apply.rs`).
-/

namespace GraphHelm

open Std
open ErrorState OrderedMap VerifiedStream

/-!
## The decision
-/

def transitionRequest (projection : ExecutionProjection) (node : String)
    (outcome : NodeOutcome) : TransitionRequest :=
  { current := projection.nodeStates[node]?.getD .draft
    outcome := outcome
    attempts := projection.nodeAttempts[node]?.getD 0
    identicalOutcomes := projection.identicalOutcomesFor node outcome }

structure GateVerdictSummary where
  gateId : String
  passed : Bool
  findings : LedgerData

structure WorkOutcome where
  outcome : NodeOutcome
  cause : LedgerData
  /-- The reuse ledger entry, which may point at a sealed record. -/
  reuse : Option (List EvidenceReference -> LedgerData)
  gateVerdict : Option GateVerdictSummary
  sealedReferences : List EvidenceReference

def executionStartEvent (started : List EventEnvelope) (executionId : OpaqueId) :
    Except DriverError EventEnvelope :=
  orRefuse
    (started.find? fun event =>
      match event.kind with
      | .executionStarted payload => payload.executionId = executionId
      | _ => false)
    .identity

structure OutcomeCall where
  executionId : OpaqueId
  actor : PersistedActor
  key : Nat -> OpaqueId

def OutcomeCall.newEvent (call : OutcomeCall) (index : Nat) (kind : EventKind)
    (references : List EvidenceReference) : NewEvent :=
  { idempotencyKey := call.key index
    actor := call.actor
    sensitivity := .internal
    kind := kind
    evidenceRefs := references
    artifactRefs := [] }

def OutcomeCall.outcomeKind (call : OutcomeCall) (nodeId : OpaqueId) (outcome : NodeOutcome)
    (nextState : NodeState) (cause : LedgerData) : EventKind :=
  .nodeOutcomeRecorded
    { executionId := call.executionId
      nodeId := nodeId
      outcome := outcome
      nextState := nextState
      cause := cause }

def verdictEvents (call : OutcomeCall) (nodeId : OpaqueId) (work : WorkOutcome) :
    Except DriverError (List NewEvent) :=
  match work.gateVerdict with
  | none => .ok []
  | some verdict => do
      let gateId <- orRefuse (OpaqueId.parse verdict.gateId) .identity
      .ok
        [call.newEvent 2
          (.gateVerdict
            { executionId := call.executionId
              nodeId := nodeId
              gateId := gateId
              passed := verdict.passed
              findings := verdict.findings })
          []]

/-- `record_outcome_cached` up to its second read: the batch decided on what `at_head` answered. -/
def decideOutcome (call : OutcomeCall) (node : String) (work : WorkOutcome)
    (projection : ExecutionProjection) (started : List EventEnvelope) :
    Except DriverError (List NewEvent) := do
  let _ <- executionStartEvent started call.executionId
  let nextState <-
    orRefuse (applyTransition (transitionRequest projection node work.outcome)) .transition
  let nodeId <- orRefuse (OpaqueId.parse node) .identity
  let verdicts <- verdictEvents call nodeId work
  let reuse :=
    match work.reuse with
    | none => []
    | some entry => [call.newEvent 1 (.reuseDecision (entry work.sealedReferences)) []]
  .ok
    (call.newEvent 0 (call.outcomeKind nodeId work.outcome nextState work.cause)
        work.sealedReferences :: (reuse ++ verdicts))

/-- `record_outcome_with_key`: an owner verb's outcome, refused to an agent not assigned. -/
def decideOwnerOutcome (call : OutcomeCall) (node : String) (outcome : NodeOutcome)
    (cause : LedgerData) (projection : ExecutionProjection) : Option (List NewEvent) := do
  let assignedElsewhere :=
    call.actor.actorType = .agent &&
      projection.nodeAssignments[node]?.any fun assigned => assigned != call.actor
  if assignedElsewhere then
    none
  else
    let nextState <- applyTransition (transitionRequest projection node outcome)
    let nodeId <- OpaqueId.parse node
    some [call.newEvent 0 (call.outcomeKind nodeId outcome nextState cause) []]

/-!
## The governor's acceptance
-/

def writesNodes : EventKind -> Bool
  | .nodeOutcomeRecorded _ | .nodeStateChanged _ | .ghostNodeProposed _
  | .completionCleared _ => true
  | _ => false

structure DraftAcceptance where
  executionId : OpaqueId
  draftId : OpaqueId
  proposalSha256 : RawSha256
  proposed : List OpaqueId
  assignments : List (OpaqueId × PersistedActor)
  /-- The proposal, its obligations and waivers, and the published version. -/
  publication : List EventKind
  /-- The accepted mutation and the applied draft. -/
  application : List EventKind
  distinct : proposed.Nodup
  assigned : (assignments.map Prod.fst).Nodup
  covered : forall entry, entry ∈ assignments -> entry.1 ∈ proposed
  published : forall kind, kind ∈ publication -> writesNodes kind = false
  applied : forall kind, kind ∈ application -> writesNodes kind = false

namespace DraftAcceptance

def ghostKind (acceptance : DraftAcceptance) (nodeId : OpaqueId) : EventKind :=
  .ghostNodeProposed
    { executionId := acceptance.executionId
      nodeId := nodeId
      draftId := acceptance.draftId }

/-- An assignment, and the approval of the ghost it is for. -/
def approvalKinds (acceptance : DraftAcceptance) (nextState : NodeState)
    (entry : OpaqueId × PersistedActor) : List EventKind :=
  [.nodeAssigned
      { executionId := acceptance.executionId
        nodeId := entry.1
        assignedActor := entry.2
        proposalSha256 := acceptance.proposalSha256 },
    .nodeOutcomeRecorded
      { executionId := acceptance.executionId
        nodeId := entry.1
        outcome := .approved
        nextState := nextState
        cause := "" }]

/-- The batch of `apply_draft_with_acceptance`, for a draft with an acceptance. -/
def kinds (acceptance : DraftAcceptance) : Option (List EventKind) := do
  let nextState <-
    applyTransition
      { current := .ghost, outcome := .approved, attempts := 0, identicalOutcomes := 0 }
  some
    (acceptance.publication ++
      (acceptance.proposed.map acceptance.ghostKind ++
        (acceptance.assignments.flatMap (acceptance.approvalKinds nextState) ++
          acceptance.application)))

end DraftAcceptance

/-!
## Writers
-/

inductive OutcomePhase where
  | idle
  /-- A driver has decided on the first `observed` events, and sealed its evidence. -/
  | decided (batch : List NewEvent) (observed : Nat)
  /-- The driver has read `next_sequence`. -/
  | placed (batch : List NewEvent) (position observed : Nat)
  /-- A verb has decided on the history whose last sequence is `observed`. -/
  | pinned (batch : List NewEvent) (observed : Nat)

inductive OutcomeAction where
  | decide (call : OutcomeCall) (node : String) (work : WorkOutcome)
  | readNextSequence
  | ownerDecide (call : OutcomeCall) (node : String) (outcome : NodeOutcome)
      (cause : LedgerData)
  | append (stamps : Stamps)
  /-- The sealer or the store refused, or the writer stopped. -/
  | abandon
  /-- The governor's batch, at the position it read before it decided anything. -/
  | accept (acceptance : DraftAcceptance) (batch : List NewEvent) (stamps : Stamps)
  /-- An append of anything that records no outcome. -/
  | other (news : List NewEvent) (stamps : Stamps)

def isOutcome : EventKind -> Bool
  | .nodeOutcomeRecorded _ => true
  | _ => false

section Writers

variable {env : Environment} {scope : RepositoryScope} {streamId : OpaqueId}

def headAnswer (stream : VerifiedStream env scope streamId.text) : HeadAnswer :=
  match replay env scope streamId.text stream.events with
  | .ok projection => .ok (projection, stream.events.filter isExecutionStarted)
  | .error error => .error (.replay error)

def outcomeMove (stream : VerifiedStream env scope streamId.text) (phase : OutcomePhase)
    (action : OutcomeAction) :
    Option (VerifiedStream env scope streamId.text × OutcomePhase) :=
  match phase, action with
  | .idle, .decide call node work =>
      match headAnswer stream with
      | .error _ => none
      | .ok (projection, started) =>
          match decideOutcome call node work projection started with
          | .ok batch => some (stream, .decided batch stream.events.length)
          | .error _ => none
  | .decided batch observed, .readNextSequence =>
      some (stream, .placed batch stream.nextSequence observed)
  | .placed batch position _, .append stamps =>
      settle .idle (stream.append stamps position batch)
  | .idle, .ownerDecide call node outcome cause =>
      match replay env scope streamId.text stream.events with
      | .error _ => none
      | .ok projection =>
          (decideOwnerOutcome call node outcome cause projection).map fun batch =>
            (stream, .pinned batch (atSequence stream.events))
  | .pinned batch observed, .append stamps =>
      settle .idle (stream.append stamps (observed + 1) batch)
  | .idle, .accept acceptance batch stamps =>
      if some (batch.map NewEvent.kind) = acceptance.kinds then
        settle .idle (stream.append stamps stream.nextSequence batch)
      else
        none
  | .idle, .other news stamps =>
      if news.any fun event => isOutcome event.kind then
        none
      else
        settle .idle (stream.append stamps stream.nextSequence news)
  | _, .abandon => some (stream, .idle)
  | _, _ => none

end Writers

/-!
## The law, and what endangers it
-/

def OutcomesFollow (env : Environment) (events : List EventEnvelope) : Prop :=
  forall (before later : List EventEnvelope) (event : EventEnvelope)
      (payload : NodeOutcomeRecorded) (st : FoldState),
    events = before ++ event :: later ->
    event.kind = .nodeOutcomeRecorded payload ->
    foldHistory env before = some st ->
    applyTransition (transitionRequest st.projection payload.nodeId.text payload.outcome) =
      some payload.nextState

def touches (projection : ExecutionProjection) (node : String) (event : EventEnvelope) : Bool :=
  match event.kind with
  | .nodeOutcomeRecorded payload => payload.nodeId.text = node
  | .nodeStateChanged payload => payload.nodeId.text = node
  | .ghostNodeProposed payload => payload.nodeId.text = node
  | .completionCleared _ => releasedNode projection event = some node
  | _ => false

def Untouched (env : Environment) (node : String) (events : List EventEnvelope)
    (observed : Nat) : Prop :=
  forall (before later : List EventEnvelope) (event : EventEnvelope) (st : FoldState),
    events = before ++ event :: later -> observed <= before.length ->
    foldHistory env before = some st -> touches st.projection node event = false

/--
When a driver appends an outcome, nothing committed since `at_head` answered has
touched the outcome's node.
-/
def DecisionsUndisturbed {env : Environment} {scope : RepositoryScope}
    {streamId : OpaqueId} (stream : VerifiedStream env scope streamId.text)
    (phase : OutcomePhase) (action : OutcomeAction) : Prop :=
  match phase, action with
  | .placed batch _ observed, .append _ =>
      forall new payload, new ∈ batch -> new.kind = .nodeOutcomeRecorded payload ->
        Untouched env payload.nodeId.text stream.events observed
  | _, _ => True

/-!
## Events that leave a node alone
-/

variable {events : List EventEnvelope} {batch : List NewEvent} {outcome : NodeOutcome}
    {projection : ExecutionProjection}

section Frame

variable {env : Environment} {event : EventEnvelope} {st st' : FoldState} {node : String}

def writtenState (projection : ExecutionProjection) (node : String) (event : EventEnvelope) :
    Option NodeState :=
  match event.kind with
  | .nodeOutcomeRecorded payload =>
      if payload.nodeId.text = node then some payload.nextState else none
  | .nodeStateChanged payload =>
      if payload.nodeId.text = node then some payload.nextState else none
  | .ghostNodeProposed payload => if payload.nodeId.text = node then some .ghost else none
  | .completionCleared _ =>
      if releasedNode projection event = some node then some .succeeded else none
  | _ => none

theorem getElem?_insert_or (states : ExtTreeMap String NodeState) (key : String)
    (state : NodeState) :
    (states.insert key state)[node]? =
      (if key = node then some state else none).or states[node]? := by
  by_cases hsame : key = node
  · rw [if_pos hsame, hsame]
    exact ExtTreeMap.getElem?_insert_self
  · rw [if_neg hsame]
    exact getElem?_insert_of_ne hsame

theorem nodeState_of_accepted (h : applyProjectionEvent env event st = .ok () st') :
    st'.projection.nodeStates[node]? =
      (writtenState st.projection node event).or st.projection.nodeStates[node]? := by
  have hstates := nodeStates_of_accepted h
  unfold lifecycleAfter at hstates
  unfold writtenState
  cases hkind : event.kind
  all_goals simp only [hkind] at hstates ⊢
  case nodeOutcomeRecorded payload =>
    rw [hstates]
    exact getElem?_insert_or _ _ _
  case nodeStateChanged payload =>
    rw [hstates]
    exact getElem?_insert_or _ _ _
  case ghostNodeProposed payload =>
    rw [hstates]
    exact getElem?_insert_or _ _ _
  case completionCleared payload =>
    rw [nodeStates_of_customs h (by rw [hkind]; rfl)]
    cases hreleased : releasedNode st.projection event with
    | none =>
        rfl
    | some released =>
        rw [getElem?_insert_or]
        simp only [Option.some.injEq]
  case completionClaimed payload =>
    rw [hstates, claimEffect_spares]
    rfl
  case gateVerdict payload =>
    rw [hstates, verdictEffect_spares]
    rfl
  all_goals
    rw [hstates]
    rfl

theorem transitionRequest_congr {first second : ExecutionProjection}
    (hstate : first.nodeStates[node]? = second.nodeStates[node]?)
    (hattempts : first.nodeAttempts[node]? = second.nodeAttempts[node]?)
    (hlast : first.lastOutcome[node]? = second.lastOutcome[node]?)
    (hrun : first.identicalOutcomes[node]? = second.identicalOutcomes[node]?)
    (outcome : NodeOutcome) :
    transitionRequest first node outcome = transitionRequest second node outcome := by
  unfold transitionRequest ExecutionProjection.identicalOutcomesFor
  rw [hstate, hattempts, hlast, hrun]

theorem transitionRequest_of_accepted (h : applyProjectionEvent env event st = .ok () st')
    (htouches : touches st.projection node event = false) (outcome : NodeOutcome) :
    transitionRequest st'.projection node outcome =
      transitionRequest st.projection node outcome := by
  have heffect := (lifecycle_of_accepted h).right
  have hstates : st'.projection.nodeStates =
      (lifecycleAfter env event st.projection).nodeStates :=
    congrArg Lifecycle.nodeStates heffect
  have hattempts : st'.projection.nodeAttempts =
      (lifecycleAfter env event st.projection).nodeAttempts :=
    congrArg Lifecycle.nodeAttempts heffect
  have hlast : st'.projection.lastOutcome =
      (lifecycleAfter env event st.projection).lastOutcome :=
    congrArg Lifecycle.lastOutcome heffect
  have hrun : st'.projection.identicalOutcomes =
      (lifecycleAfter env event st.projection).identicalOutcomes :=
    congrArg Lifecycle.identicalOutcomes heffect
  unfold lifecycleAfter at hstates hattempts hlast hrun
  unfold touches at htouches
  cases hkind : event.kind
  all_goals simp only [hkind] at hstates hattempts hlast hrun htouches
  case nodeOutcomeRecorded payload =>
    have hother : payload.nodeId.text ≠ node := of_decide_eq_false htouches
    unfold outcomeEffect at hstates hattempts hlast hrun
    apply transitionRequest_congr
    · rw [hstates]
      exact getElem?_insert_of_ne hother
    · rw [hattempts]
      exact getElem?_insert_of_ne hother
    · rw [hlast]
      dsimp only
      split
      · rfl
      · exact getElem?_insert_of_ne hother
    · rw [hrun]
      dsimp only
      split
      · rfl
      · exact getElem?_insert_of_ne hother
  case nodeStateChanged payload =>
    have hother : payload.nodeId.text ≠ node := of_decide_eq_false htouches
    apply transitionRequest_congr
    · rw [hstates]
      exact getElem?_insert_of_ne hother
    · rw [hattempts]
      rfl
    · rw [hlast]
      rfl
    · rw [hrun]
      rfl
  case ghostNodeProposed payload =>
    have hother : payload.nodeId.text ≠ node := of_decide_eq_false htouches
    apply transitionRequest_congr
    · rw [hstates]
      exact getElem?_insert_of_ne hother
    · rw [hattempts]
      rfl
    · rw [hlast]
      rfl
    · rw [hrun]
      rfl
  case completionCleared payload =>
    have hother : releasedNode st.projection event ≠ some node := of_decide_eq_false htouches
    apply transitionRequest_congr
    · rw [nodeStates_of_customs h (by rw [hkind]; rfl)]
      cases hreleased : releasedNode st.projection event with
      | none =>
          rfl
      | some released =>
          rw [hreleased] at hother
          exact getElem?_insert_of_ne fun heq => hother (congrArg some heq)
    · rw [hattempts]
      exact congrArg (fun l => (Lifecycle.nodeAttempts l)[node]?) clearanceEffect_spares
    · rw [hlast]
      exact congrArg (fun l => (Lifecycle.lastOutcome l)[node]?) clearanceEffect_spares
    · rw [hrun]
      exact congrArg (fun l => (Lifecycle.identicalOutcomes l)[node]?) clearanceEffect_spares
  case completionClaimed payload =>
    have hspares := @claimEffect_spares env event st.projection payload
    rw [hspares] at hstates hattempts hlast hrun
    exact transitionRequest_congr (by rw [hstates]; rfl) (by rw [hattempts]; rfl)
      (by rw [hlast]; rfl) (by rw [hrun]; rfl) outcome
  case gateVerdict payload =>
    have hspares := @verdictEffect_spares st.projection payload
    rw [hspares] at hstates hattempts hlast hrun
    exact transitionRequest_congr (by rw [hstates]; rfl) (by rw [hattempts]; rfl)
      (by rw [hlast]; rfl) (by rw [hrun]; rfl) outcome
  all_goals
    exact transitionRequest_congr (by rw [hstates]; rfl) (by rw [hattempts]; rfl)
      (by rw [hlast]; rfl) (by rw [hrun]; rfl) outcome

theorem Untouched.of_concat {observed : Nat}
    (h : Untouched env node (events ++ [event]) observed) :
    Untouched env node events observed := by
  intro before later other st hsplit hafter hfold
  refine h before (later ++ [event]) other st ?_ hafter hfold
  rw [hsplit, List.append_assoc, List.cons_append]

/-- What was asked of a node still is, once nothing since has touched it. -/
theorem transitionRequest_of_untouched {before since : List EventEnvelope}
    (hbefore : foldHistory env before = some st)
    (hfold : foldHistory env (before ++ since) = some st')
    (h : Untouched env node (before ++ since) before.length) (outcome : NodeOutcome) :
    transitionRequest st'.projection node outcome =
      transitionRequest st.projection node outcome := by
  induction since using List.reverseRecOn generalizing st' with
  | nil =>
      rw [List.append_nil, hbefore] at hfold
      cases hfold
      rfl
  | append_singleton since event ih =>
      rw [← List.append_assoc] at hfold h
      rcases foldHistory_concat.mp hfold with ⟨earlier, hearlier, haccepted⟩
      have htouches := h (before ++ since) [] event earlier rfl
        (by rw [List.length_append]; exact Nat.le_add_right _ _) hearlier
      rw [transitionRequest_of_accepted haccepted htouches]
      exact ih hearlier h.of_concat

end Frame

/-!
## Batches that follow the history they are appended to
-/

def BatchFollows (projection : ExecutionProjection) (batch : List NewEvent) : Prop :=
  exists (first : NewEvent) (rest : List NewEvent) (payload : NodeOutcomeRecorded),
    batch = first :: rest ∧ first.kind = .nodeOutcomeRecorded payload ∧
      applyTransition (transitionRequest projection payload.nodeId.text payload.outcome) =
        some payload.nextState ∧
      forall event, event ∈ rest -> isOutcome event.kind = false

def BatchRecords (projection : ExecutionProjection) (node : String) (outcome : NodeOutcome)
    (batch : List NewEvent) : Prop :=
  exists (first : NewEvent) (rest : List NewEvent) (payload : NodeOutcomeRecorded),
    batch = first :: rest ∧ first.kind = .nodeOutcomeRecorded payload ∧
      payload.nodeId.text = node ∧ payload.outcome = outcome ∧
      applyTransition (transitionRequest projection node outcome) = some payload.nextState ∧
      forall event, event ∈ rest -> writesNodes event.kind = false

theorem not_outcome_of_plain {kind : EventKind} (h : writesNodes kind = false) :
    isOutcome kind = false := by
  cases kind <;> first | rfl | exact absurd h.symm Bool.false_ne_true

theorem BatchRecords.follows {node : String} (h : BatchRecords projection node outcome batch) :
    BatchFollows projection batch := by
  rcases h with ⟨first, rest, payload, hbatch, hkind, rfl, rfl, hnext, hplain⟩
  exact ⟨first, rest, payload, hbatch, hkind, hnext,
    fun event hmem => not_outcome_of_plain (hplain event hmem)⟩

theorem verdictEvents_plain {call : OutcomeCall} {nodeId : OpaqueId} {work : WorkOutcome}
    {events : List NewEvent} (h : verdictEvents call nodeId work = .ok events) :
    forall event, event ∈ events -> writesNodes event.kind = false := by
  intro event hmem
  unfold verdictEvents at h
  split at h
  · cases h
    exact absurd hmem List.not_mem_nil
  · rcases bind_ok h with ⟨gateId, _, h⟩
    cases h
    rw [List.mem_singleton.mp hmem]
    rfl

theorem decideOutcome_records {call : OutcomeCall} {node : String} {work : WorkOutcome}
    {started : List EventEnvelope}
    (h : decideOutcome call node work projection started = .ok batch) :
    BatchRecords projection node work.outcome batch := by
  unfold decideOutcome at h
  rcases bind_ok h with ⟨_, _, h⟩
  rcases bind_ok h with ⟨nextState, hnext, h⟩
  rcases bind_ok h with ⟨nodeId, hnode, h⟩
  rcases bind_ok h with ⟨verdicts, hverdicts, h⟩
  cases h
  refine ⟨_, _, _, rfl, rfl, OpaqueId.text_of_parse (orRefuse_eq_ok.mp hnode), rfl,
    orRefuse_eq_ok.mp hnext, ?_⟩
  intro event hmem
  rcases List.mem_append.mp hmem with hreuse | hverdict
  · cases hentry : work.reuse with
    | none =>
        rw [hentry] at hreuse
        exact absurd hreuse List.not_mem_nil
    | some entry =>
        rw [hentry] at hreuse
        rw [List.mem_singleton.mp hreuse]
        rfl
  · exact verdictEvents_plain hverdicts event hverdict

theorem decideOutcome_follows {call : OutcomeCall} {node : String} {work : WorkOutcome}
    {started : List EventEnvelope}
    (h : decideOutcome call node work projection started = .ok batch) :
    BatchFollows projection batch :=
  (decideOutcome_records h).follows

theorem decideOwnerOutcome_records {call : OutcomeCall} {node : String} {cause : LedgerData}
    (h : decideOwnerOutcome call node outcome cause projection = some batch) :
    BatchRecords projection node outcome batch := by
  unfold decideOwnerOutcome at h
  dsimp only at h
  split at h
  · cases h
  · rcases Option.bind_eq_some_iff.mp h with ⟨nextState, hnext, h⟩
    rcases Option.bind_eq_some_iff.mp h with ⟨nodeId, hnode, h⟩
    cases h
    exact ⟨_, [], _, rfl, rfl, OpaqueId.text_of_parse hnode, rfl, hnext,
      fun event hmem => absurd hmem List.not_mem_nil⟩

theorem decideOwnerOutcome_follows {call : OutcomeCall} {node : String} {cause : LedgerData}
    (h : decideOwnerOutcome call node outcome cause projection = some batch) :
    BatchFollows projection batch :=
  (decideOwnerOutcome_records h).follows

theorem OutcomesFollow.append {env : Environment} {before added : List EventEnvelope}
    (h : OutcomesFollow env before)
    (hadded : forall (first rest : List EventEnvelope) (event : EventEnvelope)
        (payload : NodeOutcomeRecorded) (st : FoldState),
      added = first ++ event :: rest -> event.kind = .nodeOutcomeRecorded payload ->
      foldHistory env (before ++ first) = some st ->
      applyTransition
          (transitionRequest st.projection payload.nodeId.text payload.outcome) =
        some payload.nextState) :
    OutcomesFollow env (before ++ added) := by
  intro earlier later event payload st hsplit hkind hfold
  rcases List.append_eq_append_iff.mp hsplit with
    ⟨first, hearlier, hadd⟩ | ⟨rest, hbefore, hlater⟩
  · rw [hearlier] at hfold
    exact hadded first later event payload st hadd hkind hfold
  · cases rest with
    | nil =>
        rw [List.append_nil] at hbefore
        have hadd : added = [] ++ event :: later := hlater.symm
        refine hadded [] later event payload st hadd hkind ?_
        rw [List.append_nil, hbefore]
        exact hfold
    | cons head rest =>
        have hhead : head = event := (List.cons.inj hlater).left.symm
        rw [hhead] at hbefore
        exact h earlier rest event payload st hbefore hkind hfold

theorem OutcomesFollow.appended {env : Environment} {position : Nat} {batch : List NewEvent}
    {before after added : List EventEnvelope} (h : OutcomesFollow env before)
    (hbatch : forall st, foldHistory env before = some st -> BatchFollows st.projection batch)
    (happended : Appended position batch before after added) : OutcomesFollow env after := by
  rw [happended.extended]
  apply h.append
  intro first rest event payload st hsplit hkind hfold
  rcases foldHistory_append.mp hfold with ⟨earlier, hearlier, hrun⟩
  rcases hbatch earlier hearlier with ⟨head, tail, decided, hbatch, hhead, hfollows, hplain⟩
  have hcarries := happended.carries
  rw [hsplit, hbatch] at hcarries
  cases first with
  | nil =>
      have hnew : event.toNewEvent = head := (List.cons.inj hcarries).left
      have hsame : event.kind = head.kind := congrArg NewEvent.kind hnew
      rw [hkind, hhead] at hsame
      cases hsame
      cases hrun
      exact hfollows
  | cons other others =>
      have htail := (List.cons.inj hcarries).right
      have hmem : event.toNewEvent ∈ tail := by
        rw [← htail]
        exact List.mem_map_of_mem (List.mem_append_right others List.mem_cons_self)
      have hnone := hplain event.toNewEvent hmem
      change isOutcome event.kind = false at hnone
      rw [hkind] at hnone
      cases hnone

theorem OutcomesFollow.appended_plain {env : Environment} {position : Nat}
    {news : List NewEvent} {before after added : List EventEnvelope}
    (h : OutcomesFollow env before)
    (hplain : forall event, event ∈ news -> isOutcome event.kind = false)
    (happended : Appended position news before after added) : OutcomesFollow env after := by
  rw [happended.extended]
  apply h.append
  intro first rest event payload st hsplit hkind hfold
  have hmem : event ∈ added := by
    rw [hsplit]
    exact List.mem_append_right first List.mem_cons_self
  rcases happended.mem_kind hmem with ⟨new, hnew, hsame⟩
  have hnone := hplain new hnew
  rw [← hsame, hkind] at hnone
  cases hnone

/-!
## The acceptance follows its own ghosts
-/

namespace DraftAcceptance

variable {acceptance : DraftAcceptance} {kinds : List EventKind}

theorem kinds_eq (acceptance : DraftAcceptance) :
    acceptance.kinds =
      some
        (acceptance.publication ++
          (acceptance.proposed.map acceptance.ghostKind ++
            (acceptance.assignments.flatMap (acceptance.approvalKinds .ready) ++
              acceptance.application))) := rfl

structure ApprovalReady (node : OpaqueId) (earlier : List EventKind) : Prop where
  proposed : exists payload : GhostNodeProposed,
    payload.nodeId = node ∧ .ghostNodeProposed payload ∈ earlier
  others : forall kind, kind ∈ earlier -> writesNodes kind = true ->
    (exists payload : GhostNodeProposed, kind = .ghostNodeProposed payload) ∨
      exists payload : NodeOutcomeRecorded, kind = .nodeOutcomeRecorded payload ∧
        payload.nodeId ≠ node

def outcomeNodes (kinds : List EventKind) : List OpaqueId :=
  kinds.filterMap fun kind =>
    match kind with
    | .nodeOutcomeRecorded payload => some payload.nodeId
    | _ => none

theorem outcomeNodes_of_plain (h : forall kind, kind ∈ kinds -> isOutcome kind = false) :
    outcomeNodes kinds = [] := by
  unfold outcomeNodes
  rw [List.filterMap_eq_nil_iff]
  intro kind hmem
  have hplain := h kind hmem
  cases kind <;> first | rfl | exact absurd hplain.symm Bool.false_ne_true

theorem mem_outcomeNodes {payload : NodeOutcomeRecorded}
    (h : .nodeOutcomeRecorded payload ∈ kinds) : payload.nodeId ∈ outcomeNodes kinds :=
  List.mem_filterMap.mpr ⟨_, h, rfl⟩

theorem outcomeNodes_append (first second : List EventKind) :
    outcomeNodes (first ++ second) = outcomeNodes first ++ outcomeNodes second := by
  unfold outcomeNodes
  exact List.filterMap_append

theorem outcomeNodes_approvals (acceptance : DraftAcceptance)
    (entries : List (OpaqueId × PersistedActor)) :
    outcomeNodes (entries.flatMap (acceptance.approvalKinds .ready)) =
      entries.map Prod.fst := by
  induction entries with
  | nil =>
      rfl
  | cons entry rest ih =>
      rw [List.flatMap_cons, outcomeNodes_append, ih]
      rfl

theorem ghostKind_plain {kind : EventKind}
    (h : kind ∈ acceptance.proposed.map acceptance.ghostKind) : isOutcome kind = false := by
  rcases List.mem_map.mp h with ⟨node, _, rfl⟩
  rfl

theorem mem_kinds (hkinds : acceptance.kinds = some kinds) {kind : EventKind}
    (hmem : kind ∈ kinds) (hwrites : writesNodes kind = true) :
    kind ∈ acceptance.proposed.map acceptance.ghostKind ∨
      exists entry, entry ∈ acceptance.assignments ∧
        kind =
          .nodeOutcomeRecorded
            { executionId := acceptance.executionId
              nodeId := entry.1
              outcome := .approved
              nextState := .ready
              cause := "" } := by
  rw [kinds_eq] at hkinds
  cases hkinds
  rcases List.mem_append.mp hmem with hpublished | hmem
  · rw [acceptance.published kind hpublished] at hwrites
    cases hwrites
  rcases List.mem_append.mp hmem with hghost | hmem
  · exact Or.inl hghost
  rcases List.mem_append.mp hmem with happroval | happlied
  · rcases List.mem_flatMap.mp happroval with ⟨entry, hentry, hkind⟩
    unfold approvalKinds at hkind
    rcases List.mem_cons.mp hkind with hassigned | houtcome
    · rw [hassigned] at hwrites
      cases hwrites
    · exact Or.inr ⟨entry, hentry, List.mem_singleton.mp houtcome⟩
  · rw [acceptance.applied kind happlied] at hwrites
    cases hwrites

theorem approvalReady (hkinds : acceptance.kinds = some kinds)
    {first rest : List EventKind} {payload : NodeOutcomeRecorded}
    (hsplit : kinds = first ++ .nodeOutcomeRecorded payload :: rest) :
    payload.outcome = .approved ∧ payload.nextState = .ready ∧
      ApprovalReady payload.nodeId first := by
  have hin : .nodeOutcomeRecorded payload ∈ kinds := by
    rw [hsplit]
    exact List.mem_append_right first List.mem_cons_self
  have hghosts : forall kind, kind ∈ acceptance.publication ++
      acceptance.proposed.map acceptance.ghostKind -> isOutcome kind = false := by
    intro kind hmem
    rcases List.mem_append.mp hmem with hpublished | hghost
    · exact not_outcome_of_plain (acceptance.published kind hpublished)
    · exact ghostKind_plain hghost
  rcases mem_kinds hkinds hin rfl with hghost | ⟨entry, hentry, hpayload⟩
  · have hplain := ghostKind_plain hghost
    cases hplain
  cases hpayload
  refine ⟨rfl, rfl, ⟨?_, ?_⟩⟩
  · -- The ghosts all come before the first outcome, so the entry's is among them.
    have hproposed : acceptance.ghostKind entry.1 ∈ first := by
      have hghost : acceptance.ghostKind entry.1 ∈ acceptance.publication ++
          acceptance.proposed.map acceptance.ghostKind :=
        List.mem_append_right _
          (List.mem_map_of_mem (acceptance.covered entry hentry))
      rw [kinds_eq, ← List.append_assoc] at hkinds
      rw [← Option.some.inj hkinds] at hsplit
      rcases List.append_eq_append_iff.mp hsplit with
        ⟨between, hfirst, _⟩ | ⟨between, hbefore, hafter⟩
      · rw [hfirst]
        exact List.mem_append_left between hghost
      · cases between with
        | nil =>
            rw [List.append_nil] at hbefore
            rw [← hbefore]
            exact hghost
        | cons head between =>
            have hhead := (List.cons.inj hafter).left
            have hplain := hghosts head (by
              rw [hbefore]
              exact List.mem_append_right first List.mem_cons_self)
            rw [← hhead] at hplain
            cases hplain
    exact ⟨_, rfl, hproposed⟩
  · intro kind hmem hwrites
    have hwhole : kind ∈ kinds := by
      rw [hsplit]
      exact List.mem_append_left _ hmem
    rcases mem_kinds hkinds hwhole hwrites with hghost | ⟨other, hother, hkind⟩
    · rcases List.mem_map.mp hghost with ⟨node, _, heq⟩
      exact Or.inl ⟨_, heq.symm⟩
    · refine Or.inr ⟨_, hkind, ?_⟩
      intro hsame
      have hnodes : outcomeNodes kinds = acceptance.assignments.map Prod.fst := by
        rw [kinds_eq, ← List.append_assoc] at hkinds
        have hclosing : outcomeNodes acceptance.application = [] :=
          outcomeNodes_of_plain fun kind hmem =>
            not_outcome_of_plain (acceptance.applied kind hmem)
        rw [← Option.some.inj hkinds, outcomeNodes_append (_ ++ _),
          outcomeNodes_append (List.flatMap _ _), outcomeNodes_of_plain hghosts,
          outcomeNodes_approvals, hclosing, List.append_nil, List.nil_append]
      have hdistinct := acceptance.assigned
      rw [← hnodes, hsplit, outcomeNodes_append, List.nodup_append] at hdistinct
      rw [hkind] at hmem
      exact hdistinct.right.right _ (mem_outcomeNodes hmem) _ List.mem_cons_self hsame

theorem ApprovalReady.untouched {node : OpaqueId} {earlier : List EventKind}
    {projection : ExecutionProjection} {event : EventEnvelope}
    (h : ApprovalReady node (earlier ++ [event.kind]))
    (hother : forall payload : GhostNodeProposed, event.kind = .ghostNodeProposed payload ->
      payload.nodeId ≠ node) : touches projection node.text event = false := by
  have hmem : event.kind ∈ earlier ++ [event.kind] := List.mem_append_right _ List.mem_cons_self
  have hwrites := h.others event.kind hmem
  unfold touches
  cases hkind : event.kind <;> first | rfl | skip
  case ghostNodeProposed payload =>
    refine decide_eq_false fun htext => ?_
    exact hother payload hkind (OpaqueId.text_injective htext)
  case nodeOutcomeRecorded payload =>
    refine decide_eq_false fun htext => ?_
    rcases hwrites (by rw [hkind]; rfl) with ⟨_, hghost⟩ | ⟨_, houtcome, hne⟩
    · rw [hkind] at hghost
      cases hghost
    · rw [hkind] at houtcome
      cases houtcome
      exact hne (OpaqueId.text_injective htext)
  all_goals
    rcases hwrites (by rw [hkind]; rfl) with ⟨_, hghost⟩ | ⟨_, houtcome, _⟩
    · rw [hkind] at hghost
      cases hghost
    · rw [hkind] at houtcome
      cases houtcome

theorem ApprovalReady.ghost {env : Environment} {node : OpaqueId} {st st' : FoldState}
    {first : List EventEnvelope} (hrun : run (accept env) st first = some st')
    (h : ApprovalReady node (first.map EventEnvelope.kind)) :
    (transitionRequest st'.projection node.text .approved).current = .ghost := by
  induction first using List.reverseRecOn generalizing st' with
  | nil =>
      rcases h.proposed with ⟨payload, _, hmem⟩
      exact absurd hmem List.not_mem_nil
  | append_singleton earlier event ih =>
      rw [run_append] at hrun
      rcases Option.bind_eq_some_iff.mp hrun with ⟨middle, hearlier, hlast⟩
      rw [run_singleton] at hlast
      have haccepted := accept_eq_some.mp hlast
      rw [List.map_append, List.map_singleton] at h
      by_cases hghost : exists payload : GhostNodeProposed,
          event.kind = .ghostNodeProposed payload ∧ payload.nodeId = node
      · rcases hghost with ⟨payload, hkind, rfl⟩
        have hstates := nodeStates_of_accepted haccepted
        unfold lifecycleAfter at hstates
        rw [hkind] at hstates
        unfold transitionRequest
        dsimp only
        rw [hstates]
        show ((middle.projection.nodeStates.insert payload.nodeId.text .ghost)[
          payload.nodeId.text]?).getD .draft = .ghost
        rw [ExtTreeMap.getElem?_insert_self]
        rfl
      · have hother : forall payload : GhostNodeProposed,
            event.kind = .ghostNodeProposed payload -> payload.nodeId ≠ node :=
          fun payload hkind hnode => hghost ⟨payload, hkind, hnode⟩
        rw [transitionRequest_of_accepted haccepted (h.untouched hother)]
        refine ih hearlier ⟨?_, fun kind hmem => h.others kind (List.mem_append_left _ hmem)⟩
        rcases h.proposed with ⟨payload, hnode, hmem⟩
        refine ⟨payload, hnode, ?_⟩
        rcases List.mem_append.mp hmem with hin | hlast
        · exact hin
        · exact absurd hnode (hother payload (List.mem_singleton.mp hlast).symm)

end DraftAcceptance

theorem applyTransition_ghost {request : TransitionRequest}
    (hcurrent : request.current = .ghost) (houtcome : request.outcome = .approved) :
    applyTransition request = some .ready := by
  rcases request with ⟨current, outcome, attempts, identical⟩
  cases hcurrent
  cases houtcome
  rfl

theorem OutcomesFollow.accepted {env : Environment} {position : Nat} {batch : List NewEvent}
    {acceptance : DraftAcceptance} {before after added : List EventEnvelope}
    (h : OutcomesFollow env before)
    (hkinds : some (batch.map NewEvent.kind) = acceptance.kinds)
    (happended : Appended position batch before after added) : OutcomesFollow env after := by
  rw [happended.extended]
  apply h.append
  intro first rest event payload st hsplit hkind hfold
  have hbatch : batch.map NewEvent.kind =
      first.map EventEnvelope.kind ++
        .nodeOutcomeRecorded payload :: rest.map EventEnvelope.kind := by
    calc
      batch.map NewEvent.kind
          = (added.map EventEnvelope.toNewEvent).map NewEvent.kind := by rw [happended.carries]
      _ = added.map EventEnvelope.kind := by rw [List.map_map]; rfl
      _ = first.map EventEnvelope.kind ++
            .nodeOutcomeRecorded payload :: rest.map EventEnvelope.kind := by
        rw [hsplit, List.map_append, List.map_cons, hkind]
  rcases DraftAcceptance.approvalReady hkinds.symm hbatch with ⟨houtcome, hnext, hready⟩
  rcases foldHistory_append.mp hfold with ⟨earlier, _, hrun⟩
  rw [houtcome, hnext]
  exact applyTransition_ghost (hready.ghost hrun) rfl

/-!
## What the writers guarantee each other
-/

section Guarantees

variable {env : Environment} {scope : RepositoryScope} {streamId : OpaqueId}
  {stream stream' : VerifiedStream env scope streamId.text} {phase phase' : OutcomePhase}
  {action : OutcomeAction}

def DecidedOn (stream : VerifiedStream env scope streamId.text) (batch : List NewEvent)
    (observed : Nat) : Prop :=
  observed <= stream.events.length ∧
    exists st, foldHistory env (stream.events.take observed) = some st ∧
      BatchFollows st.projection batch

def OutcomeSound (stream : VerifiedStream env scope streamId.text) : OutcomePhase -> Prop
  | .idle => True
  | .decided batch observed => DecidedOn stream batch observed
  | .placed batch _ observed => DecidedOn stream batch observed
  | .pinned batch observed => DecidedOn stream batch observed

/-- The moves of a writer of outcomes, with what each of them establishes. -/
inductive OutcomeStep (stream : VerifiedStream env scope streamId.text) :
    OutcomePhase -> OutcomeAction -> VerifiedStream env scope streamId.text ->
    OutcomePhase -> Prop
  | abandon {phase : OutcomePhase} : OutcomeStep stream phase .abandon stream .idle
  | decide {call : OutcomeCall} {node : String} {work : WorkOutcome} {batch : List NewEvent}
      (hdecided : DecidedOn stream batch stream.events.length) :
      OutcomeStep stream .idle (.decide call node work) stream
        (.decided batch stream.events.length)
  | readNextSequence {batch : List NewEvent} {observed : Nat} :
      OutcomeStep stream (.decided batch observed) .readNextSequence stream
        (.placed batch stream.nextSequence observed)
  | ownerDecide {call : OutcomeCall} {node : String} {outcome : NodeOutcome}
      {cause : LedgerData} {batch : List NewEvent}
      (hdecided : DecidedOn stream batch (atSequence stream.events)) :
      OutcomeStep stream .idle (.ownerDecide call node outcome cause) stream
        (.pinned batch (atSequence stream.events))
  | driver {batch : List NewEvent} {position observed : Nat} {stamps : Stamps}
      {stream' : VerifiedStream env scope streamId.text} {added : List EventEnvelope}
      (happended : Appended position batch stream.events stream'.events added) :
      OutcomeStep stream (.placed batch position observed) (.append stamps) stream' .idle
  | owner {batch : List NewEvent} {observed : Nat} {stamps : Stamps}
      {stream' : VerifiedStream env scope streamId.text} {added : List EventEnvelope}
      (happended : Appended (observed + 1) batch stream.events stream'.events added) :
      OutcomeStep stream (.pinned batch observed) (.append stamps) stream' .idle
  | accept {acceptance : DraftAcceptance} {batch : List NewEvent} {stamps : Stamps}
      {stream' : VerifiedStream env scope streamId.text} {added : List EventEnvelope}
      (hkinds : some (batch.map NewEvent.kind) = acceptance.kinds)
      (happended : Appended stream.nextSequence batch stream.events stream'.events added) :
      OutcomeStep stream .idle (.accept acceptance batch stamps) stream' .idle
  | other {news : List NewEvent} {stamps : Stamps}
      {stream' : VerifiedStream env scope streamId.text} {added : List EventEnvelope}
      (hplain : forall event, event ∈ news -> isOutcome event.kind = false)
      (happended : Appended stream.nextSequence news stream.events stream'.events added) :
      OutcomeStep stream .idle (.other news stamps) stream' .idle

theorem decidedOn_of_replay
    (hreplay : replay env scope streamId.text stream.events = .ok projection)
    (hfollows : BatchFollows projection batch) :
    DecidedOn stream batch stream.events.length := by
  rcases replay_eq_ok_iff.mp hreplay with ⟨_, st, hfold, hprojection⟩
  refine And.intro (Nat.le_refl _) ⟨st, ?_, ?_⟩
  · rw [List.take_length]
    exact hfold
  · rw [hprojection]
    exact hfollows

theorem outcomeMove_step (h : outcomeMove stream phase action = some (stream', phase')) :
    OutcomeStep stream phase action stream' phase' := by
  unfold outcomeMove at h
  split at h
  · split at h
    · cases h
    · rename_i projection started hanswer
      split at h
      · rename_i batch hbatch
        cases h
        unfold headAnswer at hanswer
        split at hanswer
        · rename_i replayed hreplay
          cases hanswer
          exact OutcomeStep.decide
            (decidedOn_of_replay hreplay (decideOutcome_follows hbatch))
        · cases hanswer
      · cases h
  · cases h
    exact OutcomeStep.readNextSequence
  · rcases settle_eq_some h with ⟨happend, rfl⟩
    rcases append_eq_ok happend with ⟨added, happended⟩
    exact OutcomeStep.driver happended
  · split at h
    · cases h
    · rename_i projection hreplay
      rcases Option.map_eq_some_iff.mp h with ⟨batch, hbatch, heq⟩
      cases heq
      refine OutcomeStep.ownerDecide ?_
      rw [atSequence_eq_length]
      exact decidedOn_of_replay hreplay (decideOwnerOutcome_follows hbatch)
  · rcases settle_eq_some h with ⟨happend, rfl⟩
    rcases append_eq_ok happend with ⟨added, happended⟩
    exact OutcomeStep.owner happended
  · split at h
    · rename_i hkinds
      rcases settle_eq_some h with ⟨happend, rfl⟩
      rcases append_eq_ok happend with ⟨added, happended⟩
      exact OutcomeStep.accept hkinds happended
    · cases h
  · split at h
    · cases h
    · rename_i hplain
      rcases settle_eq_some h with ⟨happend, rfl⟩
      rcases append_eq_ok happend with ⟨added, happended⟩
      refine OutcomeStep.other ?_ happended
      intro event hmem
      simp only [List.any_eq_true, not_exists, not_and, Bool.not_eq_true] at hplain
      exact hplain event hmem
  · cases h
    exact OutcomeStep.abandon
  · cases h

theorem OutcomeStep.extends (h : OutcomeStep stream phase action stream' phase') :
    exists added, stream'.events = stream.events ++ added := by
  cases h with
  | abandon | decide | readNextSequence | ownerDecide =>
      exact ⟨[], (List.append_nil stream.events).symm⟩
  | driver happended =>
      exact ⟨_, happended.extended⟩
  | owner happended =>
      exact ⟨_, happended.extended⟩
  | accept hkinds happended =>
      exact ⟨_, happended.extended⟩
  | other hplain happended =>
      exact ⟨_, happended.extended⟩

theorem DecidedOn.extend {observed : Nat} (h : DecidedOn stream batch observed)
    (hextends : exists added, stream'.events = stream.events ++ added) :
    DecidedOn stream' batch observed := by
  rcases hextends with ⟨added, hadded⟩
  rcases h with ⟨hobserved, hfollows⟩
  refine And.intro ?_ ?_
  · rw [hadded, List.length_append]
    exact Nat.le_add_right_of_le hobserved
  · rw [hadded, List.take_append_of_le_length hobserved]
    exact hfollows

theorem DecidedOn.follows_undisturbed {observed : Nat} (h : DecidedOn stream batch observed)
    (huntouched : forall new payload, new ∈ batch ->
      new.kind = .nodeOutcomeRecorded payload ->
      Untouched env payload.nodeId.text stream.events observed) {st : FoldState}
    (hfold : foldHistory env stream.events = some st) :
    BatchFollows st.projection batch := by
  rcases h with ⟨hobserved, decided, hdecided, first, rest, payload, hbatch, hkind, hfollows,
    hplain⟩
  refine ⟨first, rest, payload, hbatch, hkind, ?_, hplain⟩
  have hnode := huntouched first payload (by rw [hbatch]; exact List.mem_cons_self) hkind
  have hlength : (stream.events.take observed).length = observed := by
    rw [List.length_take]
    omega
  have hsplit := List.take_append_drop observed stream.events
  have hsame := @transitionRequest_of_untouched env decided st payload.nodeId.text
    (stream.events.take observed) (stream.events.drop observed) hdecided
    (by rw [hsplit]; exact hfold) (by rw [hsplit, hlength]; exact hnode) payload.outcome
  rw [hsame]
  exact hfollows

theorem outcomeMove_guarantees :
    Guarantees (@outcomeMove env scope streamId) DecisionsUndisturbed
      (fun stream => OutcomesFollow env stream.events) OutcomeSound := by
  refine ⟨?_, ?_, ?_⟩
  · intro s l a s' l' hshared hlocal hcondition hmove
    cases outcomeMove_step hmove with
    | abandon | decide | readNextSequence | ownerDecide =>
        exact hshared
    | driver happended =>
        refine hshared.appended ?_ happended
        intro st hfold
        exact DecidedOn.follows_undisturbed hlocal hcondition hfold
    | @owner batch observed stamps _ added happended =>
        refine hshared.appended ?_ happended
        intro st hfold
        rcases hlocal with ⟨_, decided, hdecided, hfollows⟩
        -- The store took the append, so the history decided on is the whole stream.
        have hwhole := happended.expected
        rw [List.take_of_length_le (by omega), hfold] at hdecided
        cases hdecided
        exact hfollows
    | accept hkinds happended =>
        exact hshared.accepted hkinds happended
    | other hplain happended =>
        exact hshared.appended_plain hplain happended
  · intro s l a s' l' hshared hlocal hcondition hmove
    cases outcomeMove_step hmove with
    | abandon | driver | owner | accept | other =>
        trivial
    | decide hdecided =>
        exact hdecided
    | readNextSequence =>
        exact hlocal
    | ownerDecide hdecided =>
        exact hdecided
  · intro s l a s' l' _ _ _ hmove other hother
    have hextends := (outcomeMove_step hmove).extends
    cases other with
    | idle =>
        trivial
    | decided batch observed =>
        exact DecidedOn.extend hother hextends
    | placed batch position observed =>
        exact DecidedOn.extend hother hextends
    | pinned batch observed =>
        exact DecidedOn.extend hother hextends

/--
Along any run whose drivers append only outcomes of nodes that nothing has touched
since they decided, every committed outcome follows the history strictly before it.
-/
theorem outcomesFollow_undisturbed {Writer : Type} [DecidableEq Writer]
    {c c' : Configuration Writer (VerifiedStream env scope streamId.text) OutcomePhase}
    {turns : List (Writer × OutcomeAction)}
    (hfollow : OutcomesFollow env c.shared.events)
    (hidle : forall writer, c.locals writer = .idle)
    (hmeet : StepsMeet (interleave outcomeMove) (AtTurn DecisionsUndisturbed) c turns)
    (hrun : run (interleave outcomeMove) c turns = some c') :
    OutcomesFollow env c'.shared.events := by
  have hstart : Holds (fun stream : VerifiedStream env scope streamId.text =>
      OutcomesFollow env stream.events) OutcomeSound c := by
    refine ⟨hfollow, ?_⟩
    intro writer
    rw [hidle writer]
    trivial
  exact (hstart.after_run outcomeMove_guarantees hmeet hrun).shared

end Guarantees

/-!
## Two interleavings
-/

/-- Whether `event`, if it is an outcome, is the transition of the node as `st` has it. -/
def followsAt (st : FoldState) (event : EventEnvelope) : Bool :=
  match event.kind with
  | .nodeOutcomeRecorded payload =>
      applyTransition
          (transitionRequest st.projection payload.nodeId.text payload.outcome) =
        some payload.nextState
  | _ => true

theorem OutcomesFollow.stepAt {env : Environment} {n : Nat} {step : HistoryStep}
    (h : OutcomesFollow env events) (hstep : stepAt env events n = some step) :
    followsAt step.before step.event = true := by
  rcases stepAt_eq_some hstep with ⟨hsplit, hfold, _⟩
  unfold followsAt
  split
  · rename_i payload hkind
    exact decide_eq_true (h _ _ _ payload _ hsplit hkind hfold)
  · rfl

theorem OutcomesFollow.of_all {env : Environment} (h : forall n, n < events.length ->
      ((foldHistory env (events.take n)).all fun st => events[n]?.all (followsAt st)) = true) :
    OutcomesFollow env events := by
  intro before later event payload st hsplit hkind hfold
  have htake : events.take before.length = before := by
    rw [hsplit, List.take_left]
  have hget : events[before.length]? = some event := by
    rw [hsplit, List.getElem?_append_right (Nat.le_refl _), Nat.sub_self]
    rfl
  have hall := h before.length (List.getElem?_eq_some_iff.mp hget).1
  rw [htake, hfold, hget] at hall
  have hfollows : followsAt st event = true := hall
  unfold followsAt at hfollows
  rw [hkind] at hfollows
  exact of_decide_eq_true hfollows

/-- A driver that appends right behind the history it decided on. -/
def AtDecision {env : Environment} {scope : RepositoryScope} {streamId : OpaqueId}
    (stream : VerifiedStream env scope streamId.text) (phase : OutcomePhase)
    (_ : OutcomeAction) : Prop :=
  match phase with
  | .placed _ _ observed => observed = stream.events.length
  | _ => True

instance {env : Environment} {scope : RepositoryScope} {streamId : OpaqueId}
    (c : Configuration Nat (VerifiedStream env scope streamId.text) OutcomePhase)
    (turn : Nat × OutcomeAction) : Decidable (AtTurn AtDecision c turn) :=
  match hphase : c.locals turn.1 with
  | .placed _ _ observed =>
      decidable_of_iff (observed = c.shared.events.length)
        (by unfold AtTurn AtDecision; rw [hphase])
  | .idle => isTrue (by unfold AtTurn AtDecision; rw [hphase]; trivial)
  | .decided _ _ => isTrue (by unfold AtTurn AtDecision; rw [hphase]; trivial)
  | .pinned _ _ => isTrue (by unfold AtTurn AtDecision; rw [hphase]; trivial)

theorem AtDecision.undisturbed {env : Environment} {scope : RepositoryScope}
    {streamId : OpaqueId} {stream : VerifiedStream env scope streamId.text}
    {phase : OutcomePhase} {action : OutcomeAction} (h : AtDecision stream phase action) :
    DecisionsUndisturbed stream phase action := by
  unfold DecisionsUndisturbed
  split
  · rename_i batch position observed stamps
    intro new payload _ _ before later event st hsplit hafter _
    have hlength := congrArg List.length hsplit
    rw [List.length_append, List.length_cons] at hlength
    change observed = stream.events.length at h
    omega
  · trivial

namespace Sample

def call (key : String) : OutcomeCall :=
  { executionId := executionId
    actor := { actorType := .owner, id := "owner" }
    key := fun index => id s!"{key}-{index}" }

def work (outcome : NodeOutcome) : WorkOutcome :=
  { outcome := outcome
    cause := ""
    reuse := none
    gateVerdict := none
    sealedReferences := [] }

def restingRecorders (news : List NewEvent) :
    Configuration Nat (VerifiedStream env scope streamId.text) OutcomePhase :=
  { shared := verified news
    locals := fun _ => .idle }

def queuedOutcomes : List (Nat × OutcomeAction) :=
  [(1, .ownerDecide (call "approve") "node" .approved ""), (1, .append (stamps 1)),
    (0, .decide (call "drive") "node" (work .started)), (0, .readNextSequence),
    (0, .append (stamps 2))]

/-- A driver's success is decided, the owner's cancel is committed, and the success after it. -/
def racingOutcomes : List (Nat × OutcomeAction) :=
  [(0, .decide (call "drive") "node" (work .succeeded)),
    (1, .ownerDecide (call "cancel") "node" .cancelled ""), (1, .append (stamps 4)),
    (0, .readNextSequence), (0, .append (stamps 5))]

end Sample

theorem outcomesFollow_undisturbed_when_a_driver_follows : exists c',
    run (interleave outcomeMove) (Sample.restingRecorders [Sample.started])
        Sample.queuedOutcomes = some c' ∧
      OutcomesFollow Sample.env c'.shared.events := by
  have hsome : (run (interleave outcomeMove) (Sample.restingRecorders [Sample.started])
      Sample.queuedOutcomes).isSome = true := by decide +kernel
  have hat : StepsMeet (interleave outcomeMove) (AtTurn AtDecision)
      (Sample.restingRecorders [Sample.started]) Sample.queuedOutcomes := by decide +kernel
  have hfollow : OutcomesFollow Sample.env (Sample.history [Sample.started]) :=
    OutcomesFollow.of_all (by decide)
  rcases Option.isSome_iff_exists.mp hsome with ⟨c', hrun⟩
  exact ⟨c', hrun, outcomesFollow_undisturbed hfollow (fun _ => rfl)
    (hat.imp AtDecision.undisturbed) hrun⟩

/-- The success of a node that the owner has cancelled meanwhile is committed. -/
theorem outcomesFollow_fails_when_a_cancel_intervenes :
    OutcomesFollow Sample.env
        (Sample.restingRecorders (Sample.parked.take 4)).shared.events ∧
      exists c',
        run (interleave outcomeMove) (Sample.restingRecorders (Sample.parked.take 4))
            Sample.racingOutcomes = some c' ∧
          ¬ OutcomesFollow Sample.env c'.shared.events := by
  have hrace : ((run (interleave outcomeMove) (Sample.restingRecorders (Sample.parked.take 4))
      Sample.racingOutcomes).any fun c =>
        (stepAt Sample.env c.shared.events 5).any fun step =>
          !followsAt step.before step.event) = true := by decide +kernel
  rcases (Option.any_eq_true _ _).mp hrace with ⟨c', hrun, hstep⟩
  rcases (Option.any_eq_true _ _).mp hstep with ⟨step, hat, hstrays⟩
  refine And.intro (OutcomesFollow.of_all (by decide)) ⟨c', hrun, ?_⟩
  intro hfollow
  rw [hfollow.stepAt hat] at hstrays
  cases hstrays

end GraphHelm
