import GraphHelm.Execution.Dispatch
import GraphHelm.Runtime.Outcomes
import GraphHelm.Runtime.Pausing

/-!
# Resuming an execution

`execute_prepared_with_verification` of
`apps/cli/src/commands/execution/resume.rs`, with the recovery it runs on entry.
The recovery appends one outcome per running node before the preconditions are
looked at.
-/

namespace GraphHelm

open Std
open ErrorState OrderedMap VerifiedStream

/-!
## The graph a verb is given
-/

/-- A graph file as a verb was given it; the hash is absent when it is not wire-safe. -/
structure SuppliedGraph where
  number : Nat
  contentHash : Option WireHash
  spec : GraphSpec

inductive GraphRefusal where
  | notWireSafe
  | unrecorded
  | mismatch
deriving DecidableEq

def recordedHash (initial : ExecutionProjection) (history : List EventEnvelope) :
    Option WireHash :=
  (initial.currentGraph.map PersistedGraphVersion.semanticHash).or
    (history.reverse.findSome? fun event =>
      match event.kind with
      | .executionStarted payload => some payload.graphHash
      | _ => none)

def verifyGraphMatchesExecution (graph : SuppliedGraph) (initial : ExecutionProjection)
    (history : List EventEnvelope) : Except GraphRefusal Unit := do
  let supplied <- orRefuse graph.contentHash .notWireSafe
  let recorded <- orRefuse (recordedHash initial history) .unrecorded
  check (decide (recorded = supplied)) .mismatch

/-!
## The resume
-/

def nodesIn (projection : ExecutionProjection) (state : NodeState) : List String :=
  (projection.nodeStates.toList.filter fun entry => entry.2 = state).map Prod.fst

def recoveryPlan (projection : ExecutionProjection) : List String :=
  nodesIn projection .running

inductive ResumeFailure where
  | replay (error : ReplayError)
  | graph (refusal : GraphRefusal)
  | identity
  /-- `record_outcome` refused what it was asked to record. -/
  | outcome
  | preconditions (error : ResumeError)
  | repository (error : EventRepositoryError)
deriving DecidableEq

def ResumeFailure.isRefusal : ResumeFailure -> Bool
  | .graph _ | .preconditions _ => true
  | _ => false

structure ResumeCall where
  graph : SuppliedGraph
  /-- Unset for a snapshot that has been authenticated already. -/
  verifyGraph : Bool
  actor : PersistedActor
  key : OpaqueId
  /-- The key minted for the outcome recorded at a head. -/
  outcomeKey : Nat -> OpaqueId
  stamps : Nat -> Stamps

structure PreparedDrive where
  executionId : OpaqueId
  spec : GraphSpec
  release : List String

section Resume

variable {env : Environment} {scope : RepositoryScope} {streamId : OpaqueId}

abbrev ResumeM (env : Environment) (scope : RepositoryScope) (streamId : OpaqueId) :=
  EStateM ResumeFailure (VerifiedStream env scope streamId.text)

/-- A decision that reads nothing but what it is given. -/
def decided {ε α : Type} (failure : ε -> ResumeFailure) (decision : Except ε α) :
    ResumeM env scope streamId α :=
  match decision with
  | .ok a => pure a
  | .error error => throw (failure error)

/-- `replay_projection_at`: the projection, and the head it was folded to. -/
def replayProjectionAt : ResumeM env scope streamId (ExecutionProjection × Nat) :=
  fun stream =>
    match replay env scope streamId.text stream.events with
    | .ok projection => .ok (projection, atSequence stream.events) stream
    | .error error => .error (.replay error) stream

/-- `append_event`: the batch goes behind the head it was decided on, or not at all. -/
def appendEvent (stamps : Nat -> Stamps) (observed : Nat) (batch : List NewEvent) :
    ResumeM env scope streamId Unit :=
  fun stream =>
    match stream.append (stamps observed) (observed + 1) batch with
    | .ok stream' => .ok () stream'
    | .error error => .error (.repository error) stream

def ResumeCall.outcomeCall (call : ResumeCall) (executionId : OpaqueId) (observed : Nat) :
    OutcomeCall :=
  { executionId := executionId
    actor := call.actor
    key := fun _ => call.outcomeKey observed }

def recordOutcome (call : ResumeCall) (executionId : OpaqueId) (node : String)
    (outcome : NodeOutcome) : ResumeM env scope streamId Unit := do
  let (projection, observed) <- replayProjectionAt
  let batch <- decided (fun _ => .outcome)
    (orRefuse
      (decideOwnerOutcome (call.outcomeCall executionId observed) node outcome "" projection) ())
  appendEvent call.stamps observed batch

/-- Crash triage: every node of the plan is interrupted, one append each. -/
def recordInterrupted (call : ResumeCall) (executionId : OpaqueId) :
    List String -> ResumeM env scope streamId Unit
  | [] => pure ()
  | node :: rest => do
      recordOutcome call executionId node .interrupted
      recordInterrupted call executionId rest

def recoverRunning (call : ResumeCall) (initial : ExecutionProjection) :
    ResumeM env scope streamId Unit :=
  match initial.executionId with
  | none => pure ()
  | some text => do
      let executionId <- decided (fun _ => .identity) (orRefuse (OpaqueId.parse text) ())
      recordInterrupted call executionId (recoveryPlan initial)

def crossCheck (call : ResumeCall) (initial : ExecutionProjection)
    (history : List EventEnvelope) : Except GraphRefusal Unit :=
  if call.verifyGraph then
    verifyGraphMatchesExecution call.graph initial history
  else
    .ok ()

def resumeRecovered (call : ResumeCall) : ResumeM env scope streamId PreparedDrive := do
  let (projection, observed) <- replayProjectionAt
  decided .preconditions (resumePreconditions projection (some call.graph.number))
  let executionId <- decided (fun _ => .identity)
    (orRefuse (projection.executionId.bind OpaqueId.parse) ())
  appendEvent call.stamps observed
    [{ idempotencyKey := call.key
       actor := call.actor
       sensitivity := .internal
       kind := .executionResumed { executionId := executionId }
       evidenceRefs := []
       artifactRefs := [] }]
  pure
    { executionId := executionId
      spec := call.graph.spec
      release := nodesIn projection .paused }

def executePrepared (call : ResumeCall) : ResumeM env scope streamId PreparedDrive := do
  let stream <- get
  let (initial, _) <- replayProjectionAt
  decided .graph (crossCheck call initial stream.events)
  recoverRunning call initial
  resumeRecovered call

/-!
## What each step of a resume leaves
-/

variable {call : ResumeCall} {stream stream' : VerifiedStream env scope streamId.text}

theorem decided_eq_ok {ε α : Type} {failure : ε -> ResumeFailure} {decision : Except ε α}
    {a : α} : decided failure decision stream = .ok a stream' <->
      decision = .ok a ∧ stream = stream' := by
  cases decision with
  | ok b =>
      constructor
      · intro h
        cases h
        exact And.intro rfl rfl
      · intro h
        rcases h with ⟨hb, hstream⟩
        cases hb
        cases hstream
        rfl
  | error error =>
      constructor
      · intro h
        cases h
      · intro h
        cases h.left

theorem decided_eq_error {ε α : Type} {failure : ε -> ResumeFailure} {decision : Except ε α}
    {refused : ResumeFailure} : decided failure decision stream = .error refused stream' <->
      (exists error, decision = .error error ∧ failure error = refused) ∧ stream = stream' := by
  cases decision with
  | ok b =>
      constructor
      · intro h
        cases h
      · intro h
        rcases h with ⟨⟨error, herror, _⟩, _⟩
        cases herror
  | error error =>
      constructor
      · intro h
        cases h
        exact And.intro ⟨error, rfl, rfl⟩ rfl
      · intro h
        rcases h with ⟨⟨other, hother, hrefused⟩, hstream⟩
        cases hother
        cases hrefused
        cases hstream
        rfl

theorem replayProjectionAt_eq_ok {projection : ExecutionProjection} {observed : Nat} :
    replayProjectionAt stream = .ok (projection, observed) stream' <->
      replay env scope streamId.text stream.events = .ok projection ∧
        observed = atSequence stream.events ∧ stream = stream' := by
  unfold replayProjectionAt
  cases replay env scope streamId.text stream.events with
  | ok replayed =>
      constructor
      · intro h
        cases h
        exact And.intro rfl (And.intro rfl rfl)
      · intro h
        rcases h with ⟨hprojection, hobserved, hstream⟩
        cases hprojection
        cases hobserved
        cases hstream
        rfl
  | error error =>
      constructor
      · intro h
        cases h
      · intro h
        cases h.left

variable {failure : ResumeFailure} {executionId : OpaqueId} {initial : ExecutionProjection}

theorem replayProjectionAt_eq_error (h : replayProjectionAt stream = .error failure stream') :
    (exists error, failure = .replay error) ∧ stream = stream' := by
  unfold replayProjectionAt at h
  cases hreplay : replay env scope streamId.text stream.events with
  | ok projection =>
      rw [hreplay] at h
      cases h
  | error error =>
      rw [hreplay] at h
      cases h
      exact And.intro ⟨error, rfl⟩ rfl

theorem appendEvent_eq_ok {stamps : Nat -> Stamps} {observed : Nat} {batch : List NewEvent}
    (h : appendEvent stamps observed batch stream = .ok () stream') :
    exists added, Appended (observed + 1) batch stream.events stream'.events added := by
  unfold appendEvent at h
  cases happend : stream.append (stamps observed) (observed + 1) batch with
  | ok after =>
      rw [happend] at h
      cases h
      exact append_eq_ok happend
  | error error =>
      rw [happend] at h
      cases h

theorem appendEvent_eq_error {stamps : Nat -> Stamps} {observed : Nat} {batch : List NewEvent}
    (h : appendEvent stamps observed batch stream = .error failure stream') :
    (exists error, failure = .repository error) ∧ stream = stream' := by
  unfold appendEvent at h
  cases happend : stream.append (stamps observed) (observed + 1) batch with
  | ok after =>
      rw [happend] at h
      cases h
  | error error =>
      rw [happend] at h
      cases h
      exact And.intro ⟨error, rfl⟩ rfl

theorem recordOutcome_eq_ok {node : String} {outcome : NodeOutcome}
    (h : recordOutcome call executionId node outcome stream = .ok () stream') :
    exists st event payload, foldHistory env stream.events = some st ∧
      stream'.events = stream.events ++ [event] ∧ event.kind = .nodeOutcomeRecorded payload ∧
      payload.nodeId.text = node ∧ payload.outcome = outcome ∧
      applyTransition (transitionRequest st.projection node outcome) =
        some payload.nextState := by
  unfold recordOutcome at h
  rcases bind_eq_ok.mp h with ⟨⟨projection, observed⟩, middle, hread, h⟩
  rcases replayProjectionAt_eq_ok.mp hread with ⟨hreplay, hobserved, rfl⟩
  rcases replay_eq_ok_iff.mp hreplay with ⟨_, st, hfold, hprojection⟩
  rcases bind_eq_ok.mp h with ⟨batch, middle, hdecided, happend⟩
  rcases decided_eq_ok.mp hdecided with ⟨hbatch, rfl⟩
  rw [orRefuse_eq_ok] at hbatch
  rcases appendEvent_eq_ok happend with ⟨added, happended⟩
  unfold decideOwnerOutcome at hbatch
  dsimp only at hbatch
  split at hbatch
  · cases hbatch
  · rcases Option.bind_eq_some_iff.mp hbatch with ⟨nextState, hnext, hbatch⟩
    rcases Option.bind_eq_some_iff.mp hbatch with ⟨nodeId, hnode, hbatch⟩
    cases hbatch
    rcases List.map_eq_singleton_iff.mp happended.carries with ⟨event, rfl, hevent⟩
    rw [← hprojection] at hnext
    exact ⟨st, event, _, hfold, happended.extended, congrArg NewEvent.kind hevent,
      OpaqueId.text_of_parse hnode, rfl, hnext⟩

theorem recordOutcome_eq_error {node : String} {outcome : NodeOutcome}
    (h : recordOutcome call executionId node outcome stream = .error failure stream') :
    failure.isRefusal = false := by
  unfold recordOutcome at h
  rcases bind_eq_error.mp h with hread | ⟨⟨projection, observed⟩, middle, _, h⟩
  · rcases (replayProjectionAt_eq_error hread).left with ⟨error, rfl⟩
    rfl
  · rcases bind_eq_error.mp h with hdecided | ⟨batch, middle, _, happend⟩
    · rcases (decided_eq_error.mp hdecided).left with ⟨_, _, rfl⟩
      rfl
    · rcases (appendEvent_eq_error happend).left with ⟨error, rfl⟩
      rfl

/-!
## The recovery
-/

/-- A node whose interruption is recorded and that nobody has looked at since. -/
def Interrupted (projection : ExecutionProjection) (node : String) : Prop :=
  projection.nodeStates[node]? = some .blocked ∧
    projection.lastOutcome[node]? = some .interrupted

theorem applyTransition_interrupted {request : TransitionRequest} {nextState : NodeState}
    (houtcome : request.outcome = .interrupted)
    (h : applyTransition request = some nextState) :
    request.current = .running ∧ nextState = .blocked := by
  rcases request with ⟨current, outcome, attempts, identical⟩
  cases houtcome
  cases current <;> cases h
  exact And.intro rfl rfl

theorem interrupted_of_accepted {event : EventEnvelope} {payload : NodeOutcomeRecorded}
    {st st' : FoldState} (hkind : event.kind = .nodeOutcomeRecorded payload)
    (houtcome : payload.outcome = .interrupted) (hnext : payload.nextState = .blocked)
    (h : applyProjectionEvent env event st = .ok () st') :
    Interrupted st'.projection payload.nodeId.text ∧
      forall other, Interrupted st.projection other -> Interrupted st'.projection other := by
  have heffect := (lifecycle_of_accepted h).right
  have hstates := congrArg Lifecycle.nodeStates heffect
  have hlast := congrArg Lifecycle.lastOutcome heffect
  unfold lifecycleAfter outcomeEffect at hstates hlast
  rw [hkind] at hstates hlast
  dsimp only at hstates hlast
  rw [houtcome, if_neg (by decide)] at hlast
  rw [hnext] at hstates
  have hmarked : Interrupted st'.projection payload.nodeId.text := by
    constructor
    · change st'.projection.lifecycle.nodeStates[payload.nodeId.text]? = _
      rw [hstates]
      exact ExtTreeMap.getElem?_insert_self
    · change st'.projection.lifecycle.lastOutcome[payload.nodeId.text]? = _
      rw [hlast]
      exact ExtTreeMap.getElem?_insert_self
  refine And.intro hmarked ?_
  intro other hother
  by_cases hsame : payload.nodeId.text = other
  · rw [← hsame]
    exact hmarked
  · constructor
    · change st'.projection.lifecycle.nodeStates[other]? = _
      rw [hstates]
      exact (getElem?_insert_of_ne hsame).trans hother.left
    · change st'.projection.lifecycle.lastOutcome[other]? = _
      rw [hlast]
      exact (getElem?_insert_of_ne hsame).trans hother.right

/-- What a recovery of `nodes` appends, and how the stream folds after it. -/
structure Recovered (nodes : List String) (before after : List EventEnvelope) : Prop where
  extended : exists added, after = before ++ added ∧ added.length = nodes.length
  marks : forall st', foldHistory env after = some st' ->
    (forall node, node ∈ nodes -> Interrupted st'.projection node) ∧
      forall st, foldHistory env before = some st ->
        forall other, Interrupted st.projection other -> Interrupted st'.projection other

theorem recordInterrupted_eq_ok {executionId : OpaqueId} {nodes : List String}
    (h : recordInterrupted call executionId nodes stream = .ok () stream') :
    @Recovered env nodes stream.events stream'.events := by
  induction nodes generalizing stream with
  | nil =>
      cases h
      refine ⟨⟨[], (List.append_nil _).symm, rfl⟩, ?_⟩
      intro st' hst'
      refine And.intro (fun node hmem => absurd hmem List.not_mem_nil) ?_
      intro st hst other hother
      rw [hst'] at hst
      cases hst
      exact hother
  | cons node rest ih =>
      rcases bind_eq_ok.mp h with ⟨_, middle, hfirst, hrest⟩
      rcases recordOutcome_eq_ok hfirst with
        ⟨st, event, payload, hfold, hextended, hkind, hnode, houtcome, hnext⟩
      have hrecovered := ih hrest
      rcases hrecovered.extended with ⟨added, hadded, hlength⟩
      rw [hextended, List.append_assoc] at hadded
      refine ⟨⟨event :: added, hadded, congrArg Nat.succ hlength⟩, ?_⟩
      intro st' hst'
      have hlater := hrecovered.marks st' hst'
      -- The whole stream folds, so the stream with this first interruption does.
      rw [hadded, ← List.append_assoc, ← hextended] at hst'
      rcases foldHistory_append.mp hst' with ⟨next, hfolded, _⟩
      have hfolded' := hfolded
      rw [hextended] at hfolded'
      rcases foldHistory_concat.mp hfolded' with ⟨before, hbefore, haccepted⟩
      rw [hfold] at hbefore
      cases hbefore
      have hblocked := (applyTransition_interrupted rfl hnext).right
      have hmarks := interrupted_of_accepted hkind houtcome hblocked haccepted
      rw [hnode] at hmarks
      have hkeep := hlater.right next hfolded
      constructor
      · intro other hmem
        rcases List.mem_cons.mp hmem with hsame | hin
        · rw [hsame]
          exact hkeep node hmarks.left
        · exact hlater.left other hin
      · intro earlier hearlier other hother
        rw [hfold] at hearlier
        cases hearlier
        exact hkeep other (hmarks.right other hother)

theorem recordInterrupted_eq_error {nodes : List String}
    (h : recordInterrupted call executionId nodes stream = .error failure stream') :
    failure.isRefusal = false := by
  induction nodes generalizing stream with
  | nil =>
      cases h
  | cons node rest ih =>
      rcases bind_eq_error.mp h with hfirst | ⟨_, middle, _, hrest⟩
      · exact recordOutcome_eq_error hfirst
      · exact ih hrest

def interruptedOnEntry (initial : ExecutionProjection) : List String :=
  if initial.executionId.isSome then recoveryPlan initial else []

theorem recoverRunning_eq_ok (h : recoverRunning call initial stream = .ok () stream') :
    @Recovered env (interruptedOnEntry initial) stream.events stream'.events := by
  unfold recoverRunning at h
  unfold interruptedOnEntry
  cases hstarted : initial.executionId with
  | none =>
      rw [hstarted] at h
      exact @recordInterrupted_eq_ok env scope streamId call stream stream' streamId [] h
  | some text =>
      rw [hstarted] at h
      rcases bind_eq_ok.mp h with ⟨executionId, middle, hdecided, hrecorded⟩
      rcases decided_eq_ok.mp hdecided with ⟨_, rfl⟩
      exact recordInterrupted_eq_ok hrecorded

theorem recoverRunning_eq_error
    (h : recoverRunning call initial stream = .error failure stream') :
    failure.isRefusal = false := by
  unfold recoverRunning at h
  cases hstarted : initial.executionId with
  | none =>
      rw [hstarted] at h
      cases h
  | some text =>
      rw [hstarted] at h
      rcases bind_eq_error.mp h with hdecided | ⟨executionId, middle, _, hrecorded⟩
      · rcases (decided_eq_error.mp hdecided).left with ⟨_, _, rfl⟩
        rfl
      · exact recordInterrupted_eq_error hrecorded

/-- A resume that refuses after its recovery has appended nothing of its own. -/
theorem resumeRecovered_eq_error (h : resumeRecovered call stream = .error failure stream') :
    stream = stream' ∧
      (failure.isRefusal = true ->
        exists projection, replay env scope streamId.text stream.events = .ok projection) := by
  unfold resumeRecovered at h
  rcases bind_eq_error.mp h with hread | ⟨⟨projection, observed⟩, middle, hread, h⟩
  · rcases replayProjectionAt_eq_error hread with ⟨⟨error, rfl⟩, hsame⟩
    exact And.intro hsame fun hrefusal => absurd hrefusal Bool.false_ne_true
  rcases replayProjectionAt_eq_ok.mp hread with ⟨hreplay, _, rfl⟩
  refine And.intro ?_ fun _ => ⟨projection, hreplay⟩
  rcases bind_eq_error.mp h with hdecided | ⟨_, middle, hdecided, h⟩
  · exact (decided_eq_error.mp hdecided).right
  rcases decided_eq_ok.mp hdecided with ⟨_, rfl⟩
  rcases bind_eq_error.mp h with hdecided | ⟨executionId, middle, hdecided, h⟩
  · exact (decided_eq_error.mp hdecided).right
  rcases decided_eq_ok.mp hdecided with ⟨_, rfl⟩
  rcases bind_eq_error.mp h with happend | ⟨_, middle, _, hpure⟩
  · exact (appendEvent_eq_error happend).right
  · cases hpure

/-!
## Refusals and the store
-/

/-- The condition under which a refused resume leaves the store as it was. -/
def RefusesUntouched (call : ResumeCall) (initial : ExecutionProjection)
    (history : List EventEnvelope) : Prop :=
  (exists refusal, crossCheck call initial history = .error refusal) ∨
    interruptedOnEntry initial = []

/-- Either the graph check refuses on the stream as it is, or the recovery has run first. -/
theorem refusal_cases (hinitial : replay env scope streamId.text stream.events = .ok initial)
    (h : executePrepared call stream = .error failure stream')
    (hrefusal : failure.isRefusal = true) :
    ((exists refusal, crossCheck call initial stream.events = .error refusal) ∧
        stream' = stream) ∨
      crossCheck call initial stream.events = .ok () ∧
        @Recovered env (interruptedOnEntry initial) stream.events stream'.events ∧
        exists projection, replay env scope streamId.text stream'.events = .ok projection := by
  unfold executePrepared at h
  rcases bind_eq_error.mp h with hget | ⟨history, middle, hget, h⟩
  · cases hget
  cases hget
  rcases bind_eq_error.mp h with hread | ⟨⟨replayed, observed⟩, middle, hread, h⟩
  · rcases (replayProjectionAt_eq_error hread).left with ⟨error, rfl⟩
    cases hrefusal
  rcases replayProjectionAt_eq_ok.mp hread with ⟨hreplayed, _, rfl⟩
  rw [hinitial] at hreplayed
  cases hreplayed
  rcases bind_eq_error.mp h with hcheck | ⟨_, middle, hcheck, h⟩
  · rcases decided_eq_error.mp hcheck with ⟨⟨refusal, hrefused, _⟩, hsame⟩
    exact Or.inl (And.intro ⟨refusal, hrefused⟩ hsame.symm)
  rcases decided_eq_ok.mp hcheck with ⟨hpassed, rfl⟩
  rcases bind_eq_error.mp h with hrecover | ⟨_, recovered, hrecover, h⟩
  · rw [recoverRunning_eq_error hrecover] at hrefusal
    cases hrefusal
  rcases resumeRecovered_eq_error h with ⟨rfl, hreplay⟩
  exact Or.inr
    (And.intro hpassed (And.intro (recoverRunning_eq_ok hrecover) (hreplay hrefusal)))

/--
A resume that the graph check or the preconditions refuse leaves the store as it
was exactly when the graph check is what refuses or no node of the execution is
running; otherwise it leaves every running node blocked on an interruption.
-/
theorem refused_resume_leaves_store_iff {initial : ExecutionProjection}
    {failure : ResumeFailure}
    (hinitial : replay env scope streamId.text stream.events = .ok initial)
    (h : executePrepared call stream = .error failure stream')
    (hrefusal : failure.isRefusal = true) :
    (stream' = stream <-> RefusesUntouched call initial stream.events) ∧
      (stream' = stream ∨
        exists projection, replay env scope streamId.text stream'.events = .ok projection ∧
          forall node, node ∈ recoveryPlan initial -> Interrupted projection node) := by
  rcases refusal_cases hinitial h hrefusal with
    ⟨hrefused, hsame⟩ | ⟨hpassed, hrecovered, projection, hreplay⟩
  · exact And.intro (iff_of_true hsame (Or.inl hrefused)) (Or.inl hsame)
  rcases hrecovered.extended with ⟨added, hadded, hlength⟩
  cases hnone : interruptedOnEntry initial with
  | nil =>
      rw [hnone] at hlength
      have hsame : stream' = stream := by
        cases stream
        cases stream'
        rw [List.length_eq_zero_iff.mp hlength, List.append_nil] at hadded
        cases hadded
        rfl
      exact And.intro (iff_of_true hsame (Or.inr hnone)) (Or.inl hsame)
  | cons node rest =>
      have hchanged : stream' ≠ stream := by
        intro hsame
        rw [hsame] at hadded
        rw [List.self_eq_append_right.mp hadded, hnone] at hlength
        cases hlength
      have htouches : ¬ RefusesUntouched call initial stream.events := by
        intro huntouched
        rcases huntouched with ⟨refusal, hrefused⟩ | hempty
        · rw [hpassed] at hrefused
          cases hrefused
        · rw [hnone] at hempty
          cases hempty
      refine And.intro (iff_of_false hchanged htouches) (Or.inr ⟨projection, hreplay, ?_⟩)
      rcases replay_eq_ok_iff.mp hreplay with ⟨_, st, hfold, hprojection⟩
      rw [← hprojection]
      intro running hmem
      refine (hrecovered.marks st hfold).left running ?_
      -- Something was interrupted, so the execution was started and its plan was run.
      unfold interruptedOnEntry at hnone ⊢
      split
      · exact hmem
      · rename_i hstarted
        rw [if_neg hstarted] at hnone
        cases hnone

end Resume

namespace Sample

def emptySpec : GraphSpec :=
  { nodes := ∅
    edges := []
    maxParallelModelCalls := none }

def resumeCall : ResumeCall :=
  { graph := { number := 1, contentHash := some "sha256:graph", spec := emptySpec }
    verifyGraph := true
    actor := { actorType := .owner, id := "owner" }
    key := id "resume"
    outcomeKey := fun observed => id s!"interrupted-{observed}"
    stamps := stamps }

/-- An execution that a drive is running: its node is at work, and nobody has paused it. -/
def driven : VerifiedStream env scope streamId.text :=
  verified (parked.take 4)

/-- The resume of a driven execution: its refusal, and the events that are then there. -/
def resumedWhileDriven : Option (ResumeFailure × VerifiedStream env scope streamId.text) :=
  match executePrepared resumeCall driven with
  | .ok _ _ => none
  | .error failure stream => some (failure, stream)

theorem driven_replay : exists initial,
    replay env scope streamId.text driven.events = .ok initial := by
  have hreadable : Readable env scope streamId.text (history (parked.take 4)) :=
    history_readable (by decide) (by decide) (by decide) (by decide)
  have hfold : (foldHistory env (history (parked.take 4))).isSome = true := by decide
  exact hreadable.replay_isOk hfold

end Sample

theorem refused_resume_leaves_store_iff_while_driven : exists initial failure stream',
    replay Sample.env Sample.scope Sample.streamId.text Sample.driven.events = .ok initial ∧
      executePrepared Sample.resumeCall Sample.driven = .error failure stream' ∧
      (stream' = Sample.driven <->
        RefusesUntouched Sample.resumeCall initial Sample.driven.events) := by
  have hrun : (Sample.resumedWhileDriven.any fun result => result.1.isRefusal) = true := by
    decide +kernel
  rcases (Option.any_eq_true _ _).mp hrun with ⟨⟨failure, stream'⟩, hresult, hrefusal⟩
  rcases Sample.driven_replay with ⟨initial, hinitial⟩
  unfold Sample.resumedWhileDriven at hresult
  split at hresult
  · cases hresult
  · rename_i hexecuted
    cases hresult
    exact ⟨initial, failure, stream', hinitial, hexecuted,
      (refused_resume_leaves_store_iff hinitial hexecuted hrefusal).left⟩

/-- The resume of a driven execution is refused as not paused, and has interrupted its node. -/
theorem refused_resume_interrupts_a_driven_node : exists stream' st,
    executePrepared Sample.resumeCall Sample.driven =
        .error (.preconditions .notPaused) stream' ∧
      stream' ≠ Sample.driven ∧
      foldHistory Sample.env stream'.events = some st ∧ Interrupted st.projection "node" := by
  have hrun : (Sample.resumedWhileDriven.any fun result =>
      result.1 = .preconditions .notPaused && result.2.events.length = 5 &&
        (foldHistory Sample.env result.2.events).any fun st =>
          st.projection.nodeStates["node"]? = some .blocked &&
            st.projection.lastOutcome["node"]? = some .interrupted) = true := by
    decide +kernel
  rcases (Option.any_eq_true _ _).mp hrun with ⟨⟨failure, stream'⟩, hresult, hafter⟩
  simp only [Bool.and_eq_true, decide_eq_true_eq] at hafter
  rcases hafter with ⟨⟨hfailure, hlength⟩, hfolded⟩
  rcases (Option.any_eq_true _ _).mp hfolded with ⟨st, hst, hmarks⟩
  simp only [Bool.and_eq_true, decide_eq_true_eq] at hmarks
  unfold Sample.resumedWhileDriven at hresult
  split at hresult
  · cases hresult
  · rename_i hexecuted
    cases hresult
    rw [hfailure] at hexecuted
    refine ⟨stream', st, hexecuted, ?_, hst, And.intro hmarks.left hmarks.right⟩
    intro hsame
    rw [hsame] at hlength
    exact absurd hlength (by decide)

end GraphHelm
