import GraphHelm.Execution.Transition
import GraphHelm.Library.Interleaving
import GraphHelm.Projection.History
import GraphHelm.Store.Stream

/-!
# Pausing, resuming and completing a shared execution

The writers of a stream's pause history: the branches of `drive_inner`
(`core/runtime/src/driver.rs`) that append through `append_plain`, and the owner
verbs of `apps/cli/src/commands/execution`, which append at the head they
decided on.  A reread, a position read and an append are three atomic steps, and
the store runs no fold.
-/

namespace GraphHelm

open ErrorState

/-!
## Decisions
-/

/-- What a writer has decided to append to the pause history of an execution. -/
inductive PausePlan where
  | pause (executionId : OpaqueId)
  | resume (executionId : OpaqueId)
  | complete (executionId : OpaqueId) (status : SimulationStatus)
  | refusePreflight (executionId : OpaqueId) (diagnostics : LedgerData)
deriving DecidableEq

namespace PausePlan

def executionId : PausePlan -> OpaqueId
  | pause executionId => executionId
  | resume executionId => executionId
  | complete executionId _ => executionId
  | refusePreflight executionId _ => executionId

def kinds : PausePlan -> List EventKind
  | pause executionId => [.executionPaused { executionId := executionId }]
  | resume executionId => [.executionResumed { executionId := executionId }]
  | complete executionId status =>
      [.executionCompleted { executionId := executionId, status := status }]
  | refusePreflight executionId diagnostics =>
      [.graphValidationFailed diagnostics,
        .executionCompleted { executionId := executionId, status := .failed }]

def events (plan : PausePlan) (key : Nat -> OpaqueId) (actor : PersistedActor) :
    List NewEvent :=
  plan.kinds.mapIdx fun index kind =>
    { idempotencyKey := key index
      actor := actor
      sensitivity := .internal
      kind := kind
      evidenceRefs := []
      artifactRefs := [] }

end PausePlan

def pendingProposal (projection : ExecutionProjection) : Bool :=
  projection.proposedDrafts.any fun draft =>
    !projection.appliedDrafts.contains draft && !projection.rejectedDrafts.contains draft

def alreadyTerminal (projection : ExecutionProjection) : Bool :=
  match projection.simulationStatus with
  | some .completed | some .failed | some .cancelled => true
  | _ => false

/-- The branches of `drive_inner` that write the pause history. -/
inductive DriveBranch where
  | pendingProposal
  | cancelledRequest
  | quiescence (nodes : List String)
  | preflight (diagnostics : LedgerData)
deriving DecidableEq

def DriveBranch.decide (executionId : OpaqueId) (projection : ExecutionProjection) :
    DriveBranch -> Option PausePlan
  | .pendingProposal =>
      if GraphHelm.pendingProposal projection &&
          projection.simulationStatus != some .paused then
        some (.pause executionId)
      else
        none
  | .cancelledRequest =>
      if projection.simulationStatus != some .paused then
        some (.pause executionId)
      else
        none
  | .quiescence nodes =>
      let allTerminal := nodes.all fun node =>
        match projection.nodeStates[node]? with
        | some state => isTerminal state
        | none => false
      let allSuccess := nodes.all fun node =>
        match projection.nodeStates[node]? with
        | some .succeeded | some .waived | some .skipped => true
        | _ => false
      if !GraphHelm.pendingProposal projection && allTerminal &&
          !alreadyTerminal projection then
        some (.complete executionId (if allSuccess then .completed else .failed))
      else
        none
  | .preflight diagnostics =>
      if !alreadyTerminal projection then
        some (.refusePreflight executionId diagnostics)
      else
        none

inductive ResumeError where
  | notStarted
  | notPaused
  | unrecoveredInterruption
  | untriagedInterruption
  | versionMismatch
deriving DecidableEq

/-- `resume_preconditions` of `core/execution/src/recovery.rs`. -/
def resumePreconditions (projection : ExecutionProjection)
    (resumeAgainstVersion : Option Nat) : Except ResumeError Unit := do
  check projection.executionId.isSome .notStarted
  check (decide (projection.simulationStatus = some .paused)) .notPaused
  check (!projection.nodeStates.toList.any fun entry => entry.2 = .running)
    .unrecoveredInterruption
  check
    (!projection.nodeStates.toList.any fun entry =>
      entry.2 = .blocked && projection.lastOutcome[entry.1]? = some .interrupted)
    .untriagedInterruption
  match resumeAgainstVersion, projection.currentGraph with
  | some requested, some current => check (decide (requested = current.number)) .versionMismatch
  | _, _ => .ok ()

inductive OwnerVerb where
  | pause
  | resume (version : Option Nat)
  | cancel
deriving DecidableEq

def OwnerVerb.decide (projection : ExecutionProjection) (verb : OwnerVerb) :
    Option PausePlan := do
  let text <- projection.executionId
  let executionId <- OpaqueId.parse text
  match verb with
  | .pause =>
      if isPausable projection.simulationStatus then
        some (.pause executionId)
      else
        none
  | .resume version =>
      match resumePreconditions projection version with
      | .ok _ => some (.resume executionId)
      | .error _ => none
  | .cancel =>
      if !alreadyTerminal projection then
        some (.complete executionId .cancelled)
      else
        none

/-!
## Writers
-/

/-- Where one writer stands between its reads and its append. -/
inductive PausePhase where
  | idle
  /-- A drive has decided and is about to call `append_plain`. -/
  | decided (plan : PausePlan)
  /-- `append_plain` has read `next_sequence`. -/
  | placed (plan : PausePlan) (nextSequence : Nat)
  /-- A verb has decided on the history whose last sequence is `observed`. -/
  | pinned (plan : PausePlan) (observed : Nat)

inductive PauseAction where
  | reread (branch : DriveBranch)
  | readNextSequence
  | verb (verb : OwnerVerb)
  | append (key : Nat -> OpaqueId) (actor : PersistedActor) (stamps : Stamps)
  /-- The store refused, or the writer stopped. -/
  | abandon
  /-- An append of any other verb, with events the fold accepts and no new start. -/
  | other (news : List NewEvent) (stamps : Stamps)

def startsExecution (event : NewEvent) : Bool :=
  match event.kind with
  | .executionStarted _ => true
  | _ => false

section Writers

variable {env : Environment} {scope : RepositoryScope} {streamId : OpaqueId}

open VerifiedStream

def pauseMove (executionId : OpaqueId) (stream : VerifiedStream env scope streamId.text)
    (phase : PausePhase) (action : PauseAction) :
    Option (VerifiedStream env scope streamId.text × PausePhase) :=
  match phase, action with
  | .idle, .reread branch =>
      match replay env scope streamId.text stream.events with
      | .ok projection =>
          (branch.decide executionId projection).map fun plan => (stream, .decided plan)
      | .error _ => none
  | .idle, .verb verb =>
      match replay env scope streamId.text stream.events with
      | .ok projection =>
          (verb.decide projection).map fun plan =>
            (stream, .pinned plan (atSequence stream.events))
      | .error _ => none
  | .decided plan, .readNextSequence => some (stream, .placed plan stream.nextSequence)
  | .placed plan nextSequence, .append key actor stamps =>
      settle .idle (stream.append stamps nextSequence (plan.events key actor))
  | .pinned plan observed, .append key actor stamps =>
      settle .idle (stream.append stamps (observed + 1) (plan.events key actor))
  | .idle, .other news stamps =>
      match stream.append stamps stream.nextSequence news with
      | .ok stream' =>
          if !news.any startsExecution && (foldHistory env stream'.events).isSome then
            some (stream', .idle)
          else
            none
      | .error _ => none
  | _, .abandon => some (stream, .idle)
  | _, _ => none

def PausesPausable (stream : VerifiedStream env scope streamId.text) (phase : PausePhase)
    (action : PauseAction) : Prop :=
  match phase, action with
  | .placed (.pause _) _, .append _ _ _ =>
      forall st, foldHistory env stream.events = some st ->
        isPausable st.projection.simulationStatus = true
  | _, _ => True

structure PauseHistoryStands (env : Environment) (scope : RepositoryScope)
    (streamId : OpaqueId) (events : List EventEnvelope) : Prop where
  accepted : (foldHistory env events).isSome = true
  replayed : Readable env scope streamId.text events ->
    exists projection, replay env scope streamId.text events = .ok projection
  paused : forall {before event after payload}, events = before ++ event :: after ->
    event.kind = .executionPaused payload ->
    exists st, foldHistory env before = some st ∧
      isPausable st.projection.simulationStatus = true

end Writers

/-!
## What the fold accepts of a plan
-/

/-- Whether an execution in this state takes the plan's events. -/
def PausePlan.Permits (plan : PausePlan) (projection : ExecutionProjection) : Prop :=
  projection.executionId = some plan.executionId.text ∧
    match plan with
    | .pause _ => isPausable projection.simulationStatus = true
    | .resume _ => projection.simulationStatus = some .paused
    | .complete _ _ => True
    | .refusePreflight _ _ => True

section Fold

variable {env : Environment} {event : EventEnvelope} {st st' : FoldState}

theorem executionId_of_accepted (h : applyProjectionEvent env event st = .ok () st')
    (hkind : forall payload, event.kind ≠ .executionStarted payload) :
    st'.projection.executionId = st.projection.executionId := by
  have heffect := congrArg Lifecycle.executionId (lifecycle_of_accepted h).right
  refine heffect.trans ?_
  show (lifecycleAfter env event st.projection).executionId = _
  unfold lifecycleAfter
  cases hevent : event.kind with
  | executionStarted payload =>
      exact absurd hevent (hkind payload)
  | completionClaimed payload =>
      exact congrArg Lifecycle.executionId claimEffect_spares
  | completionCleared payload =>
      exact congrArg Lifecycle.executionId clearanceEffect_spares
  | gateVerdict payload =>
      exact congrArg Lifecycle.executionId verdictEffect_spares
  | _ =>
      rfl

theorem executionId_of_run {events : List EventEnvelope}
    (h : run (accept env) st events = some st')
    (hkinds : forall event, event ∈ events ->
      forall payload, event.kind ≠ .executionStarted payload) :
    st'.projection.executionId = st.projection.executionId := by
  induction events generalizing st with
  | nil =>
      cases h
      rfl
  | cons event rest ih =>
      rcases run_cons_eq_some.mp h with ⟨next, hnext, hrest⟩
      have hlater := ih hrest fun other hmem => hkinds other (List.mem_cons_of_mem event hmem)
      rw [hlater, executionId_of_accepted (accept_eq_some.mp hnext)
        (hkinds event List.mem_cons_self)]

theorem accept_paused {payload : ExecutionPaused} (hkind : event.kind = .executionPaused payload)
    (hexecution : st.projection.executionId = some payload.executionId.text)
    (hstatus : isPausable st.projection.simulationStatus = true) :
    exists st', accept env st event = some st' := by
  apply Exists.intro
  rw [accept_eq_some]
  unfold applyProjectionEvent nameStream foldKind
  rw [modifyProjection_bind, hkind]
  exact foldExecutionPaused_eq_ok.mpr ⟨hexecution, hstatus, rfl⟩

theorem accept_resumed {payload : ExecutionResumed}
    (hkind : event.kind = .executionResumed payload)
    (hexecution : st.projection.executionId = some payload.executionId.text)
    (hstatus : st.projection.simulationStatus = some .paused) :
    exists st', accept env st event = some st' := by
  apply Exists.intro
  rw [accept_eq_some]
  unfold applyProjectionEvent nameStream foldKind
  rw [modifyProjection_bind, hkind]
  exact foldExecutionResumed_eq_ok.mpr ⟨hexecution, hstatus, rfl⟩

theorem accept_completed {payload : ExecutionCompleted}
    (hkind : event.kind = .executionCompleted payload)
    (hexecution : st.projection.executionId = some payload.executionId.text) :
    exists st', accept env st event = some st' := by
  apply Exists.intro
  rw [accept_eq_some]
  unfold applyProjectionEvent nameStream foldKind
  rw [modifyProjection_bind, hkind]
  exact foldExecutionCompleted_eq_ok.mpr ⟨hexecution, rfl⟩

theorem accept_validationFailed {diagnostics : LedgerData}
    (hkind : event.kind = .graphValidationFailed diagnostics) :
    exists st', accept env st event = some st' := by
  apply Exists.intro
  rw [accept_eq_some]
  unfold applyProjectionEvent nameStream foldKind
  rw [modifyProjection_bind, hkind]
  rfl

theorem isPausable_of_accepted {payload : ExecutionPaused}
    (hkind : event.kind = .executionPaused payload)
    (h : applyProjectionEvent env event st = .ok () st') :
    isPausable st.projection.simulationStatus = true := by
  have hguard := (lifecycle_of_accepted h).left
  unfold lifecycleGuard at hguard
  rw [hkind] at hguard
  exact hguard.right

theorem PausePlan.kinds_start (plan : PausePlan) {event : EventEnvelope}
    (h : event.kind ∈ plan.kinds) (payload : ExecutionStarted) :
    event.kind ≠ .executionStarted payload := by
  intro hkind
  rw [hkind] at h
  cases plan <;> simp [PausePlan.kinds] at h

theorem PausePlan.events_kinds (plan : PausePlan) (key : Nat -> OpaqueId)
    (actor : PersistedActor) : (plan.events key actor).map NewEvent.kind = plan.kinds := by
  cases plan <;> rfl

theorem PausePlan.Permits.accepted {plan : PausePlan} (h : plan.Permits st.projection)
    {added : List EventEnvelope} (hkinds : added.map EventEnvelope.kind = plan.kinds) :
    exists st', run (accept env) st added = some st' := by
  rcases h with ⟨hexecution, hstatus⟩
  cases plan with
  | pause executionId =>
      rcases List.map_eq_singleton_iff.mp hkinds with ⟨event, rfl, hkind⟩
      rw [run_singleton]
      exact accept_paused hkind hexecution hstatus
  | resume executionId =>
      rcases List.map_eq_singleton_iff.mp hkinds with ⟨event, rfl, hkind⟩
      rw [run_singleton]
      exact accept_resumed hkind hexecution hstatus
  | complete executionId status =>
      rcases List.map_eq_singleton_iff.mp hkinds with ⟨event, rfl, hkind⟩
      rw [run_singleton]
      exact accept_completed hkind hexecution
  | refusePreflight executionId diagnostics =>
      rcases List.map_eq_cons_iff.mp hkinds with ⟨refusal, rest, rfl, hrefusal, hrest⟩
      rcases List.map_eq_singleton_iff.mp hrest with ⟨settlement, rfl, hsettlement⟩
      rcases @accept_validationFailed env refusal st diagnostics hrefusal with ⟨next, hnext⟩
      have hsame := executionId_of_accepted (accept_eq_some.mp hnext)
        (by rw [hrefusal]; exact fun _ h => nomatch h)
      have hnamed : next.projection.executionId = some executionId.text :=
        hsame.trans hexecution
      rcases @accept_completed env settlement next _ hsettlement hnamed with ⟨st', hst'⟩
      exact ⟨st', run_cons_eq_some.mpr ⟨next, hnext, by rw [run_singleton, hst']⟩⟩

end Fold

/-!
## What one move can do
-/

def PausePlan.OfDrive (executionId : OpaqueId) : PausePlan -> Prop
  | .pause planned => planned = executionId
  | .resume _ => False
  | .complete planned _ => planned = executionId
  | .refusePreflight planned _ => planned = executionId

variable {projection : ExecutionProjection}

theorem DriveBranch.decide_ofDrive {executionId : OpaqueId} {branch : DriveBranch}
    {plan : PausePlan} (h : branch.decide executionId projection = some plan) :
    plan.OfDrive executionId := by
  cases branch <;> unfold decide at h <;> dsimp only at h <;> split at h <;> cases h <;> rfl

theorem resumePreconditions_paused {version : Option Nat} {u : Unit}
    (h : resumePreconditions projection version = .ok u) :
    projection.simulationStatus = some .paused := by
  unfold resumePreconditions at h
  rcases check_ok h with ⟨_, h⟩
  rcases check_ok h with ⟨hpaused, _⟩
  exact of_decide_eq_true hpaused

theorem OwnerVerb.decide_permits {verb : OwnerVerb} {plan : PausePlan}
    (h : verb.decide projection = some plan) : plan.Permits projection := by
  unfold decide at h
  rcases Option.bind_eq_some_iff.mp h with ⟨text, htext, h⟩
  rcases Option.bind_eq_some_iff.mp h with ⟨executionId, hparse, h⟩
  have hexecution : projection.executionId = some executionId.text := by
    rw [htext, OpaqueId.text_of_parse hparse]
  cases verb with
  | pause =>
      dsimp only at h
      split at h
      · rename_i hpausable
        cases h
        exact And.intro hexecution hpausable
      · cases h
  | resume version =>
      dsimp only at h
      split at h
      · rename_i hpreconditions
        cases h
        exact And.intro hexecution (resumePreconditions_paused hpreconditions)
      · cases h
  | cancel =>
      dsimp only at h
      split at h
      · cases h
        exact And.intro hexecution trivial
      · cases h

section Moves

variable {env : Environment} {scope : RepositoryScope} {streamId executionId : OpaqueId}
  {stream stream' : VerifiedStream env scope streamId.text} {phase phase' : PausePhase}
  {action : PauseAction}

open VerifiedStream

/-- The moves of a writer, with what each of them establishes. -/
inductive PauseStep (executionId : OpaqueId)
    (stream : VerifiedStream env scope streamId.text) :
    PausePhase -> PauseAction -> VerifiedStream env scope streamId.text -> PausePhase -> Prop
  | abandon {phase : PausePhase} : PauseStep executionId stream phase .abandon stream .idle
  | reread {branch : DriveBranch} {plan : PausePlan} (hdrive : plan.OfDrive executionId) :
      PauseStep executionId stream .idle (.reread branch) stream (.decided plan)
  | verb {verb : OwnerVerb} {plan : PausePlan} {projection : ExecutionProjection}
      (hreplay : replay env scope streamId.text stream.events = .ok projection)
      (hpermits : plan.Permits projection) :
      PauseStep executionId stream .idle (.verb verb) stream
        (.pinned plan (atSequence stream.events))
  | readNextSequence {plan : PausePlan} :
      PauseStep executionId stream (.decided plan) .readNextSequence stream
        (.placed plan stream.nextSequence)
  | drive {plan : PausePlan} {nextSequence : Nat} {key : Nat -> OpaqueId}
      {actor : PersistedActor} {stamps : Stamps}
      {stream' : VerifiedStream env scope streamId.text} {added : List EventEnvelope}
      (happended : Appended nextSequence (plan.events key actor) stream.events
        stream'.events added) :
      PauseStep executionId stream (.placed plan nextSequence) (.append key actor stamps)
        stream' .idle
  | owner {plan : PausePlan} {observed : Nat} {key : Nat -> OpaqueId}
      {actor : PersistedActor} {stamps : Stamps}
      {stream' : VerifiedStream env scope streamId.text} {added : List EventEnvelope}
      (happended : Appended (observed + 1) (plan.events key actor) stream.events
        stream'.events added) :
      PauseStep executionId stream (.pinned plan observed) (.append key actor stamps)
        stream' .idle
  | other {news : List NewEvent} {stamps : Stamps}
      {stream' : VerifiedStream env scope streamId.text} {added : List EventEnvelope}
      (happended : Appended stream.nextSequence news stream.events stream'.events added)
      (hstarts : news.any startsExecution = false)
      (hfold : (foldHistory env stream'.events).isSome = true) :
      PauseStep executionId stream .idle (.other news stamps) stream' .idle

theorem pauseMove_step
    (h : pauseMove executionId stream phase action = some (stream', phase')) :
    PauseStep executionId stream phase action stream' phase' := by
  unfold pauseMove at h
  split at h
  · split at h
    · rcases Option.map_eq_some_iff.mp h with ⟨plan, hplan, heq⟩
      cases heq
      exact PauseStep.reread (DriveBranch.decide_ofDrive hplan)
    · cases h
  · split at h
    · rename_i projection hreplay
      rcases Option.map_eq_some_iff.mp h with ⟨plan, hplan, heq⟩
      cases heq
      exact PauseStep.verb hreplay (OwnerVerb.decide_permits hplan)
    · cases h
  · cases h
    exact PauseStep.readNextSequence
  · rcases settle_eq_some h with ⟨happend, rfl⟩
    rcases append_eq_ok happend with ⟨added, happended⟩
    exact PauseStep.drive happended
  · rcases settle_eq_some h with ⟨happend, rfl⟩
    rcases append_eq_ok happend with ⟨added, happended⟩
    exact PauseStep.owner happended
  · split at h
    · rename_i after happend
      split at h
      · rename_i haccepted
        cases h
        rcases append_eq_ok happend with ⟨added, happended⟩
        simp only [Bool.and_eq_true, Bool.not_eq_true'] at haccepted
        exact PauseStep.other happended haccepted.left haccepted.right
      · cases h
    · cases h
  · cases h
    exact PauseStep.abandon
  · cases h

theorem PauseStep.extends
    (h : PauseStep executionId stream phase action stream' phase') :
    exists added, stream'.events = stream.events ++ added := by
  cases h with
  | abandon | reread | verb | readNextSequence =>
      exact ⟨[], (List.append_nil stream.events).symm⟩
  | drive happended =>
      exact ⟨_, happended.extended⟩
  | owner happended =>
      exact ⟨_, happended.extended⟩
  | other happended =>
      exact ⟨_, happended.extended⟩

/-!
## What the writers guarantee each other
-/

def ExecutionFolds (executionId : OpaqueId)
    (stream : VerifiedStream env scope streamId.text) : Prop :=
  exists st, foldHistory env stream.events = some st ∧
    st.projection.executionId = some executionId.text

def PhaseSound (executionId : OpaqueId) (stream : VerifiedStream env scope streamId.text) :
    PausePhase -> Prop
  | .idle => True
  | .decided plan => plan.OfDrive executionId
  | .placed plan _ => plan.OfDrive executionId
  | .pinned plan observed =>
      observed <= stream.events.length ∧
        exists st, foldHistory env (stream.events.take observed) = some st ∧
          plan.Permits st.projection

theorem PhaseSound.extend (h : PhaseSound executionId stream phase)
    (hextends : exists added, stream'.events = stream.events ++ added) :
    PhaseSound executionId stream' phase := by
  rcases hextends with ⟨added, hadded⟩
  cases phase with
  | idle | decided | placed =>
      exact h
  | pinned plan observed =>
      rcases h with ⟨hobserved, hpermits⟩
      refine And.intro ?_ ?_
      · rw [hadded, List.length_append]
        exact Nat.le_add_right_of_le hobserved
      · rw [hadded, List.take_append_of_le_length hobserved]
        exact hpermits

theorem ExecutionFolds.appended {plan : PausePlan} {expectedNextSequence : Nat}
    {key : Nat -> OpaqueId} {actor : PersistedActor} {added : List EventEnvelope}
    {st : FoldState} (hfold : foldHistory env stream.events = some st)
    (hpermits : plan.Permits st.projection)
    (hexecution : st.projection.executionId = some executionId.text)
    (happended : Appended expectedNextSequence (plan.events key actor) stream.events
      stream'.events added) : ExecutionFolds executionId stream' := by
  have hkinds : added.map EventEnvelope.kind = plan.kinds := by
    rw [← PausePlan.events_kinds plan key actor, ← happended.carries, List.map_map]
    rfl
  rcases @PausePlan.Permits.accepted env st plan hpermits added hkinds with ⟨st', hst'⟩
  refine ⟨st', ?_, ?_⟩
  · rw [happended.extended]
    exact foldHistory_append.mpr ⟨st, hfold, hst'⟩
  · have hsame := executionId_of_run hst' ?_
    · rw [hsame, hexecution]
    · intro event hmem
      refine PausePlan.kinds_start plan ?_
      rw [← hkinds]
      exact List.mem_map_of_mem hmem

theorem PausePlan.OfDrive.permits {plan : PausePlan} (h : plan.OfDrive executionId)
    (hexecution : projection.executionId = some executionId.text)
    (hpause : forall planned, plan = .pause planned ->
      isPausable projection.simulationStatus = true) : plan.Permits projection := by
  cases plan with
  | pause planned =>
      cases h
      exact And.intro hexecution (hpause executionId rfl)
  | resume planned =>
      exact h.elim
  | complete planned status =>
      cases h
      exact And.intro hexecution trivial
  | refusePreflight planned diagnostics =>
      cases h
      exact And.intro hexecution trivial

theorem pauseMove_guarantees :
    Guarantees (@pauseMove env scope streamId executionId)
      PausesPausable (ExecutionFolds executionId) (PhaseSound executionId) := by
  refine ⟨?_, ?_, ?_⟩
  · intro s l a s' l' hshared hlocal hcondition hmove
    cases pauseMove_step hmove with
    | abandon | reread | verb | readNextSequence =>
        exact hshared
    | drive happended =>
        rcases hshared with ⟨st, hfold, hexecution⟩
        refine ExecutionFolds.appended hfold ?_ hexecution happended
        refine PausePlan.OfDrive.permits hlocal hexecution ?_
        intro planned hplan
        subst hplan
        exact hcondition st hfold
    | owner happended =>
        rcases hshared with ⟨st, hfold, hexecution⟩
        rcases hlocal with ⟨_, observed, hobserved, hpermits⟩
        -- The store took the append, so the history decided on is the whole stream.
        have hwhole := happended.expected
        rw [List.take_of_length_le (by omega), hfold] at hobserved
        cases hobserved
        exact ExecutionFolds.appended hfold hpermits hexecution happended
    | other happended hstarts haccepted =>
        rcases hshared with ⟨st, hfold, hexecution⟩
        rcases Option.isSome_iff_exists.mp haccepted with ⟨st', hst'⟩
        refine ⟨st', hst', ?_⟩
        rw [happended.extended] at hst'
        rcases foldHistory_append.mp hst' with ⟨before, hbefore, hrun⟩
        rw [hfold] at hbefore
        cases hbefore
        rw [executionId_of_run hrun, hexecution]
        intro event hmem payload hkind
        rcases happended.mem_kind hmem with ⟨new, hnew, hsame⟩
        have hstart : startsExecution new = true := by
          unfold startsExecution
          rw [← hsame, hkind]
        rw [List.any_eq_false] at hstarts
        exact hstarts new hnew hstart
  · intro s l a s' l' hshared hlocal hcondition hmove
    cases pauseMove_step hmove with
    | abandon | drive | owner | other =>
        trivial
    | reread hdrive =>
        exact hdrive
    | readNextSequence =>
        exact hlocal
    | verb hreplay hpermits =>
        rcases replay_eq_ok_iff.mp hreplay with ⟨_, st, hfold, hprojection⟩
        have hall := atSequence_eq_length s
        refine And.intro (Nat.le_of_eq hall) ⟨st, ?_, ?_⟩
        · rw [hall, List.take_length]
          exact hfold
        · rw [hprojection]
          exact hpermits
  · intro s l a s' l' _ _ _ hmove other hother
    exact hother.extend (pauseMove_step hmove).extends

/-- A pause the store takes where the execution cannot be paused ends every replay. -/
theorem foldHistory_paused_none {before added : List EventEnvelope} {st : FoldState}
    {planned : OpaqueId} (hfold : foldHistory env before = some st)
    (hkinds : added.map EventEnvelope.kind = (PausePlan.pause planned).kinds)
    (hstatus : isPausable st.projection.simulationStatus = false) :
    foldHistory env (before ++ added) = none := by
  rcases List.map_eq_singleton_iff.mp hkinds with ⟨event, rfl, hkind⟩
  cases hfolded : foldHistory env (before ++ [event]) with
  | none =>
      rfl
  | some folded =>
      rcases foldHistory_concat.mp hfolded with ⟨st', hst', haccepted⟩
      rw [hfold] at hst'
      cases hst'
      have hpausable := isPausable_of_accepted hkind haccepted
      rw [hstatus] at hpausable
      cases hpausable

theorem pauseHistoryStands_of_accepted {events : List EventEnvelope}
    (h : (foldHistory env events).isSome = true) :
    PauseHistoryStands env scope streamId events := by
  refine ⟨h, fun hreadable => hreadable.replay_isOk h, ?_⟩
  intro before event after payload hsplit hkind
  rcases Option.isSome_iff_exists.mp h with ⟨st, hst⟩
  rw [hsplit] at hst
  rcases foldHistory_append.mp hst with ⟨earlier, hearlier, hrun⟩
  rcases run_cons_eq_some.mp hrun with ⟨next, hnext, _⟩
  exact ⟨earlier, hearlier, isPausable_of_accepted hkind (accept_eq_some.mp hnext)⟩

/--
From a started execution that replays, with every writer at rest, the pause
history stands after a run exactly when each pause of a drive was appended where
the execution could be paused.
-/
theorem pauseHistoryStands_iff {Writer : Type} [DecidableEq Writer]
    {c c' : Configuration Writer (VerifiedStream env scope streamId.text) PausePhase}
    {turns : List (Writer × PauseAction)} {projection : ExecutionProjection}
    (hreplay : replay env scope streamId.text c.shared.events = .ok projection)
    (hexecution : projection.executionId = some executionId.text)
    (hidle : forall writer, c.locals writer = .idle)
    (hrun : run (interleave (pauseMove executionId)) c turns = some c') :
    PauseHistoryStands env scope streamId c'.shared.events <->
      StepsMeet (interleave (pauseMove executionId)) (AtTurn PausesPausable) c turns := by
  rcases replay_eq_ok_iff.mp hreplay with ⟨_, st, hfold, hprojection⟩
  have hstart : Holds (ExecutionFolds executionId) (PhaseSound executionId) c := by
    refine ⟨⟨st, hfold, by rw [hprojection, hexecution]⟩, ?_⟩
    intro writer
    rw [hidle writer]
    trivial
  have hstands : PauseHistoryStands env scope streamId c'.shared.events <->
      (foldHistory env c'.shared.events).isSome = true :=
    Iff.intro PauseHistoryStands.accepted pauseHistoryStands_of_accepted
  rw [hstands]
  refine Holds.run_good_iff pauseMove_guarantees
    (fun stream => (foldHistory env stream.events).isSome = true) ?_ ?_ ?_ hstart hrun
  · rintro s ⟨st, hfold, _⟩
    rw [hfold]
    rfl
  · intro s l a s' l' hshared hlocal hcondition hmove hgood
    rcases hshared with ⟨st, hfold, _⟩
    cases pauseMove_step hmove with
    | abandon =>
        cases l with
        | placed plan nextSequence =>
            cases plan <;> exact hcondition trivial
        | idle | decided | pinned =>
            exact hcondition trivial
    | reread | verb | readNextSequence | owner | other =>
        exact hcondition trivial
    | @drive plan nextSequence key actor stamps _ added happended =>
        cases plan with
        | resume | complete | refusePreflight =>
            exact hcondition trivial
        | pause planned =>
            apply hcondition
            intro st' hst'
            rw [hfold] at hst'
            cases hst'
            by_contra hstatus
            have hkinds : added.map EventEnvelope.kind = (PausePlan.pause planned).kinds := by
              rw [← PausePlan.events_kinds _ key actor, ← happended.carries, List.map_map]
              rfl
            have hnone := foldHistory_paused_none hfold hkinds (by simpa using hstatus)
            rw [happended.extended, hnone] at hgood
            cases hgood
  · intro s l a s' l' hbad hmove
    rcases (pauseMove_step hmove).extends with ⟨added, hadded⟩
    rw [hadded, foldHistory_append_none (by simpa using hbad)]
    exact Bool.false_ne_true

end Moves

namespace Sample

def restingWriters :
    Configuration Nat (VerifiedStream env scope streamId.text) PausePhase :=
  { shared := verified [started]
    locals := fun _ => .idle }

def pauseAppend (key : String) (written : Nat) : PauseAction :=
  .append (fun _ => id key) { actorType := .owner, id := "owner" } (stamps written)

def racingPauses : List (Nat × PauseAction) :=
  [(0, .reread .cancelledRequest), (1, .verb .pause), (1, pauseAppend "verb" 1),
    (0, .readNextSequence), (0, pauseAppend "drive" 2)]

def pausedByTheDrive : List (Nat × PauseAction) :=
  [(0, .reread .cancelledRequest), (0, .readNextSequence), (0, pauseAppend "drive" 1),
    (1, .verb (.resume none)), (1, pauseAppend "verb" 2)]

theorem restingWriters_replay : exists projection,
    replay env scope streamId.text restingWriters.shared.events = .ok projection ∧
      projection.executionId = some executionId.text := by
  have hreadable : Readable env scope streamId.text (history [started]) :=
    history_readable (by decide) (by decide) (by decide) (by decide)
  have hfold : ((foldHistory env (history [started])).any fun st =>
      st.projection.executionId = some executionId.text) = true := by decide
  rcases (Option.any_eq_true _ _).mp hfold with ⟨st, hst, hexecution⟩
  exact ⟨st.projection, replay_eq_ok_iff.mpr ⟨hreadable, st, hst, rfl⟩,
    of_decide_eq_true hexecution⟩

end Sample

theorem pauseHistoryStands_iff_when_a_drive_pauses : exists c',
    run (interleave (pauseMove Sample.executionId)) Sample.restingWriters
        Sample.pausedByTheDrive = some c' ∧
      (PauseHistoryStands Sample.env Sample.scope Sample.streamId c'.shared.events <->
        StepsMeet (interleave (pauseMove Sample.executionId)) (AtTurn PausesPausable)
          Sample.restingWriters Sample.pausedByTheDrive) := by
  rcases Sample.restingWriters_replay with ⟨projection, hreplay, hexecution⟩
  have hsome : (run (interleave (pauseMove Sample.executionId)) Sample.restingWriters
      Sample.pausedByTheDrive).isSome = true := by decide +kernel
  rcases Option.isSome_iff_exists.mp hsome with ⟨c', hrun⟩
  exact ⟨c', hrun, pauseHistoryStands_iff hreplay hexecution (fun _ => rfl) hrun⟩

/-- The owner's pause and the drive's are both committed, and no reader folds the stream again. -/
theorem pauseHistoryStands_fails_when_pauses_race :
    (exists projection,
      replay Sample.env Sample.scope Sample.streamId.text
        Sample.restingWriters.shared.events = .ok projection) ∧
      exists c',
        run (interleave (pauseMove Sample.executionId)) Sample.restingWriters
            Sample.racingPauses = some c' ∧
          ¬ PauseHistoryStands Sample.env Sample.scope Sample.streamId c'.shared.events := by
  have hrace : ((run (interleave (pauseMove Sample.executionId)) Sample.restingWriters
      Sample.racingPauses).any fun c =>
        (foldHistory Sample.env c.shared.events).isNone) = true := by decide +kernel
  rcases Sample.restingWriters_replay with ⟨projection, hreplay, _⟩
  rcases (Option.any_eq_true _ _).mp hrace with ⟨c', hrun, hnone⟩
  refine And.intro ⟨projection, hreplay⟩ ⟨c', hrun, ?_⟩
  intro hstands
  have haccepted := hstands.accepted
  rw [Option.isNone_iff_eq_none.mp hnone] at haccepted
  cases haccepted

end GraphHelm
