import GraphHelm.Library.Interleaving
import GraphHelm.Projection.Overdue
import GraphHelm.Store.Stream

/-!
# Sweeping a stream for overdue stages

`sweep` of `core/events/src/sweep.rs`: one read of the history decides which
stages are overdue, a second read supplies the append position, and the sweep
record is appended together with one exception for each stage.
-/

namespace GraphHelm

open VerifiedStream

/-!
## One sweep
-/

/-- What a caller asks; `recordKey` is the caller's own key for the sweep record. -/
structure SweepRequest where
  asOf : PersistedTimestamp
  actor : PersistedActor
  caller : SweepCaller
  recordKey : Option OpaqueId
deriving DecidableEq

def newSweepEvent (key : String) (actor : PersistedActor) (kind : EventKind) :
    Except EventRepositoryError NewEvent := do
  let idempotencyKey <- orRefuse (OpaqueId.parse key) .invalid
  .ok
    { idempotencyKey := idempotencyKey
      actor := actor
      sensitivity := .internal
      kind := kind
      evidenceRefs := []
      artifactRefs := [] }

def overdueKey (position : Nat) (stage : OverdueStage) : String :=
  s!"overdue-{stage.episodeSeq}-{position}"

def overdueException (executionId nodeId : OpaqueId) (stage : OverdueStage) :
    OverdueException :=
  { executionId := executionId
    nodeId := nodeId
    episodeSequence := stage.episodeSeq
    stage := if stage.claimSeq.isSome then .claimed else .parked
    deadline := stage.deadline }

def overdueEvents (actor : PersistedActor) (executionId : OpaqueId) (position : Nat) :
    List OverdueStage -> Except EventRepositoryError (List NewEvent)
  | [] => .ok []
  | stage :: rest => do
      let nodeId <- orRefuse (OpaqueId.parse stage.node) .invalid
      let exception <- newSweepEvent (overdueKey position stage) actor
        (.overdueException (overdueException executionId nodeId stage))
      let later <- overdueEvents actor executionId position rest
      .ok (exception :: later)

/-- The key of a sweep record nobody named; `rfc3339` is the calendar's rendering. -/
def mintedKey (rfc3339 : PersistedTimestamp -> String) (asOf : PersistedTimestamp)
    (position : Nat) : String :=
  let instant := String.ofList ((rfc3339 asOf).toList.map fun c => if c = ':' then '-' else c)
  s!"sweep-{instant}-{position}"

def sweepEvents (rfc3339 : PersistedTimestamp -> String) (request : SweepRequest)
    (executionId : OpaqueId) (overdue : List OverdueStage) (position : Nat) :
    Except EventRepositoryError (List NewEvent) := do
  let key :=
    match request.recordKey with
    | some key => key.text
    | none => mintedKey rfc3339 request.asOf position
  let record <- newSweepEvent key request.actor
    (.sweepPerformed
      { executionId := executionId, asOf := request.asOf, caller := request.caller })
  let exceptions <- overdueEvents request.actor executionId position overdue
  .ok (record :: exceptions)

/-- The verdict of the first read: only the past is askable, and something must have started. -/
def judgeSweep (env : Environment) (scope : RepositoryScope) (streamId : String)
    (now : PersistedTimestamp) (request : SweepRequest) (history : List EventEnvelope) :
    Except EventRepositoryError (OpaqueId × List OverdueStage) := do
  check (decide (request.asOf <= now)) .invalid
  match replay env scope streamId history with
  | .error _ => .error .invalid
  | .ok projection => do
      let executionId <- orRefuse (projection.executionId.bind OpaqueId.parse) .invalid
      .ok (executionId, overdueAt projection request.asOf)

/-!
## Sweeps that share a stream
-/

inductive SweepPhase where
  | idle
  /-- Stages found overdue by the history of the first `observed` events. -/
  | judged (request : SweepRequest) (executionId : OpaqueId) (overdue : List OverdueStage)
      (observed : Nat)
  /-- A batch for the position the second read answered. -/
  | placed (batch : List NewEvent) (position observed : Nat)

inductive SweepAction where
  | judge (request : SweepRequest) (now : PersistedTimestamp)
  | readNextSequence
  | append (stamps : Stamps)
  /-- The store refused, or the sweep stopped. -/
  | abandon
  /-- An append of anything else to the stream. -/
  | other (news : List NewEvent) (stamps : Stamps)

def raisedBy (news : List NewEvent) : List Nat :=
  news.filterMap fun event => raisedEpisode event.kind

section Sweeps

variable {env : Environment} {scope : RepositoryScope} {streamId : OpaqueId}

def sweepMove (rfc3339 : PersistedTimestamp -> String)
    (stream : VerifiedStream env scope streamId.text) (phase : SweepPhase)
    (action : SweepAction) :
    Option (VerifiedStream env scope streamId.text × SweepPhase) :=
  match phase, action with
  | .idle, .judge request now =>
      match judgeSweep env scope streamId.text now request stream.events with
      | .ok (executionId, overdue) =>
          some (stream, .judged request executionId overdue stream.events.length)
      | .error _ => none
  | .judged request executionId overdue observed, .readNextSequence =>
      match sweepEvents rfc3339 request executionId overdue stream.nextSequence with
      | .ok batch => some (stream, .placed batch stream.nextSequence observed)
      | .error _ => none
  | .placed batch position _, .append stamps =>
      settle .idle (stream.append stamps position batch)
  | .idle, .other news stamps =>
      if (raisedBy news).isEmpty then
        settle .idle (stream.append stamps stream.nextSequence news)
      else
        none
  | _, .abandon => some (stream, .idle)
  | _, _ => none

/--
A sweep appends no exception for an episode that an exception committed since its
first read is already about.
-/
def SweepsFresh (stream : VerifiedStream env scope streamId.text) (phase : SweepPhase)
    (action : SweepAction) : Prop :=
  match phase, action with
  | .placed batch _ observed, .append _ =>
      forall episode, episode ∈ raisedBy batch ->
        episode ∉ raisedEpisodes (stream.events.drop observed)
  | _, _ => True

def OneExceptionPerEpisode (events : List EventEnvelope) : Prop :=
  (raisedEpisodes events).Nodup

end Sweeps

/-!
## The batch of a sweep
-/

theorem newSweepEvent_eq_ok {key : String} {actor : PersistedActor} {kind : EventKind}
    {event : NewEvent} (h : newSweepEvent key actor kind = .ok event) :
    event.kind = kind ∧ event.idempotencyKey.text = key := by
  rcases bind_ok h with ⟨idempotencyKey, hkey, h⟩
  cases h
  exact And.intro rfl (OpaqueId.text_of_parse (orRefuse_eq_ok.mp hkey))

variable {overdue : List OverdueStage}

theorem overdueEvents_eq_ok {actor : PersistedActor} {executionId : OpaqueId} {position : Nat}
    {events : List NewEvent} (h : overdueEvents actor executionId position overdue = .ok events) :
    raisedBy events = overdue.map OverdueStage.episodeSeq ∧
      events.map (fun event => event.idempotencyKey.text) =
        overdue.map (overdueKey position) := by
  induction overdue generalizing events with
  | nil =>
      cases h
      exact And.intro rfl rfl
  | cons stage rest ih =>
      unfold overdueEvents at h
      rcases bind_ok h with ⟨nodeId, _, h⟩
      rcases bind_ok h with ⟨exception, hexception, h⟩
      rcases bind_ok h with ⟨later, hlater, h⟩
      cases h
      rcases newSweepEvent_eq_ok hexception with ⟨hkind, hkey⟩
      rcases ih hlater with ⟨hraised, hkeys⟩
      constructor
      · unfold raisedBy at hraised ⊢
        rw [List.filterMap_cons_some (by rw [hkind]; rfl), hraised]
        rfl
      · rw [List.map_cons, List.map_cons, hkey, hkeys]

theorem sweepEvents_eq_ok {rfc3339 : PersistedTimestamp -> String} {request : SweepRequest}
    {executionId : OpaqueId} {position : Nat} {events : List NewEvent}
    (h : sweepEvents rfc3339 request executionId overdue position = .ok events) :
    raisedBy events = overdue.map OverdueStage.episodeSeq ∧
      ((events.map NewEvent.idempotencyKey).Nodup ->
        (overdue.map OverdueStage.episodeSeq).Nodup) := by
  unfold sweepEvents at h
  rcases bind_ok h with ⟨record, hrecord, h⟩
  rcases bind_ok h with ⟨exceptions, hexceptions, h⟩
  cases h
  rcases newSweepEvent_eq_ok hrecord with ⟨hkind, _⟩
  rcases overdueEvents_eq_ok hexceptions with ⟨hraised, hkeys⟩
  constructor
  · unfold raisedBy at hraised ⊢
    rw [List.filterMap_cons_none (by rw [hkind]; rfl), hraised]
  · intro hdistinct
    have htail := (List.nodup_cons.mp hdistinct).right
    -- Two stages of one episode would share the key of their exceptions.
    have htexts : (exceptions.map fun event => event.idempotencyKey.text).Nodup := by
      have hmap := htail.map (f := OpaqueId.text) fun a b => OpaqueId.text_injective
      rwa [List.map_map] at hmap
    rw [hkeys] at htexts
    have hfactor : overdue.map (overdueKey position) =
        (overdue.map OverdueStage.episodeSeq).map
          fun episode => s!"overdue-{episode}-{position}" := by
      rw [List.map_map]
      rfl
    rw [hfactor] at htexts
    exact htexts.of_map

/-!
## What the sweeps guarantee each other
-/

section Guarantees

variable {env : Environment} {scope : RepositoryScope} {streamId : OpaqueId}
  {rfc3339 : PersistedTimestamp -> String}
  {stream stream' : VerifiedStream env scope streamId.text} {phase phase' : SweepPhase}
  {action : SweepAction}

def SweepSound (stream : VerifiedStream env scope streamId.text) : SweepPhase -> Prop
  | .idle => True
  | .judged _ _ overdue observed =>
      observed <= stream.events.length ∧
        forall stage, stage ∈ overdue ->
          stage.episodeSeq ∉ raisedEpisodes (stream.events.take observed)
  | .placed batch _ observed =>
      observed <= stream.events.length ∧
        (forall episode, episode ∈ raisedBy batch ->
          episode ∉ raisedEpisodes (stream.events.take observed)) ∧
        ((batch.map NewEvent.idempotencyKey).Nodup -> (raisedBy batch).Nodup)

/-- The moves of a sweep, with what each of them establishes. -/
inductive SweepStep (stream : VerifiedStream env scope streamId.text) :
    SweepPhase -> SweepAction -> VerifiedStream env scope streamId.text -> SweepPhase -> Prop
  | abandon {phase : SweepPhase} : SweepStep stream phase .abandon stream .idle
  | judge {request : SweepRequest} {now : PersistedTimestamp} {executionId : OpaqueId}
      {overdue : List OverdueStage}
      (hunmarked : forall stage, stage ∈ overdue ->
        stage.episodeSeq ∉ raisedEpisodes stream.events) :
      SweepStep stream .idle (.judge request now) stream
        (.judged request executionId overdue stream.events.length)
  | readNextSequence {request : SweepRequest} {executionId : OpaqueId}
      {overdue : List OverdueStage} {batch : List NewEvent} {observed : Nat}
      (hraised : raisedBy batch = overdue.map OverdueStage.episodeSeq)
      (hdistinct : (batch.map NewEvent.idempotencyKey).Nodup ->
        (overdue.map OverdueStage.episodeSeq).Nodup) :
      SweepStep stream (.judged request executionId overdue observed) .readNextSequence
        stream (.placed batch stream.nextSequence observed)
  | append {batch : List NewEvent} {position observed : Nat} {stamps : Stamps}
      {stream' : VerifiedStream env scope streamId.text} {added : List EventEnvelope}
      (happended : Appended position batch stream.events stream'.events added) :
      SweepStep stream (.placed batch position observed) (.append stamps) stream' .idle
  | other {news : List NewEvent} {stamps : Stamps}
      {stream' : VerifiedStream env scope streamId.text} {added : List EventEnvelope}
      (happended : Appended stream.nextSequence news stream.events stream'.events added)
      (hnone : raisedBy news = []) :
      SweepStep stream .idle (.other news stamps) stream' .idle

theorem judgeSweep_unmarked {streamId : String} {now : PersistedTimestamp}
    {request : SweepRequest} {history : List EventEnvelope} {executionId : OpaqueId}
    (h : judgeSweep env scope streamId now request history = .ok (executionId, overdue)) :
    forall stage, stage ∈ overdue -> stage.episodeSeq ∉ raisedEpisodes history := by
  unfold judgeSweep at h
  rcases check_ok h with ⟨_, h⟩
  cases hreplay : replay env scope streamId history with
  | error error =>
      rw [hreplay] at h
      cases h
  | ok projection =>
      rw [hreplay] at h
      rcases bind_ok h with ⟨_, _, h⟩
      cases h
      rcases replay_eq_ok_iff.mp hreplay with ⟨_, st, hfold, hprojection⟩
      intro stage hstage hraised
      refine overdueAt_unmarked hstage ?_
      rw [← hprojection]
      exact (exceptionMarked_iff_raised hfold).mpr hraised

theorem sweepMove_step (h : sweepMove rfc3339 stream phase action = some (stream', phase')) :
    SweepStep stream phase action stream' phase' := by
  unfold sweepMove at h
  split at h
  · split at h
    · rename_i executionId overdue hjudge
      cases h
      exact SweepStep.judge (judgeSweep_unmarked hjudge)
    · cases h
  · split at h
    · rename_i batch hbatch
      cases h
      rcases sweepEvents_eq_ok hbatch with ⟨hraised, hdistinct⟩
      exact SweepStep.readNextSequence hraised hdistinct
    · cases h
  · rcases settle_eq_some h with ⟨happend, rfl⟩
    rcases append_eq_ok happend with ⟨added, happended⟩
    exact SweepStep.append happended
  · split at h
    · rename_i hnone
      rcases settle_eq_some h with ⟨happend, rfl⟩
      rcases append_eq_ok happend with ⟨added, happended⟩
      exact SweepStep.other happended (List.isEmpty_iff.mp hnone)
    · cases h
  · cases h
    exact SweepStep.abandon
  · cases h

theorem SweepStep.extends (h : SweepStep stream phase action stream' phase') :
    exists added, stream'.events = stream.events ++ added := by
  cases h with
  | abandon | judge | readNextSequence =>
      exact ⟨[], (List.append_nil stream.events).symm⟩
  | append happended =>
      exact ⟨_, happended.extended⟩
  | other happended =>
      exact ⟨_, happended.extended⟩

theorem SweepSound.extend (h : SweepSound stream phase)
    (hextends : exists added, stream'.events = stream.events ++ added) :
    SweepSound stream' phase := by
  rcases hextends with ⟨added, hadded⟩
  cases phase with
  | idle =>
      trivial
  | judged request executionId overdue observed =>
      rcases h with ⟨hobserved, hunmarked⟩
      refine And.intro ?_ ?_
      · rw [hadded, List.length_append]
        exact Nat.le_add_right_of_le hobserved
      · rw [hadded, List.take_append_of_le_length hobserved]
        exact hunmarked
  | placed batch position observed =>
      rcases h with ⟨hobserved, hunmarked, hdistinct⟩
      refine ⟨?_, ?_, hdistinct⟩
      · rw [hadded, List.length_append]
        exact Nat.le_add_right_of_le hobserved
      · rw [hadded, List.take_append_of_le_length hobserved]
        exact hunmarked

theorem raisedEpisodes_appended {position : Nat} {news : List NewEvent}
    {before after added : List EventEnvelope} (h : Appended position news before after added) :
    raisedEpisodes after = raisedEpisodes before ++ raisedBy news := by
  rw [h.extended, raisedEpisodes_append, ← h.carries]
  unfold raisedBy raisedEpisodes
  rw [List.filterMap_map]
  rfl

theorem raisedEpisodes_split (events : List EventEnvelope) (observed : Nat) :
    raisedEpisodes events =
      raisedEpisodes (events.take observed) ++ raisedEpisodes (events.drop observed) := by
  rw [← raisedEpisodes_append, List.take_append_drop]

theorem sweepMove_guarantees :
    Guarantees (@sweepMove env scope streamId rfc3339)
      SweepsFresh (fun stream => OneExceptionPerEpisode stream.events) SweepSound := by
  refine ⟨?_, ?_, ?_⟩
  · intro s l a s' l' hshared hlocal hcondition hmove
    unfold OneExceptionPerEpisode at hshared ⊢
    cases sweepMove_step hmove with
    | abandon | judge | readNextSequence =>
        exact hshared
    | @append batch position observed stamps _ added happended =>
        rcases hlocal with ⟨_, hunmarked, hdistinct⟩
        rw [raisedEpisodes_appended happended, List.nodup_append]
        refine ⟨hshared, hdistinct happended.distinct, ?_⟩
        intro episode hbefore other hraised heq
        subst heq
        rw [raisedEpisodes_split s.events observed, List.mem_append] at hbefore
        rcases hbefore with hjudged | hsince
        · exact hunmarked episode hraised hjudged
        · exact hcondition episode hraised hsince
    | other happended hnone =>
        rw [raisedEpisodes_appended happended, hnone, List.append_nil]
        exact hshared
  · intro s l a s' l' hshared hlocal hcondition hmove
    cases sweepMove_step hmove with
    | abandon | append | other =>
        trivial
    | judge hunmarked =>
        refine And.intro (Nat.le_refl _) ?_
        rw [List.take_length]
        exact hunmarked
    | readNextSequence hraised hdistinct =>
        rcases hlocal with ⟨hobserved, hunmarked⟩
        refine ⟨hobserved, ?_, ?_⟩
        · intro episode hepisode
          rw [hraised] at hepisode
          rcases List.mem_map.mp hepisode with ⟨stage, hstage, rfl⟩
          exact hunmarked stage hstage
        · rw [hraised]
          exact hdistinct
  · intro s l a s' l' _ _ _ hmove other hother
    exact hother.extend (sweepMove_step hmove).extends

/--
From a history with at most one exception for each episode and every sweep at
rest, a run ends with such a history exactly when no sweep of it appended an
exception for an episode marked since the sweep's first read.
-/
theorem oneExceptionPerEpisode_iff {Writer : Type} [DecidableEq Writer]
    {c c' : Configuration Writer (VerifiedStream env scope streamId.text) SweepPhase}
    {turns : List (Writer × SweepAction)}
    (hfresh : OneExceptionPerEpisode c.shared.events)
    (hidle : forall writer, c.locals writer = .idle)
    (hrun : run (interleave (sweepMove rfc3339)) c turns = some c') :
    OneExceptionPerEpisode c'.shared.events <->
      StepsMeet (interleave (sweepMove rfc3339)) (AtTurn SweepsFresh) c turns := by
  have hstart : Holds (fun stream : VerifiedStream env scope streamId.text =>
      OneExceptionPerEpisode stream.events) SweepSound c := by
    refine ⟨hfresh, ?_⟩
    intro writer
    rw [hidle writer]
    trivial
  refine Holds.run_good_iff sweepMove_guarantees
    (fun stream => OneExceptionPerEpisode stream.events) id ?_ ?_ hstart hrun
  · intro s l a s' l' _ _ hcondition hmove hgood
    apply hcondition
    cases sweepMove_step hmove with
    | abandon =>
        cases l <;> trivial
    | judge | readNextSequence | other =>
        trivial
    | @append batch position observed stamps _ added happended =>
        intro episode hraised hsince
        unfold OneExceptionPerEpisode at hgood
        rw [raisedEpisodes_appended happended, List.nodup_append] at hgood
        refine hgood.right.right episode ?_ episode hraised rfl
        rw [raisedEpisodes_split s.events observed]
        exact List.mem_append_right _ hsince
  · intro s l a s' l' hbad hmove hgood
    rcases (sweepMove_step hmove).extends with ⟨added, hadded⟩
    apply hbad
    unfold OneExceptionPerEpisode at hgood ⊢
    rw [hadded, raisedEpisodes_append] at hgood
    exact (List.nodup_append.mp hgood).left

end Guarantees

namespace Sample

def impatientlyParked : List NewEvent :=
  event "form" (.executionFormDeclared
    { executionId := executionId
      nodeCustomsBudgets :=
        (∅ : Std.ExtTreeMap String CustomsBudgets).insert "node"
          { waitWithinSeconds := 1
            clearanceWithinSeconds := 1
            dlqWithinSeconds := none }
      body := "" }) :: parked

/-- Sweeps at rest around a wait that has run out of patience. -/
def restingSweeps :
    Configuration Nat (VerifiedStream env scope streamId.text) SweepPhase :=
  { shared := verified impatientlyParked
    locals := fun _ => .idle }

def judge : SweepAction :=
  .judge
    { asOf := 3000000000
      actor := { actorType := .system, id := "system" }
      caller := .tick
      recordKey := none }
    3000000000

def rfc3339 (instant : PersistedTimestamp) : String :=
  toString instant

def racingSweeps : List (Nat × SweepAction) :=
  [(0, judge), (1, judge), (0, .readNextSequence), (0, .append (stamps 6)),
    (1, .readNextSequence), (1, .append (stamps 8))]

/-- The second sweep judges after the first has appended. -/
def queuedSweeps : List (Nat × SweepAction) :=
  [(0, judge), (0, .readNextSequence), (0, .append (stamps 6)),
    (1, judge), (1, .readNextSequence), (1, .append (stamps 8))]

end Sample

theorem Sample.restingSweeps_fresh :
    OneExceptionPerEpisode Sample.restingSweeps.shared.events := by
  unfold OneExceptionPerEpisode
  decide

theorem oneExceptionPerEpisode_iff_when_sweeps_queue : exists c',
    run (interleave (sweepMove Sample.rfc3339)) Sample.restingSweeps Sample.queuedSweeps =
        some c' ∧
      (OneExceptionPerEpisode c'.shared.events <->
        StepsMeet (interleave (sweepMove Sample.rfc3339)) (AtTurn SweepsFresh)
          Sample.restingSweeps Sample.queuedSweeps) := by
  have hsome : (run (interleave (sweepMove Sample.rfc3339)) Sample.restingSweeps
      Sample.queuedSweeps).isSome = true := by decide +kernel
  rcases Option.isSome_iff_exists.mp hsome with ⟨c', hrun⟩
  exact ⟨c', hrun,
    oneExceptionPerEpisode_iff Sample.restingSweeps_fresh (fun _ => rfl) hrun⟩

/-- Both sweeps raise the one lapsed episode. -/
theorem oneExceptionPerEpisode_fails_when_sweeps_race :
    OneExceptionPerEpisode Sample.restingSweeps.shared.events ∧
      exists c',
        run (interleave (sweepMove Sample.rfc3339)) Sample.restingSweeps
            Sample.racingSweeps = some c' ∧
          ¬ OneExceptionPerEpisode c'.shared.events := by
  have hrace : ((run (interleave (sweepMove Sample.rfc3339)) Sample.restingSweeps
      Sample.racingSweeps).any fun c =>
        raisedEpisodes c.shared.events = [6, 6]) = true := by decide +kernel
  rcases (Option.any_eq_true _ _).mp hrace with ⟨c', hrun, hraised⟩
  refine And.intro Sample.restingSweeps_fresh ⟨c', hrun, ?_⟩
  unfold OneExceptionPerEpisode
  rw [of_decide_eq_true hraised]
  decide

end GraphHelm
