import GraphHelm.Runtime.Resuming

/-!
# Drives and owner verbs as writers of one stream

Every writer of an execution's stream, step by step: the two drivers
(`core/runtime/src/driver.rs` and `apps/cli/src/commands/execution/driver.rs`),
`resume.rs`, `pause.rs`, `cancel.rs` and `approve.rs`, the governor's acceptance
and the verbs that record no outcome.  A step reads the stream, decides, or
appends; steps of different writers come in any order.
-/

namespace GraphHelm

open Std
open ErrorState OrderedMap VerifiedStream

/-!
## Drives
-/

/-- The arguments a drive keeps from its start to its end. -/
structure DriveCall where
  executionId : OpaqueId
  spec : GraphSpec
  actor : PersistedActor
  release : List String
  releaseActor : PersistedActor
  /-- The driver of the command line, which runs one node at a time. -/
  synchronous : Bool

inductive DrivePhase where
  /-- The top of the loop. -/
  | pass
  | approving (untouched : List String)
  | releasing (held : List String)
  | dispatching (plan : List String)
  /-- The `Started` hops `node` still needs, and the plan after it. -/
  | starting (node : String) (hops : Nat) (plan : List String)
  /-- An immediate pause was asked for: everything in flight is interrupted. -/
  | stopping
  | settling

structure Drive where
  call : DriveCall
  phase : DrivePhase
  inFlight : List String
  refused : List String

namespace Drive

def start (call : DriveCall) : Drive :=
  { call := call
    phase := .pass
    inFlight := []
    refused := [] }

def untouched (drive : Drive) (projection : ExecutionProjection) : List String :=
  drive.call.spec.nodes.keys.filter fun node =>
    projection.nodeStates[node]?.getD .draft = .draft

def held (drive : Drive) (projection : ExecutionProjection) : List String :=
  drive.call.release.filter fun node =>
    projection.nodeStates[node]? = some .paused &&
      projection.simulationStatus != some .paused &&
        edgesSatisfied drive.call.spec projection.nodeStates node

/-- What counts against the parallel limit. -/
def busy (drive : Drive) (projection : ExecutionProjection) : Nat :=
  if drive.call.synchronous then
    (nodesIn projection .running).length
  else
    drive.inFlight.length

def planned (drive : Drive) (projection : ExecutionProjection) : Option Drive :=
  match dispatchCandidates drive.call.spec projection.nodeStates with
  | .error _ => none
  | .ok candidates =>
      let fresh := candidates.filter fun node =>
        !drive.inFlight.contains node && !drive.refused.contains node
      let plan :=
        if projection.simulationStatus = some .paused then
          .ok []
        else
          dispatchPlan fresh projection.nodeAttempts (drive.busy projection)
            (parallelLimit drive.call.spec)
      match plan with
      | .error _ => none
      | .ok plan =>
          if plan.isEmpty && drive.inFlight.isEmpty then
            some { drive with phase := .settling }
          else
            some { drive with phase := .dispatching plan }

/-- The rereads of the loop, and what each of them leads to. -/
def reread (drive : Drive) (projection : ExecutionProjection) : Option Drive :=
  match drive.phase with
  | .pass =>
      if !drive.call.synchronous && pendingProposal projection then
        none
      else
        some { drive with phase := .approving (drive.untouched projection) }
  | .approving [] =>
      match drive.held projection with
      | [] => drive.planned projection
      | node :: rest => some { drive with phase := .releasing (node :: rest) }
  | .releasing [] => drive.planned projection
  | .dispatching (node :: rest) =>
      if projection.simulationStatus = some .paused then
        some { drive with phase := .dispatching [] }
      else if projection.nodeStates[node]? = some .ready then
        some { drive with phase := .starting node 2 rest }
      else
        some { drive with phase := .starting node 1 rest }
  | _ => none

/-- The steps of the loop that read nothing. -/
inductive Turn where
  /-- `build_work` refused the next node of the plan. -/
  | refuse
  | launch
  /-- The executor answered nothing for a node in flight. -/
  | lose (node : String)
  | nextPass
  | stop

def turn (drive : Drive) (choice : Turn) : Option Drive :=
  match drive.phase, choice with
  | .dispatching (node :: rest), .refuse =>
      some { drive with phase := .dispatching rest, refused := node :: drive.refused }
  | .starting node 0 rest, .launch =>
      some { drive with phase := .dispatching rest, inFlight := node :: drive.inFlight }
  | .dispatching plan, .lose node =>
      some
        { drive with
          phase := .dispatching plan
          inFlight := drive.inFlight.filter fun other => other != node
          refused := node :: drive.refused }
  | .dispatching [], .nextPass => some { drive with phase := .pass }
  | .pass, .stop | .dispatching _, .stop =>
      if drive.call.synchronous then none else some { drive with phase := .stopping }
  | _, _ => none

end Drive

structure DueOutcome where
  actor : PersistedActor
  node : String
  outcome : NodeOutcome
  next : Drive

/-- The outcome the loop writes next of its own accord. -/
def Drive.due (drive : Drive) : Option DueOutcome :=
  match drive.phase, drive.inFlight with
  | .approving (node :: rest), _ =>
      some
        { actor := drive.call.actor
          node := node
          outcome := .approved
          next := { drive with phase := .approving rest } }
  | .releasing (node :: rest), _ =>
      some
        { actor := drive.call.releaseActor
          node := node
          outcome := .started
          next := { drive with phase := .releasing rest } }
  | .starting node (hops + 1) rest, _ =>
      some
        { actor := drive.call.actor
          node := node
          outcome := .started
          next := { drive with phase := .starting node hops rest } }
  | .stopping, node :: rest =>
      some
        { actor := drive.call.actor
          node := node
          outcome := .interrupted
          next := { drive with inFlight := rest } }
  | _, _ => none

/-- A lifecycle hop: nothing was executed, so there is nothing to explain. -/
def bare (outcome : NodeOutcome) : WorkOutcome :=
  { outcome := outcome
    cause := ""
    reuse := none
    gateVerdict := none
    sealedReferences := [] }

def Drive.park (drive : Drive) (node : String) (work : WorkOutcome) : WorkOutcome :=
  if work.outcome = .succeeded && completionIsGatedIn drive.call.spec node then
    { work with outcome := .needsInput }
  else
    work

/-!
## Owner verbs
-/

/-- What a verb keeps from its first read on. -/
structure VerbRun where
  executionId : OpaqueId
  actor : PersistedActor
  key : OpaqueId
  outcomeKey : Nat -> OpaqueId

inductive VerbTask where
  | recover (graph : SuppliedGraph) (nodes : List String)
  | hold (nodes : List String)
  | cancel (nodes : List String)
  | approve (node : String)

/-- The next `record_outcome` of a verb: the node, the outcome and what is left after it. -/
def VerbTask.due : VerbTask -> Option (String × NodeOutcome × VerbTask)
  | .recover graph (node :: rest) => some (node, .interrupted, .recover graph rest)
  | .hold (node :: rest) => some (node, .paused, .hold rest)
  | .cancel (node :: rest) => some (node, .cancelled, .cancel rest)
  | .approve node => some (node, .approved, .hold [])
  | _ => none

structure VerbCall where
  actor : PersistedActor
  key : OpaqueId
  outcomeKey : Nat -> OpaqueId

def VerbCall.run (call : VerbCall) (executionId : OpaqueId) : VerbRun :=
  { executionId := executionId
    actor := call.actor
    key := call.key
    outcomeKey := call.outcomeKey }

def VerbRun.outcomeCall (verb : VerbRun) (observed : Nat) : OutcomeCall :=
  { executionId := verb.executionId
    actor := verb.actor
    key := fun _ => verb.outcomeKey observed }

def VerbRun.event (verb : VerbRun) (kind : EventKind) : NewEvent :=
  { idempotencyKey := verb.key
    actor := verb.actor
    sensitivity := .internal
    kind := kind
    evidenceRefs := []
    artifactRefs := [] }

def nonTerminalNodes (projection : ExecutionProjection) : List String :=
  (projection.nodeStates.toList.filter fun entry => !isTerminal entry.2).map Prod.fst

/-- The nodes a pause holds: those a drive could dispatch, when the graph is at hand. -/
def heldByPause (graph : Option SuppliedGraph) (projection : ExecutionProjection) :
    List String :=
  let waiting := (projection.nodeStates.toList.filter fun entry =>
    entry.2 = .ready || entry.2 = .queued).map Prod.fst
  match graph with
  | none => waiting
  | some graph =>
      match dispatchCandidates graph.spec projection.nodeStates with
      | .error _ => waiting
      | .ok candidates => waiting.filter fun node => candidates.contains node

/-!
## Writers
-/

/-- What a writer is doing between two of its steps. -/
inductive Activity where
  | idle
  | driving (drive : Drive)
  | verb (verb : VerbRun) (task : VerbTask)
  /-- A drive has decided on a batch, and has or has not read where it is to go. -/
  | placing (batch : List NewEvent) (position : Option Nat) (next : Activity)
  /-- A verb has decided on a batch, to go behind the head it observed or nowhere. -/
  | pinned (batch : List NewEvent) (observed : Nat) (next : Activity)
  /-- A cancel has answered that it completed the execution on the first `observed` events. -/
  | cancelled (observed : Nat)

inductive WriterAction where
  | drive (call : DriveCall)
  | resume (call : VerbCall) (graph : SuppliedGraph) (verifyGraph : Bool)
  | pause (call : VerbCall) (graph : Option SuppliedGraph)
  | cancel (call : VerbCall)
  | approve (call : VerbCall) (node : String)
  | reread
  | turn (choice : Drive.Turn)
  /-- The outcome that is due is decided on the stream as it is. -/
  | record (key : Nat -> OpaqueId)
  /-- The work of a node in flight is done. -/
  | finish (node : String) (work : WorkOutcome) (key : Nat -> OpaqueId)
  /-- A drive appends a record of the dispatch it is making. -/
  | note (news : List NewEvent)
  | settle (branch : DriveBranch) (key : Nat -> OpaqueId)
  /-- A verb that has recorded its outcomes reads again and decides on its last event. -/
  | conclude
  | readNextSequence
  | append (stamps : Stamps)
  | accept (acceptance : DraftAcceptance) (batch : List NewEvent) (stamps : Stamps)
  | other (news : List NewEvent) (stamps : Stamps)
  /-- The writer failed, stopped or was killed. -/
  | abandon

def statesNode : EventKind -> Bool
  | .nodeOutcomeRecorded _ | .nodeStateChanged _ => true
  | _ => false

section Starting

variable (projection : ExecutionProjection) (history : List EventEnvelope)

def startedId : Option OpaqueId :=
  projection.executionId.bind OpaqueId.parse

/-- The head of `execute_prepared_with_verification`; an unstarted execution is refused. -/
def beginResume (call : VerbCall) (graph : SuppliedGraph) (verifyGraph : Bool) :
    Option Activity := do
  let executionId <- startedId projection
  if verifyGraph && !(verifyGraphMatchesExecution graph projection history).isOk then
    none
  else
    some (.verb (call.run executionId) (.recover graph (recoveryPlan projection)))

def beginPause (call : VerbCall) (graph : Option SuppliedGraph) : Option Activity := do
  let executionId <- startedId projection
  let mismatched := graph.any fun graph =>
    !(verifyGraphMatchesExecution graph projection history).isOk
  if mismatched || !isPausable projection.simulationStatus then
    none
  else
    let verb := call.run executionId
    some
      (.pinned [verb.event (.executionPaused { executionId := executionId })]
        (atSequence history) (.verb verb (.hold (heldByPause graph projection))))

def beginCancel (call : VerbCall) : Option Activity := do
  let executionId <- startedId projection
  if alreadyTerminal projection then
    none
  else
    some (.verb (call.run executionId) (.cancel (nonTerminalNodes projection)))

def beginApprove (call : VerbCall) (node : String) : Option Activity := do
  let executionId <- startedId projection
  let state := projection.nodeStates[node]?.getD .draft
  if state = .ghost || state = .blocked then
    some (.verb (call.run executionId) (.approve node))
  else
    none

end Starting

/-- The actor of a drive, and of everything it decides on its own. -/
def systemActor : PersistedActor :=
  { actorType := .system, id := "system-cli" }

def ownerActor : PersistedActor :=
  { actorType := .owner, id := "owner-cli" }

def concludeVerb (verb : VerbRun) (task : VerbTask) (projection : ExecutionProjection)
    (observed : Nat) : Option Activity :=
  match task with
  | .recover graph [] =>
      match resumePreconditions projection (some graph.number), startedId projection with
      | .ok _, some executionId =>
          some
            (.pinned [verb.event (.executionResumed { executionId := executionId })] observed
              (.driving
                (Drive.start
                  { executionId := executionId
                    spec := graph.spec
                    actor := systemActor
                    release := nodesIn projection .paused
                    releaseActor := ownerActor
                    synchronous := false })))
      | _, _ => none
  | .cancel [] =>
      if alreadyTerminal projection then
        none
      else
        some
          (.pinned
            [verb.event
              (.executionCompleted { executionId := verb.executionId, status := .cancelled })]
            observed (.cancelled observed))
  | _ => none

def Drive.settles (drive : Drive) (branch : DriveBranch) : Bool :=
  match drive.phase, branch with
  | .pass, .pendingProposal => !drive.call.synchronous
  | .pass, .preflight _ => !drive.call.synchronous
  | .stopping, .cancelledRequest => drive.inFlight.isEmpty
  | .settling, .quiescence nodes => nodes = drive.call.spec.nodes.keys
  | _, _ => false

section Moves

variable {env : Environment} {scope : RepositoryScope} {streamId : OpaqueId}

/-- A drive's outcome, decided as `record_outcome_cached` decides it. -/
def decideWrite (stream : VerifiedStream env scope streamId.text) (drive : Drive)
    (actor : PersistedActor) (key : Nat -> OpaqueId) (node : String) (work : WorkOutcome)
    (next : Drive) : Option Activity :=
  match headAnswer stream with
  | .error _ => none
  | .ok (projection, started) =>
      match decideOutcome
          { executionId := drive.call.executionId, actor := actor, key := key } node work
          projection started with
      | .ok batch => some (.placing batch none (.driving next))
      | .error _ => none

def readMove (stream : VerifiedStream env scope streamId.text) (activity : Activity)
    (action : WriterAction) : Option Activity :=
  match replay env scope streamId.text stream.events with
  | .error _ => none
  | .ok projection =>
      match activity, action with
      | .idle, .resume call graph verifyGraph =>
          beginResume projection stream.events call graph verifyGraph
      | .idle, .pause call graph => beginPause projection stream.events call graph
      | .idle, .cancel call => beginCancel projection call
      | .idle, .approve call node => beginApprove projection call node
      | .driving drive, .reread => (drive.reread projection).map .driving
      | .driving drive, .settle branch key =>
          if drive.settles branch then
            (branch.decide drive.call.executionId projection).map fun plan =>
              .placing (plan.events key drive.call.actor) none .idle
          else
            none
      | .verb verb task, .record _ =>
          task.due.bind fun due =>
            (decideOwnerOutcome (verb.outcomeCall (atSequence stream.events)) due.1 due.2.1 ""
              projection).map fun batch =>
              .pinned batch (atSequence stream.events) (.verb verb due.2.2)
      | .verb verb task, .conclude =>
          concludeVerb verb task projection (atSequence stream.events)
      | _, _ => none

def writerMove (stream : VerifiedStream env scope streamId.text) (activity : Activity)
    (action : WriterAction) : Option (VerifiedStream env scope streamId.text × Activity) :=
  match activity, action with
  | _, .abandon => some (stream, .idle)
  | .idle, .drive call => some (stream, .driving (Drive.start call))
  | .driving drive, .turn choice =>
      (drive.turn choice).map fun next => (stream, .driving next)
  | .driving drive, .record key =>
      drive.due.bind fun due =>
        (decideWrite stream drive due.actor key due.node (bare due.outcome) due.next).map
          fun next => (stream, next)
  | .driving drive, .finish node work key =>
      match drive.phase with
      | .dispatching plan =>
          if drive.inFlight.contains node then
            (decideWrite stream drive drive.call.actor key node (drive.park node work)
                { drive with
                  phase := .dispatching plan
                  inFlight := drive.inFlight.filter fun other => other != node }).map
              fun next => (stream, next)
          else
            none
      | _ => none
  | .driving drive, .note news =>
      match drive.phase with
      | .starting _ 0 _ =>
          if news.any fun event => writesNodes event.kind then
            none
          else
            some (stream, .placing news none (.driving drive))
      | _ => none
  | .placing batch none next, .readNextSequence =>
      some (stream, .placing batch (some stream.nextSequence) next)
  | .placing batch (some position) next, .append stamps =>
      settle next (stream.append stamps position batch)
  | .pinned batch observed next, .append stamps =>
      settle next (stream.append stamps (observed + 1) batch)
  | .idle, .accept acceptance batch stamps =>
      if some (batch.map NewEvent.kind) = acceptance.kinds then
        settle .idle (stream.append stamps stream.nextSequence batch)
      else
        none
  | .idle, .other news stamps =>
      if news.any fun event => statesNode event.kind then
        none
      else
        settle .idle (stream.append stamps stream.nextSequence news)
  | activity, action => (readMove stream activity action).map fun next => (stream, next)

/-!
## What one step establishes
-/

variable {stream stream' : VerifiedStream env scope streamId.text}
  {activity activity' : Activity} {action : WriterAction}

def RecordsOn (stream : VerifiedStream env scope streamId.text) (node : String)
    (outcome : NodeOutcome) (batch : List NewEvent) : Prop :=
  exists st, foldHistory env stream.events = some st ∧
    BatchRecords st.projection node outcome batch

def Reads (stream : VerifiedStream env scope streamId.text)
    (projection : ExecutionProjection) : Prop :=
  exists st, foldHistory env stream.events = some st ∧ st.projection = projection

inductive WriterStep (stream : VerifiedStream env scope streamId.text) :
    Activity -> WriterAction -> VerifiedStream env scope streamId.text -> Activity -> Prop
  | abandon {activity : Activity} : WriterStep stream activity .abandon stream .idle
  | drive {call : DriveCall} :
      WriterStep stream .idle (.drive call) stream (.driving (Drive.start call))
  | turn {drive next : Drive} {choice : Drive.Turn} (hturn : drive.turn choice = some next) :
      WriterStep stream (.driving drive) (.turn choice) stream (.driving next)
  | reread {drive next : Drive} {projection : ExecutionProjection}
      (hreads : Reads stream projection) (hnext : drive.reread projection = some next) :
      WriterStep stream (.driving drive) .reread stream (.driving next)
  | due {drive : Drive} {due : DueOutcome} {key : Nat -> OpaqueId} {batch : List NewEvent}
      (hdue : drive.due = some due) (hrecords : RecordsOn stream due.node due.outcome batch) :
      WriterStep stream (.driving drive) (.record key) stream
        (.placing batch none (.driving due.next))
  | finish {drive : Drive} {node : String} {work : WorkOutcome} {key : Nat -> OpaqueId}
      {outcome : NodeOutcome} {batch : List NewEvent} (hflight : node ∈ drive.inFlight)
      (hrecords : RecordsOn stream node outcome batch) :
      WriterStep stream (.driving drive) (.finish node work key) stream
        (.placing batch none
          (.driving
            { drive with inFlight := drive.inFlight.filter fun other => other != node }))
  | note {drive : Drive} {news : List NewEvent}
      (hplain : forall event, event ∈ news -> writesNodes event.kind = false) :
      WriterStep stream (.driving drive) (.note news) stream (.placing news none (.driving drive))
  | settle {drive : Drive} {branch : DriveBranch} {key : Nat -> OpaqueId}
      {batch : List NewEvent}
      (hplain : forall event, event ∈ batch -> writesNodes event.kind = false) :
      WriterStep stream (.driving drive) (.settle branch key) stream (.placing batch none .idle)
  | readNextSequence {batch : List NewEvent} {next : Activity} :
      WriterStep stream (.placing batch none next) .readNextSequence stream
        (.placing batch (some stream.nextSequence) next)
  | resume {projection : ExecutionProjection} {call : VerbCall} {graph : SuppliedGraph}
      {verifyGraph : Bool} {next : Activity} (hreads : Reads stream projection)
      (hnext : beginResume projection stream.events call graph verifyGraph = some next) :
      WriterStep stream .idle (.resume call graph verifyGraph) stream next
  | pause {projection : ExecutionProjection} {call : VerbCall} {graph : Option SuppliedGraph}
      {next : Activity} (hreads : Reads stream projection)
      (hnext : beginPause projection stream.events call graph = some next) :
      WriterStep stream .idle (.pause call graph) stream next
  | cancel {projection : ExecutionProjection} {call : VerbCall} {next : Activity}
      (hreads : Reads stream projection) (hnext : beginCancel projection call = some next) :
      WriterStep stream .idle (.cancel call) stream next
  | approve {projection : ExecutionProjection} {call : VerbCall} {node : String}
      {next : Activity} (hreads : Reads stream projection)
      (hnext : beginApprove projection call node = some next) :
      WriterStep stream .idle (.approve call node) stream next
  | verbDue {verb : VerbRun} {task left : VerbTask} {key : Nat -> OpaqueId} {node : String}
      {outcome : NodeOutcome} {batch : List NewEvent}
      (hdue : task.due = some (node, outcome, left))
      (hrecords : RecordsOn stream node outcome batch) :
      WriterStep stream (.verb verb task) (.record key) stream
        (.pinned batch stream.events.length (.verb verb left))
  | conclude {verb : VerbRun} {task : VerbTask} {projection : ExecutionProjection}
      {next : Activity} (hreads : Reads stream projection)
      (hnext : concludeVerb verb task projection stream.events.length = some next) :
      WriterStep stream (.verb verb task) .conclude stream next
  | placed {batch : List NewEvent} {position : Nat} {next : Activity} {stamps : Stamps}
      {stream' : VerifiedStream env scope streamId.text} {added : List EventEnvelope}
      (happended : Appended position batch stream.events stream'.events added) :
      WriterStep stream (.placing batch (some position) next) (.append stamps) stream' next
  | pinned {batch : List NewEvent} {observed : Nat} {next : Activity} {stamps : Stamps}
      {stream' : VerifiedStream env scope streamId.text} {added : List EventEnvelope}
      (happended : Appended (observed + 1) batch stream.events stream'.events added) :
      WriterStep stream (.pinned batch observed next) (.append stamps) stream' next
  | accept {acceptance : DraftAcceptance} {batch : List NewEvent} {stamps : Stamps}
      {stream' : VerifiedStream env scope streamId.text} {added : List EventEnvelope}
      (hkinds : some (batch.map NewEvent.kind) = acceptance.kinds)
      (happended : Appended stream.nextSequence batch stream.events stream'.events added) :
      WriterStep stream .idle (.accept acceptance batch stamps) stream' .idle
  | other {news : List NewEvent} {stamps : Stamps}
      {stream' : VerifiedStream env scope streamId.text} {added : List EventEnvelope}
      (hplain : forall event, event ∈ news -> statesNode event.kind = false)
      (happended : Appended stream.nextSequence news stream.events stream'.events added) :
      WriterStep stream .idle (.other news stamps) stream' .idle

theorem reads_of_replay {projection : ExecutionProjection}
    (h : replay env scope streamId.text stream.events = .ok projection) :
    Reads stream projection := by
  rcases replay_eq_ok_iff.mp h with ⟨_, st, hfold, hprojection⟩
  exact ⟨st, hfold, hprojection⟩

theorem Reads.records {projection : ExecutionProjection} {node : String}
    {outcome : NodeOutcome} {batch : List NewEvent} (h : Reads stream projection)
    (hrecords : BatchRecords projection node outcome batch) :
    RecordsOn stream node outcome batch := by
  rcases h with ⟨st, hfold, rfl⟩
  exact ⟨st, hfold, hrecords⟩

theorem decideWrite_eq_some {drive next : Drive} {actor : PersistedActor}
    {key : Nat -> OpaqueId} {node : String} {work : WorkOutcome}
    (h : decideWrite stream drive actor key node work next = some activity) :
    exists batch, activity = .placing batch none (.driving next) ∧
      RecordsOn stream node work.outcome batch := by
  unfold decideWrite at h
  split at h
  · cases h
  · rename_i projection started hanswer
    split at h
    · rename_i batch hbatch
      cases h
      refine ⟨batch, rfl, ?_⟩
      unfold headAnswer at hanswer
      split at hanswer
      · rename_i replayed hreplay
        cases hanswer
        exact (reads_of_replay hreplay).records (decideOutcome_records hbatch)
      · cases hanswer
    · cases h

theorem PausePlan.events_plain (plan : PausePlan) (key : Nat -> OpaqueId)
    (actor : PersistedActor) {event : NewEvent} (hmem : event ∈ plan.events key actor) :
    writesNodes event.kind = false := by
  have hkind : event.kind ∈ plan.kinds := by
    rw [← PausePlan.events_kinds plan key actor]
    exact List.mem_map_of_mem hmem
  unfold PausePlan.kinds at hkind
  cases plan with
  | pause | resume | complete =>
      rw [List.mem_singleton.mp hkind]
      rfl
  | refusePreflight executionId diagnostics =>
      rcases List.mem_cons.mp hkind with hfirst | hlast
      · rw [hfirst]
        rfl
      · rw [List.mem_singleton.mp hlast]
        rfl

theorem readMove_step (h : readMove stream activity action = some activity') :
    WriterStep stream activity action stream activity' := by
  unfold readMove at h
  split at h
  · cases h
  · rename_i projection hreplay
    have hreads := reads_of_replay hreplay
    split at h
    · exact WriterStep.resume hreads h
    · exact WriterStep.pause hreads h
    · exact WriterStep.cancel hreads h
    · exact WriterStep.approve hreads h
    · rcases Option.map_eq_some_iff.mp h with ⟨next, hnext, rfl⟩
      exact WriterStep.reread hreads hnext
    · split at h
      · rcases Option.map_eq_some_iff.mp h with ⟨plan, _, rfl⟩
        exact WriterStep.settle fun event hmem => plan.events_plain _ _ hmem
      · cases h
    · rcases Option.bind_eq_some_iff.mp h with ⟨⟨node, outcome, left⟩, hdue, h⟩
      rcases Option.map_eq_some_iff.mp h with ⟨batch, hbatch, rfl⟩
      rw [atSequence_eq_length]
      exact WriterStep.verbDue hdue (hreads.records (decideOwnerOutcome_records hbatch))
    · rw [atSequence_eq_length] at h
      exact WriterStep.conclude hreads h
    · cases h

theorem writerMove_step (h : writerMove stream activity action = some (stream', activity')) :
    WriterStep stream activity action stream' activity' := by
  unfold writerMove at h
  split at h
  · cases h
    exact WriterStep.abandon
  · cases h
    exact WriterStep.drive
  · rcases Option.map_eq_some_iff.mp h with ⟨next, hturn, heq⟩
    cases heq
    exact WriterStep.turn hturn
  · rcases Option.bind_eq_some_iff.mp h with ⟨due, hdue, h⟩
    rcases Option.map_eq_some_iff.mp h with ⟨next, hdecided, heq⟩
    cases heq
    rcases decideWrite_eq_some hdecided with ⟨batch, rfl, hrecords⟩
    exact WriterStep.due hdue hrecords
  · rename_i drive node work key
    split at h
    · rename_i plan hphase
      split at h
      · rename_i hflight
        rcases Option.map_eq_some_iff.mp h with ⟨next, hdecided, heq⟩
        cases heq
        rcases decideWrite_eq_some hdecided with ⟨batch, rfl, hrecords⟩
        rw [← hphase]
        exact WriterStep.finish (List.contains_iff_mem.mp hflight) hrecords
      · cases h
    · cases h
  · rename_i drive news
    split at h
    · split at h
      · cases h
      · rename_i hplain
        cases h
        refine WriterStep.note ?_
        intro event hmem
        simp only [List.any_eq_true, not_exists, not_and, Bool.not_eq_true] at hplain
        exact hplain event hmem
    · cases h
  · cases h
    exact WriterStep.readNextSequence
  · rcases settle_eq_some h with ⟨happend, rfl⟩
    rcases append_eq_ok happend with ⟨added, happended⟩
    exact WriterStep.placed happended
  · rcases settle_eq_some h with ⟨happend, rfl⟩
    rcases append_eq_ok happend with ⟨added, happended⟩
    exact WriterStep.pinned happended
  · split at h
    · rename_i hkinds
      rcases settle_eq_some h with ⟨happend, rfl⟩
      rcases append_eq_ok happend with ⟨added, happended⟩
      exact WriterStep.accept hkinds happended
    · cases h
  · split at h
    · cases h
    · rename_i hplain
      rcases settle_eq_some h with ⟨happend, rfl⟩
      rcases append_eq_ok happend with ⟨added, happended⟩
      refine WriterStep.other ?_ happended
      intro event hmem
      simp only [List.any_eq_true, not_exists, not_and, Bool.not_eq_true] at hplain
      exact hplain event hmem
  · rcases Option.map_eq_some_iff.mp h with ⟨next, hread, heq⟩
    cases heq
    exact readMove_step hread

theorem WriterStep.extends (h : WriterStep stream activity action stream' activity') :
    exists added, stream'.events = stream.events ++ added := by
  cases h with
  | placed happended =>
      exact ⟨_, happended.extended⟩
  | pinned happended =>
      exact ⟨_, happended.extended⟩
  | accept hkinds happended =>
      exact ⟨_, happended.extended⟩
  | other hplain happended =>
      exact ⟨_, happended.extended⟩
  | _ =>
      exact ⟨[], (List.append_nil _).symm⟩

end Moves

end GraphHelm
