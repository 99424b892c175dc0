import GraphHelm.Runtime.Delegation
import GraphHelm.Runtime.Writers

/-!
# A drive that delegates

`drive_inner` of `core/runtime/src/driver.rs` with its delegated dispatches: the
reread at dispatch, the bound, the subagent, the `Started` hops, and the two
records that follow them.  Its executor keeps the sessions and answers at any
time.  The owner verbs write the same stream in between, and the drive may end
at any point and another be started.  The store's lock makes each write of the
drive, from its read to its append, one step.
-/

namespace GraphHelm

open Std
open ErrorState OrderedMap VerifiedStream

/-!
## Drives
-/

/-- The arguments of an async drive: the nodes to release are a set. -/
structure ShiftCall where
  call : DriveCall
  delegation : String -> DelegationBlock
  sessions : SubagentSessions
  asynchronous : call.synchronous = false
  released : call.release.Nodup
  /-- The sessions are built for the drive. -/
  fresh : sessions.held = ∅

/-- What the loop reread for a delegated node, and the delegation it chose. -/
structure AtDispatch where
  node : String
  rest : List String
  projection : ExecutionProjection
  chosen : DelegationChosen

/-- How far the dispatch of a delegated node has come. -/
inductive Desk where
  | clear
  | measuring (dispatch : AtDispatch)
  | deciding (dispatch : AtDispatch) (bound : ReuseBound)
  /-- The subagent is decided; the hops and `delegation_chosen` are still to be written. -/
  | choosing (dispatch : AtDispatch) (record : SubagentReused)
  /-- `subagent_reused` is the next event of the drive. -/
  | naming (dispatch : AtDispatch) (record : SubagentReused)
  | named (dispatch : AtDispatch) (record : SubagentReused)
  /-- The drive's last batch. -/
  | closing (batch : List NewEvent)

structure Shift where
  drive : Drive
  delegation : String -> DelegationBlock
  sessions : SubagentSessions
  desk : Desk
  /-- `work.subagent` of the delegated nodes in flight. -/
  subagentOf : List (String × String)

namespace Shift

def start (call : ShiftCall) : Shift :=
  { drive := Drive.start call.call
    delegation := call.delegation
    sessions := call.sessions
    desk := .clear
    subagentOf := [] }

def refuse (shift : Shift) (node : String) (rest : List String) : Shift :=
  { shift with
    drive :=
      { shift.drive with
        phase := .dispatching rest
        refused := node :: shift.drive.refused }
    desk := .clear }

def atDispatch (shift : Shift) (node : String) (rest : List String)
    (projection : ExecutionProjection) : Option Shift :=
  if projection.simulationStatus = some .paused then
    (shift.drive.reread projection).map fun drive => { shift with drive := drive }
  else if !shift.drive.call.spec.nodes.contains node then
    some (shift.refuse node rest)
  else
    match delegationEvent node (shift.delegation node) projection with
    | .error _ => some (shift.refuse node rest)
    | .ok none => (shift.drive.reread projection).map fun drive => { shift with drive := drive }
    | .ok (some chosen) =>
        some
          { shift with
            desk :=
              .measuring
                { node := node
                  rest := rest
                  projection := projection
                  chosen := chosen } }

def reread (shift : Shift) (projection : ExecutionProjection) : Option Shift :=
  match shift.desk, shift.drive.phase with
  | .clear, .dispatching (node :: rest) => shift.atDispatch node rest projection
  | .clear, _ =>
      (shift.drive.reread projection).map fun drive => { shift with drive := drive }
  | _, _ => none

def measure (shift : Shift) (receipts : Option ReceiptReadings) : Option Shift :=
  match shift.desk with
  | .measuring dispatch =>
      some
        { shift with
          desk :=
            .deciding dispatch (measuredBound shift.sessions dispatch.projection receipts) }
  | _ => none

/--
The decision, and the snapshot of the history it resumes.  A session dropped
since the bound was read is decided again as not held.
-/
def decision (shift : Shift) (dispatch : AtDispatch) (bound : ReuseBound)
    (freshId : OpaqueId) : Except SubagentError SubagentReused :=
  match subagentEvent dispatch.chosen dispatch.projection bound freshId with
  | .error error => .error error
  | .ok record =>
      let id := record.subagentId.text
      if record.basis = .reused && (shift.sessions.history id).isNone then
        subagentEvent dispatch.chosen dispatch.projection
          { bound with held := bound.held.erase id } freshId
      else
        .ok record

def decide (shift : Shift) (freshId : OpaqueId) : Option Shift :=
  match shift.desk with
  | .deciding dispatch bound =>
      match shift.decision dispatch bound freshId with
      | .error _ => some (shift.refuse dispatch.node dispatch.rest)
      | .ok record =>
          (shift.drive.reread dispatch.projection).map fun drive =>
            { shift with
              drive := drive
              desk := .choosing dispatch record }
  | _ => none

/-- The steps of the loop that read nothing; a delegated node leaves with its subagent. -/
def turn (shift : Shift) (choice : Drive.Turn) : Option Shift :=
  match shift.desk, choice with
  | .clear, choice =>
      (shift.drive.turn choice).map fun drive => { shift with drive := drive }
  | .named dispatch record, .launch =>
      (shift.drive.turn .launch).map fun drive =>
        { shift with
          drive := drive
          desk := .clear
          subagentOf := (dispatch.node, record.subagentId.text) :: shift.subagentOf }
  | _, _ => none

def subagent (shift : Shift) (node : String) : Option String :=
  (shift.subagentOf.find? fun entry => entry.1 = node).map Prod.snd

/-- The executor keeps the turn of a node in flight that replied. -/
def reply (shift : Shift) (node : String) (turn : SessionTurn) : Option Shift :=
  (shift.subagent node).map fun subagentId =>
    { shift with sessions := shift.sessions.record subagentId turn }

def overflow (shift : Shift) (node : String) : Option Shift :=
  (shift.subagent node).map fun subagentId =>
    { shift with sessions := shift.sessions.overflow subagentId }

def finished (shift : Shift) (node : String) (work : WorkOutcome) : Shift :=
  let parks := work.outcome = .needsInput || work.outcome = .needsCapacity
  { shift with
    drive :=
      { shift.drive with
        inFlight := shift.drive.inFlight.filter fun other => other != node }
    sessions := if parks then shift.sessions.dropAll else shift.sessions
    subagentOf := shift.subagentOf.filter fun entry => entry.1 != node }

def note (shift : Shift) : Option (EventKind × Shift) :=
  match shift.desk, shift.drive.phase with
  | .choosing dispatch record, .starting _ 0 _ =>
      some (.delegationChosen dispatch.chosen, { shift with desk := .naming dispatch record })
  | .naming dispatch record, .starting _ 0 _ =>
      some (.subagentReused record, { shift with desk := .named dispatch record })
  | _, _ => none

/-- Whether the loop is at a point where it writes the outcome that is due. -/
def writes (shift : Shift) : Bool :=
  match shift.desk with
  | .clear | .choosing _ _ => true
  | _ => false

end Shift

/-- What the executors answer with: none of them answers with a hop of the lifecycle. -/
def isWorkResult : NodeOutcome -> Bool
  | .succeeded | .terminalFailure | .retryableFailure | .needsInput | .needsCapacity => true
  | _ => false

/-!
## The stream and who writes it
-/

/-- One stream, and the drive that is running over it. -/
structure Workplace (env : Environment) (scope : RepositoryScope) (streamId : OpaqueId) where
  stream : VerifiedStream env scope streamId.text
  shift : Option Shift

inductive ShiftAction where
  | reread
  | turn (choice : Drive.Turn)
  | measure (receipts : Option ReceiptReadings)
  | decide (freshId : OpaqueId)
  /-- The outcome that is due is written. -/
  | record (key : Nat -> OpaqueId) (stamps : Stamps)
  /-- A record of the dispatch is written. -/
  | note (key : OpaqueId) (stamps : Stamps)
  | finish (node : String) (work : WorkOutcome) (key : Nat -> OpaqueId) (stamps : Stamps)
  | reply (node : String) (turn : SessionTurn)
  | overflow (node : String)
  | dropSessions
  | settle (branch : DriveBranch) (key : Nat -> OpaqueId)
  | close (stamps : Stamps)

inductive OwnerAction where
  /-- `record_outcome` of an owner verb, at the head it decides on. -/
  | outcome (call : OutcomeCall) (node : String) (outcome : NodeOutcome) (cause : LedgerData)
      (stamps : Stamps)
  | accept (acceptance : DraftAcceptance) (batch : List NewEvent) (stamps : Stamps)
  | other (news : List NewEvent) (stamps : Stamps)

inductive WorkplaceAction where
  | start (call : ShiftCall)
  | shift (action : ShiftAction)
  /-- The drive returns, fails or is killed, with every session it held. -/
  | stop
  | owner (action : OwnerAction)

section Moves

variable {env : Environment} {scope : RepositoryScope} {streamId : OpaqueId}

/-- `write_outcome`: the read, the decision and the append, behind one lock. -/
def writeOutcome (stream : VerifiedStream env scope streamId.text) (call : OutcomeCall)
    (node : String) (work : WorkOutcome) (stamps : Stamps) :
    Option (VerifiedStream env scope streamId.text) :=
  match headAnswer stream with
  | .error _ => none
  | .ok (projection, started) =>
      match decideOutcome call node work projection started with
      | .error _ => none
      | .ok batch => (stream.append stamps stream.nextSequence batch).toOption

def appendPlain (stream : VerifiedStream env scope streamId.text) (actor : PersistedActor)
    (key : OpaqueId) (kind : EventKind) (stamps : Stamps) :
    Option (VerifiedStream env scope streamId.text) :=
  (stream.append stamps stream.nextSequence
    [{ idempotencyKey := key
       actor := actor
       sensitivity := .internal
       kind := kind
       evidenceRefs := []
       artifactRefs := [] }]).toOption

def shiftMove (stream : VerifiedStream env scope streamId.text) (shift : Shift)
    (action : ShiftAction) :
    Option (VerifiedStream env scope streamId.text × Option Shift) :=
  match action with
  | .reread =>
      match replay env scope streamId.text stream.events with
      | .error _ => none
      | .ok projection => (shift.reread projection).map fun next => (stream, some next)
  | .turn choice => (shift.turn choice).map fun next => (stream, some next)
  | .measure receipts => (shift.measure receipts).map fun next => (stream, some next)
  | .decide freshId => (shift.decide freshId).map fun next => (stream, some next)
  | .record key stamps =>
      if shift.writes then
        shift.drive.due.bind fun due =>
          (writeOutcome stream
              { executionId := shift.drive.call.executionId, actor := due.actor, key := key }
              due.node (bare due.outcome) stamps).map
            fun after => (after, some { shift with drive := due.next })
      else
        none
  | .note key stamps =>
      shift.note.bind fun noted =>
        (appendPlain stream shift.drive.call.actor key noted.1 stamps).map fun after =>
          (after, some noted.2)
  | .finish node work key stamps =>
      match shift.desk, shift.drive.phase with
      | .clear, .dispatching _ =>
          if shift.drive.inFlight.contains node && isWorkResult work.outcome then
            let parked := shift.drive.park node work
            (writeOutcome stream
                { executionId := shift.drive.call.executionId
                  actor := shift.drive.call.actor
                  key := key }
                node parked stamps).map
              fun after => (after, some (shift.finished node parked))
          else
            none
      | _, _ => none
  | .reply node turn => (shift.reply node turn).map fun next => (stream, some next)
  | .overflow node => (shift.overflow node).map fun next => (stream, some next)
  | .dropSessions => some (stream, some { shift with sessions := shift.sessions.dropAll })
  | .settle branch key =>
      match shift.desk, replay env scope streamId.text stream.events with
      | .clear, .ok projection =>
          if shift.drive.settles branch then
            (branch.decide shift.drive.call.executionId projection).map fun plan =>
              (stream,
                some { shift with desk := .closing (plan.events key shift.drive.call.actor) })
          else
            none
      | _, _ => none
  | .close stamps =>
      match shift.desk with
      | .closing batch =>
          (stream.append stamps stream.nextSequence batch).toOption.map fun after =>
            (after, none)
      | _ => none

def ownerMove (stream : VerifiedStream env scope streamId.text) (action : OwnerAction) :
    Option (VerifiedStream env scope streamId.text) :=
  match action with
  | .outcome call node outcome cause stamps =>
      match replay env scope streamId.text stream.events with
      | .error _ => none
      | .ok projection =>
          if outcome = .started then
            none
          else
            (decideOwnerOutcome call node outcome cause projection).bind fun batch =>
              (stream.append stamps stream.nextSequence batch).toOption
  | .accept acceptance batch stamps =>
      if some (batch.map NewEvent.kind) = acceptance.kinds &&
          !batch.any fun event => isSubagentRecord event.kind then
        (stream.append stamps stream.nextSequence batch).toOption
      else
        none
  | .other news stamps =>
      if news.any fun event => statesNode event.kind || isSubagentRecord event.kind then
        none
      else
        (stream.append stamps stream.nextSequence news).toOption

/-- One step of the drive, of an owner verb, or of what starts and ends drives. -/
def workplaceMove (place : Workplace env scope streamId) (action : WorkplaceAction) :
    Option (Workplace env scope streamId) :=
  match place.shift, action with
  | none, .start call => some { place with shift := some (Shift.start call) }
  | some shift, .shift action =>
      (shiftMove place.stream shift action).map fun after =>
        { stream := after.1
          shift := after.2 }
  | some _, .stop => some { place with shift := none }
  | _, .owner action =>
      (ownerMove place.stream action).map fun after => { place with stream := after }
  | _, _ => none

end Moves

end GraphHelm
