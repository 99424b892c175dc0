import GraphHelm.Projection.Fold
import GraphHelm.Protocol.Integrity

/-!
# The two walks over a history

`replay_within` folds a whole history at once; `ProjectionGeneration::apply_page`
folds it a page at a time and keeps what it needs to go on.  Both meter what they
read, verify each envelope, and hand it to the one fold.
-/

namespace GraphHelm

open Std

/-!
## The read budget
-/

def readBudgetCheckInterval : Nat := 256

/-- A deadline, and the instants the clock shows as the walk advances. -/
structure ReadBudgetBound where
  now : Nat -> PersistedTimestamp
  deadline : PersistedTimestamp
  limitMillis : Int

structure ReadBudget where
  bound : Option ReadBudgetBound

namespace ReadBudget

def unbounded : ReadBudget := { bound := none }

/-- The clock is read only when the walk crosses an interval boundary. -/
def checkProgress (budget : ReadBudget) (before after : Nat) : Except ReplayError Unit :=
  match budget.bound with
  | none => .ok ()
  | some bound =>
      if after = 0 ∨ before / readBudgetCheckInterval = after / readBudgetCheckInterval then
        .ok ()
      else if bound.now after <= bound.deadline then
        .ok ()
      else
        .error (.budgetExceeded after bound.limitMillis)

@[simp] theorem checkProgress_unbounded (before after : Nat) :
    unbounded.checkProgress before after = .ok () := rfl

end ReadBudget

/-!
## Metering

Every walk counts the bytes and the references of the events it has read.
-/

structure WalkMeter where
  aggregateBytes : Nat
  aggregateReferences : Nat
deriving DecidableEq

namespace WalkMeter

def zero : WalkMeter :=
  { aggregateBytes := 0
    aggregateReferences := 0 }

def addBytes (meter : WalkMeter) (bytes : Nat) : WalkMeter :=
  { meter with aggregateBytes := meter.aggregateBytes + bytes }

def addReferences (meter : WalkMeter) (event : EventEnvelope) : WalkMeter :=
  { meter with
    aggregateReferences :=
      meter.aggregateReferences + event.evidenceRefs.length + event.artifactRefs.length }

def read (env : Environment) (meter : WalkMeter) (event : EventEnvelope) : WalkMeter :=
  (meter.addBytes (env.serializedLen event)).addReferences event

def withinLimits (meter : WalkMeter) : Bool :=
  meter.aggregateBytes <= maxJournalBytes && meter.aggregateReferences <= maxReadAll

/-- Whether a walk may read `event` next; the two sums are `u64` and `usize`. -/
def admits (env : Environment) (meter : WalkMeter) (event : EventEnvelope) : Bool :=
  decide (env.serializedLen event <= maxEventBytes) &&
    decide ((meter.read env event).aggregateBytes <= u64Max) &&
    decide ((meter.read env event).aggregateReferences <= u64Max) &&
    (meter.read env event).withinLimits

end WalkMeter

/-!
## Verification of one envelope
-/

def continues (env : Environment) (scope : RepositoryScope) (streamId : String)
    (previousHash : EventHash) (event : EventEnvelope) : Bool :=
  env.validateEvent event &&
    (validateEnvelope env event).isOk &&
    decide (event.scope = scope) &&
    decide (event.streamId.text = streamId) &&
    scopeLevelAgrees event &&
    decide (eventHash env event previousHash = event.eventHash)

/-!
## Replay
-/

structure ReplayState extends FoldState where
  seen : ExtTreeSet String
  previousHash : EventHash
  scope : Option RepositoryScope
  meter : WalkMeter

namespace ReplayState

def initial : ReplayState :=
  { toFoldState := FoldState.initial
    seen := ∅
    previousHash := genesisHash
    scope := none
    meter := WalkMeter.zero }

end ReplayState

def nameReplayedStream (event : EventEnvelope) (projection : ExecutionProjection) :
    Except ReplayError ExecutionProjection :=
  match projection.streamId with
  | some stream =>
      if stream = event.streamId.text then .ok projection else .error .corrupt
  | none => .ok { projection with streamId := some event.streamId.text }

/-- One turn of the loop of `replay_within`, at the event of the given index. -/
def replayEvent (env : Environment) (scope : RepositoryScope) (streamId : String)
    (budget : ReadBudget) (index : Nat) (event : EventEnvelope) (st : ReplayState) :
    Except ReplayError ReplayState := do
  budget.checkProgress index (index + 1)
  check (st.meter.admits env event) .limitExceeded
  check
    (continues env scope streamId st.previousHash event &&
      st.scope.all fun expected => expected = event.scope) .corrupt
  check
    (decide (event.sequence = index + 1) &&
      decide (event.previousHash = st.previousHash) &&
      !st.seen.contains event.idempotencyKey.text) .corrupt
  let named <- nameReplayedStream event st.projection
  match applyProjectionEvent env event { st.toFoldState with projection := named } with
  | .error error _ => .error error
  | .ok _ folded =>
      .ok
        { toFoldState := folded
          seen := st.seen.insert event.idempotencyKey.text
          previousHash := event.eventHash
          scope := some (st.scope.getD event.scope)
          meter := st.meter.read env event }

def replayFrom (env : Environment) (scope : RepositoryScope) (streamId : String)
    (budget : ReadBudget) : Nat -> List EventEnvelope -> ReplayState ->
    Except ReplayError ReplayState
  | _, [], st => .ok st
  | index, event :: rest, st => do
      let next <- replayEvent env scope streamId budget index event st
      replayFrom env scope streamId budget (index + 1) rest next

def replayWithin (env : Environment) (expectedScope : RepositoryScope)
    (expectedStreamId : String) (events : List EventEnvelope) (budget : ReadBudget) :
    Except ReplayError ExecutionProjection := do
  check (OpaqueId.parse expectedStreamId).isSome .corrupt
  check (decide (events.length <= maxReadAll)) .limitExceeded
  let st <- replayFrom env expectedScope expectedStreamId budget 0 events ReplayState.initial
  .ok st.projection

def replay (env : Environment) (expectedScope : RepositoryScope)
    (expectedStreamId : String) (events : List EventEnvelope) :
    Except ReplayError ExecutionProjection :=
  replayWithin env expectedScope expectedStreamId events ReadBudget.unbounded

/-!
## Projection generations
-/

def i32Max : Nat := 2147483647

structure ProjectionWatermark where
  scope : RepositoryScope
  streamId : String
  projectionName : String
  projectionVersion : Nat
  generation : Nat
  lastSequence : Nat
  lastEventHash : Option EventHash
deriving DecidableEq

namespace ProjectionWatermark

def new (scope : RepositoryScope) (streamId projectionName : String)
    (projectionVersion generation lastSequence : Nat) (lastEventHash : Option EventHash) :
    Except ReplayError ProjectionWatermark := do
  check (OpaqueId.parse streamId).isSome .corrupt
  check (OpaqueId.parse projectionName).isSome .corrupt
  check
    (decide (projectionVersion <= i32Max) && decide (generation <= maxSafeInteger) &&
      decide (lastSequence <= maxSafeInteger)) .limitExceeded
  check
    (decide (projectionVersion ≠ 0) && decide (generation ≠ 0) &&
      (decide (lastSequence = 0) == lastEventHash.isNone)) .corrupt
  .ok
    { scope := scope
      streamId := streamId
      projectionName := projectionName
      projectionVersion := projectionVersion
      generation := generation
      lastSequence := lastSequence
      lastEventHash := lastEventHash }

/-- The hash the next event must carry as its previous hash. -/
def head (watermark : ProjectionWatermark) : EventHash :=
  watermark.lastEventHash.getD genesisHash

end ProjectionWatermark

structure ProjectionGeneration extends FoldState where
  watermark : ProjectionWatermark
  seenIdempotencyKeys : ExtTreeSet String
  meter : WalkMeter
deriving DecidableEq

abbrev GenerationM := EStateM ReplayError ProjectionGeneration

namespace ProjectionGeneration

def new (scope : RepositoryScope) (streamId projectionName : String)
    (projectionVersion generation : Nat) : Except ReplayError ProjectionGeneration := do
  let watermark <-
    ProjectionWatermark.new scope streamId projectionName projectionVersion generation 0 none
  .ok
    { toFoldState := FoldState.initial
      watermark := watermark
      seenIdempotencyKeys := ∅
      meter := WalkMeter.zero }

/-- `restart_walk_bounds`: a resumed reader bounds what this read walks. -/
def restartWalkBounds (generation : ProjectionGeneration) : ProjectionGeneration :=
  { generation with meter := WalkMeter.zero }

/--
The metering of `apply_page`: the sums stay raised when the limit refuses the
event, and an event too long to serialize is refused before they are touched.
-/
def meterEvent (env : Environment) (event : EventEnvelope) : GenerationM Unit :=
  fun generation =>
    let bytes := generation.meter.addBytes (env.serializedLen event)
    let read := generation.meter.read env event
    if env.serializedLen event <= maxEventBytes ∧ bytes.aggregateBytes <= u64Max then
      if read.aggregateReferences <= u64Max then
        if read.withinLimits then
          .ok () { generation with meter := read }
        else
          .error .limitExceeded { generation with meter := read }
      else
        .error .limitExceeded { generation with meter := bytes }
    else
      .error .limitExceeded generation

/-- The chain of checks of `apply_page`; the last of them records the key. -/
def verifyEvent (env : Environment) (event : EventEnvelope) : GenerationM Unit :=
  fun generation =>
    if continues env generation.watermark.scope generation.watermark.streamId
          generation.watermark.head event ∧
        event.sequence = generation.watermark.lastSequence + 1 ∧
        event.previousHash = generation.watermark.head then
      let seen := generation.seenIdempotencyKeys.insert event.idempotencyKey.text
      if generation.seenIdempotencyKeys.contains event.idempotencyKey.text then
        .error .corrupt { generation with seenIdempotencyKeys := seen }
      else
        .ok () { generation with seenIdempotencyKeys := seen }
    else
      .error .corrupt generation

def foldEvent (env : Environment) (event : EventEnvelope) : GenerationM Unit :=
  fun generation =>
    match applyProjectionEvent env event generation.toFoldState with
    | .ok _ folded => .ok () { generation with toFoldState := folded }
    | .error error folded => .error error { generation with toFoldState := folded }

def advanceWatermark (event : EventEnvelope) : GenerationM Unit :=
  fun generation =>
    .ok ()
      { generation with
        watermark :=
          { generation.watermark with
            lastSequence := event.sequence
            lastEventHash := some event.eventHash } }

def applyEvent (env : Environment) (event : EventEnvelope) : GenerationM Unit := do
  meterEvent env event
  verifyEvent env event
  foldEvent env event
  advanceWatermark event

def applyEvents (env : Environment) : List EventEnvelope -> GenerationM Unit
  | [] => pure ()
  | event :: rest => do
      applyEvent env event
      applyEvents env rest

def refusePage (error : ReplayError) : GenerationM Unit :=
  fun generation => .error error generation

def applyPage (env : Environment) (events : List EventEnvelope) : GenerationM Unit :=
  if events.length <= maxReadPage then
    applyEvents env events
  else
    refusePage .limitExceeded

/-- Pages folded one after the other, up to the first refusal. -/
def applyPages (env : Environment) : List (List EventEnvelope) -> GenerationM Unit
  | [] => pure ()
  | page :: rest => do
      applyPage env page
      applyPages env rest

end ProjectionGeneration

end GraphHelm
