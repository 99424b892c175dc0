import GraphHelm.Store.VerifiedBatch

/-!
# Segments

The journal as a chain of sealed segments and one active segment
(`core/events/src/local/segments.rs`): a load walks the active segment from the
state the last seal recorded, and a full active segment is sealed before the
append that finds it so.
-/

namespace GraphHelm

open Std

def maxSealBytes : Nat := 16 * 1024 * 1024

def maxSealStateBytes : Nat := 512 * 1024 * 1024

def segmentRotateBytes : Nat := maxJournalBytes / 2

def segmentRotateEvents : Nat := 100000

structure SegmentSeal where
  index : Nat
  segmentBytes : Nat
  segmentSha256 : WireHash
  previousSealSha256 : WireHash
  stateSha256 : WireHash
  nextSequence : ExtTreeMap ObjectKey Nat
deriving DecidableEq

structure SealedSegment where
  batches : List PhysicalBatch
  «seal» : SegmentSeal
  sealSha256 : WireHash
  state : LoadedState
deriving DecidableEq

/-- How seals and their states are written down. -/
structure SealEnvironment extends StoreEnvironment where
  sealJson : SegmentSeal -> List UInt8
  sealLen : SegmentSeal -> Nat
  /-- Canonical JSON bytes of the state recorded with the seal of the given index. -/
  sealStateJson : Nat -> LoadedState -> List UInt8
  sealStateLen : Nat -> LoadedState -> Nat

structure Store where
  sealed : List SealedSegment
  active : List PhysicalBatch
  /-- Whether part of a line follows the last whole line of the active segment. -/
  torn : Bool
  blobs : Blobs
deriving DecidableEq

namespace SealedSegment

/-- The sequence after a stream's last event in this segment or before it. -/
def stop (segment : SealedSegment) (key : ObjectKey) : Nat :=
  segment.seal.nextSequence[key]?.getD 1

/-- The state a walk that starts after this segment starts from. -/
def seeded (segment : SealedSegment) : LoadedState :=
  { segment.state with
    batches := []
    nextSequence := segment.seal.nextSequence }

end SealedSegment

namespace Store

def empty : Store :=
  { sealed := []
    active := []
    torn := false
    blobs := ∅ }

def sealedBatches (store : Store) : List PhysicalBatch :=
  store.sealed.flatMap SealedSegment.batches

/-- Every batch of the journal, oldest first. -/
def history (store : Store) : List PhysicalBatch :=
  store.sealedBatches ++ store.active

def events (store : Store) (key : ObjectKey) : List EventEnvelope :=
  streamEvents key store.history

/-- `seeded_ctx`: genesis when nothing is sealed, else the state of the last seal. -/
def seededState (store : Store) : LoadedState :=
  match store.sealed.getLast? with
  | some segment => segment.seeded
  | none => LoadedState.default

end Store

/-- The bytes of the whole lines of a segment. -/
def journalLength (env : StoreEnvironment) (batches : List PhysicalBatch) : Nat :=
  (batches.map fun batch => env.canonicalBatchLen batch + 1).sum

/-- The context of a load: the active segment verified from the last seal. -/
def loadContext (env : StoreEnvironment) (store : Store) :
    Except EventRepositoryError VerifyCtx := do
  check (decide (journalLength env store.active <= maxJournalBytes)) .limitExceeded
  check (!store.torn) .integrity
  verifyLines env store.blobs store.active (VerifyCtx.seeded store.seededState)

def loadState (env : StoreEnvironment) (store : Store) :
    Except EventRepositoryError LoadedState := do
  let ctx <- loadContext env store
  .ok ctx.state

/-!
## Rotation
-/

/-- `should_rotate`, at the given thresholds of bytes and events. -/
def shouldRotate (env : StoreEnvironment) (rotateAt : Nat × Nat) (active : List PhysicalBatch) :
    Bool :=
  !active.isEmpty &&
    (decide (rotateAt.1 <= journalLength env active) ||
      decide (rotateAt.2 <= (active.map fun batch => batch.events.length).sum))

def sealSegment (env : SealEnvironment) (store : Store) (state : LoadedState) : SealedSegment :=
  let sealedState :=
    { state with
      batches := []
      sealedStreams := state.historyStreams
      sealedPublications := state.historyPublications }
  let «seal» : SegmentSeal :=
    { index := store.sealed.length
      segmentBytes := journalLength env.toStoreEnvironment store.active
      segmentSha256 := env.wireSha256 (env.segmentBytes store.active)
      previousSealSha256 := (store.sealed.getLast?.map SealedSegment.sealSha256).getD genesisHash
      stateSha256 := env.wireSha256 (env.sealStateJson store.sealed.length sealedState)
      nextSequence := state.nextSequence }
  { batches := store.active
    «seal» := «seal»
    sealSha256 := env.wireSha256 (env.sealJson «seal»)
    state := sealedState }

def Store.rotated (env : SealEnvironment) (store : Store) (state : LoadedState) : Store :=
  { store with
    sealed := store.sealed ++ [sealSegment env store state]
    active := [] }

/-!
## Sound stores

The seal of each segment describes the history up to its end, every stream is
committed, and the evidence the history refers to is in its blobs, each filed
under its own key.
-/

def SealsDescribe (env : StoreEnvironment) : List PhysicalBatch -> List SealedSegment -> Prop
  | _, [] => True
  | before, segment :: rest =>
      Describes env segment.seeded (before ++ segment.batches) ∧
        SealsDescribe env (before ++ segment.batches) rest

structure Store.Sound (env : StoreEnvironment) (store : Store) : Prop where
  committed : Committed env store.history
  seals : SealsDescribe env [] store.sealed
  supported : forall batch, batch ∈ store.history -> forall event, event ∈ batch.events ->
    forall reference, reference ∈ event.evidenceRefs ->
      Supported env store.blobs batch.scope reference
  filed : forall key stored, store.blobs[key]? = some stored ->
    stored.key = key ∧ env.validateSealedMetadata stored = true

section Seals

variable {env : StoreEnvironment} {before : List PhysicalBatch} {segment : SealedSegment}
  {segments : List SealedSegment} {key : ObjectKey}

theorem SealsDescribe.concat (h : SealsDescribe env before segments)
    (hlast : Describes env segment.seeded
      (before ++ segments.flatMap SealedSegment.batches ++ segment.batches)) :
    SealsDescribe env before (segments ++ [segment]) := by
  induction segments generalizing before with
  | nil =>
      rw [List.flatMap_nil, List.append_nil] at hlast
      exact And.intro hlast trivial
  | cons first rest ih =>
      refine And.intro h.left (ih h.right ?_)
      rw [List.flatMap_cons, ← List.append_assoc before] at hlast
      exact hlast

theorem SealsDescribe.last (h : SealsDescribe env before segments)
    (hget : segments.getLast? = some segment) :
    Describes env segment.seeded (before ++ segments.flatMap SealedSegment.batches) := by
  induction segments generalizing before with
  | nil =>
      cases hget
  | cons first rest ih =>
      cases hrest : rest with
      | nil =>
          rw [hrest] at hget
          cases hget
          rw [List.flatMap_cons, List.flatMap_nil, List.append_nil]
          exact h.left
      | cons second others =>
          rw [hrest, List.getLast?_cons_cons, ← hrest] at hget
          rw [← hrest, List.flatMap_cons, ← List.append_assoc]
          exact ih h.right hget

theorem SealedSegment.stop_eq {history : List PhysicalBatch}
    (h : Describes env segment.seeded history) :
    segment.stop key = (streamEvents key history).length + 1 :=
  h.sequences key

end Seals

namespace Store.Sound

variable {env : StoreEnvironment} {store : Store} {key : ObjectKey}

theorem seeded (h : store.Sound env) :
    Describes env store.seededState store.sealedBatches ∧ store.seededState.batches = [] := by
  unfold Store.seededState
  cases hlast : store.sealed.getLast? with
  | none =>
      have hnil : store.sealed = [] := List.getLast?_eq_none_iff.mp hlast
      unfold Store.sealedBatches
      rw [hnil]
      exact And.intro (Describes.default env) rfl
  | some segment =>
      have hdescribes := h.seals.last hlast
      rw [List.nil_append] at hdescribes
      exact And.intro hdescribes rfl

theorem of_loadContext {ctx : VerifyCtx} (h : store.Sound env)
    (hload : loadContext env store = .ok ctx) :
    Describes env ctx.state store.history ∧ ctx.state.batches = store.active ∧
      ctx.tally = Tally.zero.countAll (metadataOf env store.blobs) store.active ∧
      ctx.Sound env store.blobs := by
  unfold loadContext at hload
  rcases check_ok hload with ⟨_, hload⟩
  rcases check_ok hload with ⟨_, hload⟩
  have hseeded := h.seeded
  have hlines := verifyLines_step (VerifyCtx.seeded_sound env store.blobs store.seededState)
    hseeded.left hload
  refine ⟨hlines.left, ?_, hlines.right.right⟩
  have hbatches := hlines.right.left
  have hempty : (VerifyCtx.seeded store.seededState).state.batches = [] := hseeded.right
  rw [hempty, List.nil_append] at hbatches
  exact hbatches

theorem of_loadState {state : LoadedState} (h : store.Sound env)
    (hload : loadState env store = .ok state) :
    Describes env state store.history ∧ state.batches = store.active := by
  unfold loadState at hload
  rcases bind_ok hload with ⟨ctx, hctx, hstate⟩
  cases hstate
  have hloaded := h.of_loadContext hctx
  exact And.intro hloaded.left hloaded.right.left

end Store.Sound

theorem Store.empty_sound (env : StoreEnvironment) : Store.empty.Sound env :=
  { committed := Committed.nil env
    seals := trivial
    supported := fun batch hmem => by
      simp [Store.history, Store.sealedBatches, Store.empty] at hmem
    filed := fun key stored hblob => by simp [Store.empty] at hblob }

theorem Store.Sound.rotated {env : SealEnvironment} {store : Store} {state : LoadedState}
    (h : store.Sound env.toStoreEnvironment)
    (hdescribes : Describes env.toStoreEnvironment state store.history) :
    (store.rotated env state).history = store.history ∧
      (store.rotated env state).Sound env.toStoreEnvironment := by
  have hhistory : (store.rotated env state).history = store.history := by
    unfold Store.history Store.sealedBatches Store.rotated
    rw [List.flatMap_append, List.flatMap_cons, List.flatMap_nil, List.append_nil,
      List.append_nil]
    rfl
  refine And.intro hhistory ?_
  refine
    { committed := hhistory ▸ h.committed
      seals := ?_
      supported := ?_
      filed := h.filed }
  · refine h.seals.concat ?_
    rw [List.nil_append]
    exact
      { sequences := hdescribes.sequences
        hashes := hdescribes.hashes
        seen := hdescribes.seen
        reachable := hdescribes.reachable
        artifacts := hdescribes.artifacts
        streams := hdescribes.streams
        publications := by
          show state.historyPublications ++ publicationsOf [] = _
          rw [show publicationsOf [] = [] from rfl, List.append_nil]
          exact hdescribes.publications }
  · rw [hhistory]
    exact h.supported

/-!
## A small store environment

Every check passes and every text has the length of a small one.
-/

namespace Sample

def storeEnv : SealEnvironment :=
  { env with
    newEventLen := fun _ => 1536
    scanScope := fun _ _ => none
    scanNewEvent := fun _ => none
    scanEvidence := fun _ => none
    scanArtifact := fun _ => none
    validateSealedMetadata := fun _ => true
    evidenceSummary := fun body => body
    evidenceDigestLen := fun _ => 512
    requestLen := fun _ => 2048
    requestJson := fun input =>
      utf8 s!"{input.expectedNextSequence}:{input.events.length}:{input.artifacts.length}"
    serializedBatchLen := fun _ => 2400
    canonicalBatchLen := fun _ => 2400
    batchJson := fun batch => utf8 s!"{batch.expectedNextSequence}:{batch.requestDigest}"
    validateBatch := fun _ => .ran true
    segmentBytes := fun batches => utf8 s!"{batches.length}"
    sealJson := fun segment => utf8 s!"{segment.index}:{segment.segmentSha256}"
    sealLen := fun _ => 1024
    sealStateJson := fun index _ => utf8 s!"{index}"
    sealStateLen := fun _ _ => 4096 }

end Sample

end GraphHelm
