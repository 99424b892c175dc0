import GraphHelm.Library.ErrorState
import GraphHelm.Store.Reading

/-!
# Appending

`append_locked` of `core/events/src/local.rs`, run under the store's exclusive
lock: the journal is loaded and its full segment sealed, the request is checked
against the loaded state, and its batch is staged, written and synced.  Every
step that touches the disk can fail, and leaves the store as it then stands.
-/

namespace GraphHelm

open Std

/-- The places where the disk can fail a call. -/
inductive Fault where
  | loadedSync
  | sealPublication
  | nextSegment
  | evidenceStaging
  | blobPublication (published : Nat)
  | lineWrite
  | journalSync
  | rootSync
  | activeMarker
deriving DecidableEq

/-- What a handle, its clock and the disk bring to one call. -/
structure Call where
  rotateAt : Nat × Nat
  stamps : Stamps
  fault : Option Fault

abbrev StoreM := EStateM EventRepositoryError Store

namespace StoreM

def read : StoreM Store := fun store => .ok store store

def change (f : Store -> Store) : StoreM Unit := fun store => .ok () (f store)

def refuse {α : Type} (error : EventRepositoryError) : StoreM α :=
  fun store => .error error store

def lift {α : Type} (result : Except EventRepositoryError α) : StoreM α :=
  fun store =>
    match result with
    | .ok value => .ok value store
    | .error error => .error error store

/-- Fails here when the disk does. -/
def site (call : Call) (fault : Fault) : StoreM Unit :=
  lift (check (decide (call.fault ≠ some fault)) .storage)

end StoreM

open StoreM

/-!
## Loading for an append
-/

def rotateSegment (env : SealEnvironment) (call : Call) (state : LoadedState) :
    StoreM Unit := do
  let store <- read
  let segment := sealSegment env store state
  lift (check (decide (env.sealStateLen segment.seal.index segment.state <= maxSealStateBytes))
    .limitExceeded)
  lift (check (decide (env.sealLen segment.seal <= maxSealBytes)) .limitExceeded)
  site call .sealPublication
  change fun store => store.rotated env state
  site call .nextSegment

def loadCurrent (env : SealEnvironment) : StoreM LoadedState := do
  let store <- read
  lift (loadState env.toStoreEnvironment store)

def syncLoadedJournal (call : Call) (state : LoadedState) : StoreM Unit :=
  if state.batches.isEmpty then
    pure ()
  else
    site call .loadedSync

/-- The state an append is judged against: a full active segment is sealed first. -/
def loadForAppend (env : SealEnvironment) (call : Call) : StoreM LoadedState := do
  let state <- loadCurrent env
  syncLoadedJournal call state
  if shouldRotate env.toStoreEnvironment call.rotateAt state.batches then
    rotateSegment env call state
    loadCurrent env
  else
    pure state

/-!
## Checking a request
-/

def scan (found : Option DurableContentError) : Except EventRepositoryError Unit :=
  match found with
  | some error => .error (scanError error)
  | none => .ok ()

def scanAll {α : Type} (scanOne : α -> Option DurableContentError) :
    List α -> Except EventRepositoryError Unit
  | [] => .ok ()
  | item :: rest => do
      scan (scanOne item)
      scanAll scanOne rest

def publicationPrepared (env : StoreEnvironment) (scope : RepositoryScope) (event : NewEvent) :
    Bool :=
  match event.kind with
  | .graphVersionPublished version =>
      env.validatePersistedProjection version &&
        env.validatePublicationEvidenceIds scope version &&
        env.validateEvidenceBijection version.contentSlots event.evidenceRefs &&
        decide (scope.executionId = some version.topology.executionId) &&
        decide (event.actor = version.createdBy)
  | _ => true

def preflightEvents (env : StoreEnvironment) (scope : RepositoryScope) :
    Nat -> List NewEvent -> Except EventRepositoryError Unit
  | _, [] => .ok ()
  | bytes, event :: rest => do
      check (decide (env.newEventLen event <= maxEventBytes)) .limitExceeded
      check (decide (bytes + env.newEventLen event <= maxBatchBytes)) .limitExceeded
      scan (env.scanNewEvent event)
      check (event.kind.isProjectLevel != scope.executionId.isSome) .invalid
      check
        (decide (event.evidenceRefs.length <= 8192) && decide (event.artifactRefs.length <= 64))
        .limitExceeded
      check (publicationPrepared env scope event) .invalid
      preflightEvents env scope (bytes + env.newEventLen event) rest

/-- `validate_evidence_references`: prepared evidence is referred to as it is prepared, and
any other evidence in one way, which `committed` verifies when it is first met. -/
def validateEvidenceReferences (prepared : List SealedEvidence)
    (committed : EvidenceReference -> Except EventRepositoryError Bool) :
    List EvidenceReference -> List EvidenceReference -> Except EventRepositoryError Unit
  | _, [] => .ok ()
  | verified, reference :: rest =>
      match prepared.find? fun item => item.reference.evidenceId = reference.evidenceId with
      | some item => do
          check (decide (item.reference = reference)) .invalid
          validateEvidenceReferences prepared committed verified rest
      | none =>
          match verified.find? fun other => other.evidenceId = reference.evidenceId with
          | some existing => do
              check (decide (existing = reference)) .invalid
              validateEvidenceReferences prepared committed verified rest
          | none => do
              let stands <- committed reference
              check stands .invalid
              validateEvidenceReferences prepared committed (reference :: verified) rest

/-- `validate_prepared_append`: what a request must be whatever the store holds. -/
def validatePreparedAppend (env : StoreEnvironment) (request : PreparedAppend) :
    Except EventRepositoryError Unit := do
  scan (env.scanScope request.scope request.streamId)
  check (decide (request.events.map NewEvent.idempotencyKey).Nodup) .invalid
  preflightEvents env request.scope 0 request.events
  check
    (decide (request.evidence.map fun item => item.reference.evidenceId).Nodup &&
      request.evidence.all fun item =>
        decide (item.scope = request.scope) && env.validateSealedMetadata item) .invalid
  scanAll env.scanEvidence request.evidence
  check (evidenceDeclared request.events request.evidenceIds) .invalid
  validateEvidenceReferences request.evidence (fun _ => .ok true) []
    (evidenceReferences request.events)
  check (artifactsProduced request.events request.streamId request.storedArtifacts) .invalid
  scanAll env.scanArtifact request.artifacts
  let _ <- request.requestDigest env
  .ok ()

def artifactCommitted (state : LoadedState) (request : PreparedAppend)
    (reference : ArtifactReference) : Bool :=
  state.artifacts[({ scope := request.scope, id := reference.artifactId } : ObjectKey)]?.any
    fun item =>
      decide (item.producerStreamId = request.streamId) && decide (item.reference = reference)

def artifactRelationsHold (state : LoadedState) (request : PreparedAppend) : Bool :=
  artifactsKept state request.scope request.storedArtifacts &&
    request.events.all fun event =>
      event.artifactRefs.all fun reference =>
        (request.artifacts.any fun item =>
          decide (item.reference.artifactId = reference.artifactId)) ||
          artifactCommitted state request reference

def validateRequestPreflight (env : StoreEnvironment) (request : PreparedAppend)
    (state : LoadedState) : Except EventRepositoryError Unit := do
  validatePreparedAppend env request
  check (artifactRelationsHold state request) .invalid

def evidenceCommitted (blobs : Blobs) (state : LoadedState) (scope : RepositoryScope)
    (reference : EvidenceReference) : Except EventRepositoryError Bool :=
  let key : ObjectKey := { scope := scope, id := reference.evidenceId }
  if state.reachableEvidence.contains key then do
    let stored <- orRefuse blobs[key]? .storage
    .ok (decide (stored.scope = scope) && decide (stored.reference = reference))
  else
    .ok false

def artifactAvailable (state : LoadedState) (request : PreparedAppend)
    (reference : ArtifactReference) : Bool :=
  ((request.artifacts.find? fun item =>
      item.reference.artifactId = reference.artifactId).any fun item =>
      decide (item.reference = reference)) ||
    artifactCommitted state request reference

def validateReferenceAvailability (blobs : Blobs) (request : PreparedAppend)
    (state : LoadedState) : Except EventRepositoryError Unit := do
  validateEvidenceReferences request.evidence (evidenceCommitted blobs state request.scope) []
    (evidenceReferences request.events)
  check
    (request.events.all fun event =>
      event.artifactRefs.all (artifactAvailable state request)) .invalid

/-- `ensure_load_room`: the counts of batches and events an open would find. -/
def ensureLoadRoom (batches : List PhysicalBatch) (newEvents : Nat) :
    Except EventRepositoryError Unit :=
  check
    (decide (batches.length + 1 <= defaultLoadLimits .batches) &&
      decide ((batches.map fun batch => batch.events.length).sum + newEvents <=
        defaultLoadLimits .events)) .limitExceeded

def buildBatch (env : StoreEnvironment) (request : PreparedAppend) (digest : WireHash)
    (envelopes : List EventEnvelope) : PhysicalBatch :=
  let unchecked : PhysicalBatch :=
    { requestDigest := digest
      scope := request.scope
      streamId := request.streamId
      expectedNextSequence := request.expectedNextSequence
      checksum := ""
      evidenceIds := request.evidenceIds
      artifacts := request.storedArtifacts
      events := envelopes }
  { unchecked with checksum := batchChecksum env unchecked }

/-- The reader's own question about a line, asked before it is written. -/
def ensureReadableBack (env : StoreEnvironment) (batch : PhysicalBatch) :
    Except EventRepositoryError Unit :=
  match env.validateBatch batch with
  | .refused => .error .limitExceeded
  | .ran clean => check clean .invalid

def sameKeys (first second : List OpaqueId) : Bool :=
  first.all second.contains && second.all first.contains

/-- What the checks make of a request: the batch it was committed in, or its new batch. -/
inductive Admission where
  | retry (batch : PhysicalBatch)
  | fresh (batch : PhysicalBatch)
deriving DecidableEq

def admitFresh (env : StoreEnvironment) (stamps : Stamps) (state : LoadedState)
    (request : PreparedAppend) (digest : WireHash) :
    Except EventRepositoryError PhysicalBatch := do
  validateGraphLineage (state.activeIdentity request.key) request.events
  ensureLoadRoom state.batches request.events.length
  check (decide (state.expectedSequence request.key = request.expectedNextSequence))
    .sequenceConflict
  let envelopes <-
    buildEnvelopes env.toEnvironment request.scope request.streamId stamps
      request.expectedNextSequence 0 (state.previousHash request.key) request.events
  let batch := buildBatch env request digest envelopes
  check (decide (env.serializedBatchLen batch <= maxBatchBytes)) .limitExceeded
  ensureReadableBack env batch
  check (decide (env.canonicalBatchLen batch + 1 <= maxBatchBytes)) .limitExceeded
  .ok batch

/-- Whether a request may be appended, in the order the source asks. -/
def admitAppend (env : StoreEnvironment) (stamps : Stamps) (store : Store) (state : LoadedState)
    (request : PreparedAppend) : Except EventRepositoryError Admission := do
  validateRequestPreflight env request state
  validateReferenceAvailability store.blobs request state
  let digest <- request.requestDigest env
  let keys := request.events.map NewEvent.idempotencyKey
  match batchHoldingKeys store state request.key keys with
  | some batch => do
      check
        (decide (batch.requestDigest = digest) &&
          sameKeys (batch.events.map EventEnvelope.idempotencyKey) keys) .idempotencyConflict
      .ok (.retry batch)
  | none => do
      let batch <- admitFresh env stamps state request digest
      .ok (.fresh batch)

/-!
## Writing a batch
-/

/-- A blob already there must hold the same evidence. -/
def publishBlob (item : SealedEvidence) : StoreM Unit := do
  let store <- read
  match store.blobs[item.key]? with
  | some existing => lift (check (decide (existing = item)) .idempotencyConflict)
  | none => change fun store => { store with blobs := store.blobs.insert item.key item }

/-- The directories are synced once every item has been published. -/
def publishStaged (call : Call) : Nat -> List SealedEvidence -> StoreM Unit
  | published, [] => site call (.blobPublication published)
  | published, item :: rest => do
      site call (.blobPublication published)
      publishBlob item
      publishStaged call (published + 1) rest

/-- A write that fails leaves part of the line behind. -/
def writeLine (env : StoreEnvironment) (call : Call) (batch : PhysicalBatch) : StoreM Unit := do
  let store <- read
  lift (check
    (decide (journalLength env store.active + (env.canonicalBatchLen batch + 1) <=
      maxJournalBytes)) .limitExceeded)
  if call.fault = some .lineWrite then
    change fun store => { store with torn := true }
    StoreM.refuse .storage
  else
    change fun store => { store with active := store.active ++ [batch] }

/-- `publish_active_marker`: only publications have a marker. -/
def publishActiveMarker (call : Call) (envelopes : List EventEnvelope) : StoreM Unit :=
  if envelopes.any fun event => isPublication event.kind then
    site call .activeMarker
  else
    pure ()

def commit (env : StoreEnvironment) (call : Call) (request : PreparedAppend)
    (batch : PhysicalBatch) : StoreM Unit := do
  site call .evidenceStaging
  publishStaged call 0 request.evidence
  writeLine env call batch
  site call .journalSync
  site call .rootSync
  publishActiveMarker call batch.events

def settleAdmission (env : StoreEnvironment) (call : Call) (request : PreparedAppend) :
    Admission -> StoreM (List EventEnvelope)
  | .retry batch => do
      publishActiveMarker call batch.events
      pure batch.events
  | .fresh batch => do
      commit env call request batch
      pure batch.events

def appendLocked (env : SealEnvironment) (call : Call) (request : PreparedAppend) :
    StoreM (List EventEnvelope) := do
  let state <- loadForAppend env call
  let store <- read
  let admission <- lift (admitAppend env.toStoreEnvironment call.stamps store state request)
  settleAdmission env.toStoreEnvironment call request admission

/-- A handle opened for recovery trims part of a line off, once the whole lines verify. -/
def recoverTornTail (env : StoreEnvironment) (store : Store) : Store :=
  match loadState env { store with torn := false } with
  | .ok _ => { store with torn := false }
  | .error _ => store

end GraphHelm
