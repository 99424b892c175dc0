import Mathlib.Data.List.Sort
import GraphHelm.Projection.State
import GraphHelm.Store.Envelopes
import Mathlib.Algebra.Order.Ring.Int

/-!
# Requests and batches

What a caller hands to `append_atomic`, what one line of the journal holds, and
the identity the store gives to a request (`core/events/src/repository.rs`,
`core/events/src/integrity.rs` and the records of `core/events/src/local.rs`).
-/

namespace GraphHelm

open Std

/-!
## Keys

Streams, blobs and artifacts are filed under the digest of a scope and an
identifier.  The two themselves stand for the digest here.
-/

structure ObjectKey where
  scope : RepositoryScope
  id : OpaqueId
deriving DecidableEq

namespace ObjectKey

def scopedId (key : ObjectKey) : ScopedEvidenceId :=
  { scope := key.scope, evidenceId := key.id }

theorem scopedId_injective {a b : ObjectKey} (h : a.scopedId = b.scopedId) : a = b := by
  cases a
  cases b
  cases h
  rfl

instance : Ord ObjectKey where
  compare a b := compare a.scopedId b.scopedId

instance : TransOrd ObjectKey :=
  inferInstanceAs (TransCmp (compareOn scopedId))

instance : LawfulEqOrd ObjectKey where
  compare_self := compare_self (α := ScopedEvidenceId)
  eq_of_compare h := scopedId_injective (LawfulEqOrd.eq_of_compare h)

end ObjectKey

structure IdempotencyIdentity where
  stream : ObjectKey
  key : OpaqueId
deriving DecidableEq

namespace IdempotencyIdentity

def orderKey (identity : IdempotencyIdentity) : List (Option String) :=
  identity.stream.scopedId.orderKey ++ [some identity.key.text]

theorem orderKey_injective {a b : IdempotencyIdentity} (h : a.orderKey = b.orderKey) :
    a = b := by
  rcases a with ⟨streamA, keyA⟩
  rcases b with ⟨streamB, keyB⟩
  have hparts := List.append_inj' h rfl
  have hstream : streamA = streamB :=
    ObjectKey.scopedId_injective (ScopedEvidenceId.orderKey_injective hparts.left)
  have hkey : keyA.text = keyB.text := by simpa using hparts.right
  rw [hstream, OpaqueId.text_injective hkey]

instance : Ord IdempotencyIdentity where
  compare a b := compare a.orderKey b.orderKey

instance : TransOrd IdempotencyIdentity :=
  inferInstanceAs (TransCmp (compareOn orderKey))

instance : LawfulEqOrd IdempotencyIdentity where
  compare_self := compare_self (α := List (Option String))
  eq_of_compare h := orderKey_injective (LawfulEqOrd.eq_of_compare h)

end IdempotencyIdentity

/-!
## Evidence and artifacts
-/

/-- Sealed evidence, as a request carries it and as its blob stores it. -/
structure SealedEvidence where
  scope : RepositoryScope
  reference : EvidenceReference
  ciphertextLength : Nat
  body : LedgerData
deriving DecidableEq

def SealedEvidence.plaintextByteLength (item : SealedEvidence) : Nat :=
  item.ciphertextLength - 16

def SealedEvidence.key (item : SealedEvidence) : ObjectKey :=
  { scope := item.scope, id := item.reference.evidenceId }

abbrev Blobs := ExtTreeMap ObjectKey SealedEvidence

/-- What a request's digest keeps of an item of evidence. -/
structure EvidenceDigest where
  reference : EvidenceReference
  scope : RepositoryScope
  body : LedgerData
deriving DecidableEq

structure ArtifactRegistration where
  reference : ArtifactReference
  producerIdempotencyKey : OpaqueId
deriving DecidableEq

/-- An artifact as the journal registers it, with the stream that produced it. -/
structure StoredArtifactRegistration where
  reference : ArtifactReference
  producerStreamId : OpaqueId
  producerIdempotencyKey : OpaqueId
deriving DecidableEq

/-!
## Requests
-/

def newRequestAllowed (expectedNextSequence : Nat) (events : List NewEvent)
    (evidence : List SealedEvidence) (artifacts : List ArtifactRegistration) : Bool :=
  decide (expectedNextSequence ≠ 0) && decide (expectedNextSequence <= maxSafeInteger) &&
    !events.isEmpty && decide (events.length <= maxBatchEvents) &&
    decide (evidence.length <= maxEvidenceItems) && decide (artifacts.length <= maxArtifacts) &&
    decide ((evidence.map SealedEvidence.plaintextByteLength).sum <= maxEvidenceBatchBytes)

/-- A request that its constructor let through. -/
structure PreparedAppend where
  scope : RepositoryScope
  streamId : OpaqueId
  expectedNextSequence : Nat
  events : List NewEvent
  evidence : List SealedEvidence
  artifacts : List ArtifactRegistration
  allowed : newRequestAllowed expectedNextSequence events evidence artifacts = true

namespace PreparedAppend

def new (scope : RepositoryScope) (streamId : OpaqueId) (expectedNextSequence : Nat)
    (events : List NewEvent) (evidence : List SealedEvidence)
    (artifacts : List ArtifactRegistration) : Except EventRepositoryError PreparedAppend :=
  if h : newRequestAllowed expectedNextSequence events evidence artifacts = true then
    .ok
      { scope := scope
        streamId := streamId
        expectedNextSequence := expectedNextSequence
        events := events
        evidence := evidence
        artifacts := artifacts
        allowed := h }
  else
    .error .limitExceeded

def key (request : PreparedAppend) : ObjectKey :=
  { scope := request.scope, id := request.streamId }

theorem events_ne_nil (request : PreparedAppend) : request.events ≠ [] := by
  intro hnil
  have hallowed := request.allowed
  unfold newRequestAllowed at hallowed
  simp [hnil] at hallowed

def storedArtifacts (request : PreparedAppend) : List StoredArtifactRegistration :=
  request.artifacts.map fun item =>
    { reference := item.reference
      producerStreamId := request.streamId
      producerIdempotencyKey := item.producerIdempotencyKey }

/-- Byte order of identifiers. -/
def idLe (a b : OpaqueId) : Prop := (compare a.text b.text).isLE = true

instance : DecidableRel idLe := fun _ _ => inferInstanceAs (Decidable (_ = true))

def evidenceLe (a b : SealedEvidence) : Prop :=
  idLe a.reference.evidenceId b.reference.evidenceId

instance : DecidableRel evidenceLe := fun _ _ => inferInstanceAs (Decidable (idLe _ _))

def sortedEvidence (request : PreparedAppend) : List SealedEvidence :=
  request.evidence.insertionSort evidenceLe

def evidenceIds (request : PreparedAppend) : List EvidenceId :=
  (request.evidence.map fun item => item.reference.evidenceId).insertionSort idLe

theorem evidenceIds_eq_map_sorted (request : PreparedAppend) :
    request.evidenceIds = request.sortedEvidence.map fun item => item.reference.evidenceId :=
  (List.map_insertionSort evidenceLe idLe (fun item => item.reference.evidenceId)
    request.evidence fun _ _ _ _ => Iff.rfl).symm

theorem mem_sortedEvidence {request : PreparedAppend} {item : SealedEvidence} :
    item ∈ request.sortedEvidence <-> item ∈ request.evidence :=
  List.mem_insertionSort evidenceLe

end PreparedAppend

structure RequestDigest where
  scope : RepositoryScope
  streamId : OpaqueId
  expectedNextSequence : Nat
  events : List NewEvent
  evidence : List EvidenceDigest
  artifacts : List StoredArtifactRegistration
deriving DecidableEq

/-!
## Batches
-/

/-- One line of the journal. -/
structure PhysicalBatch where
  requestDigest : WireHash
  scope : RepositoryScope
  streamId : OpaqueId
  expectedNextSequence : Nat
  checksum : WireHash
  evidenceIds : List EvidenceId
  artifacts : List StoredArtifactRegistration
  events : List EventEnvelope
deriving DecidableEq

namespace PhysicalBatch

def key (batch : PhysicalBatch) : ObjectKey :=
  { scope := batch.scope, id := batch.streamId }

/-- The events a reader rebuilds to digest the request a batch came from. -/
def newEvents (batch : PhysicalBatch) : List NewEvent :=
  batch.events.map EventEnvelope.toNewEvent

/-- `BatchChecksum`: the batch as its checksum sees it. -/
def unchecked (batch : PhysicalBatch) : PhysicalBatch :=
  { batch with checksum := "" }

end PhysicalBatch

/-!
## What a store takes from outside
-/

/-- What the schema validator makes of a document it is asked to check. -/
inductive ValidationAttempt where
  /-- Its work governor declined to check the document. -/
  | refused
  | ran (clean : Bool)
deriving DecidableEq

structure StoreEnvironment extends Environment where
  /-- Length of the JSON text `serde_json` writes for a new event. -/
  newEventLen : NewEvent -> Nat
  /-- `validate_durable_content` over a request's scope and stream. -/
  scanScope : RepositoryScope -> OpaqueId -> Option DurableContentError
  scanNewEvent : NewEvent -> Option DurableContentError
  scanEvidence : SealedEvidence -> Option DurableContentError
  scanArtifact : ArtifactRegistration -> Option DurableContentError
  validateSealedMetadata : SealedEvidence -> Bool
  /-- The media type, retention class and digests a request's digest keeps of evidence. -/
  evidenceSummary : LedgerData -> LedgerData
  evidenceDigestLen : EvidenceDigest -> Nat
  requestLen : RequestDigest -> Nat
  /-- Canonical JSON bytes of a request's digest input. -/
  requestJson : RequestDigest -> List UInt8
  serializedBatchLen : PhysicalBatch -> Nat
  /-- Length of the batch's canonical line, without its newline. -/
  canonicalBatchLen : PhysicalBatch -> Nat
  /-- Canonical JSON bytes of a batch without its checksum. -/
  batchJson : PhysicalBatch -> List UInt8
  validateBatch : PhysicalBatch -> ValidationAttempt
  /-- The bytes of a segment holding the given lines. -/
  segmentBytes : List PhysicalBatch -> List UInt8

def evidenceDigest (env : StoreEnvironment) (item : SealedEvidence) : EvidenceDigest :=
  { reference := item.reference
    scope := item.scope
    body := env.evidenceSummary item.body }

def requestDigestOf (env : StoreEnvironment) (input : RequestDigest) :
    Except EventRepositoryError WireHash := do
  check (decide (env.requestLen input <= maxBatchBytes)) .limitExceeded
  .ok (env.wireSha256 (env.requestJson input))

namespace PreparedAppend

def digestInput (env : StoreEnvironment) (request : PreparedAppend) : RequestDigest :=
  { scope := request.scope
    streamId := request.streamId
    expectedNextSequence := request.expectedNextSequence
    events := request.events
    evidence := request.sortedEvidence.map (evidenceDigest env)
    artifacts := request.storedArtifacts }

/-- `request_digest`: the identity a retry is recognised by. -/
def requestDigest (env : StoreEnvironment) (request : PreparedAppend) :
    Except EventRepositoryError WireHash :=
  requestDigestOf env (request.digestInput env)

end PreparedAppend

def batchChecksum (env : StoreEnvironment) (batch : PhysicalBatch) : WireHash :=
  env.wireSha256 (env.batchJson batch.unchecked)

/-- `parse_physical_batch`: the reader's question to the schema validator. -/
def parsePhysicalBatch (env : StoreEnvironment) (batch : PhysicalBatch) :
    Except EventRepositoryError Unit :=
  match env.validateBatch batch with
  | .refused => .error .limitExceeded
  | .ran clean => check clean .integrity

end GraphHelm
