import GraphHelm.Store.Committed
import GraphHelm.Store.Tally

/-!
# Verifying the lines of a segment

`verify_lines` of `core/events/src/local.rs`: each batch is checked against the
state the batches before it left, against the blobs its events rely on, and
against the limits of a load.
-/

namespace GraphHelm

open Std

def isGraphSuccessor (version : PersistedGraphVersion) (number : Nat)
    (semanticHash : WireHash) : Bool :=
  decide (number + 1 = version.number) &&
    version.predecessor.any fun prior =>
      prior.number = number && prior.semanticHash = semanticHash

def lineageAgrees (active : Option (Nat × WireHash)) (version : PersistedGraphVersion) : Bool :=
  match active with
  | some (number, semanticHash) => isGraphSuccessor version number semanticHash
  | none => decide (version.number = 1) && version.predecessor.isNone

def ActiveVersion.identity (active : ActiveVersion) : Nat × WireHash :=
  (active.number, active.semanticHash)

/-- `validate_graph_lineage`: every publication of a request follows the one before it. -/
def validateGraphLineage :
    Option (Nat × WireHash) -> List NewEvent -> Except EventRepositoryError Unit
  | _, [] => .ok ()
  | active, event :: rest =>
      match event.kind with
      | .graphVersionPublished version => do
          check (lineageAgrees active version) .invalid
          validateGraphLineage (some (version.number, version.semanticHash)) rest
      | _ => validateGraphLineage active rest

/-!
## What a batch says of its evidence and artifacts
-/

def evidenceReferences (events : List NewEvent) : List EvidenceReference :=
  events.flatMap NewEvent.evidenceRefs

/-- No evidence is referred to in two ways. -/
def referencesAgree (references : List EvidenceReference) : Bool :=
  references.all fun first =>
    references.all fun second =>
      decide (first.evidenceId = second.evidenceId -> first = second)

def findReference (events : List NewEvent) (id : EvidenceId) : Option EvidenceReference :=
  (evidenceReferences events).find? fun reference => reference.evidenceId = id

def evidenceDeclared (events : List NewEvent) (ids : List EvidenceId) : Bool :=
  decide ids.Nodup && ids.all fun id => (findReference events id).isSome

def producedArtifacts (events : List NewEvent) :
    List ((OpaqueId × ArtifactId) × ArtifactReference) :=
  events.flatMap fun event =>
    event.artifactRefs.map fun reference =>
      ((event.idempotencyKey, reference.artifactId), reference)

def artifactsProduced (events : List NewEvent) (streamId : OpaqueId)
    (items : List StoredArtifactRegistration) : Bool :=
  decide (items.map fun item => item.reference.artifactId).Nodup &&
    decide ((producedArtifacts events).map Prod.fst).Nodup &&
    items.all fun item =>
      decide (item.producerStreamId = streamId) &&
        decide ((producedArtifacts events).lookup
          (item.producerIdempotencyKey, item.reference.artifactId) = some item.reference)

/-- No artifact is registered again as another. -/
def artifactsKept (state : LoadedState) (scope : RepositoryScope)
    (items : List StoredArtifactRegistration) : Bool :=
  items.all fun item =>
    state.artifacts[({ scope := scope, id := item.reference.artifactId } : ObjectKey)]?.all
      fun existing => existing = item

def readVerifiedBlob (env : StoreEnvironment) (blobs : Blobs) (scope : RepositoryScope)
    (reference : EvidenceReference) : Except EventRepositoryError SealedEvidence := do
  let stored <-
    orRefuse blobs[({ scope := scope, id := reference.evidenceId } : ObjectKey)]? .storage
  check (decide (stored.scope = scope) && decide (stored.reference = reference)) .integrity
  check (env.validateSealedMetadata stored) .integrity
  .ok stored

/-!
## The verifier
-/

structure VerifyCtx where
  state : LoadedState
  tally : Tally
  verifiedEvidence : ExtTreeMap ObjectKey EvidenceDigest

namespace VerifyCtx

/-- The context a walk starts from: what is sealed is not walked again. -/
def seeded (state : LoadedState) : VerifyCtx :=
  { state := state
    tally := Tally.zero
    verifiedEvidence := ∅ }

def digestOf (ctx : VerifyCtx) (key : ObjectKey) : Option EvidenceDigest :=
  ctx.verifiedEvidence[key]?

end VerifyCtx

def verifyRegistration (env : StoreEnvironment) (blobs : Blobs) (batch : PhysicalBatch)
    (ctx : VerifyCtx) (id : EvidenceId) :
    Except EventRepositoryError (VerifyCtx × EvidenceDigest) := do
  let reference <- orRefuse (findReference batch.newEvents id) .integrity
  let key : ObjectKey := { scope := batch.scope, id := id }
  let tally <- ctx.tally.spendEvidence key
  match ctx.digestOf key with
  | some existing => do
      check
        (decide (existing.scope = batch.scope) && decide (existing.reference = reference))
        .integrity
      .ok ({ ctx with tally := tally }, existing)
  | none => do
      let stored <- readVerifiedBlob env blobs batch.scope reference
      let digest := evidenceDigest env stored
      let metered <- tally.spendMetadata (env.evidenceDigestLen digest)
      .ok
        ({ ctx with
            tally := metered
            verifiedEvidence := ctx.verifiedEvidence.insert key digest },
          digest)

def verifyRegistrations (env : StoreEnvironment) (blobs : Blobs) (batch : PhysicalBatch) :
    VerifyCtx -> List EvidenceId ->
    Except EventRepositoryError (VerifyCtx × List EvidenceDigest)
  | ctx, [] => .ok (ctx, [])
  | ctx, id :: rest => do
      let (next, digest) <- verifyRegistration env blobs batch ctx id
      let (last, digests) <- verifyRegistrations env blobs batch next rest
      .ok (last, digest :: digests)

/-- Evidence registered in a sealed segment is verified where it is first referred to. -/
def verifyReachable (env : StoreEnvironment) (blobs : Blobs) (scope : RepositoryScope)
    (ctx : VerifyCtx) (reference : EvidenceReference) :
    Except EventRepositoryError (ExtTreeMap ObjectKey EvidenceDigest) :=
  let key : ObjectKey := { scope := scope, id := reference.evidenceId }
  if (ctx.digestOf key).isNone && ctx.state.reachableEvidence.contains key then do
    let stored <- readVerifiedBlob env blobs scope reference
    .ok (ctx.verifiedEvidence.insert key (evidenceDigest env stored))
  else
    .ok ctx.verifiedEvidence

def verifyReference (env : StoreEnvironment) (blobs : Blobs) (scope : RepositoryScope)
    (ctx : VerifyCtx) (reference : EvidenceReference) :
    Except EventRepositoryError VerifyCtx := do
  let key : ObjectKey := { scope := scope, id := reference.evidenceId }
  let tally <- ctx.tally.spendEvidence key
  let verified <- verifyReachable env blobs scope ctx reference
  check
    (verified[key]?.any fun digest => digest.scope = scope && digest.reference = reference)
    .integrity
  .ok
    { state := ctx.state.recordReference scope reference
      tally := tally
      verifiedEvidence := verified }

/-- Whether an event's artifact was committed by its stream, or is registered with it. -/
def artifactStands (state : LoadedState) (batch : PhysicalBatch) (event : EventEnvelope)
    (artifact : ArtifactReference) : Bool :=
  let made (item : StoredArtifactRegistration) : Bool :=
    decide (item.producerStreamId = event.streamId) && decide (item.reference = artifact)
  state.artifacts[({ scope := event.scope, id := artifact.artifactId } : ObjectKey)]?.any made ||
    (batch.artifacts.find? fun item => item.reference.artifactId = artifact.artifactId).any made

def verifyArtifact (batch : PhysicalBatch) (event : EventEnvelope) (ctx : VerifyCtx)
    (artifact : ArtifactReference) : Except EventRepositoryError VerifyCtx := do
  let tally <- ctx.tally.spendArtifact { scope := event.scope, id := artifact.artifactId }
  check (artifactStands ctx.state batch event artifact) .integrity
  .ok { ctx with tally := tally }

def publicationFollows (env : StoreEnvironment) (state : LoadedState) (key : ObjectKey)
    (event : EventEnvelope) : Bool :=
  match event.kind with
  | .graphVersionPublished version =>
      env.validatePersistedProjection version &&
        lineageAgrees (state.activeVersions[key]?.map ActiveVersion.identity) version
  | _ => true

/-- Whether an event is of the batch and goes on the chain at `sequence`. -/
def continuesBatch (env : StoreEnvironment) (batch : PhysicalBatch) (sequence : Nat)
    (previousHash : EventHash) (event : EventEnvelope) : Bool :=
  decide (event.scope = batch.scope) && decide (event.streamId = batch.streamId) &&
    decide (event.sequence = sequence) && decide (event.previousHash = previousHash) &&
    decide (eventHash env.toEnvironment event previousHash = event.eventHash)

def verifyEvent (env : StoreEnvironment) (blobs : Blobs) (batch : PhysicalBatch)
    (sequence : Nat) (previousHash : EventHash) (ctx : VerifyCtx) (event : EventEnvelope) :
    Except EventRepositoryError VerifyCtx := do
  check (validateEnvelope env.toEnvironment event).isOk .integrity
  check (publicationFollows env ctx.state batch.key event) .integrity
  check (continuesBatch env batch sequence previousHash event) .integrity
  check
    (!ctx.state.seenIdempotency.contains { stream := batch.key, key := event.idempotencyKey })
    .integrity
  let recorded :=
    LoadedState.recordKey batch.key event
      (LoadedState.recordPublication batch.key event ctx.state)
  let referred <-
    event.evidenceRefs.foldlM (verifyReference env blobs event.scope)
      { ctx with state := recorded }
  event.artifactRefs.foldlM (verifyArtifact batch event) referred

def verifyEvents (env : StoreEnvironment) (blobs : Blobs) (batch : PhysicalBatch) :
    Nat -> EventHash -> List EventEnvelope -> VerifyCtx ->
    Except EventRepositoryError VerifyCtx
  | _, _, [], ctx => .ok ctx
  | sequence, previousHash, event :: rest, ctx => do
      let next <- verifyEvent env blobs batch sequence previousHash ctx event
      verifyEvents env blobs batch (sequence + 1) event.eventHash rest next

def verifyRegisteredArtifact (scope : RepositoryScope) (ctx : VerifyCtx)
    (item : StoredArtifactRegistration) : Except EventRepositoryError VerifyCtx := do
  let key : ObjectKey := { scope := scope, id := item.reference.artifactId }
  let tally <- ctx.tally.spendArtifact key
  check (ctx.state.artifacts[key]?.all fun existing => existing = item) .integrity
  .ok
    { ctx with
      tally := tally
      state := ctx.state.recordArtifact scope item }

/-- One turn of the loop over the lines. -/
def verifyBatch (env : StoreEnvironment) (blobs : Blobs) (ctx : VerifyCtx)
    (batch : PhysicalBatch) : Except EventRepositoryError VerifyCtx := do
  check (decide (env.canonicalBatchLen batch <= maxBatchBytes)) .limitExceeded
  parsePhysicalBatch env batch
  check (decide (batch.checksum = batchChecksum env batch)) .corruptBatch
  check
    (decide (batch.events.head?.map EventEnvelope.sequence = some batch.expectedNextSequence))
    .integrity
  let charged <- ctx.tally.spend batch.load.charges
  check (decide (ctx.state.expectedSequence batch.key = batch.expectedNextSequence)) .integrity
  check (artifactsProduced batch.newEvents batch.streamId batch.artifacts) .integrity
  check (artifactsKept ctx.state batch.scope batch.artifacts) .integrity
  check
    (referencesAgree (evidenceReferences batch.newEvents) &&
      evidenceDeclared batch.newEvents batch.evidenceIds) .integrity
  let (registered, digests) <-
    verifyRegistrations env blobs batch { ctx with tally := charged } batch.evidenceIds
  let digest <-
    requestDigestOf env
      { scope := batch.scope
        streamId := batch.streamId
        expectedNextSequence := batch.expectedNextSequence
        events := batch.newEvents
        evidence := digests
        artifacts := batch.artifacts }
  check (decide (digest = batch.requestDigest)) .integrity
  let folded <-
    verifyEvents env blobs batch batch.expectedNextSequence
      (ctx.state.previousHash batch.key) batch.events registered
  let headed := { folded with state := folded.state.recordHeads env batch }
  let artifacts <- batch.artifacts.foldlM (verifyRegisteredArtifact batch.scope) headed
  .ok
    { artifacts with
      state := { artifacts.state with batches := artifacts.state.batches ++ [batch] } }

def verifyLines (env : StoreEnvironment) (blobs : Blobs) (batches : List PhysicalBatch)
    (ctx : VerifyCtx) : Except EventRepositoryError VerifyCtx :=
  batches.foldlM (verifyBatch env blobs) ctx

end GraphHelm
