import GraphHelm.Library.Checks
import GraphHelm.Library.HashChain
import GraphHelm.Protocol.Environment

/-!
# Envelope integrity

The deterministic limits of `core/events/src/limits.rs`, the repository's
errors, `validate_envelope` of `core/events/src/integrity.rs`, and what it is
for a list of envelopes to continue a stream.
-/

namespace GraphHelm

/-!
## Limits
-/

def maxEventBytes : Nat := 1024 * 1024

def maxBatchBytes : Nat := 16 * 1024 * 1024

def maxJournalBytes : Nat := 256 * 1024 * 1024

def maxBatchEvents : Nat := 10000

def maxEvidenceItems : Nat := 10000

def maxEvidenceBatchBytes : Nat := 64 * 1024 * 1024

def maxArtifacts : Nat := 64

def maxReadPage : Nat := 1000

def maxReadAll : Nat := 250000

/-- The largest integer JSON can carry exactly. -/
def maxSafeInteger : Nat := 9007199254740991

/-!
## Errors
-/

inductive EventRepositoryError where
  | sequenceConflict
  | idempotencyConflict
  | integrity
  | corruptBatch
  | watermarkMismatch
  | limitExceeded
  | unsupportedFormat
  | invalid
  | unsafePersistence
  | streamSelectionRequired
  | storage
  | readBudgetExceeded (walked : Nat) (limitMillis : Int)
deriving DecidableEq

/-!
## Envelope validation
-/

/-- How `scan_safe_value` reports a durable-content refusal. -/
def scanError : DurableContentError -> EventRepositoryError
  | .unsafeContent => .unsafePersistence
  | .limitExceeded => .limitExceeded

def validateEnvelopeContent (env : Environment) (event : EventEnvelope) :
    Except EventRepositoryError Unit := do
  check (decide (env.serializedLen event <= maxEventBytes)) .limitExceeded
  match env.validateDurableContent event with
  | some error => .error (scanError error)
  | none => .ok ()

def retentionEvidenceScope : EventKind -> Option RepositoryScope
  | .evidenceErasureRequested payload => some payload.evidenceScope
  | .evidenceErasureCompleted payload => some payload.evidenceScope
  | .evidenceCiphertextDeleted payload => some payload.evidenceScope
  | .evidenceLegalHoldChanged payload => some payload.evidenceScope
  | _ => none

def retentionScopeAgrees (event : EventEnvelope) : Bool :=
  match retentionEvidenceScope event.kind with
  | some evidenceScope =>
      evidenceScope.workspaceId = event.scope.workspaceId &&
        evidenceScope.projectId = event.scope.projectId
  | none => true

def publicationAgrees (env : Environment) (event : EventEnvelope) : Bool :=
  match event.kind with
  | .graphVersionPublished version =>
      event.scope.executionId = some version.topology.executionId &&
        event.actor = version.createdBy &&
        env.validatePublicationEvidenceIds event.scope version &&
        env.validateEvidenceBijection version.contentSlots event.evidenceRefs
  | _ => true

def scopeLevelAgrees (event : EventEnvelope) : Bool :=
  event.kind.isProjectLevel != event.scope.executionId.isSome

def validateEnvelope (env : Environment) (event : EventEnvelope) :
    Except EventRepositoryError Unit := do
  validateEnvelopeContent env event
  check (env.validateEvent event) .invalid
  check (scopeLevelAgrees event) .invalid
  check (retentionScopeAgrees event) .invalid
  check (publicationAgrees env event) .invalid
  check (decide (env.canonicalLen event <= maxEventBytes)) .limitExceeded

/-!
## Streams

The hash chain of a stream, and the events that continue a stream whose last
sequence and last hash are known.
-/

def envelopeChain (env : Environment) : HashChain EventEnvelope EventHash :=
  { link := EventEnvelope.previousHash
    «seal» := EventEnvelope.eventHash
    digest := eventHash env }

/-- Sequences run on from `lastSequence` without a gap. -/
def Numbered : Nat -> List EventEnvelope -> Prop
  | _, [] => True
  | lastSequence, event :: rest =>
      event.sequence = lastSequence + 1 ∧ Numbered event.sequence rest

/-- A stream's events as a verified journal holds them. -/
structure StreamHistory (env : Environment) (scope : RepositoryScope) (streamId : String)
    (events : List EventEnvelope) : Prop where
  owned : forall event, event ∈ events -> event.scope = scope ∧ event.streamId.text = streamId
  numbered : Numbered 0 events
  linked : (envelopeChain env).Linked genesisHash events

variable {start : Nat} {events : List EventEnvelope} {event : EventEnvelope}

theorem numbered_append {first second : List EventEnvelope} :
    Numbered start (first ++ second) <->
      Numbered start first ∧ Numbered (start + first.length) second := by
  induction first generalizing start with
  | nil =>
      simp only [List.nil_append, Numbered, true_and, List.length_nil, Nat.add_zero]
  | cons event rest ih =>
      simp only [List.cons_append, Numbered, ih, List.length_cons, and_assoc]
      constructor
      · rintro ⟨hfirst, hrest, hsecond⟩
        rw [hfirst] at hsecond
        exact ⟨hfirst, hrest, by rwa [Nat.add_comm rest.length 1, ← Nat.add_assoc]⟩
      · rintro ⟨hfirst, hrest, hsecond⟩
        refine ⟨hfirst, hrest, ?_⟩
        rwa [hfirst, Nat.add_assoc, Nat.add_comm 1 rest.length]

theorem Numbered.sequences (h : Numbered start events) :
    events.map EventEnvelope.sequence = List.range' (start + 1) events.length := by
  induction events generalizing start with
  | nil =>
      rfl
  | cons event rest ih =>
      rcases h with ⟨hsequence, hrest⟩
      rw [hsequence] at hrest
      rw [List.map_cons, ih hrest, hsequence]
      rfl

theorem Numbered.sequence_getElem (h : Numbered start events) {i : Nat}
    (hget : events[i]? = some event) : event.sequence = start + i + 1 := by
  induction events generalizing start i with
  | nil =>
      simp at hget
  | cons head rest ih =>
      cases i with
      | zero =>
          have heq : head = event := by simpa using hget
          rw [← heq]
          exact h.left
      | succ i =>
          have hnext := ih h.right (by simpa using hget)
          have hhead := h.left
          omega

theorem Numbered.sequence_le (h : Numbered start events) (hmem : event ∈ events) :
    start < event.sequence ∧ event.sequence <= start + events.length := by
  rcases List.mem_iff_getElem?.mp hmem with ⟨i, hget⟩
  have hsequence := h.sequence_getElem hget
  have hi : i < events.length := (List.getElem?_eq_some_iff.mp hget).1
  omega

theorem Numbered.eq_of_sequence (h : Numbered start events) {other : EventEnvelope}
    (hmem : event ∈ events) (hother : other ∈ events) (hsame : event.sequence = other.sequence) :
    event = other := by
  rcases List.mem_iff_getElem?.mp hmem with ⟨i, hget⟩
  rcases List.mem_iff_getElem?.mp hother with ⟨j, hget'⟩
  have hi := h.sequence_getElem hget
  have hj := h.sequence_getElem hget'
  have hij : i = j := by omega
  rw [hij, hget'] at hget
  exact (Option.some.inj hget).symm

end GraphHelm
