import GraphHelm.Protocol.Integrity

/-!
# Building envelopes

`build_envelopes` of `core/events/src/local.rs`: an append's new events are
numbered from the expected sequence, stamped, chained from the stream's last
hash and validated.
-/

namespace GraphHelm

/-- What the clock and the identifier generator hand to one append. -/
structure Stamps where
  occurredAt : Option PersistedTimestamp
  eventId : Nat -> Option OpaqueId

def sealEnvelope (env : Environment) (eventId : OpaqueId) (scope : RepositoryScope)
    (streamId : OpaqueId) (sequence : Nat) (occurredAt : PersistedTimestamp)
    (event : NewEvent) (previousHash : EventHash) : EventEnvelope :=
  let placeholder :=
    EventEnvelope.new eventId scope streamId sequence occurredAt event previousHash genesisHash
  { placeholder with eventHash := eventHash env placeholder previousHash }

def buildEnvelopes (env : Environment) (scope : RepositoryScope) (streamId : OpaqueId)
    (stamps : Stamps) (next : Nat) :
    Nat -> EventHash -> List NewEvent -> Except EventRepositoryError (List EventEnvelope)
  | _, _, [] => .ok []
  | offset, previousHash, event :: rest => do
      let occurredAt <- orRefuse stamps.occurredAt .invalid
      check (decide (next + offset <= maxSafeInteger)) .limitExceeded
      let eventId <- orRefuse (stamps.eventId offset) .invalid
      let envelope :=
        sealEnvelope env eventId scope streamId (next + offset) occurredAt event previousHash
      validateEnvelopeContent env { envelope with eventHash := genesisHash }
      validateEnvelope env envelope
      let later <-
        buildEnvelopes env scope streamId stamps next (offset + 1) envelope.eventHash rest
      .ok (envelope :: later)

section SealEnvelope

variable {env : Environment} {eventId : OpaqueId} {scope : RepositoryScope}
  {streamId : OpaqueId} {sequence : Nat} {occurredAt : PersistedTimestamp}
  {event : NewEvent} {previousHash : EventHash}

/-- The hash is computed without the `eventHash` member, so setting it keeps it valid. -/
theorem sealEnvelope_eventHash :
    eventHash env
        (sealEnvelope env eventId scope streamId sequence occurredAt event previousHash)
        previousHash =
      (sealEnvelope env eventId scope streamId sequence occurredAt event
        previousHash).eventHash := rfl

end SealEnvelope

/-- The envelopes of `events` from sequence `next + offset` on, when nothing refuses them. -/
def sealEnvelopes (env : Environment) (scope : RepositoryScope) (streamId : OpaqueId)
    (occurredAt : PersistedTimestamp) (eventId : Nat -> OpaqueId) (next : Nat) :
    Nat -> EventHash -> List NewEvent -> List EventEnvelope
  | _, _, [] => []
  | offset, previousHash, event :: rest =>
      let envelope :=
        sealEnvelope env (eventId offset) scope streamId (next + offset) occurredAt event
          previousHash
      envelope ::
        sealEnvelopes env scope streamId occurredAt eventId next (offset + 1)
          envelope.eventHash rest

/-- What it is for `events` to be the envelopes of `news` after a stream's last event. -/
structure Continuation (env : Environment) (scope : RepositoryScope) (streamId : OpaqueId)
    (lastSequence : Nat) (lastHash : EventHash) (news : List NewEvent)
    (events : List EventEnvelope) : Prop where
  carries : events.map EventEnvelope.toNewEvent = news
  owned : forall event, event ∈ events -> event.scope = scope ∧ event.streamId = streamId
  numbered : Numbered lastSequence events
  linked : (envelopeChain env).Linked lastHash events

theorem Continuation.seal_cons {env : Environment} {scope : RepositoryScope}
    {streamId eventId : OpaqueId} {sequence : Nat} {occurredAt : PersistedTimestamp}
    {previousHash : EventHash} {event : NewEvent} {news : List NewEvent}
    {events : List EventEnvelope}
    (h : Continuation env scope streamId (sequence + 1)
      (sealEnvelope env eventId scope streamId (sequence + 1) occurredAt event
        previousHash).eventHash news events) :
    Continuation env scope streamId sequence previousHash (event :: news)
      (sealEnvelope env eventId scope streamId (sequence + 1) occurredAt event previousHash ::
        events) := by
  refine ⟨?_, ?_, ?_, ?_⟩
  · exact congrArg (List.cons event) h.carries
  · intro other hother
    rcases List.mem_cons.mp hother with heq | hmem
    · rw [heq]
      exact And.intro rfl rfl
    · exact h.owned other hmem
  · exact And.intro rfl h.numbered
  · exact ⟨rfl, rfl, h.linked⟩

theorem Continuation.nil {env : Environment} {scope : RepositoryScope} {streamId : OpaqueId}
    {lastSequence : Nat} {lastHash : EventHash} :
    Continuation env scope streamId lastSequence lastHash [] [] :=
  ⟨rfl, by simp, trivial, trivial⟩

theorem sealEnvelopes_continuation {env : Environment} {scope : RepositoryScope}
    {streamId : OpaqueId} {occurredAt : PersistedTimestamp} {eventId : Nat -> OpaqueId}
    {lastSequence offset : Nat} {previousHash : EventHash} {news : List NewEvent} :
    Continuation env scope streamId (lastSequence + offset) previousHash news
      (sealEnvelopes env scope streamId occurredAt eventId (lastSequence + 1) offset
        previousHash news) := by
  induction news generalizing offset previousHash with
  | nil =>
      exact Continuation.nil
  | cons event rest ih =>
      unfold sealEnvelopes
      rw [Nat.add_right_comm lastSequence 1 offset]
      refine Continuation.seal_cons ?_
      rw [Nat.add_assoc lastSequence offset 1]
      exact ih

theorem buildEnvelopes_continuation {env : Environment} {scope : RepositoryScope}
    {streamId : OpaqueId} {stamps : Stamps} {lastSequence offset : Nat}
    {previousHash : EventHash} {news : List NewEvent} {events : List EventEnvelope}
    (h : buildEnvelopes env scope streamId stamps (lastSequence + 1) offset previousHash news =
      .ok events) :
    Continuation env scope streamId (lastSequence + offset) previousHash news events ∧
      forall event, event ∈ events -> validateEnvelope env event = .ok () := by
  induction news generalizing offset previousHash events with
  | nil =>
      cases h
      exact And.intro Continuation.nil (by simp)
  | cons event rest ih =>
      unfold buildEnvelopes at h
      rcases bind_ok h with ⟨occurredAt, _, h⟩
      rcases bind_ok h with ⟨_, _, h⟩
      rcases bind_ok h with ⟨eventId, _, h⟩
      rcases bind_ok h with ⟨_, _, h⟩
      rcases bind_ok h with ⟨_, hvalid, h⟩
      rcases bind_ok h with ⟨later, hlater, h⟩
      cases h
      have hrest := ih hlater
      rw [Nat.add_right_comm lastSequence 1 offset] at hvalid hrest ⊢
      refine And.intro (Continuation.seal_cons hrest.left) ?_
      intro other hother
      rcases List.mem_cons.mp hother with heq | hmem
      · rw [heq]
        exact hvalid
      · exact hrest.right other hmem

theorem StreamHistory.append {env : Environment} {scope : RepositoryScope}
    {streamId : OpaqueId} {history events : List EventEnvelope} {news : List NewEvent}
    (h : StreamHistory env scope streamId.text history)
    (hmore : Continuation env scope streamId history.length
      ((envelopeChain env).last genesisHash history) news events) :
    StreamHistory env scope streamId.text (history ++ events) := by
  refine ⟨?_, ?_, ?_⟩
  · intro event hevent
    rcases List.mem_append.mp hevent with hold | hnew
    · exact h.owned event hold
    · have howned := hmore.owned event hnew
      exact And.intro howned.left (congrArg OpaqueId.text howned.right)
  · refine numbered_append.mpr (And.intro h.numbered ?_)
    rw [Nat.zero_add]
    exact hmore.numbered
  · exact HashChain.linked_append.mpr (And.intro h.linked hmore.linked)

theorem StreamHistory.nil {env : Environment} {scope : RepositoryScope} {streamId : String} :
    StreamHistory env scope streamId [] :=
  ⟨by simp, trivial, trivial⟩

/-!
## A small environment

Every check passes, and a digest spells out the last bytes it was given, which
name the event; worked examples are evaluated in it.
-/

namespace Sample

def env : Environment :=
  { wireSha256 := fun bytes =>
      let tail := (bytes.reverse.take 12).reverse
      s!"sha256:{String.ofList (tail.map fun byte => Char.ofNat byte.toNat)}"
    envelopeJson := fun event => utf8 s!"{event.sequence}:{event.eventId.text}"
    serializedLen := fun _ => 512
    canonicalLen := fun _ => 512
    validateEvent := fun _ => true
    validateDurableContent := fun _ => none
    validatePersistedProjection := fun _ => true
    validatePublicationEvidenceIds := fun _ _ => true
    validateEvidenceBijection := fun _ _ => true }

def id (text : String) : OpaqueId :=
  (OpaqueId.parse text).getD { text := "id", valid := by decide }

def scope : RepositoryScope :=
  { workspaceId := id "workspace"
    projectId := id "project"
    executionId := some (id "execution") }

def event (key : String) (kind : EventKind) : NewEvent :=
  { idempotencyKey := id key
    actor := { actorType := .owner, id := "owner" }
    sensitivity := .internal
    kind := kind
    evidenceRefs := []
    artifactRefs := [] }

def streamId : OpaqueId := id "stream"

/-- A stream holding the given events, written one second after the epoch. -/
def history (news : List NewEvent) : List EventEnvelope :=
  sealEnvelopes env scope streamId 1000000000 (fun n => id s!"event-{n}") 1 0 genesisHash news

theorem history_continuation (news : List NewEvent) :
    Continuation env scope streamId 0 genesisHash news (history news) :=
  @sealEnvelopes_continuation env scope streamId 1000000000 (fun n => id s!"event-{n}") 0 0
    genesisHash news

end Sample

end GraphHelm
