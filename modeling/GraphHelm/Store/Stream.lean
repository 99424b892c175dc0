import GraphHelm.Store.Envelopes

/-!
# One stream, as its writers share it

The store's lock makes every read and every `append_atomic` one step.  What a
writer of one stream can see of such a step is a whole append: the request is
refused, or its events follow the last event of the stream.  A retry of a
committed request is answered with the committed events and is no step at all.
-/

namespace GraphHelm

structure VerifiedStream (env : Environment) (scope : RepositoryScope) (streamId : String) where
  events : List EventEnvelope
  verified : StreamHistory env scope streamId events

namespace VerifiedStream

variable {env : Environment} {scope : RepositoryScope} {streamId : OpaqueId}

def nextSequence {streamId : String} (stream : VerifiedStream env scope streamId) : Nat :=
  stream.events.length + 1

def lastHash {streamId : String} (stream : VerifiedStream env scope streamId) : EventHash :=
  (envelopeChain env).last genesisHash stream.events

def unrecorded {streamId : String} (stream : VerifiedStream env scope streamId)
    (news : List NewEvent) : Bool :=
  news.all fun event =>
    stream.events.all fun old => old.idempotencyKey.text != event.idempotencyKey.text

def extend (stream : VerifiedStream env scope streamId.text) (stamps : Stamps)
    (news : List NewEvent) :
    Except EventRepositoryError (VerifiedStream env scope streamId.text) :=
  match hbuild : buildEnvelopes env scope streamId stamps (stream.events.length + 1) 0
      stream.lastHash news with
  | .error error => .error error
  | .ok added =>
      .ok
        { events := stream.events ++ added
          verified := stream.verified.append (buildEnvelopes_continuation hbuild).left }

/-- `append_atomic`, as far as one stream shows of it. -/
def append (stream : VerifiedStream env scope streamId.text) (stamps : Stamps)
    (expectedNextSequence : Nat) (news : List NewEvent) :
    Except EventRepositoryError (VerifiedStream env scope streamId.text) := do
  check (decide (0 < news.length && news.length <= maxBatchEvents)) .limitExceeded
  check (decide (news.map NewEvent.idempotencyKey).Nodup) .invalid
  check (stream.unrecorded news) .idempotencyConflict
  check (decide (expectedNextSequence = stream.nextSequence)) .sequenceConflict
  stream.extend stamps news

/-- The stream after an accepted append, and its writer back at rest. -/
def settle {Phase : Type} (rest : Phase)
    (result : Except EventRepositoryError (VerifiedStream env scope streamId.text)) :
    Option (VerifiedStream env scope streamId.text × Phase) :=
  match result with
  | .ok stream => some (stream, rest)
  | .error _ => none

theorem settle_eq_some {Phase : Type} {rest phase : Phase}
    {result : Except EventRepositoryError (VerifiedStream env scope streamId.text)}
    {stream : VerifiedStream env scope streamId.text}
    (h : settle rest result = some (stream, phase)) : result = .ok stream ∧ phase = rest := by
  cases result with
  | ok after =>
      cases h
      exact And.intro rfl rfl
  | error error =>
      cases h

variable {news : List NewEvent}

theorem extend_eq_ok {stream stream' : VerifiedStream env scope streamId.text} {stamps : Stamps}
    (h : stream.extend stamps news = .ok stream') :
    exists added, stream'.events = stream.events ++ added ∧
      added.map EventEnvelope.toNewEvent = news := by
  unfold extend at h
  split at h
  · cases h
  · rename_i added hbuild
    cases h
    exact ⟨added, rfl, (buildEnvelopes_continuation hbuild).left.carries⟩

/-- What an accepted append did to the stream, and what it was accepted on. -/
structure Appended (expectedNextSequence : Nat) (news : List NewEvent)
    (before after : List EventEnvelope) (added : List EventEnvelope) : Prop where
  expected : expectedNextSequence = before.length + 1
  nonempty : news ≠ []
  distinct : (news.map NewEvent.idempotencyKey).Nodup
  extended : after = before ++ added
  carries : added.map EventEnvelope.toNewEvent = news

theorem append_eq_ok {stream stream' : VerifiedStream env scope streamId.text} {stamps : Stamps}
    {expectedNextSequence : Nat}
    (h : stream.append stamps expectedNextSequence news = .ok stream') :
    exists added, Appended expectedNextSequence news stream.events stream'.events added := by
  unfold append at h
  rcases check_ok h with ⟨hlength, h⟩
  rcases check_ok h with ⟨hdistinct, h⟩
  rcases check_ok h with ⟨_, h⟩
  rcases check_ok h with ⟨hexpected, h⟩
  rcases extend_eq_ok h with ⟨added, hextended, hcarries⟩
  simp only [Bool.and_eq_true, decide_eq_true_eq] at hlength
  refine ⟨added, ?_⟩
  exact
    { expected := of_decide_eq_true hexpected
      nonempty := List.ne_nil_of_length_pos hlength.left
      distinct := of_decide_eq_true hdistinct
      extended := hextended
      carries := hcarries }

theorem Appended.mem_kind {expectedNextSequence : Nat} {before after added : List EventEnvelope}
    (h : Appended expectedNextSequence news before after added) {event : EventEnvelope}
    (hmem : event ∈ added) : exists new, new ∈ news ∧ event.kind = new.kind := by
  refine ⟨event.toNewEvent, ?_, rfl⟩
  rw [← h.carries]
  exact List.mem_map_of_mem hmem

end VerifiedStream

def atSequence (events : List EventEnvelope) : Nat :=
  (events.getLast?.map EventEnvelope.sequence).getD 0

theorem atSequence_eq_length {env : Environment} {scope : RepositoryScope}
    {streamId : String} (stream : VerifiedStream env scope streamId) :
    atSequence stream.events = stream.events.length := by
  unfold atSequence
  rw [List.getLast?_eq_getElem?]
  cases hlast : stream.events[stream.events.length - 1]? with
  | none =>
      have hshort := List.getElem?_eq_none_iff.mp hlast
      show 0 = stream.events.length
      omega
  | some event =>
      have hsequence := stream.verified.numbered.sequence_getElem hlast
      have hlength := (List.getElem?_eq_some_iff.mp hlast).1
      show event.sequence = stream.events.length
      omega

namespace Sample

def verified (news : List NewEvent) : VerifiedStream env scope streamId.text :=
  { events := history news
    verified :=
      { owned := fun event hmem =>
          And.intro ((history_continuation news).owned event hmem).left
            (congrArg OpaqueId.text ((history_continuation news).owned event hmem).right)
        numbered := (history_continuation news).numbered
        linked := (history_continuation news).linked } }

/-- The clock and the identifiers of the append that writes the event after `written` others. -/
def stamps (written : Nat) : Stamps :=
  { occurredAt := some 2000000000
    eventId := fun offset => OpaqueId.parse s!"event-{written + offset}" }

end Sample

end GraphHelm
