import GraphHelm.Projection.Effects
import GraphHelm.Projection.Replay
import GraphHelm.Store.Envelopes

/-!
# Paged folding and one-shot replay

Both walks are inverted into one statement about a single event, and a relation
between a generation and a replay state is carried along the history.  The
second half is about refusals: where the watermark stands after one, and which
sequences have to be offered again before a page past it can be accepted.
-/

namespace GraphHelm

open Std
open ErrorState

theorem streamId_of_accepted {env : Environment} {event : EventEnvelope}
    {st st' : FoldState} (h : applyProjectionEvent env event st = .ok () st') :
    st'.projection.streamId = streamNameAfter event st.projection :=
  congrArg Lifecycle.streamId (lifecycle_of_accepted h).right

/-- `replay_within` names the stream before it folds; the fold names it anyway. -/
theorem applyProjectionEvent_named (env : Environment) (event : EventEnvelope)
    (st : FoldState) :
    applyProjectionEvent env event
        { st with
          projection :=
            { st.projection with
              streamId := some (st.projection.streamId.getD event.streamId.text) } } =
      applyProjectionEvent env event st := rfl

/-!
## One event of a page
-/

namespace ProjectionGeneration

/-- Whether `apply_page` hands `event` to the fold. -/
def admits (env : Environment) (generation : ProjectionGeneration) (event : EventEnvelope) :
    Bool :=
  generation.meter.admits env event &&
    continues env generation.watermark.scope generation.watermark.streamId
      generation.watermark.head event &&
    decide (event.sequence = generation.watermark.lastSequence + 1) &&
    decide (event.previousHash = generation.watermark.head) &&
    !generation.seenIdempotencyKeys.contains event.idempotencyKey.text

def advanced (env : Environment) (generation : ProjectionGeneration) (event : EventEnvelope)
    (folded : FoldState) : ProjectionGeneration :=
  { toFoldState := folded
    watermark :=
      { generation.watermark with
        lastSequence := event.sequence
        lastEventHash := some event.eventHash }
    seenIdempotencyKeys :=
      generation.seenIdempotencyKeys.insert event.idempotencyKey.text
    meter := generation.meter.read env event }

variable {env : Environment} {event : EventEnvelope}
    {generation generation' : ProjectionGeneration}

theorem meterEvent_eq_ok :
    meterEvent env event generation = .ok () generation' <->
      generation.meter.admits env event = true ∧
        { generation with meter := generation.meter.read env event } = generation' := by
  have hbytes :
      (generation.meter.addBytes (env.serializedLen event)).aggregateBytes =
        (generation.meter.read env event).aggregateBytes := rfl
  unfold meterEvent WalkMeter.admits
  simp only [Bool.and_eq_true, decide_eq_true_eq, hbytes]
  by_cases hlength : env.serializedLen event <= maxEventBytes ∧
      (generation.meter.read env event).aggregateBytes <= u64Max
  · rw [if_pos hlength]
    by_cases hreferences : (generation.meter.read env event).aggregateReferences <= u64Max
    · rw [if_pos hreferences]
      by_cases hlimits : (generation.meter.read env event).withinLimits = true
      · rw [if_pos hlimits]
        simp [hlength, hreferences, hlimits]
      · rw [if_neg hlimits]
        simp [hlimits]
    · rw [if_neg hreferences]
      simp [hreferences]
  · rw [if_neg hlength]
    constructor
    · intro h
      cases h
    · intro h
      exact absurd h.left.left.left hlength

theorem verifyEvent_eq_ok :
    verifyEvent env event generation = .ok () generation' <->
      (continues env generation.watermark.scope generation.watermark.streamId
            generation.watermark.head event = true ∧
          event.sequence = generation.watermark.lastSequence + 1 ∧
          event.previousHash = generation.watermark.head) ∧
        generation.seenIdempotencyKeys.contains event.idempotencyKey.text = false ∧
        { generation with
          seenIdempotencyKeys :=
            generation.seenIdempotencyKeys.insert event.idempotencyKey.text } =
          generation' := by
  unfold verifyEvent
  by_cases hcontinues :
      continues env generation.watermark.scope generation.watermark.streamId
            generation.watermark.head event = true ∧
          event.sequence = generation.watermark.lastSequence + 1 ∧
          event.previousHash = generation.watermark.head
  · rw [if_pos hcontinues]
    by_cases hseen :
        generation.seenIdempotencyKeys.contains event.idempotencyKey.text = true
    · simp [hseen]
    · simp [hseen, hcontinues]
  · rw [if_neg hcontinues]
    constructor
    · intro h
      cases h
    · intro h
      exact absurd h.left hcontinues

theorem foldEvent_eq_ok :
    foldEvent env event generation = .ok () generation' <->
      exists folded,
        applyProjectionEvent env event generation.toFoldState = .ok () folded ∧
          { generation with toFoldState := folded } = generation' := by
  unfold foldEvent
  cases applyProjectionEvent env event generation.toFoldState with
  | ok u folded =>
      cases u
      simp
  | error error folded =>
      simp

theorem applyEvent_eq_ok :
    applyEvent env event generation = .ok () generation' <->
      generation.admits env event = true ∧
        exists folded,
          applyProjectionEvent env event generation.toFoldState = .ok () folded ∧
            generation.advanced env event folded = generation' := by
  unfold applyEvent admits
  constructor
  · intro h
    rcases bind_eq_ok.mp h with ⟨_, metered, hmeter, h⟩
    rcases bind_eq_ok.mp h with ⟨_, verified, hverify, h⟩
    rcases bind_eq_ok.mp h with ⟨_, folded, hfold, h⟩
    rcases meterEvent_eq_ok.mp hmeter with ⟨hadmits, rfl⟩
    rcases verifyEvent_eq_ok.mp hverify with ⟨⟨hcontinues, hsequence, hprevious⟩, hseen, rfl⟩
    rcases foldEvent_eq_ok.mp hfold with ⟨st, hst, rfl⟩
    cases h
    refine And.intro ?_ ⟨st, hst, rfl⟩
    simp only [Bool.and_eq_true, decide_eq_true_eq, Bool.not_eq_true']
    exact ⟨⟨⟨⟨hadmits, hcontinues⟩, hsequence⟩, hprevious⟩, hseen⟩
  · rintro ⟨hadmits, folded, hfold, rfl⟩
    simp only [Bool.and_eq_true, decide_eq_true_eq, Bool.not_eq_true'] at hadmits
    rcases hadmits with ⟨⟨⟨⟨hmeter, hcontinues⟩, hsequence⟩, hprevious⟩, hseen⟩
    refine bind_eq_ok.mpr ⟨(), _, meterEvent_eq_ok.mpr ⟨hmeter, rfl⟩, ?_⟩
    refine bind_eq_ok.mpr ⟨(), _, verifyEvent_eq_ok.mpr
      ⟨⟨hcontinues, hsequence, hprevious⟩, hseen, rfl⟩, ?_⟩
    refine bind_eq_ok.mpr ⟨(), _, foldEvent_eq_ok.mpr ⟨folded, hfold, rfl⟩, ?_⟩
    rfl

/-!
## Pages and their concatenation
-/

theorem applyEvents_append (env : Environment) (first second : List EventEnvelope) :
    applyEvents env (first ++ second) =
      applyEvents env first >>= fun _ => applyEvents env second := by
  induction first with
  | nil =>
      rfl
  | cons event rest ih =>
      simp only [List.cons_append, applyEvents, ih, bind_assoc]

theorem applyPages_eq_applyEvents {pages : List (List EventEnvelope)}
    (hpages : forall page, page ∈ pages -> page.length <= maxReadPage) :
    applyPages env pages = applyEvents env pages.flatten := by
  induction pages with
  | nil =>
      rfl
  | cons page rest ih =>
      have hpage := hpages page List.mem_cons_self
      have hrest := ih fun other hother => hpages other (List.mem_cons_of_mem page hother)
      rw [List.flatten_cons, applyEvents_append, applyPages, applyPage, if_pos hpage, hrest]

end ProjectionGeneration

/-!
## One event of a replay
-/

namespace ReplayState

/-- Whether the loop of `replay_within` hands `event` to the fold. -/
def admits (env : Environment) (scope : RepositoryScope) (streamId : String)
    (index : Nat) (st : ReplayState) (event : EventEnvelope) : Bool :=
  st.meter.admits env event &&
    (continues env scope streamId st.previousHash event &&
      st.scope.all fun expected => expected = event.scope) &&
    (decide (event.sequence = index + 1) &&
      decide (event.previousHash = st.previousHash) &&
      !st.seen.contains event.idempotencyKey.text) &&
    st.projection.streamId.all fun stream => stream = event.streamId.text

def advanced (env : Environment) (st : ReplayState) (event : EventEnvelope)
    (folded : FoldState) : ReplayState :=
  { toFoldState := folded
    seen := st.seen.insert event.idempotencyKey.text
    previousHash := event.eventHash
    scope := some (st.scope.getD event.scope)
    meter := st.meter.read env event }

end ReplayState

theorem nameReplayedStream_eq_ok {event : EventEnvelope}
    {projection named : ExecutionProjection} :
    nameReplayedStream event projection = .ok named <->
      (projection.streamId.all fun stream => stream = event.streamId.text) = true ∧
        { projection with streamId := streamNameAfter event projection } = named := by
  unfold nameReplayedStream streamNameAfter
  cases hname : projection.streamId with
  | none =>
      simp
  | some stream =>
      by_cases heq : stream = event.streamId.text
      · have hsame : { projection with streamId := some stream } = projection := by
          rw [← hname]
        simp only [Option.getD_some, hsame]
        simp [heq]
      · simp [heq]

theorem replayEvent_eq_ok {env : Environment} {scope : RepositoryScope} {streamId : String}
    {index : Nat} {event : EventEnvelope} {st st' : ReplayState} :
    replayEvent env scope streamId ReadBudget.unbounded index event st = .ok st' <->
      st.admits env scope streamId index event = true ∧
        exists folded,
          applyProjectionEvent env event st.toFoldState = .ok () folded ∧
            st.advanced env event folded = st' := by
  unfold replayEvent ReplayState.admits
  rw [ReadBudget.checkProgress_unbounded, Except.bind_eq_ok]
  constructor
  · rintro ⟨_, _, h⟩
    rcases check_ok h with ⟨hmeter, h⟩
    rcases check_ok h with ⟨hcontinues, h⟩
    rcases check_ok h with ⟨hsequence, h⟩
    rcases bind_ok h with ⟨named, hname, h⟩
    rcases nameReplayedStream_eq_ok.mp hname with ⟨hstream, hnamed⟩
    rw [← hnamed, streamNameAfter, applyProjectionEvent_named] at h
    constructor
    · simp only [hmeter, hcontinues, hsequence, hstream, Bool.and_self]
    · cases hfold : applyProjectionEvent env event st.toFoldState with
      | ok u folded =>
          rw [hfold] at h
          cases h
          cases u
          exact ⟨folded, rfl, rfl⟩
      | error error folded =>
          rw [hfold] at h
          cases h
  · rintro ⟨hadmits, folded, hfold, hstate⟩
    rw [Bool.and_eq_true, Bool.and_eq_true, Bool.and_eq_true] at hadmits
    rcases hadmits with ⟨⟨⟨hmeter, hcontinues⟩, hsequence⟩, hstream⟩
    refine ⟨(), rfl, ?_⟩
    refine check_bind_eq_ok.mpr ⟨hmeter, ?_⟩
    refine check_bind_eq_ok.mpr ⟨hcontinues, ?_⟩
    refine check_bind_eq_ok.mpr ⟨hsequence, ?_⟩
    refine Except.bind_eq_ok.mpr ⟨_, nameReplayedStream_eq_ok.mpr ⟨hstream, rfl⟩, ?_⟩
    rw [streamNameAfter, applyProjectionEvent_named, hfold, ← hstate]
    rfl

/-!
## The stream a replay stands in
-/

namespace ReplayState

/-- Nothing was folded from another scope or another stream. -/
structure Owned (st : ReplayState) (scope : RepositoryScope) (streamId : String) : Prop where
  pinned : forall expected, st.scope = some expected -> expected = scope
  named : forall stream, st.projection.streamId = some stream -> stream = streamId

variable {env : Environment} {scope : RepositoryScope} {streamId : String}
  {event : EventEnvelope} {st : ReplayState}

theorem Owned.pinned_all (howned : st.Owned scope streamId) (h : event.scope = scope) :
    (st.scope.all fun expected => expected = event.scope) = true := by
  cases hpinned : st.scope with
  | none =>
      rfl
  | some expected =>
      simp [howned.pinned expected hpinned, h]

theorem Owned.named_all (howned : st.Owned scope streamId)
    (h : event.streamId.text = streamId) :
    (st.projection.streamId.all fun stream => stream = event.streamId.text) = true := by
  cases hnamed : st.projection.streamId with
  | none =>
      rfl
  | some stream =>
      simp [howned.named stream hnamed, h]

theorem Owned.advanced {folded : FoldState} (howned : st.Owned scope streamId)
    (howner : event.scope = scope ∧ event.streamId.text = streamId)
    (hfold : applyProjectionEvent env event st.toFoldState = .ok () folded) :
    (st.advanced env event folded).Owned scope streamId := by
  constructor
  · intro expected hexpected
    have heq : st.scope.getD event.scope = expected := Option.some.inj hexpected
    rw [← heq]
    cases hpinned : st.scope with
    | none =>
        exact howner.left
    | some before =>
        exact howned.pinned before hpinned
  · intro stream hstream
    have hname := (streamId_of_accepted hfold).symm.trans hstream
    have heq : st.projection.streamId.getD event.streamId.text = stream := Option.some.inj hname
    rw [← heq]
    cases hnamed : st.projection.streamId with
    | none =>
        exact howner.right
    | some before =>
        exact howned.named before hnamed

end ReplayState

/-!
## The two walks side by side
-/

structure Tracks (scope : RepositoryScope) (streamId : String) (index : Nat)
    (generation : ProjectionGeneration) (st : ReplayState) : Prop where
  fold : generation.toFoldState = st.toFoldState
  seen : generation.seenIdempotencyKeys = st.seen
  meter : generation.meter = st.meter
  sameScope : generation.watermark.scope = scope
  sameStream : generation.watermark.streamId = streamId
  sequence : generation.watermark.lastSequence = index
  head : generation.watermark.head = st.previousHash
  owned : st.Owned scope streamId

section Tracks

variable {env : Environment} {scope : RepositoryScope} {streamId : String} {index : Nat}
  {event : EventEnvelope} {generation generation' : ProjectionGeneration}
  {st st' : ReplayState}

theorem continues_owned {previousHash : EventHash}
    (h : continues env scope streamId previousHash event = true) :
    event.scope = scope ∧ event.streamId.text = streamId := by
  unfold continues at h
  simp only [Bool.and_eq_true, decide_eq_true_eq] at h
  exact And.intro h.left.left.left.right h.left.left.right

/-- What replay asks beyond the page's checks follows from them. -/
theorem Tracks.admits_iff (h : Tracks scope streamId index generation st) :
    generation.admits env event = true <-> st.admits env scope streamId index event = true := by
  unfold ProjectionGeneration.admits ReplayState.admits
  rw [h.meter, h.sameScope, h.sameStream, h.head, h.sequence, h.seen]
  simp only [Bool.and_eq_true]
  constructor
  · rintro ⟨⟨⟨⟨hmeter, hcontinues⟩, hsequence⟩, hprevious⟩, hseen⟩
    have howned := continues_owned hcontinues
    exact ⟨⟨⟨hmeter, hcontinues, h.owned.pinned_all howned.left⟩,
      ⟨hsequence, hprevious⟩, hseen⟩, h.owned.named_all howned.right⟩
  · rintro ⟨⟨⟨hmeter, hcontinues, _⟩, ⟨hsequence, hprevious⟩, hseen⟩, _⟩
    exact ⟨⟨⟨⟨hmeter, hcontinues⟩, hsequence⟩, hprevious⟩, hseen⟩

theorem Tracks.advanced (h : Tracks scope streamId index generation st)
    (hadmits : generation.admits env event = true) {folded : FoldState}
    (hfold : applyProjectionEvent env event generation.toFoldState = .ok () folded) :
    Tracks scope streamId (index + 1) (generation.advanced env event folded)
      (st.advanced env event folded) := by
  unfold ProjectionGeneration.admits at hadmits
  simp only [Bool.and_eq_true, decide_eq_true_eq, Bool.not_eq_true'] at hadmits
  have howned := continues_owned hadmits.left.left.left.right
  rw [h.sameScope, h.sameStream] at howned
  exact
    { fold := rfl
      seen := by
        unfold ProjectionGeneration.advanced ReplayState.advanced
        rw [h.seen]
      meter := congrArg (fun meter => meter.read env event) h.meter
      sameScope := h.sameScope
      sameStream := h.sameStream
      sequence := hadmits.left.left.right.trans (by rw [h.sequence])
      head := rfl
      owned := h.owned.advanced howned (h.fold ▸ hfold) }

theorem Tracks.applyEvents_of_replayFrom {events : List EventEnvelope}
    (h : Tracks scope streamId index generation st)
    (hreplay :
      replayFrom env scope streamId ReadBudget.unbounded index events st = .ok st') :
    exists generation',
      ProjectionGeneration.applyEvents env events generation = .ok () generation' := by
  induction events generalizing index generation st with
  | nil =>
      exact ⟨generation, rfl⟩
  | cons event rest ih =>
      rcases bind_ok hreplay with ⟨next, hevent, hrest⟩
      rcases replayEvent_eq_ok.mp hevent with ⟨hadmits, folded, hfold, rfl⟩
      have hadmits' := h.admits_iff.mpr hadmits
      rw [← h.fold] at hfold
      rcases ih (h.advanced hadmits' hfold) hrest with ⟨generation', hrun⟩
      have hstep := ProjectionGeneration.applyEvent_eq_ok.mpr ⟨hadmits', folded, hfold, rfl⟩
      exact ⟨generation', bind_eq_ok.mpr ⟨(), _, hstep, hrun⟩⟩

theorem Tracks.replayFrom_of_applyEvents {events : List EventEnvelope}
    (h : Tracks scope streamId index generation st)
    (hpages : ProjectionGeneration.applyEvents env events generation = .ok () generation') :
    exists st',
      replayFrom env scope streamId ReadBudget.unbounded index events st = .ok st' ∧
        Tracks scope streamId (index + events.length) generation' st' := by
  induction events generalizing index generation st with
  | nil =>
      cases hpages
      exact ⟨st, rfl, h⟩
  | cons event rest ih =>
      rcases bind_eq_ok.mp hpages with ⟨_, next, hevent, hrest⟩
      rcases ProjectionGeneration.applyEvent_eq_ok.mp hevent with ⟨hadmits, folded, hfold, rfl⟩
      rcases ih (h.advanced hadmits hfold) hrest with ⟨st', hrun, htracks⟩
      rw [h.fold] at hfold
      have hstep := replayEvent_eq_ok.mpr ⟨h.admits_iff.mp hadmits, folded, hfold, rfl⟩
      refine ⟨st', Except.bind_eq_ok.mpr ⟨_, hstep, hrun⟩, ?_⟩
      rw [List.length_cons, Nat.add_comm rest.length 1, ← Nat.add_assoc]
      exact htracks

end Tracks

/-!
## From a fresh generation
-/

theorem ReplayState.initial_owned {scope : RepositoryScope} {streamId : String} :
    ReplayState.initial.Owned scope streamId :=
  { pinned := fun _ hexpected => nomatch hexpected
    named := fun _ hnamed => nomatch hnamed }

theorem tracks_of_new {scope : RepositoryScope} {streamId name : String}
    {version number : Nat} {generation : ProjectionGeneration}
    (h : ProjectionGeneration.new scope streamId name version number = .ok generation) :
    (OpaqueId.parse streamId).isSome = true ∧
      generation.watermark.lastEventHash = none ∧
      Tracks scope streamId 0 generation ReplayState.initial := by
  rcases bind_ok h with ⟨watermark, hwatermark, hgeneration⟩
  cases hgeneration
  unfold ProjectionWatermark.new at hwatermark
  rcases check_ok hwatermark with ⟨hstream, hwatermark⟩
  rcases check_ok hwatermark with ⟨_, hwatermark⟩
  rcases check_ok hwatermark with ⟨_, hwatermark⟩
  rcases check_ok hwatermark with ⟨_, hwatermark⟩
  cases hwatermark
  refine ⟨hstream, rfl, ?_⟩
  exact
    { fold := rfl
      seen := rfl
      meter := rfl
      sameScope := rfl
      sameStream := rfl
      sequence := rfl
      head := rfl
      owned := ReplayState.initial_owned }

theorem ProjectionGeneration.new_eq_ok (scope : RepositoryScope) {streamId name : String}
    {version number : Nat} (hstream : (OpaqueId.parse streamId).isSome = true)
    (hname : (OpaqueId.parse name).isSome = true) (hversion : version ≠ 0)
    (hwidth : version <= i32Max) (hnumber : number ≠ 0) (hsafe : number <= maxSafeInteger) :
    exists fresh, ProjectionGeneration.new scope streamId name version number = .ok fresh := by
  unfold ProjectionGeneration.new ProjectionWatermark.new
  simp [hstream, hname, hversion, hwidth, hnumber, hsafe, check]
  exact ⟨_, rfl⟩

theorem replay_eq_ok {env : Environment} {scope : RepositoryScope} {streamId : String}
    {events : List EventEnvelope} {projection : ExecutionProjection} :
    replay env scope streamId events = .ok projection <->
      (OpaqueId.parse streamId).isSome = true ∧ events.length <= maxReadAll ∧
        exists st,
          replayFrom env scope streamId ReadBudget.unbounded 0 events ReplayState.initial =
              .ok st ∧
            st.projection = projection := by
  unfold replay replayWithin
  rw [check_bind_eq_ok, check_bind_eq_ok, decide_eq_true_eq, Except.bind_eq_ok]
  simp only [Except.ok.injEq]

/-!
## Where the watermark stands
-/

namespace ProjectionGeneration

variable {env : Environment} {event : EventEnvelope} {events : List EventEnvelope}
  {generation generation' : ProjectionGeneration}

theorem applyEvent_sequence (h : applyEvent env event generation = .ok () generation') :
    event.sequence = generation.watermark.lastSequence + 1 ∧
      generation'.watermark.lastSequence = event.sequence := by
  rcases applyEvent_eq_ok.mp h with ⟨hadmits, folded, _, rfl⟩
  unfold admits at hadmits
  simp only [Bool.and_eq_true, decide_eq_true_eq] at hadmits
  exact And.intro hadmits.left.left.right rfl

theorem meterEvent_watermark (env : Environment) (event : EventEnvelope)
    (generation : ProjectionGeneration) :
    (stateAfter (meterEvent env event) generation).watermark = generation.watermark := by
  unfold stateAfter meterEvent
  dsimp only
  split_ifs <;> rfl

theorem verifyEvent_watermark (env : Environment) (event : EventEnvelope)
    (generation : ProjectionGeneration) :
    (stateAfter (verifyEvent env event) generation).watermark = generation.watermark := by
  unfold stateAfter verifyEvent
  dsimp only
  split_ifs <;> rfl

theorem foldEvent_watermark (env : Environment) (event : EventEnvelope)
    (generation : ProjectionGeneration) :
    (stateAfter (foldEvent env event) generation).watermark = generation.watermark := by
  unfold stateAfter foldEvent
  cases applyProjectionEvent env event generation.toFoldState <;> rfl

variable {error : ReplayError}

/-- Only the last step of an event moves the watermark, and no refusal reaches it. -/
theorem applyEvent_refused (h : applyEvent env event generation = .error error generation') :
    generation'.watermark = generation.watermark := by
  have hmetered := meterEvent_watermark env event generation
  rcases bind_eq_error.mp h with hrefused | ⟨_, metered, hmeter, h⟩
  · rwa [stateAfter_of_error hrefused] at hmetered
  rw [stateAfter_of_ok hmeter] at hmetered
  have hverified := verifyEvent_watermark env event metered
  rcases bind_eq_error.mp h with hrefused | ⟨_, verified, hverify, h⟩
  · rw [stateAfter_of_error hrefused] at hverified
    exact hverified.trans hmetered
  rw [stateAfter_of_ok hverify] at hverified
  have hfolded := foldEvent_watermark env event verified
  rcases bind_eq_error.mp h with hrefused | ⟨_, folded, _, h⟩
  · rw [stateAfter_of_error hrefused] at hfolded
    exact hfolded.trans (hverified.trans hmetered)
  · cases h

theorem applyEvents_sequence (h : applyEvents env events generation = .ok () generation') :
    generation'.watermark.lastSequence =
      generation.watermark.lastSequence + events.length := by
  induction events generalizing generation with
  | nil =>
      cases h
      rfl
  | cons event rest ih =>
      rcases bind_eq_ok.mp h with ⟨_, next, hevent, hrest⟩
      have hstep := applyEvent_sequence hevent
      have hrun := ih hrest
      rw [List.length_cons]
      omega

theorem applyEvents_head (h : applyEvents env events generation = .ok () generation') :
    generation'.watermark.lastEventHash =
      (events.getLast?.map EventEnvelope.eventHash).or generation.watermark.lastEventHash := by
  induction events generalizing generation with
  | nil =>
      cases h
      rfl
  | cons event rest ih =>
      rcases bind_eq_ok.mp h with ⟨_, next, hevent, hrest⟩
      rcases applyEvent_eq_ok.mp hevent with ⟨_, folded, _, rfl⟩
      rw [ih hrest]
      cases rest with
      | nil =>
          rfl
      | cons other others =>
          rw [List.getLast?_cons_cons]
          cases hlast : (other :: others).getLast? with
          | none =>
              simp at hlast
          | some last =>
              rfl

/-- A refused list leaves the watermark short of where folding it would have led. -/
theorem applyEvents_refused (h : applyEvents env events generation = .error error generation') :
    generation.watermark.lastSequence <= generation'.watermark.lastSequence ∧
      generation'.watermark.lastSequence <
        generation.watermark.lastSequence + events.length := by
  induction events generalizing generation with
  | nil =>
      cases h
  | cons event rest ih =>
      rw [List.length_cons]
      rcases bind_eq_error.mp h with hrefused | ⟨_, next, hevent, hrest⟩
      · rw [applyEvent_refused hrefused]
        omega
      · have hstep := applyEvent_sequence hevent
        have hrun := ih hrest
        omega

theorem applyEvents_offered (events : List EventEnvelope) (generation : ProjectionGeneration)
    {sequence : Nat} (hafter : generation.watermark.lastSequence < sequence)
    (hbefore :
      sequence <= (stateAfter (applyEvents env events) generation).watermark.lastSequence) :
    exists event, event ∈ events ∧ event.sequence = sequence := by
  induction events generalizing generation with
  | nil =>
      exact absurd hafter (Nat.not_lt.mpr hbefore)
  | cons event rest ih =>
      cases hevent : applyEvent env event generation with
      | error error refused =>
          have hrun : applyEvents env (event :: rest) generation = .error error refused :=
            bind_eq_error.mpr (Or.inl hevent)
          rw [stateAfter_of_error hrun, applyEvent_refused hevent] at hbefore
          exact absurd hafter (Nat.not_lt.mpr hbefore)
      | ok u next =>
          have hstep := applyEvent_sequence hevent
          have hrun : stateAfter (applyEvents env (event :: rest)) generation =
              stateAfter (applyEvents env rest) next :=
            stateAfter_bind hevent
          rw [hrun] at hbefore
          by_cases hhere : event.sequence = sequence
          · exact ⟨event, List.mem_cons_self, hhere⟩
          · rcases ih next (by omega) hbefore with ⟨other, hmem, hsequence⟩
            exact ⟨other, List.mem_cons_of_mem event hmem, hsequence⟩

def call (env : Environment) (generation : ProjectionGeneration)
    (page : List EventEnvelope) : ProjectionGeneration :=
  stateAfter (applyPage env page) generation

theorem call_offered (page : List EventEnvelope) (generation : ProjectionGeneration)
    {sequence : Nat} (hafter : generation.watermark.lastSequence < sequence)
    (hbefore : sequence <= (generation.call env page).watermark.lastSequence) :
    exists event, event ∈ page ∧ event.sequence = sequence := by
  unfold call applyPage at hbefore
  by_cases hlength : page.length <= maxReadPage
  · rw [if_pos hlength] at hbefore
    exact applyEvents_offered page generation hafter hbefore
  · rw [if_neg hlength] at hbefore
    exact absurd hafter (Nat.not_lt.mpr hbefore)

theorem calls_offered (pages : List (List EventEnvelope)) (generation : ProjectionGeneration)
    {sequence : Nat} (hafter : generation.watermark.lastSequence < sequence)
    (hbefore :
      sequence <= (pages.foldl (call env) generation).watermark.lastSequence) :
    exists event, event ∈ pages.flatten ∧ event.sequence = sequence := by
  induction pages generalizing generation with
  | nil =>
      exact absurd hafter (Nat.not_lt.mpr hbefore)
  | cons page rest ih =>
      rw [List.flatten_cons]
      by_cases hhere : sequence <= (generation.call env page).watermark.lastSequence
      · rcases call_offered page generation hafter hhere with ⟨event, hmem, hsequence⟩
        exact ⟨event, List.mem_append_left _ hmem, hsequence⟩
      · rcases ih (generation.call env page) (by omega) hbefore with ⟨event, hmem, hsequence⟩
        exact ⟨event, List.mem_append_right _ hmem, hsequence⟩

theorem applyPage_refused (hnonempty : events ≠ [])
    (h : applyPage env events generation = .error error generation') :
    generation'.watermark.lastSequence <
      generation.watermark.lastSequence + events.length := by
  unfold applyPage at h
  by_cases hlength : events.length <= maxReadPage
  · rw [if_pos hlength] at h
    exact (applyEvents_refused h).right
  · rw [if_neg hlength] at h
    cases h
    have hpositive := List.length_pos_iff.mpr hnonempty
    omega

theorem applyPage_first (hpage : applyPage env (event :: events) generation = .ok () generation') :
    event.sequence = generation.watermark.lastSequence + 1 := by
  unfold applyPage at hpage
  by_cases hlength : (event :: events).length <= maxReadPage
  · rw [if_pos hlength] at hpage
    rcases bind_eq_ok.mp hpage with ⟨_, next, hevent, _⟩
    exact (applyEvent_sequence hevent).left
  · rw [if_neg hlength] at hpage
    cases hpage

end ProjectionGeneration

end GraphHelm
