import GraphHelm.Library.Chunks
import GraphHelm.Projection.History
import GraphHelm.Store.Stream

/-!
# The driver's kept fold

`CachedFold` and `ProjectionCache` of `core/runtime/src/driver.rs`: a drive keeps
one generation and folds only what was appended since its last read.  The store
is seen through `read_stream_after`, whose answer is taken from one verified
state of the journal.
-/

namespace GraphHelm

open Std
open ErrorState

/-!
## Reading the tail of a stream
-/

structure StreamHead where
  nextSequence : Nat
  lastEventHash : EventHash
deriving DecidableEq

abbrev StoreView (env : Environment) (scope : RepositoryScope) (streamId : String) :=
  Except EventRepositoryError (VerifiedStream env scope streamId)

def streamHead (env : Environment) (history : List EventEnvelope) : Option StreamHead :=
  if history.isEmpty then
    none
  else
    some
      { nextSequence := history.length + 1
        lastEventHash := (envelopeChain env).last genesisHash history }

def readStreamAfter {env : Environment} {scope : RepositoryScope} {streamId : String}
    (view : StoreView env scope streamId) (after : Nat) :
    Except EventRepositoryError (List EventEnvelope × Option StreamHead) := do
  check (OpaqueId.parse streamId).isSome .invalid
  let history <- view
  let events := history.events.filter fun event => after < event.sequence
  check (decide (events.length <= maxReadAll)) .limitExceeded
  .ok (events, streamHead env history.events)

/-!
## The kept fold
-/

inductive DriverError where
  | repository (error : EventRepositoryError)
  | replay (error : ReplayError)
  | transition
  | identity
deriving DecidableEq

def isExecutionStarted (event : EventEnvelope) : Bool :=
  match event.kind with
  | .executionStarted _ => true
  | _ => false

structure CachedFold where
  generation : ProjectionGeneration
  started : List EventEnvelope

namespace CachedFold

def new (scope : RepositoryScope) (streamId : String) : Except DriverError CachedFold :=
  match ProjectionGeneration.new scope streamId "runtime-driver" 1 1 with
  | .ok generation => .ok { generation := generation, started := [] }
  | .error error => .error (.replay error)

/-- Whether a generation ends exactly at the store's head. -/
def endsAtHead (watermark : ProjectionWatermark) (head : Option StreamHead) : Bool :=
  match head with
  | some head =>
      head.nextSequence = watermark.lastSequence + 1 &&
        watermark.lastEventHash = some head.lastEventHash
  | none => watermark.lastSequence = 0

/-- A fold that refuses part-way is not kept, so only the accepting outcome carries one. -/
def advance {env : Environment} {scope : RepositoryScope} {streamId : String}
    (view : StoreView env scope streamId) (fold : CachedFold) :
    Except DriverError CachedFold :=
  match readStreamAfter view fold.generation.watermark.lastSequence with
  | .error error => .error (.repository error)
  | .ok (events, head) =>
      if fold.generation.watermark.lastSequence + events.length <= maxReadAll then
        match ProjectionGeneration.applyPages env (chunks maxReadPage events)
            fold.generation with
        | .error error _ => .error (.replay error)
        | .ok _ generation =>
            if endsAtHead generation.watermark head then
              .ok
                { generation := generation
                  started := fold.started ++ events.filter isExecutionStarted }
            else
              .error (.replay .corrupt)
      else
        .error (.repository .limitExceeded)

end CachedFold

abbrev ProjectionCache := Option CachedFold

/-- What `at_head` hands its caller. -/
abbrev HeadAnswer := Except DriverError (ExecutionProjection × List EventEnvelope)

def CachedFold.answer (streamId : String) (fold : CachedFold) :
    ExecutionProjection × List EventEnvelope :=
  let projection := fold.generation.projection
  if projection.streamId.isNone && decide (0 < fold.generation.watermark.lastSequence) then
    ({ projection with streamId := some streamId }, fold.started)
  else
    (projection, fold.started)

def CachedFold.rebuild {env : Environment} {scope : RepositoryScope} {streamId : String}
    (view : StoreView env scope streamId) : Except DriverError CachedFold := do
  let fresh <- CachedFold.new scope streamId
  fresh.advance view

/-- The kept fold advanced to the head, or rebuilt once when it cannot be. -/
def CachedFold.refreshed {env : Environment} {scope : RepositoryScope} {streamId : String}
    (cache : ProjectionCache) (view : StoreView env scope streamId) :
    Except DriverError CachedFold :=
  match cache with
  | some fold =>
      match fold.advance view with
      | .ok advanced => .ok advanced
      | .error _ => CachedFold.rebuild view
  | none => CachedFold.rebuild view

def ProjectionCache.atHead {env : Environment} {scope : RepositoryScope} {streamId : String}
    (cache : ProjectionCache) (view : StoreView env scope streamId) :
    ProjectionCache × HeadAnswer :=
  match CachedFold.refreshed cache view with
  | .ok fold => (some fold, .ok (fold.answer streamId))
  | .error error => (none, .error error)

def ProjectionCache.answers {env : Environment} {scope : RepositoryScope}
    {streamId : String} : ProjectionCache -> List (StoreView env scope streamId) ->
    List HeadAnswer
  | _, [] => []
  | cache, view :: rest =>
      let served := ProjectionCache.atHead cache view
      served.2 :: ProjectionCache.answers served.1 rest

/-!
## What a kept fold is a fold of
-/

structure CachedFold.FoldOf (env : Environment) (scope : RepositoryScope)
    (streamId : String) (history : List EventEnvelope) (fold : CachedFold) : Prop where
  folded : exists fresh,
    ProjectionGeneration.new scope streamId "runtime-driver" 1 1 = .ok fresh ∧
      ProjectionGeneration.applyEvents env history fresh = .ok () fold.generation
  started : fold.started = history.filter isExecutionStarted

namespace ProjectionGeneration

variable {env : Environment} {events : List EventEnvelope}
  {generation generation' : ProjectionGeneration}

/-- The hash a generation goes on from is the last hash of what it folded. -/
theorem applyEvents_last (h : applyEvents env events generation = .ok () generation') :
    generation'.watermark.head = (envelopeChain env).last generation.watermark.head events := by
  induction events generalizing generation with
  | nil =>
      cases h
      rfl
  | cons event rest ih =>
      rcases bind_eq_ok.mp h with ⟨_, next, hevent, hrest⟩
      rcases applyEvent_eq_ok.mp hevent with ⟨_, folded, _, rfl⟩
      exact ih hrest

theorem applyEvents_linked (h : applyEvents env events generation = .ok () generation') :
    (envelopeChain env).Linked generation.watermark.head events := by
  induction events generalizing generation with
  | nil =>
      trivial
  | cons event rest ih =>
      rcases bind_eq_ok.mp h with ⟨_, next, hevent, hrest⟩
      rcases applyEvent_eq_ok.mp hevent with ⟨hadmits, folded, _, rfl⟩
      unfold admits continues at hadmits
      simp only [Bool.and_eq_true, decide_eq_true_eq] at hadmits
      exact ⟨hadmits.left.right, hadmits.left.left.left.right.right, ih hrest⟩

theorem applyEvents_named (hne : events ≠ [])
    (h : applyEvents env events generation = .ok () generation') :
    generation'.projection.streamId.isSome = true := by
  induction events generalizing generation with
  | nil =>
      exact absurd rfl hne
  | cons event rest ih =>
      rcases bind_eq_ok.mp h with ⟨_, next, hevent, hrest⟩
      cases rest with
      | nil =>
          cases hrest
          rcases applyEvent_eq_ok.mp hevent with ⟨_, folded, hfold, rfl⟩
          have hname := streamId_of_accepted hfold
          show folded.projection.streamId.isSome = true
          rw [hname]
          rfl
      | cons other others =>
          exact ih (by simp) hrest

end ProjectionGeneration

theorem Numbered.filter_eq_drop {start : Nat} {events : List EventEnvelope}
    (h : Numbered start events) (after : Nat) :
    (events.filter fun event => start + after < event.sequence) = events.drop after := by
  induction events generalizing start after with
  | nil =>
      simp
  | cons event rest ih =>
      have hhead := h.left
      have hrest := h.right
      cases after with
      | zero =>
          rw [List.drop_zero, List.filter_eq_self]
          intro other hmem
          have hlower := (h.sequence_le hmem).left
          simpa using hlower
      | succ after =>
          have hskip : ¬ start + (after + 1) < event.sequence := by omega
          rw [List.filter_cons_of_neg (by simpa using hskip), List.drop_succ_cons]
          have hshift : start + (after + 1) = event.sequence + after := by omega
          rw [hshift]
          exact ih hrest after

theorem readStreamAfter_eq_ok {env : Environment} {scope : RepositoryScope}
    {streamId : String} {view : StoreView env scope streamId} {after : Nat}
    {events : List EventEnvelope} {head : Option StreamHead}
    (h : readStreamAfter view after = .ok (events, head)) :
    exists history, view = .ok history ∧
      events = (history.events.filter fun event => after < event.sequence) ∧
      head = streamHead env history.events := by
  unfold readStreamAfter at h
  rcases check_ok h with ⟨_, h⟩
  rcases bind_ok h with ⟨history, hview, h⟩
  rcases check_ok h with ⟨_, h⟩
  cases h
  exact ⟨history, hview, rfl, rfl⟩

variable {fold : CachedFold} {history : List EventEnvelope}

theorem CachedFold.advance_eq_ok {env : Environment} {scope : RepositoryScope} {streamId : String}
    {view : StoreView env scope streamId} {advanced : CachedFold}
    (h : fold.advance view = .ok advanced) :
    exists history,
      let after := fold.generation.watermark.lastSequence
      let tail := history.events.filter fun event => after < event.sequence
      view = .ok history ∧
        after + tail.length <= maxReadAll ∧
        ProjectionGeneration.applyEvents env tail fold.generation =
          .ok () advanced.generation ∧
        CachedFold.endsAtHead advanced.generation.watermark
            (streamHead env history.events) = true ∧
        advanced.started = fold.started ++ tail.filter isExecutionStarted := by
  unfold CachedFold.advance at h
  cases hread : readStreamAfter view fold.generation.watermark.lastSequence with
  | error error =>
      rw [hread] at h
      cases h
  | ok answer =>
      rcases answer with ⟨events, head⟩
      rcases readStreamAfter_eq_ok hread with ⟨history, hview, hevents, hhead⟩
      have hpaged :
          ProjectionGeneration.applyPages env (chunks maxReadPage events) =
            ProjectionGeneration.applyEvents env events := by
        rw [ProjectionGeneration.applyPages_eq_applyEvents fun page hpage => chunks_length_le hpage,
          chunks_flatten (by decide)]
      simp only [hread, hpaged] at h
      split at h
      · rename_i htotal
        cases hrun : ProjectionGeneration.applyEvents env events fold.generation with
        | error error refused =>
            rw [hrun] at h
            cases h
        | ok u generation =>
            simp only [hrun] at h
            split at h
            · rename_i hends
              cases h
              cases u
              rw [hevents] at htotal hrun
              rw [hhead] at hends
              refine ⟨history, hview, htotal, hrun, hends, ?_⟩
              rw [hevents]
            · cases h
      · cases h

theorem CachedFold.endsAtHead_length {env : Environment} {watermark : ProjectionWatermark}
    (h : CachedFold.endsAtHead watermark (streamHead env history) = true) :
    watermark.lastSequence = history.length := by
  unfold CachedFold.endsAtHead streamHead at h
  cases history with
  | nil =>
      exact of_decide_eq_true h
  | cons event rest =>
      simp only [List.isEmpty_cons, Bool.false_eq_true, if_false, Bool.and_eq_true,
        decide_eq_true_eq] at h
      omega

theorem CachedFold.endsAtHead_last {env : Environment} {watermark : ProjectionWatermark}
    (hne : history ≠ []) (h : CachedFold.endsAtHead watermark (streamHead env history) = true) :
    watermark.head = (envelopeChain env).last genesisHash history := by
  unfold CachedFold.endsAtHead streamHead at h
  cases history with
  | nil =>
      exact absurd rfl hne
  | cons event rest =>
      simp only [List.isEmpty_cons, Bool.false_eq_true, if_false, Bool.and_eq_true,
        decide_eq_true_eq] at h
      unfold ProjectionWatermark.head
      rw [h.right]
      rfl

theorem CachedFold.FoldOf.advance {env : Environment} {scope : RepositoryScope}
    {streamId : String} {stored : VerifiedStream env scope streamId} {advanced : CachedFold}
    (hfold : fold.FoldOf env scope streamId history)
    (hkept : StreamHistory env scope streamId history)
    (hdistinct : (envelopeChain env).Distinguishes history stored.events)
    (hadvance : fold.advance (.ok stored) = .ok advanced) :
    advanced.FoldOf env scope streamId stored.events ∧
      stored.events.length <= maxReadAll := by
  rcases stored with ⟨history', hstore⟩
  rcases hfold.folded with ⟨fresh, hfresh, hrun⟩
  rcases tracks_of_new hfresh with ⟨_, hnone, htracks⟩
  have hafter : fold.generation.watermark.lastSequence = history.length := by
    rw [ProjectionGeneration.applyEvents_sequence hrun, htracks.sequence, Nat.zero_add]
  have hgenesis : fresh.watermark.head = genesisHash := htracks.head
  have hlast := ProjectionGeneration.applyEvents_last hrun
  rw [hgenesis] at hlast
  rcases CachedFold.advance_eq_ok hadvance with ⟨store, hview, htotal, htail, hends, hstarted⟩
  cases hview
  dsimp only at htotal htail hends hstarted hdistinct ⊢
  have hdrop : (history'.filter fun event => history.length < event.sequence) =
      history'.drop history.length := by
    have hfilter := hstore.numbered.filter_eq_drop history.length
    rwa [Nat.zero_add] at hfilter
  rw [hafter, hdrop] at htotal htail hstarted
  have hsequence := ProjectionGeneration.applyEvents_sequence htail
  rw [hafter, CachedFold.endsAtHead_length hends, List.length_drop] at hsequence
  rw [List.length_drop] at htotal
  have hlength : (history'.take history.length).length = history.length := by
    rw [List.length_take]
    omega
  have hsplit := List.take_append_drop history.length history'
  have hlinked := hstore.linked
  rw [← hsplit] at hlinked
  have hparts := HashChain.linked_append.mp hlinked
  -- The kept history and the store's agree on the hash the tail goes on from.
  have hsame : (envelopeChain env).last genesisHash history =
      (envelopeChain env).last genesisHash (history'.take history.length) := by
    by_cases hempty : history'.drop history.length = []
    · by_cases hnil : history' = []
      · rw [hnil] at hlength
        have hzero : history = [] := List.length_eq_zero_iff.mp (by simpa using hlength.symm)
        rw [hzero, hnil]
        rfl
      · have hhead := CachedFold.endsAtHead_last hnil hends
        have hreached := ProjectionGeneration.applyEvents_last htail
        rw [hempty] at hreached
        rw [← hsplit, hempty, List.append_nil] at hhead
        rw [← hlast, ← hhead, hreached]
        rfl
    · rw [← hlast]
      exact HashChain.last_eq_of_linked hempty (ProjectionGeneration.applyEvents_linked htail)
        hparts.right
  have hprefixed : history = history'.take history.length := by
    refine HashChain.eq_of_last_eq hkept.linked hparts.left hlength.symm hsame ?_
    intro a ha b hb
    exact hdistinct a ha b (List.mem_of_mem_take hb)
  have hwhole : history ++ history'.drop history.length = history' := by
    rw [hprefixed, hlength]
    exact hsplit
  refine And.intro { folded := ⟨fresh, hfresh, ?_⟩, started := ?_ } (by omega)
  · rw [← hwhole, ProjectionGeneration.applyEvents_append]
    exact bind_eq_ok.mpr ⟨(), fold.generation, hrun, htail⟩
  · rw [hstarted, hfold.started, ← List.filter_append, hwhole]

theorem CachedFold.new_foldOf {env : Environment} {scope : RepositoryScope}
    {streamId : String} {fresh : CachedFold}
    (h : CachedFold.new scope streamId = .ok fresh) : fresh.FoldOf env scope streamId [] := by
  unfold CachedFold.new at h
  cases hnew : ProjectionGeneration.new scope streamId "runtime-driver" 1 1 with
  | error error =>
      rw [hnew] at h
      cases h
  | ok generation =>
      rw [hnew] at h
      cases h
      exact { folded := ⟨generation, hnew, rfl⟩, started := rfl }

theorem CachedFold.FoldOf.answer {env : Environment} {scope : RepositoryScope} {streamId : String}
    (h : fold.FoldOf env scope streamId history) (hlength : history.length <= maxReadAll) :
    replay env scope streamId history = .ok (fold.answer streamId).1 ∧
      (fold.answer streamId).2 = history.filter isExecutionStarted := by
  rcases h.folded with ⟨fresh, hfresh, hrun⟩
  rcases tracks_of_new hfresh with ⟨hstream, _, htracks⟩
  have hnamed : (fold.generation.projection.streamId.isNone &&
      decide (0 < fold.generation.watermark.lastSequence)) = false := by
    cases history with
    | nil =>
        cases hrun
        rw [htracks.sequence]
        exact Bool.and_false _
    | cons event rest =>
        have hsome := ProjectionGeneration.applyEvents_named (by simp) hrun
        rw [Option.isNone_eq_false_iff.mpr hsome, Bool.false_and]
  have hanswer : fold.answer streamId = (fold.generation.projection, fold.started) := by
    unfold CachedFold.answer
    dsimp only
    rw [hnamed]
    rfl
  rw [hanswer]
  rcases htracks.replayFrom_of_applyEvents hrun with ⟨st, hreplay, htracked⟩
  refine And.intro (replay_eq_ok.mpr ⟨hstream, hlength, st, hreplay, ?_⟩) h.started
  exact congrArg FoldState.projection htracked.fold.symm

/-!
## Every answer of a cache
-/

section Answers

variable {env : Environment} {scope : RepositoryScope} {streamId : String}
  {presented : List (StoreView env scope streamId)}

def ProjectionCache.Sound (presented : List (StoreView env scope streamId))
    (cache : ProjectionCache) : Prop :=
  forall fold, cache = some fold ->
    exists stored : VerifiedStream env scope streamId,
      Except.ok stored ∈ presented ∧ fold.FoldOf env scope streamId stored.events

/-- No two events of the presented states share a hash without being one event. -/
def CollisionFree (presented : List (StoreView env scope streamId)) : Prop :=
  forall first second : VerifiedStream env scope streamId,
    Except.ok first ∈ presented -> Except.ok second ∈ presented ->
    (envelopeChain env).Distinguishes first.events second.events

theorem CachedFold.rebuild_foldOf {stored : VerifiedStream env scope streamId}
    (h : CachedFold.rebuild (.ok stored) = .ok fold) :
    fold.FoldOf env scope streamId stored.events ∧ stored.events.length <= maxReadAll := by
  rcases bind_ok h with ⟨fresh, hfresh, hadvance⟩
  refine (CachedFold.new_foldOf hfresh).advance StreamHistory.nil ?_ hadvance
  intro a ha
  simp at ha

theorem CachedFold.rebuild_unreadable {error : EventRepositoryError} :
    CachedFold.rebuild (.error error : StoreView env scope streamId) ≠ .ok fold := by
  intro h
  rcases bind_ok h with ⟨fresh, _, hadvance⟩
  rcases CachedFold.advance_eq_ok hadvance with ⟨stored, hread, _⟩
  cases hread

variable {cache : ProjectionCache}

theorem CachedFold.refreshed_foldOf {view : StoreView env scope streamId}
    (hdistinct : CollisionFree presented) (hsound : cache.Sound presented)
    (hview : view ∈ presented) (h : CachedFold.refreshed cache view = .ok fold) :
    exists stored, view = .ok stored ∧ fold.FoldOf env scope streamId stored.events ∧
      stored.events.length <= maxReadAll := by
  unfold CachedFold.refreshed at h
  cases cache with
  | none =>
      cases view with
      | error error =>
          exact absurd h CachedFold.rebuild_unreadable
      | ok stored =>
          exact ⟨stored, rfl, CachedFold.rebuild_foldOf h⟩
  | some kept =>
      cases hadvance : kept.advance view with
      | ok advanced =>
          simp only [hadvance] at h
          cases h
          rcases hsound kept rfl with ⟨before, hbefore, hfoldOf⟩
          rcases CachedFold.advance_eq_ok hadvance with ⟨stored, hread, _⟩
          subst hread
          exact ⟨stored, rfl, hfoldOf.advance before.verified
            (hdistinct before stored hbefore hview) hadvance⟩
      | error refusal =>
          simp only [hadvance] at h
          cases view with
          | error error =>
              exact absurd h CachedFold.rebuild_unreadable
          | ok stored =>
              exact ⟨stored, rfl, CachedFold.rebuild_foldOf h⟩

/-- What an answer owes to the store state it was given for. -/
def AnswersReplay (view : StoreView env scope streamId) (answer : HeadAnswer) : Prop :=
  forall projection started, answer = .ok (projection, started) ->
    exists stored, view = .ok stored ∧
      replay env scope streamId stored.events = .ok projection ∧
      started = stored.events.filter isExecutionStarted

theorem ProjectionCache.atHead_sound {view : StoreView env scope streamId}
    (hdistinct : CollisionFree presented) (hsound : cache.Sound presented)
    (hview : view ∈ presented) :
    AnswersReplay view (ProjectionCache.atHead cache view).2 ∧
      ProjectionCache.Sound presented (ProjectionCache.atHead cache view).1 := by
  unfold ProjectionCache.atHead
  cases hrefreshed : CachedFold.refreshed cache view with
  | error error =>
      constructor
      · intro projection started hanswer
        cases hanswer
      · intro fold hfold
        cases hfold
  | ok fold =>
      rcases CachedFold.refreshed_foldOf hdistinct hsound hview hrefreshed with
        ⟨stored, hstored, hfoldOf, hlength⟩
      constructor
      · intro projection started hanswer
        have hpair : fold.answer streamId = (projection, started) := Except.ok.inj hanswer
        have hfolded := hfoldOf.answer hlength
        rw [hpair] at hfolded
        exact ⟨stored, hstored, hfolded.left, hfolded.right⟩
      · intro kept hkept
        cases hkept
        exact ⟨stored, hstored ▸ hview, hfoldOf⟩

theorem ProjectionCache.answers_sound {views : List (StoreView env scope streamId)}
    (hdistinct : CollisionFree presented) (hsound : cache.Sound presented)
    (hviews : forall view, view ∈ views -> view ∈ presented) :
    List.Forall₂ AnswersReplay views (ProjectionCache.answers cache views) := by
  induction views generalizing cache with
  | nil =>
      exact List.Forall₂.nil
  | cons view rest ih =>
      have hserved := ProjectionCache.atHead_sound hdistinct hsound
        (hviews view List.mem_cons_self)
      exact List.Forall₂.cons hserved.left
        (ih hserved.right fun other hother => hviews other (List.mem_cons_of_mem view hother))

/--
Every answer of a cache is the replay of the history then in the store, with
exactly its starts, whatever states were presented to it before.
-/
theorem answers_replay_the_store {views : List (StoreView env scope streamId)}
    (hdistinct : CollisionFree views) :
    List.Forall₂ AnswersReplay views (ProjectionCache.answers none views) :=
  ProjectionCache.answers_sound hdistinct (fun _ h => nomatch h) fun _ hmem => hmem

end Answers

namespace Sample

def replacedStore : List (StoreView env scope streamId.text) :=
  [.ok (verified [started]), .ok (verified [started, paused "pause"]),
    .ok (verified [started])]

end Sample

theorem answers_replay_a_replaced_store :
    List.Forall₂ AnswersReplay Sample.replacedStore
      (ProjectionCache.answers none Sample.replacedStore) := by
  have hdistinct : forall first,
      first ∈ [[Sample.started], [Sample.started, Sample.paused "pause"]] ->
      forall second, second ∈ [[Sample.started], [Sample.started, Sample.paused "pause"]] ->
      (envelopeChain Sample.env).Distinguishes (Sample.history first)
        (Sample.history second) := by
    unfold HashChain.Distinguishes
    decide +kernel
  have hheld : forall stored, Except.ok stored ∈ Sample.replacedStore ->
      exists news, news ∈ [[Sample.started], [Sample.started, Sample.paused "pause"]] ∧
        stored.events = Sample.history news := by
    intro stored hstored
    simp only [Sample.replacedStore, List.mem_cons, List.not_mem_nil, or_false,
      Except.ok.injEq] at hstored
    rcases hstored with rfl | rfl | rfl
    · exact ⟨_, List.mem_cons_self, rfl⟩
    · exact ⟨_, List.mem_cons_of_mem _ List.mem_cons_self, rfl⟩
    · exact ⟨_, List.mem_cons_self, rfl⟩
  apply answers_replay_the_store
  intro first second hfirst hsecond
  rcases hheld first hfirst with ⟨news, hnews, hfirst⟩
  rcases hheld second hsecond with ⟨others, hothers, hsecond⟩
  rw [hfirst, hsecond]
  exact hdistinct news hnews others hothers

end GraphHelm
