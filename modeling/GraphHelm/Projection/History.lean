import GraphHelm.Library.Runs
import GraphHelm.Projection.Paging

/-!
# Histories the fold accepts

A history is accepted when the fold accepts its events one after the other.  A
replay accepts it exactly then, as long as the history is a stream a verified
journal can hold and stays within the limits of one read.
-/

namespace GraphHelm

open Std
open ErrorState

def accept (env : Environment) (st : FoldState) (event : EventEnvelope) : Option FoldState :=
  match applyProjectionEvent env event st with
  | .ok _ folded => some folded
  | .error _ _ => none

theorem accept_eq_some {env : Environment} {st st' : FoldState} {event : EventEnvelope} :
    accept env st event = some st' <-> applyProjectionEvent env event st = .ok () st' := by
  unfold accept
  cases applyProjectionEvent env event st with
  | ok u folded =>
      cases u
      simp
  | error error folded =>
      simp

def foldHistory (env : Environment) (events : List EventEnvelope) : Option FoldState :=
  run (accept env) FoldState.initial events

theorem foldHistory_concat {env : Environment} {events : List EventEnvelope}
    {event : EventEnvelope} {st' : FoldState} :
    foldHistory env (events ++ [event]) = some st' <->
      exists st, foldHistory env events = some st ∧
        applyProjectionEvent env event st = .ok () st' := by
  unfold foldHistory
  rw [run_append, Option.bind_eq_some_iff]
  constructor
  · rintro ⟨st, hfold, hlast⟩
    rcases run_cons_eq_some.mp hlast with ⟨next, hnext, hdone⟩
    cases hdone
    exact ⟨st, hfold, accept_eq_some.mp hnext⟩
  · rintro ⟨st, hfold, hlast⟩
    exact ⟨st, hfold, run_cons_eq_some.mpr ⟨st', accept_eq_some.mpr hlast, rfl⟩⟩

theorem foldHistory_append {env : Environment} {before added : List EventEnvelope}
    {st' : FoldState} :
    foldHistory env (before ++ added) = some st' <->
      exists st, foldHistory env before = some st ∧ run (accept env) st added = some st' := by
  unfold foldHistory
  rw [run_append, Option.bind_eq_some_iff]

theorem foldHistory_append_none {env : Environment} {before added : List EventEnvelope}
    (h : foldHistory env before = none) : foldHistory env (before ++ added) = none := by
  unfold foldHistory at h ⊢
  rw [run_append, h]
  rfl

/-- The step the fold takes at index `n` of a history, when it gets there and accepts. -/
structure HistoryStep where
  before : FoldState
  event : EventEnvelope
  after : FoldState

def stepAt (env : Environment) (events : List EventEnvelope) (n : Nat) :
    Option HistoryStep := do
  let before <- foldHistory env (events.take n)
  let event <- events[n]?
  let after <- accept env before event
  pure { before := before, event := event, after := after }

theorem stepAt_eq_some {env : Environment} {events : List EventEnvelope} {n : Nat}
    {step : HistoryStep} (h : stepAt env events n = some step) :
    events = events.take n ++ step.event :: events.drop (n + 1) ∧
      foldHistory env (events.take n) = some step.before ∧
      applyProjectionEvent env step.event step.before = .ok () step.after := by
  rcases Option.bind_eq_some_iff.mp h with ⟨before, hbefore, h⟩
  rcases Option.bind_eq_some_iff.mp h with ⟨event, hevent, h⟩
  rcases Option.bind_eq_some_iff.mp h with ⟨after, hafter, h⟩
  cases h
  refine ⟨?_, hbefore, accept_eq_some.mp hafter⟩
  rcases List.getElem?_eq_some_iff.mp hevent with ⟨hlength, hget⟩
  calc
    events = events.take n ++ events.drop n := (List.take_append_drop n events).symm
    _ = events.take n ++ event :: events.drop (n + 1) := by
      rw [List.drop_eq_getElem_cons hlength, hget]

/-!
## What a replay presents to the fold
-/

/-- Events that pass every check of a replay standing where the parameters say. -/
structure Presentable (env : Environment) (scope : RepositoryScope) (streamId : String)
    (index : Nat) (seen : ExtTreeSet String) (previousHash : EventHash) (meter : WalkMeter)
    (events : List EventEnvelope) : Prop where
  owned : forall event, event ∈ events -> event.scope = scope ∧ event.streamId.text = streamId
  valid : forall event, event ∈ events -> validateEnvelope env event = .ok ()
  numbered : Numbered index events
  linked : (envelopeChain env).Linked previousHash events
  keys : (events.map fun event => event.idempotencyKey.text).Nodup
  unseen : forall event, event ∈ events -> seen.contains event.idempotencyKey.text = false
  metered : (events.foldl (fun meter event => meter.read env event) meter).withinLimits = true

theorem validateEnvelope_checks {env : Environment} {event : EventEnvelope}
    (h : validateEnvelope env event = .ok ()) :
    env.serializedLen event <= maxEventBytes ∧ env.validateEvent event = true ∧
      scopeLevelAgrees event = true := by
  unfold validateEnvelope at h
  rcases bind_ok h with ⟨_, hcontent, h⟩
  rcases check_ok h with ⟨hschema, h⟩
  rcases check_ok h with ⟨hlevel, _⟩
  unfold validateEnvelopeContent at hcontent
  rcases check_ok hcontent with ⟨hlength, _⟩
  exact ⟨of_decide_eq_true hlength, hschema, hlevel⟩

theorem WalkMeter.withinLimits_of_fold {env : Environment} {meter : WalkMeter}
    {events : List EventEnvelope}
    (h : (events.foldl (fun meter event => meter.read env event) meter).withinLimits = true) :
    meter.withinLimits = true := by
  induction events generalizing meter with
  | nil =>
      exact h
  | cons event rest ih =>
      have hread := ih h
      unfold withinLimits read addBytes addReferences at hread
      unfold withinLimits
      simp only [Bool.and_eq_true, decide_eq_true_eq] at hread ⊢
      omega

theorem WalkMeter.admits_of_withinLimits {env : Environment} {meter : WalkMeter}
    {event : EventEnvelope} (hlength : env.serializedLen event <= maxEventBytes)
    (h : (meter.read env event).withinLimits = true) : meter.admits env event = true := by
  have hlimits := h
  unfold withinLimits at hlimits
  simp only [Bool.and_eq_true, decide_eq_true_eq] at hlimits
  have hbytes : maxJournalBytes <= u64Max := by decide
  have hreferences : maxReadAll <= u64Max := by decide
  unfold admits
  simp only [Bool.and_eq_true, decide_eq_true_eq]
  exact ⟨⟨⟨hlength, Nat.le_trans hlimits.left hbytes⟩, Nat.le_trans hlimits.right hreferences⟩, h⟩

section Presentable

variable {env : Environment} {scope : RepositoryScope} {streamId : String} {index : Nat}
  {event : EventEnvelope} {events : List EventEnvelope} {st st' : ReplayState}

theorem Presentable.admits
    (h : Presentable env scope streamId index st.seen st.previousHash st.meter
      (event :: events)) (howned : st.Owned scope streamId) :
    st.admits env scope streamId index event = true := by
  have hchecks := validateEnvelope_checks (h.valid event List.mem_cons_self)
  have hmeter := WalkMeter.admits_of_withinLimits hchecks.left
    (WalkMeter.withinLimits_of_fold h.metered)
  have howner := h.owned event List.mem_cons_self
  have hlink := h.linked
  unfold ReplayState.admits continues
  simp only [Bool.and_eq_true, decide_eq_true_eq, Bool.not_eq_true']
  refine ⟨⟨⟨hmeter, ⟨⟨⟨⟨⟨hchecks.right.left, ?_⟩, howner.left⟩, howner.right⟩,
    hchecks.right.right⟩, hlink.right.left⟩, ?_⟩, ⟨h.numbered.left, hlink.left⟩,
    h.unseen event List.mem_cons_self⟩, ?_⟩
  · rw [h.valid event List.mem_cons_self]
    rfl
  · exact howned.pinned_all howner.left
  · exact howned.named_all howner.right

theorem Presentable.tail {folded : FoldState}
    (h : Presentable env scope streamId index st.seen st.previousHash st.meter
      (event :: events)) :
    Presentable env scope streamId (index + 1) (st.advanced env event folded).seen
      (st.advanced env event folded).previousHash (st.advanced env event folded).meter
      events := by
  have hkeys := List.nodup_cons.mp h.keys
  have hnumbered := h.numbered
  refine
    { owned := fun other hmem => h.owned other (List.mem_cons_of_mem event hmem)
      valid := fun other hmem => h.valid other (List.mem_cons_of_mem event hmem)
      numbered := ?_
      linked := h.linked.right.right
      keys := hkeys.right
      unseen := ?_
      metered := h.metered }
  · rw [← hnumbered.left]
    exact hnumbered.right
  · intro other hmem
    have hdistinct : event.idempotencyKey.text ≠ other.idempotencyKey.text := by
      intro heq
      exact hkeys.left (List.mem_map.mpr ⟨other, hmem, heq.symm⟩)
    have hseen := h.unseen other (List.mem_cons_of_mem event hmem)
    show (st.seen.insert event.idempotencyKey.text).contains other.idempotencyKey.text = false
    rw [ExtTreeSet.contains_insert, hseen, Bool.or_false, beq_eq_false_iff_ne]
    intro hcompare
    exact hdistinct (LawfulEqOrd.eq_of_compare hcompare)

theorem accept_of_replayFrom
    (h : replayFrom env scope streamId ReadBudget.unbounded index events st = .ok st') :
    run (accept env) st.toFoldState events = some st'.toFoldState := by
  induction events generalizing index st with
  | nil =>
      cases h
      rfl
  | cons event rest ih =>
      rcases bind_ok h with ⟨next, hevent, hrest⟩
      rcases replayEvent_eq_ok.mp hevent with ⟨_, folded, hfold, rfl⟩
      exact run_cons_eq_some.mpr ⟨folded, accept_eq_some.mpr hfold, ih hrest⟩

theorem Presentable.replayFrom_of_accept {folded : FoldState}
    (h : Presentable env scope streamId index st.seen st.previousHash st.meter events)
    (howned : st.Owned scope streamId)
    (haccept : run (accept env) st.toFoldState events = some folded) :
    exists st',
      replayFrom env scope streamId ReadBudget.unbounded index events st = .ok st' ∧
        st'.toFoldState = folded := by
  induction events generalizing index st with
  | nil =>
      cases haccept
      exact ⟨st, rfl, rfl⟩
  | cons event rest ih =>
      rcases run_cons_eq_some.mp haccept with ⟨next, hnext, hrest⟩
      have hfold := accept_eq_some.mp hnext
      have howner := h.owned event List.mem_cons_self
      have hstep := replayEvent_eq_ok.mpr ⟨h.admits howned, next, hfold, rfl⟩
      have htail := howned.advanced howner hfold
      rcases ih h.tail htail hrest with ⟨st', hrun, hst⟩
      exact ⟨st', Except.bind_eq_ok.mpr ⟨_, hstep, hrun⟩, hst⟩

theorem validateEnvelope_eq_ok_of_isOk (h : (validateEnvelope env event).isOk = true) :
    validateEnvelope env event = .ok () := by
  cases hvalid : validateEnvelope env event with
  | ok u =>
      rfl
  | error error =>
      rw [hvalid] at h
      exact absurd h Bool.false_ne_true

theorem Presentable.of_replayFrom
    (h : replayFrom env scope streamId ReadBudget.unbounded index events st = .ok st')
    (hmeter : st.meter.withinLimits = true) :
    Presentable env scope streamId index st.seen st.previousHash st.meter events := by
  induction events generalizing index st with
  | nil =>
      exact
        { owned := by simp
          valid := by simp
          numbered := trivial
          linked := trivial
          keys := List.nodup_nil
          unseen := by simp
          metered := hmeter }
  | cons event rest ih =>
      rcases bind_ok h with ⟨next, hevent, hrest⟩
      rcases replayEvent_eq_ok.mp hevent with ⟨hadmits, folded, hfold, rfl⟩
      unfold ReplayState.admits at hadmits
      simp only [Bool.and_eq_true, decide_eq_true_eq, Bool.not_eq_true'] at hadmits
      rcases hadmits with ⟨⟨⟨hmetered, hcontinues, _⟩, ⟨hsequence, hprevious⟩, hseen⟩, _⟩
      have howner := continues_owned hcontinues
      unfold continues at hcontinues
      simp only [Bool.and_eq_true, decide_eq_true_eq] at hcontinues
      have hvalid := validateEnvelope_eq_ok_of_isOk hcontinues.left.left.left.left.right
      unfold WalkMeter.admits at hmetered
      simp only [Bool.and_eq_true] at hmetered
      have htail := ih hrest hmetered.right
      -- The keys of the tail avoid the one this event recorded.
      have hkeys : forall other, other ∈ rest ->
          other.idempotencyKey.text ≠ event.idempotencyKey.text ∧
            st.seen.contains other.idempotencyKey.text = false := by
        intro other hmem
        have hunseen := htail.unseen other hmem
        change (st.seen.insert event.idempotencyKey.text).contains
          other.idempotencyKey.text = false at hunseen
        rw [ExtTreeSet.contains_insert, Bool.or_eq_false_iff] at hunseen
        refine And.intro ?_ hunseen.right
        intro heq
        rw [heq] at hunseen
        simp at hunseen
      refine
        { owned := ?_
          valid := ?_
          numbered := ?_
          linked := ⟨hprevious, hcontinues.right, htail.linked⟩
          keys := ?_
          unseen := ?_
          metered := htail.metered }
      · intro other hmem
        rcases List.mem_cons.mp hmem with heq | hmem
        · rw [heq]
          exact howner
        · exact htail.owned other hmem
      · intro other hmem
        rcases List.mem_cons.mp hmem with heq | hmem
        · rw [heq]
          exact hvalid
        · exact htail.valid other hmem
      · refine And.intro hsequence ?_
        rw [hsequence]
        exact htail.numbered
      · rw [List.map_cons, List.nodup_cons]
        refine And.intro ?_ htail.keys
        intro hmem
        rcases List.mem_map.mp hmem with ⟨other, hother, heq⟩
        exact (hkeys other hother).left heq
      · intro other hmem
        rcases List.mem_cons.mp hmem with heq | hmem
        · rw [heq]
          exact hseen
        · exact (hkeys other hmem).right

end Presentable

/-!
## Replay, as acceptance by the fold
-/

structure Readable (env : Environment) (scope : RepositoryScope) (streamId : String)
    (events : List EventEnvelope) : Prop where
  named : (OpaqueId.parse streamId).isSome = true
  length : events.length <= maxReadAll
  presentable : Presentable env scope streamId 0 ∅ genesisHash WalkMeter.zero events

section Readable

variable {env : Environment} {scope : RepositoryScope} {streamId : String}
  {events : List EventEnvelope} {projection : ExecutionProjection}

theorem replay_eq_ok_iff :
    replay env scope streamId events = .ok projection <->
      Readable env scope streamId events ∧
        exists st, foldHistory env events = some st ∧ st.projection = projection := by
  rw [replay_eq_ok]
  constructor
  · rintro ⟨hnamed, hlength, st, hrun, hprojection⟩
    have hpresentable := Presentable.of_replayFrom hrun (by decide)
    refine And.intro ⟨hnamed, hlength, hpresentable⟩ ?_
    exact ⟨st.toFoldState, accept_of_replayFrom hrun, hprojection⟩
  · rintro ⟨hreadable, folded, hfold, hprojection⟩
    have hpresentable : Presentable env scope streamId 0 ReplayState.initial.seen
        ReplayState.initial.previousHash ReplayState.initial.meter events :=
      hreadable.presentable
    rcases hpresentable.replayFrom_of_accept ReplayState.initial_owned hfold with
      ⟨st, hrun, hst⟩
    refine ⟨hreadable.named, hreadable.length, st, hrun, ?_⟩
    rw [← hprojection, ← hst]

end Readable

theorem Readable.replay_isOk {env : Environment} {scope : RepositoryScope}
    {streamId : String} {events : List EventEnvelope}
    (h : Readable env scope streamId events) (hfold : (foldHistory env events).isSome = true) :
    exists projection, replay env scope streamId events = .ok projection := by
  rcases Option.isSome_iff_exists.mp hfold with ⟨st, hst⟩
  exact ⟨st.projection, replay_eq_ok_iff.mpr ⟨h, st, hst, rfl⟩⟩

/-!
## Readable samples
-/

namespace Sample

theorem history_readable {news : List NewEvent} (hlength : news.length <= maxReadAll)
    (hvalid : ((history news).all fun event => (validateEnvelope env event).isOk) = true)
    (hkeys : (news.map fun event => event.idempotencyKey.text).Nodup)
    (hmeter :
      ((history news).foldl (fun meter event => meter.read env event)
        WalkMeter.zero).withinLimits = true) :
    Readable env scope streamId.text (history news) := by
  have hcontinues := history_continuation news
  have hsame : (history news).map (fun event => event.idempotencyKey.text) =
      news.map fun event => event.idempotencyKey.text := by
    calc
      (history news).map (fun event => event.idempotencyKey.text)
          = ((history news).map EventEnvelope.toNewEvent).map
              fun event => event.idempotencyKey.text := by rw [List.map_map]; rfl
      _ = news.map fun event => event.idempotencyKey.text := by rw [hcontinues.carries]
  have hcount : (history news).length = news.length := by
    calc
      (history news).length
          = ((history news).map EventEnvelope.toNewEvent).length := by rw [List.length_map]
      _ = news.length := by rw [hcontinues.carries]
  refine
    { named := by rw [OpaqueId.parse_text]; rfl
      length := hcount ▸ hlength
      presentable :=
        { owned := ?_
          valid := ?_
          numbered := hcontinues.numbered
          linked := hcontinues.linked
          keys := hsame ▸ hkeys
          unseen := fun event _ => ExtTreeSet.contains_empty
          metered := hmeter } }
  · intro event hmem
    have howned := hcontinues.owned event hmem
    exact And.intro howned.left (congrArg OpaqueId.text howned.right)
  · intro event hmem
    exact validateEnvelope_eq_ok_of_isOk (List.all_eq_true.mp hvalid event hmem)

def executionId : OpaqueId := id "execution"

def started : NewEvent :=
  event "start" (.executionStarted
    { executionId := executionId
      graphVersion := 1
      graphHash := "sha256:graph"
      mode := .manual })

def paused (key : String) : NewEvent :=
  event key (.executionPaused { executionId := executionId })

def resumed (key : String) : NewEvent :=
  event key (.executionResumed { executionId := executionId })

def completed (key : String) (status : SimulationStatus) : NewEvent :=
  event key (.executionCompleted { executionId := executionId, status := status })

def outcome (key node : String) (outcome : NodeOutcome) (nextState : NodeState) : NewEvent :=
  event key (.nodeOutcomeRecorded
    { executionId := executionId
      nodeId := id node
      outcome := outcome
      nextState := nextState
      cause := "" })

def parked : List NewEvent :=
  [started,
    outcome "approve" "node" .approved .ready,
    outcome "queue" "node" .started .queued,
    outcome "run" "node" .started .running,
    outcome "park" "node" .needsInput .waitingInput]

end Sample

/-!
## Agreement of the two walks
-/

/--
Folding a history in pages and replaying it at once accept the same histories
and come to the same projection; and after a refused page, a page that starts
past it is accepted only once every sequence in between was offered again.
-/
theorem applyPages_agrees_with_replay (env : Environment) {scope : RepositoryScope}
    {streamId name : String} {version number : Nat} {fresh : ProjectionGeneration}
    (hfresh : ProjectionGeneration.new scope streamId name version number = .ok fresh)
    {pages : List (List EventEnvelope)}
    (hpages : forall page, page ∈ pages -> page.length <= maxReadPage)
    (hall : pages.flatten.length <= maxReadAll) :
    ((exists folded, ProjectionGeneration.applyPages env pages fresh = .ok () folded) <->
        exists projection, replay env scope streamId pages.flatten = .ok projection) ∧
      (forall folded, ProjectionGeneration.applyPages env pages fresh = .ok () folded ->
        replay env scope streamId pages.flatten = .ok folded.projection ∧
          folded.watermark.lastSequence = pages.flatten.length ∧
          folded.watermark.lastEventHash =
            pages.flatten.getLast?.map EventEnvelope.eventHash) ∧
      forall (generation refused : ProjectionGeneration) (page : List EventEnvelope)
          (error : ReplayError),
        page ≠ [] ->
        ProjectionGeneration.applyPage env page generation = .error error refused ->
        refused.watermark.lastSequence <
            generation.watermark.lastSequence + page.length ∧
          forall (calls : List (List EventEnvelope)) (event : EventEnvelope)
              (rest : List EventEnvelope) (folded : ProjectionGeneration),
            ProjectionGeneration.applyPage env (event :: rest)
                (calls.foldl (ProjectionGeneration.call env) refused) = .ok () folded ->
            generation.watermark.lastSequence + page.length < event.sequence ->
            forall sequence, refused.watermark.lastSequence < sequence ->
              sequence <= generation.watermark.lastSequence + page.length ->
              exists offered : EventEnvelope,
                offered ∈ calls.flatten ∧ offered.sequence = sequence := by
  rcases tracks_of_new hfresh with ⟨hstream, hhead, hstart⟩
  have hpaged :
      ProjectionGeneration.applyPages env pages =
        ProjectionGeneration.applyEvents env pages.flatten :=
    ProjectionGeneration.applyPages_eq_applyEvents hpages
  have hagrees : forall folded,
      ProjectionGeneration.applyPages env pages fresh = .ok () folded ->
      replay env scope streamId pages.flatten = .ok folded.projection := by
    intro folded hrun
    rw [hpaged] at hrun
    rcases hstart.replayFrom_of_applyEvents hrun with ⟨st, hreplay, htracks⟩
    refine replay_eq_ok.mpr ⟨hstream, hall, st, hreplay, ?_⟩
    exact congrArg FoldState.projection htracks.fold.symm
  refine And.intro (Iff.intro ?_ ?_) (And.intro ?_ ?_)
  · rintro ⟨folded, hrun⟩
    exact ⟨folded.projection, hagrees folded hrun⟩
  · rintro ⟨projection, hreplay⟩
    rcases replay_eq_ok.mp hreplay with ⟨_, _, st, hrun, _⟩
    rw [hpaged]
    exact hstart.applyEvents_of_replayFrom hrun
  · intro folded hrun
    refine And.intro (hagrees folded hrun) ?_
    rw [hpaged] at hrun
    constructor
    · rw [ProjectionGeneration.applyEvents_sequence hrun, hstart.sequence, Nat.zero_add]
    · rw [ProjectionGeneration.applyEvents_head hrun, hhead, Option.or_none]
  · intro generation refused page error hnonempty hrefused
    refine And.intro (ProjectionGeneration.applyPage_refused hnonempty hrefused) ?_
    intro calls event rest folded haccepted hpast sequence hafter hbefore
    have hfirst := ProjectionGeneration.applyPage_first haccepted
    have hreached : sequence <=
        (calls.foldl (ProjectionGeneration.call env) refused).watermark.lastSequence := by
      omega
    exact ProjectionGeneration.calls_offered calls refused hafter hreached

namespace Sample

def pausedAndResumed : List EventEnvelope :=
  history [started, paused "pause", resumed "resume"]

def pausedPages : List (List EventEnvelope) :=
  [pausedAndResumed.take 2, pausedAndResumed.drop 2]

end Sample

/-- An execution paused on one page and resumed on the next is folded to its end. -/
theorem applyPages_agrees_with_replay_across_a_pause :
    exists fresh folded,
      ProjectionGeneration.new Sample.scope Sample.streamId.text "view" 1 1 = .ok fresh ∧
        ProjectionGeneration.applyPages Sample.env Sample.pausedPages fresh =
          .ok () folded := by
  have hreadable :
      Readable Sample.env Sample.scope Sample.streamId.text Sample.pausedAndResumed :=
    Sample.history_readable (by decide) (by decide) (by decide) (by decide)
  rcases hreadable.replay_isOk (by decide) with ⟨projection, hreplay⟩
  have hnew : exists fresh,
      ProjectionGeneration.new Sample.scope Sample.streamId.text "view" 1 1 = .ok fresh :=
    ProjectionGeneration.new_eq_ok Sample.scope hreadable.named
      (by decide) (by decide) (by decide) (by decide) (by decide)
  rcases hnew with ⟨fresh, hfresh⟩
  have hpages : forall page, page ∈ Sample.pausedPages -> page.length <= maxReadPage := by
    decide
  have hagrees := applyPages_agrees_with_replay Sample.env hfresh hpages (by decide)
  rcases hagrees.left.mpr ⟨projection, hreplay⟩ with ⟨folded, hrun⟩
  exact ⟨fresh, folded, hfresh, hrun⟩

end GraphHelm
