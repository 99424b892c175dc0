import GraphHelm.Runtime.Reuse
import GraphHelm.Runtime.Redispatch

/-!
# Every reuse of a run is exclusive

The invariant of a drive is kept by each step of it and by each owner verb, as
long as an id minted for a subagent is one the stream does not know.  Only the
record of a dispatch commits a `subagent_reused`, and the invariant says what
that record was decided on.
-/

namespace GraphHelm

open Std
open ErrorState OrderedMap VerifiedStream

section Exclusivity

variable {env : Environment} {scope : RepositoryScope} {streamId : OpaqueId}
  {stream stream' : VerifiedStream env scope streamId.text} {shift next : Shift}
  {place place' : Workplace env scope streamId}

/-!
## The steps of the drive
-/

theorem PausePlan.events_unrecorded (plan : PausePlan) (key : Nat -> OpaqueId)
    (actor : PersistedActor) {event : NewEvent} (hmem : event ∈ plan.events key actor) :
    isSubagentRecord event.kind = false := by
  have hkind : event.kind ∈ plan.kinds := by
    rw [← PausePlan.events_kinds plan key actor]
    exact List.mem_map_of_mem hmem
  unfold PausePlan.kinds at hkind
  cases plan with
  | pause | resume | complete =>
      rw [List.mem_singleton.mp hkind]
      rfl
  | refusePreflight executionId diagnostics =>
      rcases List.mem_cons.mp hkind with hfirst | hlast
      · rw [hfirst]
        rfl
      · rw [List.mem_singleton.mp hlast]
        rfl

inductive Noted (shift : Shift) : EventKind -> Shift -> Prop where
  | chosen {dispatch : AtDispatch} {record : SubagentReused} {rest : List String}
      (hdesk : shift.desk = .choosing dispatch record)
      (hphase : exists node, shift.drive.phase = .starting node 0 rest) :
      Noted shift (.delegationChosen dispatch.chosen)
        { shift with desk := .naming dispatch record }
  | reused {dispatch : AtDispatch} {record : SubagentReused}
      (hdesk : shift.desk = .naming dispatch record) :
      Noted shift (.subagentReused record) { shift with desk := .named dispatch record }

theorem Shift.note_eq_some {kind : EventKind} (h : shift.note = some (kind, next)) :
    Noted shift kind next := by
  unfold Shift.note at h
  split at h
  · rename_i dispatch record node rest hdesk hphase
    cases h
    exact Noted.chosen hdesk ⟨node, hphase⟩
  · rename_i dispatch record node rest hdesk hphase
    cases h
    exact Noted.reused hdesk
  · cases h

theorem Sound.noted (h : Sound env stream.events shift) {kind : EventKind}
    (hnoted : Noted shift kind next) {actor : PersistedActor} {key : OpaqueId}
    {stamps : Stamps} (happend : appendPlain stream actor key kind stamps = some stream') :
    Sound env stream'.events next := by
  rcases appendPlain_eq_some happend with ⟨event, hevents, hkind, hsequence⟩
  cases hnoted with
  | chosen hdesk hphase =>
      rename_i dispatch record rest
      rcases append_eq_ok (Except.toOption_eq_some happend) with ⟨added, happended⟩
      have hgrows : Grows env stream.events stream'.events := by
        refine grows_of_kinds happended ?_ ?_
        · intro new hmem
          rw [List.mem_singleton.mp hmem]
          rfl
        · intro new hmem
          rw [List.mem_singleton.mp hmem]
          rfl
      have hgrown := h.grow hgrows
      have hsound := hgrown.desk
      rw [hdesk] at hsound
      rcases hsound with ⟨hdispatched, hdecided, hops, hstarting⟩
      rcases hphase with ⟨node, hzero⟩
      rw [hzero] at hstarting
      cases hstarting
      refine hgrown.inward rfl ?_ ?_ rfl ⟨hdispatched, hdecided, hzero⟩ hgrown.releasing
      · intro s hlive
        rcases hlive with hholds | hflight | hnames
        · exact Or.inl hholds
        · exact Or.inr (Or.inl hflight)
        · refine Or.inr (Or.inr ?_)
          rw [hdesk]
          exact hnames
      · intro other heq
        rw [hdesk] at heq
        exact heq
  | reused hdesk =>
      rw [hevents]
      exact h.name stream.verified.numbered hdesk hkind hsequence

/-- The drive settles: all that is left to it is its last batch. -/
theorem Sound.settled (h : Sound env stream.events shift) (hdesk : shift.desk = .clear)
    (plan : PausePlan) (key : Nat -> OpaqueId) :
    Sound env stream.events
      { shift with desk := .closing (plan.events key shift.drive.call.actor) } := by
  refine h.inward rfl ?_ ?_ rfl ?_ h.releasing
  · intro s hlive
    rcases hlive with hholds | hflight | hnames
    · exact Or.inl hholds
    · exact Or.inr (Or.inl hflight)
    · exact hnames.elim
  · intro node heq
    rw [hdesk] at heq
    cases heq
  · intro new hmem
    exact And.intro (plan.events_plain key _ hmem) (plan.events_unrecorded key _ hmem)

theorem Drive.park_isWorkResult (drive : Drive) (node : String) {work : WorkOutcome}
    (h : isWorkResult work.outcome = true) :
    isWorkResult (drive.park node work).outcome = true := by
  unfold Drive.park
  split
  · rfl
  · exact h

/-- What a step of the drive did, where it was not one of the two records of a dispatch. -/
structure Quiet (events events' : List EventEnvelope) : Prop where
  extended : exists added, events' = events ++ added ∧
    forall event, event ∈ added -> isSubagentRecord event.kind = false

theorem Quiet.refl (events : List EventEnvelope) : Quiet events events :=
  { extended := ⟨[], (List.append_nil events).symm, fun _ hmem => nomatch hmem⟩ }

theorem Wrote.quiet {node : String} {outcome : NodeOutcome} {batch : List NewEvent}
    (h : Wrote stream stream' node outcome batch) : Quiet stream.events stream'.events := by
  rcases h.appended with ⟨added, happended⟩
  refine { extended := ⟨added, happended.extended, ?_⟩ }
  intro event hmem
  rcases happended.mem_kind hmem with ⟨new, hnew, heq⟩
  rw [heq]
  exact h.unrecorded new hnew

inductive ShiftStep (stream : VerifiedStream env scope streamId.text) (shift : Shift) :
    VerifiedStream env scope streamId.text -> Option Shift -> Prop where
  | quiet {stream' : VerifiedStream env scope streamId.text} {after : Option Shift}
      (hquiet : Quiet stream.events stream'.events)
      (hsound : forall next, after = some next -> Sound env stream'.events next) :
      ShiftStep stream shift stream' after
  | noted {stream' : VerifiedStream env scope streamId.text} {kind : EventKind} {next : Shift}
      {actor : PersistedActor} {key : OpaqueId} {stamps : Stamps}
      (hnoted : Noted shift kind next)
      (happend : appendPlain stream actor key kind stamps = some stream') :
      ShiftStep stream shift stream' (some next)

/-- An id the drive mints is none the stream knows. -/
def ShiftAction.MintsFresh (events : List EventEnvelope) : ShiftAction -> Prop
  | .decide freshId => UnusedId events freshId
  | _ => True

theorem ShiftStep.still {after : Option Shift} (h : after = some next)
    (hsound : Sound env stream.events next) :
    ShiftStep stream shift stream after := by
  refine ShiftStep.quiet (Quiet.refl stream.events) ?_
  intro other hother
  rw [h] at hother
  cases hother
  exact hsound

theorem shiftMove_step {action : ShiftAction} {after : Option Shift}
    (h : Sound env stream.events shift) (hminted : action.MintsFresh stream.events)
    (hmove : shiftMove stream shift action = some (stream', after)) :
    ShiftStep stream shift stream' after := by
  unfold shiftMove at hmove
  cases action with
  | reread =>
      dsimp only at hmove
      split at hmove
      · cases hmove
      · rename_i projection hreplay
        rcases Option.map_eq_some_iff.mp hmove with ⟨next, hnext, heq⟩
        cases heq
        rcases replay_eq_ok_iff.mp hreplay with ⟨_, st, hst, hprojection⟩
        exact ShiftStep.still rfl (h.reread hst hprojection hnext)
  | turn choice =>
      rcases Option.map_eq_some_iff.mp hmove with ⟨next, hnext, heq⟩
      cases heq
      exact ShiftStep.still rfl (h.turn hnext)
  | measure receipts =>
      rcases Option.map_eq_some_iff.mp hmove with ⟨next, hnext, heq⟩
      cases heq
      exact ShiftStep.still rfl (h.measure hnext)
  | decide freshId =>
      rcases Option.map_eq_some_iff.mp hmove with ⟨next, hnext, heq⟩
      cases heq
      exact ShiftStep.still rfl (h.decide hminted hnext)
  | record key stamps =>
      dsimp only at hmove
      split at hmove
      · rename_i hwrites
        rcases Option.bind_eq_some_iff.mp hmove with ⟨due, hdue, hmove⟩
        rcases Option.map_eq_some_iff.mp hmove with ⟨written, hwritten, heq⟩
        cases heq
        rcases writeOutcome_eq_some hwritten with ⟨batch, hwrote⟩
        refine ShiftStep.quiet hwrote.quiet ?_
        intro next hnext
        cases hnext
        exact h.recorded hwrites hdue hwrote
      · cases hmove
  | note key stamps =>
      rcases Option.bind_eq_some_iff.mp hmove with ⟨⟨kind, next⟩, hnote, hmove⟩
      rcases Option.map_eq_some_iff.mp hmove with ⟨written, hwritten, heq⟩
      cases heq
      exact ShiftStep.noted (Shift.note_eq_some hnote) hwritten
  | finish node work key stamps =>
      dsimp only at hmove
      split at hmove
      · rename_i plan hdesk hphase
        split at hmove
        · rename_i hguard
          rcases Option.map_eq_some_iff.mp hmove with ⟨written, hwritten, heq⟩
          cases heq
          rcases writeOutcome_eq_some hwritten with ⟨batch, hwrote⟩
          refine ShiftStep.quiet hwrote.quiet ?_
          intro next hnext
          cases hnext
          refine (h.grow (hwrote.grows ?_)).finished hdesk hphase node _
          intro hstarted
          rw [Bool.and_eq_true] at hguard
          have hparked := Drive.park_isWorkResult shift.drive node hguard.right
          rw [hstarted] at hparked
          cases hparked
        · cases hmove
      · cases hmove
  | reply node turn =>
      rcases Option.map_eq_some_iff.mp hmove with ⟨next, hnext, heq⟩
      cases heq
      exact ShiftStep.still rfl (h.reply hnext)
  | overflow node =>
      rcases Option.map_eq_some_iff.mp hmove with ⟨next, hnext, heq⟩
      cases heq
      exact ShiftStep.still rfl (h.overflow hnext)
  | dropSessions =>
      cases hmove
      exact ShiftStep.still rfl h.dropAll
  | settle branch key =>
      dsimp only at hmove
      split at hmove
      · rename_i projection hdesk hreplay
        split at hmove
        · rcases Option.map_eq_some_iff.mp hmove with ⟨plan, _, heq⟩
          cases heq
          exact ShiftStep.still rfl (h.settled hdesk plan key)
        · cases hmove
      · cases hmove
  | close stamps =>
      dsimp only at hmove
      split at hmove
      · rename_i batch hdesk
        rcases Option.map_eq_some_iff.mp hmove with ⟨written, hwritten, heq⟩
        cases heq
        rcases append_eq_ok (Except.toOption_eq_some hwritten) with ⟨added, happended⟩
        have hbatch := h.desk
        rw [hdesk] at hbatch
        refine ShiftStep.quiet { extended := ⟨added, happended.extended, ?_⟩ } ?_
        · intro event hmem
          rcases happended.mem_kind hmem with ⟨new, hnew, heq⟩
          rw [heq]
          exact (hbatch new hnew).right
        · intro next hnext
          cases hnext
      · cases hmove

/-!
## Runs of a workplace
-/

/-- What holds between the steps: a drive that runs is sound over the stream. -/
def Workplace.Sound (place : Workplace env scope streamId) : Prop :=
  forall shift, place.shift = some shift -> GraphHelm.Sound env place.stream.events shift

def MintsFresh (place : Workplace env scope streamId) : WorkplaceAction -> Prop
  | .shift action => action.MintsFresh place.stream.events
  | _ => True

def namesSubagent (freshId : OpaqueId) : EventKind -> Bool
  | .subagentReused recorded => recorded.subagentId = freshId
  | _ => false

theorem unusedId_iff {events : List EventEnvelope} {freshId : OpaqueId} :
    UnusedId events freshId <->
      events.all (fun event => !namesSubagent freshId event.kind) = true := by
  rw [List.all_eq_true]
  constructor
  · intro h event hmem
    unfold namesSubagent
    split
    · rename_i recorded hkind
      rw [decide_eq_false (h event recorded hmem hkind)]
      rfl
    · rfl
  · intro h event recorded hmem hkind hsame
    have hevent := h event hmem
    rw [hkind] at hevent
    simp only [namesSubagent, hsame, decide_true, Bool.not_true, Bool.false_eq_true] at hevent

theorem Sound.start (events : List EventEnvelope) (call : ShiftCall) :
    Sound env events (Shift.start call) := by
  refine
    { exclusive := ?_
      desk := ?_
      released := call.released
      releasing := Releasing.of_phase (by simp [Shift.start, Drive.start]) }
  · intro st hst s hlive
    rcases hlive with hholds | ⟨node, hflight⟩ | hnames
    · unfold SubagentSessions.Holds SubagentSessions.history Shift.start at hholds
      rw [call.fresh] at hholds
      simp at hholds
    · exact absurd hflight List.not_mem_nil
    · exact hnames.elim
  · intro node hops rest hstarting
    cases hstarting

instance decidableUnusedId (events : List EventEnvelope) (freshId : OpaqueId) :
    Decidable (UnusedId events freshId) :=
  decidable_of_iff (events.all (fun event => !namesSubagent freshId event.kind) = true)
    unusedId_iff.symm

instance decidableMintsFresh (place : Workplace env scope streamId)
    (action : WorkplaceAction) : Decidable (MintsFresh place action) :=
  match action with
  | .shift (.decide freshId) => decidableUnusedId place.stream.events freshId
  | .shift (.reread) | .shift (.turn _) | .shift (.measure _) | .shift (.record _ _)
  | .shift (.note _ _) | .shift (.finish _ _ _ _) | .shift (.reply _ _)
  | .shift (.overflow _) | .shift .dropSessions | .shift (.settle _ _) | .shift (.close _)
  | .start _ | .stop | .owner _ => isTrue trivial

inductive WorkplaceStep (place : Workplace env scope streamId) :
    Workplace env scope streamId -> Prop where
  | shift {shift : Shift} {stream' : VerifiedStream env scope streamId.text}
      {after : Option Shift} (hshift : place.shift = some shift)
      (hstep : ShiftStep place.stream shift stream' after) :
      WorkplaceStep place { stream := stream', shift := after }
  | start (call : ShiftCall) : WorkplaceStep place { place with shift := some (Shift.start call) }
  | stop : WorkplaceStep place { place with shift := none }
  | owner {stream' : VerifiedStream env scope streamId.text}
      (hgrows : Grows env place.stream.events stream'.events) :
      WorkplaceStep place { place with stream := stream' }

theorem workplaceMove_step {action : WorkplaceAction} (h : place.Sound)
    (hminted : MintsFresh place action) (hmove : workplaceMove place action = some place') :
    WorkplaceStep place place' := by
  unfold workplaceMove at hmove
  split at hmove
  · cases hmove
    exact WorkplaceStep.start _
  · rename_i shift action hshift
    rcases Option.map_eq_some_iff.mp hmove with ⟨after, hafter, rfl⟩
    exact WorkplaceStep.shift hshift (shiftMove_step (h shift hshift) hminted hafter)
  · cases hmove
    exact WorkplaceStep.stop
  · rcases Option.map_eq_some_iff.mp hmove with ⟨stream', howner, rfl⟩
    exact WorkplaceStep.owner (ownerMove_grows howner)
  · cases hmove

theorem WorkplaceStep.extends (hstep : WorkplaceStep place place') :
    exists added, place'.stream.events = place.stream.events ++ added := by
  cases hstep with
  | shift hshift hstep =>
      cases hstep with
      | quiet hquiet hsound =>
          rcases hquiet.extended with ⟨added, hadded, _⟩
          exact ⟨added, hadded⟩
      | noted hnoted happend =>
          rcases appendPlain_eq_some happend with ⟨event, hevents, _⟩
          exact ⟨[event], hevents⟩
  | start call =>
      exact ⟨[], (List.append_nil _).symm⟩
  | stop =>
      exact ⟨[], (List.append_nil _).symm⟩
  | owner hgrows =>
      rcases hgrows.extended with ⟨added, hadded, _⟩
      exact ⟨added, hadded⟩

theorem WorkplaceStep.sound (h : place.Sound) (hstep : WorkplaceStep place place') :
    place'.Sound := by
  intro next hnext
  cases hstep with
  | shift hshift hstep =>
      rename_i shift stream' after
      cases hstep with
      | quiet hquiet hsound =>
          exact hsound next hnext
      | noted hnoted happend =>
          cases hnext
          exact (h shift hshift).noted hnoted happend
  | start call =>
      cases hnext
      exact Sound.start _ call
  | stop =>
      cases hnext
  | owner hgrows =>
      exact (h next hnext).grow hgrows

theorem sound_of_run {actions : List WorkplaceAction} (hidle : place.shift = none)
    (hminted : StepsMeet workplaceMove MintsFresh place actions)
    (hrun : run workplaceMove place actions = some place') : place'.Sound := by
  refine run_invariant_of_steps
    (fun h hfresh hmove => (workplaceMove_step h hfresh hmove).sound h) ?_ hminted hrun
  intro shift hshift
  rw [hidle] at hshift
  cases hshift

/-!
## The commit
-/

def CommitsReuse (place place' : Workplace env scope streamId) (record : SubagentReused) : Prop :=
  exists added event, place'.stream.events = place.stream.events ++ added ∧
    event ∈ added ∧ event.kind = .subagentReused record

theorem WorkplaceStep.commits (hstep : WorkplaceStep place place') {record : SubagentReused}
    (hcommits : CommitsReuse place place' record) :
    exists shift dispatch, place.shift = some shift ∧ shift.desk = .naming dispatch record := by
  rcases hcommits with ⟨added, event, hadded, hmem, hkind⟩
  have hnone : forall {others : List EventEnvelope},
      place'.stream.events = place.stream.events ++ others ->
        (forall other, other ∈ others -> isSubagentRecord other.kind = false) -> False := by
    intro others hothers hplain
    rw [hadded] at hothers
    rw [← List.append_cancel_left hothers] at hplain
    have hevent := hplain event hmem
    rw [hkind] at hevent
    cases hevent
  cases hstep with
  | shift hshift hstep =>
      rename_i shift stream' after
      cases hstep with
      | quiet hquiet hsound =>
          rcases hquiet.extended with ⟨others, hothers, hplain⟩
          exact (hnone hothers hplain).elim
      | noted hnoted happend =>
          rcases appendPlain_eq_some happend with ⟨only, hevents, honly, _⟩
          have hsingle := List.append_cancel_left (hadded.symm.trans hevents)
          rw [hsingle] at hmem
          rw [List.mem_singleton.mp hmem, honly] at hkind
          cases hnoted with
          | chosen hdesk hphase =>
              cases hkind
          | reused hdesk =>
              cases hkind
              exact ⟨shift, _, hshift, hdesk⟩
  | start call =>
      exact (hnone (List.append_nil _).symm fun _ hother => nomatch hother).elim
  | stop =>
      exact (hnone (List.append_nil _).symm fun _ hother => nomatch hother).elim
  | owner hgrows =>
      rcases hgrows.extended with ⟨others, hothers, hplain⟩
      exact (hnone hothers hplain).elim

/-- A reuse committed behind `events` takes over from one other node, which is done. -/
structure ExclusiveReuse (env : Environment) (events : List EventEnvelope)
    (record : SubagentReused) : Prop where
  /-- No other node last taken by the subagent is running. -/
  alone : forall {st : FoldState} {node : String} {held : SubagentRecord},
    foldHistory env events = some st -> node ≠ record.nodeId.text ->
      st.projection.subagents[node]? = some held ->
        held.record.subagentId = record.subagentId ->
          st.projection.nodeStates[node]? ≠ some .running
  reviewing : isReviewing record.kind = false
  /-- What it was decided on, and what it was decided from. -/
  decided : exists earlier later st candidate,
    events = earlier ++ later ∧ foldHistory env earlier = some st ∧
      record.fromNodeId = some candidate.record.nodeId ∧
      candidate.record.subagentId = record.subagentId ∧
      NewestAmongOthers st.projection record.nodeId.text candidate ∧
      st.projection.nodeStates[candidate.record.nodeId.text]? = some .succeeded ∧
      forall {now : FoldState}, foldHistory env events = some now ->
        NewestAmongOthers now.projection record.nodeId.text candidate

theorem Sound.exclusiveReuse {events : List EventEnvelope} {dispatch : AtDispatch}
    {record : SubagentReused} (h : Sound env events shift) (hnumbered : Numbered 0 events)
    (hdesk : shift.desk = .naming dispatch record) (hreused : record.basis = .reused) :
    ExclusiveReuse env events record := by
  have hsound := h.desk
  rw [hdesk] at hsound
  rcases hsound with ⟨hdispatched, hdecided, _⟩
  have hnode := hdecided.names hdispatched
  have hchosen := (delegationEvent_eq_some hdispatched.chosen).right
  rcases hdecided.event with ⟨bound, freshId, hevent⟩
  rcases subagentEvent_reused hevent hreused with ⟨graphVersion, candidate, hfrom, _⟩
  rcases reuseCandidate_eq_some hfrom.chosenFrom with ⟨hnewest, hqualifies⟩
  rw [hchosen, ← hnode] at hnewest
  unfold qualifies at hqualifies
  simp only [Bool.and_eq_true, decide_eq_true_eq] at hqualifies
  rcases hdispatched.read with ⟨earlier, later, st, hevents, hst, hprojection⟩
  constructor
  · intro now node held hnow hother hheld hsame
    rw [hnode] at hother
    exact h.nobody_running hnumbered hdesk hnow hother hheld hsame
  · rw [(subagentEvent_names hevent).right]
    exact hfrom.reviewing
  · refine ⟨earlier, later, st, candidate, hevents, hst, hfrom.from, hfrom.subagent.symm, ?_, ?_,
      ?_⟩
    · rw [hprojection]
      exact hnewest
    · rw [hprojection]
      exact hqualifies.right
    · intro now hnow
      have hsubagents := hdispatched.subagents hnow
      constructor
      · unfold otherRecords
        rw [hsubagents]
        exact hnewest.listed
      · intro other held hother hheld hsame
        rw [hsubagents] at hheld
        exact hnewest.newest hother hheld hsame

end Exclusivity

/-!
## A run that reuses
-/

namespace Sample

def twoExplorers : GraphSpec :=
  { nodes :=
      ((∅ : ExtTreeMap String GraphNode).insert "first" { customs := .absent }).insert "second"
        { customs := .absent }
    edges := []
    maxParallelModelCalls := some 1 }

def shiftCall : ShiftCall :=
  { call :=
      { executionId := executionId
        spec := twoExplorers
        actor := systemActor
        release := []
        releaseActor := ownerActor
        synchronous := false }
    delegation := fun _ => .declared .explorer
    sessions := SubagentSessions.new (some 10)
    asynchronous := rfl
    released := List.nodup_nil
    fresh := rfl }

/-- An execution has started, and no drive runs. -/
def idle : Workplace env scope streamId :=
  { stream := verified [started], shift := none }

def recordShift (key : String) (n : Nat) : WorkplaceAction :=
  .shift (.record (fun index => id s!"{key}-{index}") (stamps n))

def noteShift (key : String) (n : Nat) : WorkplaceAction :=
  .shift (.note (id key) (stamps n))

/-- What one dispatch of a delegated node does, up to `subagent_reused`. -/
def dispatchShift (node : String) (receipts : ReceiptReadings) (n : Nat) :
    List WorkplaceAction :=
  [.shift .reread, .shift (.measure (some receipts)), .shift (.decide (id s!"agent-{node}")),
    recordShift s!"queue-{node}" n, recordShift s!"run-{node}" (n + 1),
    noteShift s!"choose-{node}" (n + 2)]

def firstReplied : SessionTurn :=
  { nodeId := "first", attempt := 1, prompt := "prompt", reply := "reply" }

def reusingTurns : List WorkplaceAction :=
  [.start shiftCall, .shift .reread, recordShift "approve-first" 1,
      recordShift "approve-second" 2, .shift .reread] ++
    dispatchShift "first" [] 3 ++
    [noteShift "name-first" 6, .shift (.turn .launch), .shift (.reply "first" firstReplied),
      .shift (.finish "first" (bare .succeeded) (fun index => id s!"done-{index}") (stamps 7)),
      .shift (.turn .nextPass), .shift .reread, .shift .reread] ++
    dispatchShift "second" [("first", some 1)] 8

def takingOver : WorkplaceAction := noteShift "name-second" 11


def takesOver (event : EventEnvelope) : Bool :=
  match event.kind with
  | .subagentReused record => record.basis = .reused
  | _ => false

end Sample

end GraphHelm
