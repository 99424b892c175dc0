import GraphHelm.Runtime.Delegating
import GraphHelm.Runtime.Retries

/-!
# Reuse is exclusive

A subagent is taken over only from a node that has finished, and while it is
nobody else is running under it.  The invariant is about the subagents a drive
can still reuse: those its executor holds, those in flight and the one it is
recording.  Of the nodes last taken by one of them only the newest may run.
-/

namespace GraphHelm

open Std
open ErrorState OrderedMap VerifiedStream

/-!
## Who is running
-/

def isEngaged : NodeState -> Bool
  | .queued | .running => true
  | _ => false

theorem start_of_running {request : TransitionRequest}
    (h : applyTransition request = some .running) :
    request.outcome = .started ∧ request.current = .queued := by
  rcases Decidable.em (request.outcome = .approved) with happroved | hunapproved
  · rcases request with ⟨current, outcome, attempts, identical⟩
    cases happroved
    cases current <;> cases h
  · cases dispatches_of_transition h hunapproved rfl with
    | enters hcurrent houtcome hnext =>
        exact And.intro houtcome hcurrent
    | stays hcurrent hnext =>
        rcases hnext with hnext | hnext <;> cases hnext
    | returns hcurrent houtcome hnext =>
        cases hnext
    | retries hcurrent hattempts hnext =>
        cases hnext

theorem running_of_engaged {request : TransitionRequest} {next : NodeState}
    (h : applyTransition request = some next) (hengaged : isEngaged next = true)
    (hstarted : request.outcome ≠ .started) : request.current = .running := by
  rcases Decidable.em (request.outcome = .approved) with happroved | hunapproved
  · rcases request with ⟨current, outcome, attempts, identical⟩
    cases happroved
    cases current <;> first
      | (cases h; done)
      | (cases h; cases hengaged)
  · have hdispatched : isDispatched next = true := by
      cases next <;> first
        | rfl
        | cases hengaged
    cases dispatches_of_transition h hunapproved hdispatched with
    | enters hcurrent houtcome hnext =>
        exact absurd houtcome hstarted
    | stays hcurrent hnext =>
        rcases request with ⟨current, outcome, attempts, identical⟩
        rcases hnext with rfl | rfl
        · rcases hcurrent with hcurrent | hcurrent | hcurrent <;>
            cases hcurrent <;> cases outcome <;> first
              | exact absurd rfl hstarted
              | cases h
        · cases hengaged
    | returns hcurrent houtcome hnext =>
        exact absurd houtcome hstarted
    | retries hcurrent hattempts hnext =>
        exact hcurrent

/-- Nobody is running who was not, and nobody else names a subagent. -/
structure Calm (before after : ExecutionProjection) : Prop where
  subagents : after.subagents = before.subagents
  running : forall {node : String}, after.nodeStates[node]? = some .running ->
    before.nodeStates[node]? = some .running
  engaged : forall {node : String} {state : NodeState}, after.nodeStates[node]? = some state ->
    isEngaged state = true ->
      exists earlier, before.nodeStates[node]? = some earlier ∧ isEngaged earlier = true

def engagesNone : EventKind -> Bool
  | .nodeOutcomeRecorded payload => !isEngaged payload.nextState
  | .nodeStateChanged _ => false
  | _ => true

variable {batch : List NewEvent} {outcome : NodeOutcome} {projection : ExecutionProjection}

section Accepted

variable {env : Environment} {event : EventEnvelope} {added : List EventEnvelope}
  {st st' : FoldState} {node : String}

theorem states_of_plain (h : run (accept env) st added = some st')
    (hplain : forall event, event ∈ added -> writesNodes event.kind = false) :
    st'.projection.nodeStates[node]? = st.projection.nodeStates[node]? := by
  induction added generalizing st with
  | nil =>
      cases h
      rfl
  | cons event rest ih =>
      rcases run_cons_eq_some.mp h with ⟨next, hnext, hrest⟩
      rw [ih hrest fun other hmem => hplain other (List.mem_cons_of_mem event hmem),
        nodeState_of_accepted (accept_eq_some.mp hnext)]
      have hevent := hplain event List.mem_cons_self
      unfold writtenState
      cases hkind : event.kind <;> rw [hkind] at hevent <;> first
        | rfl
        | exact absurd hevent.symm Bool.false_ne_true

theorem engaged_of_accepted {state : NodeState}
    (h : applyProjectionEvent env event st = .ok () st') (hevent : engagesNone event.kind = true)
    (hstate : st'.projection.nodeStates[node]? = some state)
    (hengaged : isEngaged state = true) : st.projection.nodeStates[node]? = some state := by
  rw [nodeState_of_accepted h] at hstate
  unfold writtenState at hstate
  unfold engagesNone at hevent
  cases hkind : event.kind
  all_goals simp only [hkind] at hstate hevent
  case nodeOutcomeRecorded payload =>
    split at hstate
    · cases hstate
      rw [hengaged] at hevent
      cases hevent
    · exact hstate
  case nodeStateChanged =>
    cases hevent
  case ghostNodeProposed =>
    split at hstate
    · cases hstate
      cases hengaged
    · exact hstate
  case completionCleared =>
    split at hstate
    · cases hstate
      cases hengaged
    · exact hstate
  all_goals
    exact hstate

theorem engaged_of_run {state : NodeState} (h : run (accept env) st added = some st')
    (hadded : forall event, event ∈ added -> engagesNone event.kind = true)
    (hstate : st'.projection.nodeStates[node]? = some state)
    (hengaged : isEngaged state = true) : st.projection.nodeStates[node]? = some state := by
  induction added generalizing st with
  | nil =>
      cases h
      exact hstate
  | cons event rest ih =>
      rcases run_cons_eq_some.mp h with ⟨next, hnext, hrest⟩
      have hafter := ih hrest fun other hmem => hadded other (List.mem_cons_of_mem event hmem)
      exact engaged_of_accepted (accept_eq_some.mp hnext) (hadded event List.mem_cons_self)
        hafter hengaged

theorem calm_of_run (h : run (accept env) st added = some st')
    (hadded : forall event, event ∈ added -> engagesNone event.kind = true)
    (hunrecorded : forall event, event ∈ added -> isSubagentRecord event.kind = false) :
    Calm st.projection st'.projection :=
  { subagents := subagents_of_unrecorded h hunrecorded
    running := fun hrunning => engaged_of_run h hadded hrunning rfl
    engaged := fun hstate hengaged => ⟨_, engaged_of_run h hadded hstate hengaged, hengaged⟩ }

theorem engagesNone_of_plain {kind : EventKind} (h : writesNodes kind = false) :
    engagesNone kind = true := by
  cases kind <;> first
    | rfl
    | cases h

theorem engagesNone_of_unstated {kind : EventKind} (h : statesNode kind = false) :
    engagesNone kind = true := by
  cases kind <;> first
    | rfl
    | cases h

theorem states_of_records (h : run (accept env) st added = some st')
    (hrecords : BatchRecords st.projection node outcome batch)
    (hcarries : added.map EventEnvelope.toNewEvent = batch) :
    exists next,
      applyTransition (transitionRequest st.projection node outcome) = some next ∧
        st'.projection.nodeStates[node]? = some next ∧
        forall {other : String}, other ≠ node ->
          st'.projection.nodeStates[other]? = st.projection.nodeStates[other]? := by
  rcases hrecords with ⟨first, rest, payload, rfl, hkind, hnode, houtcome, hnext, hplain⟩
  cases added with
  | nil =>
      cases hcarries
  | cons event later =>
      rcases List.cons_eq_cons.mp hcarries with ⟨hfirst, hrest⟩
      rcases run_cons_eq_some.mp h with ⟨middle, hmiddle, hlater⟩
      have hlaterPlain : forall other, other ∈ later -> writesNodes other.kind = false := by
        intro other hmem
        apply hplain other.toNewEvent
        rw [← hrest]
        exact List.mem_map_of_mem hmem
      have hevent : event.kind = .nodeOutcomeRecorded payload := by
        rw [← hkind, ← hfirst]
        rfl
      have haccepted := accept_eq_some.mp hmiddle
      refine ⟨payload.nextState, hnext, ?_, ?_⟩
      · rw [states_of_plain hlater hlaterPlain, nodeState_of_accepted haccepted]
        unfold writtenState
        simp only [hevent, if_pos hnode, Option.some_or]
      · intro other hother
        rw [states_of_plain hlater hlaterPlain, nodeState_of_accepted haccepted]
        unfold writtenState
        have hne : payload.nodeId.text ≠ other := fun hsame => hother (hsame.symm.trans hnode)
        simp only [hevent, if_neg hne, Option.none_or]

end Accepted

/-!
## What one step appends
-/

section Growth

variable {env : Environment} {scope : RepositoryScope} {streamId : OpaqueId}
  {events events' : List EventEnvelope}

structure Grows (env : Environment) (events events' : List EventEnvelope) : Prop where
  extended : exists added, events' = events ++ added ∧
    forall event, event ∈ added -> isSubagentRecord event.kind = false
  calm : forall {st' : FoldState}, foldHistory env events' = some st' ->
    exists st, foldHistory env events = some st ∧ Calm st.projection st'.projection

theorem grows_of_kinds {news : List NewEvent} {position : Nat} {added : List EventEnvelope}
    (h : Appended position news events events' added)
    (hnews : forall new, new ∈ news -> engagesNone new.kind = true)
    (hunrecorded : forall new, new ∈ news -> isSubagentRecord new.kind = false) :
    Grows env events events' := by
  have hkind : forall event, event ∈ added -> isSubagentRecord event.kind = false := by
    intro event hmem
    rcases h.mem_kind hmem with ⟨new, hnew, heq⟩
    rw [heq]
    exact hunrecorded new hnew
  constructor
  · exact ⟨added, h.extended, hkind⟩
  · intro st' hst'
    rw [h.extended] at hst'
    rcases foldHistory_append.mp hst' with ⟨st, hst, hrun⟩
    refine ⟨st, hst, calm_of_run hrun ?_ hkind⟩
    intro event hmem
    rcases h.mem_kind hmem with ⟨new, hnew, heq⟩
    rw [heq]
    exact hnews new hnew

variable {node : String}

theorem grows_of_outcome {position : Nat} {added : List EventEnvelope}
    (h : Appended position batch events events' added)
    (hrecords : forall st, foldHistory env events = some st ->
      BatchRecords st.projection node outcome batch)
    (hunrecorded : forall new, new ∈ batch -> isSubagentRecord new.kind = false)
    (hstarted : outcome ≠ .started) : Grows env events events' := by
  have hkind : forall event, event ∈ added -> isSubagentRecord event.kind = false := by
    intro event hmem
    rcases h.mem_kind hmem with ⟨new, hnew, heq⟩
    rw [heq]
    exact hunrecorded new hnew
  constructor
  · exact ⟨added, h.extended, hkind⟩
  · intro st' hst'
    rw [h.extended] at hst'
    rcases foldHistory_append.mp hst' with ⟨st, hst, hrun⟩
    rcases states_of_records hrun (hrecords st hst) h.carries with
      ⟨next, hnext, hstate, hothers⟩
    refine ⟨st, hst, ?_⟩
    constructor
    · exact subagents_of_unrecorded hrun hkind
    · intro other hrunning
      rcases Decidable.em (other = node) with rfl | hother
      · rw [hstate] at hrunning
        cases hrunning
        exact absurd (start_of_running hnext).left hstarted
      · rw [hothers hother] at hrunning
        exact hrunning
    · intro other state hafter hengaged
      rcases Decidable.em (other = node) with rfl | hother
      · rw [hstate] at hafter
        cases hafter
        have hcurrent := running_of_engaged hnext hengaged hstarted
        exact ⟨.running, (current_eq_iff (by decide)).mp hcurrent, rfl⟩
      · rw [hothers hother] at hafter
        exact ⟨state, hafter, hengaged⟩

theorem decideOutcome_unrecorded {call : OutcomeCall} {work : WorkOutcome}
    {started : List EventEnvelope}
    (h : decideOutcome call node work projection started = .ok batch) :
    forall new, new ∈ batch -> isSubagentRecord new.kind = false := by
  unfold decideOutcome at h
  rcases bind_ok h with ⟨_, _, h⟩
  rcases bind_ok h with ⟨nextState, _, h⟩
  rcases bind_ok h with ⟨nodeId, _, h⟩
  rcases bind_ok h with ⟨verdicts, hverdicts, h⟩
  cases h
  intro new hmem
  rcases List.mem_cons.mp hmem with rfl | hmem
  · rfl
  rcases List.mem_append.mp hmem with hreuse | hverdict
  · cases hentry : work.reuse with
    | none =>
        rw [hentry] at hreuse
        exact absurd hreuse List.not_mem_nil
    | some entry =>
        rw [hentry] at hreuse
        rw [List.mem_singleton.mp hreuse]
        rfl
  · unfold verdictEvents at hverdicts
    split at hverdicts
    · cases hverdicts
      exact absurd hverdict List.not_mem_nil
    · rcases bind_ok hverdicts with ⟨gateId, _, hgate⟩
      cases hgate
      rw [List.mem_singleton.mp hverdict]
      rfl

theorem decideOwnerOutcome_unrecorded {call : OutcomeCall} {cause : LedgerData}
    (h : decideOwnerOutcome call node outcome cause projection = some batch) :
    forall new, new ∈ batch -> isSubagentRecord new.kind = false := by
  unfold decideOwnerOutcome at h
  dsimp only at h
  split at h
  · cases h
  · rcases Option.bind_eq_some_iff.mp h with ⟨nextState, _, h⟩
    rcases Option.bind_eq_some_iff.mp h with ⟨nodeId, _, h⟩
    cases h
    intro new hmem
    rw [List.mem_singleton.mp hmem]
    rfl

variable {stream stream' : VerifiedStream env scope streamId.text}

/-- A written outcome is decided on the stream it follows. -/
structure Wrote (stream stream' : VerifiedStream env scope streamId.text) (node : String)
    (outcome : NodeOutcome) (batch : List NewEvent) : Prop where
  appended : exists added,
    Appended stream.nextSequence batch stream.events stream'.events added
  records : forall st, foldHistory env stream.events = some st ->
    BatchRecords st.projection node outcome batch
  unrecorded : forall new, new ∈ batch -> isSubagentRecord new.kind = false

theorem writeOutcome_eq_some {call : OutcomeCall} {work : WorkOutcome} {stamps : Stamps}
    (h : writeOutcome stream call node work stamps = some stream') :
    exists batch, Wrote stream stream' node work.outcome batch := by
  unfold writeOutcome at h
  split at h
  · cases h
  · rename_i projection started hanswer
    split at h
    · cases h
    · rename_i batch hbatch
      have happend := Except.toOption_eq_some h
      refine ⟨batch, ⟨append_eq_ok happend, ?_, decideOutcome_unrecorded hbatch⟩⟩
      intro st hst
      unfold headAnswer at hanswer
      split at hanswer
      · rename_i replayed hreplay
        cases hanswer
        rcases replay_eq_ok_iff.mp hreplay with ⟨_, folded, hfold, hprojection⟩
        rw [hst] at hfold
        cases hfold
        rw [hprojection]
        exact decideOutcome_records hbatch
      · cases hanswer

theorem Wrote.grows (h : Wrote stream stream' node outcome batch)
    (hstarted : outcome ≠ .started) :
    Grows env stream.events stream'.events := by
  rcases h.appended with ⟨added, happended⟩
  exact grows_of_outcome happended h.records h.unrecorded hstarted

theorem appendPlain_eq_some {actor : PersistedActor} {key : OpaqueId} {kind : EventKind}
    {stamps : Stamps} (h : appendPlain stream actor key kind stamps = some stream') :
    exists event, stream'.events = stream.events ++ [event] ∧ event.kind = kind ∧
      event.sequence = stream.events.length + 1 := by
  rcases append_eq_ok (Except.toOption_eq_some h) with ⟨added, happended⟩
  rcases List.map_eq_singleton_iff.mp happended.carries with ⟨event, rfl, hevent⟩
  refine ⟨event, happended.extended, congrArg NewEvent.kind hevent, ?_⟩
  have hnumbered := stream'.verified.numbered
  rw [happended.extended, numbered_append] at hnumbered
  rw [hnumbered.right.left, Nat.zero_add]

/-- Whatever an owner verb appends leaves everybody calm. -/
theorem ownerMove_grows {action : OwnerAction} (h : ownerMove stream action = some stream') :
    Grows env stream.events stream'.events := by
  unfold ownerMove at h
  cases action with
  | outcome call node outcome cause stamps =>
      dsimp only at h
      split at h
      · cases h
      · rename_i projection hreplay
        split at h
        · cases h
        · rename_i hstarted
          rcases Option.bind_eq_some_iff.mp h with ⟨batch, hbatch, h⟩
          rcases append_eq_ok (Except.toOption_eq_some h) with ⟨added, happended⟩
          have hrecords : forall st, foldHistory env stream.events = some st ->
              BatchRecords st.projection node outcome batch := by
            intro st hst
            rcases replay_eq_ok_iff.mp hreplay with ⟨_, folded, hfold, hprojection⟩
            rw [hst] at hfold
            cases hfold
            rw [hprojection]
            exact decideOwnerOutcome_records hbatch
          exact grows_of_outcome happended hrecords (decideOwnerOutcome_unrecorded hbatch)
            hstarted
  | accept acceptance batch stamps =>
      dsimp only at h
      split at h
      · rename_i hguard
        rw [Bool.and_eq_true, Bool.not_eq_true', List.any_eq_false] at hguard
        rcases append_eq_ok (Except.toOption_eq_some h) with ⟨added, happended⟩
        refine grows_of_kinds happended ?_ ?_
        · intro new hmem
          cases hwrites : writesNodes new.kind with
          | false =>
              exact engagesNone_of_plain hwrites
          | true =>
              have hkinds := (of_decide_eq_true hguard.left).symm
              rcases DraftAcceptance.mem_kinds hkinds (List.mem_map_of_mem hmem) hwrites with
                hghost | ⟨entry, _, hkind⟩
              · rcases List.mem_map.mp hghost with ⟨proposed, _, hkind⟩
                rw [← hkind]
                rfl
              · rw [hkind]
                rfl
        · intro new hmem
          exact Bool.eq_false_iff.mpr (hguard.right new hmem)
      · cases h
  | other news stamps =>
      dsimp only at h
      split at h
      · cases h
      · rename_i hguard
        rw [Bool.not_eq_true, List.any_eq_false] at hguard
        rcases append_eq_ok (Except.toOption_eq_some h) with ⟨added, happended⟩
        refine grows_of_kinds happended ?_ ?_
        · intro new hmem
          have hnew := hguard new hmem
          rw [Bool.or_eq_true, not_or, Bool.not_eq_true] at hnew
          exact engagesNone_of_unstated hnew.left
        · intro new hmem
          have hnew := hguard new hmem
          rw [Bool.or_eq_true, not_or, Bool.not_eq_true, Bool.not_eq_true] at hnew
          exact hnew.right

end Growth

/-!
## The invariant
-/

namespace Desk

def Names : Desk -> String -> Prop
  | .choosing _ record, s | .naming _ record, s | .named _ record, s =>
      record.subagentId.text = s
  | _, _ => False

def recording : Desk -> Option String
  | .choosing dispatch _ | .naming dispatch _ => some dispatch.node
  | _ => none

end Desk

/-- The subagents the drive may still reuse. -/
def Shift.Live (shift : Shift) (s : String) : Prop :=
  shift.sessions.Holds s ∨ (exists node, (node, s) ∈ shift.subagentOf) ∨ shift.desk.Names s

/-- The nodes last taken by `s` are delegated, and only the newest of them may run. -/
structure Exclusive (shift : Shift) (projection : ExecutionProjection) (s : String) : Prop where
  delegated : forall {node : String} {held : SubagentRecord},
    projection.subagents[node]? = some held -> held.record.subagentId.text = s ->
      exists kind, shift.delegation node = .declared kind
  newest : forall {node : String} {held : SubagentRecord},
    projection.subagents[node]? = some held -> held.record.subagentId.text = s ->
      shift.desk.recording ≠ some node -> projection.nodeStates[node]? = some .running ->
        forall {other : String} {another : SubagentRecord},
          projection.subagents[other]? = some another -> another.record.subagentId.text = s ->
            another.atSequence <= held.atSequence

/-- A dispatch read what a prefix of the events folds to; nobody was named or started since. -/
structure Dispatched (env : Environment) (events : List EventEnvelope)
    (delegation : String -> DelegationBlock) (dispatch : AtDispatch) : Prop where
  chosen : delegationEvent dispatch.node (delegation dispatch.node) dispatch.projection =
    .ok (some dispatch.chosen)
  unpaused : dispatch.projection.simulationStatus ≠ some .paused
  read : exists before after st, events = before ++ after ∧
    foldHistory env before = some st ∧ st.projection = dispatch.projection
  subagents : forall {st : FoldState}, foldHistory env events = some st ->
    st.projection.subagents = dispatch.projection.subagents
  running : forall {st : FoldState} {node : String}, foldHistory env events = some st ->
    node ≠ dispatch.node -> st.projection.nodeStates[node]? = some .running ->
      dispatch.projection.nodeStates[node]? = some .running

structure Decided (dispatch : AtDispatch) (record : SubagentReused) : Prop where
  event : exists bound freshId,
    subagentEvent dispatch.chosen dispatch.projection bound freshId = .ok record
  minted : record.basis ≠ .reused -> forall {node : String} {held : SubagentRecord},
    dispatch.projection.subagents[node]? = some held ->
      held.record.subagentId ≠ record.subagentId

def Desk.Sound (env : Environment) (events : List EventEnvelope) (shift : Shift) :
    Desk -> Prop
  | .clear => forall node hops rest, shift.drive.phase = .starting node hops rest ->
      shift.delegation node = .absent
  | .measuring dispatch | .deciding dispatch _ =>
      Dispatched env events shift.delegation dispatch ∧
        shift.drive.phase = .dispatching (dispatch.node :: dispatch.rest)
  | .choosing dispatch record =>
      Dispatched env events shift.delegation dispatch ∧ Decided dispatch record ∧
        exists hops, shift.drive.phase = .starting dispatch.node hops dispatch.rest
  | .naming dispatch record =>
      Dispatched env events shift.delegation dispatch ∧ Decided dispatch record ∧
        shift.drive.phase = .starting dispatch.node 0 dispatch.rest
  | .named dispatch _ => shift.drive.phase = .starting dispatch.node 0 dispatch.rest
  | .closing batch => forall new, new ∈ batch ->
      writesNodes new.kind = false ∧ isSubagentRecord new.kind = false

def Releasing (env : Environment) (events : List EventEnvelope) (drive : Drive) : Prop :=
  forall {held : List String}, drive.phase = .releasing held ->
    held.Nodup ∧ forall {st : FoldState}, foldHistory env events = some st ->
      forall {node : String} {state : NodeState}, node ∈ held ->
        st.projection.nodeStates[node]? = some state -> isEngaged state = false

structure Sound (env : Environment) (events : List EventEnvelope) (shift : Shift) : Prop where
  exclusive : forall {st : FoldState}, foldHistory env events = some st ->
    forall {s : String}, shift.Live s -> Exclusive shift st.projection s
  desk : shift.desk.Sound env events shift
  released : shift.drive.call.release.Nodup
  releasing : Releasing env events shift.drive

section Sound

variable {env : Environment} {scope : RepositoryScope} {streamId : OpaqueId}
  {events events' : List EventEnvelope} {shift next : Shift} {dispatch : AtDispatch}
  {record : SubagentReused}

variable {delegation : String -> DelegationBlock} {node : String} {st : FoldState}
    {drive : Drive} {freshId : OpaqueId}

theorem Dispatched.grow (h : Dispatched env events delegation dispatch)
    (hgrows : Grows env events events') :
    Dispatched env events' delegation dispatch := by
  rcases hgrows.extended with ⟨added, hadded, _⟩
  rcases h.read with ⟨before, after, st, hevents, hst, hprojection⟩
  refine
    { chosen := h.chosen
      unpaused := h.unpaused
      read := ⟨before, after ++ added, st, ?_, hst, hprojection⟩
      subagents := ?_
      running := ?_ }
  · rw [hadded, hevents, List.append_assoc]
  · intro st' hst'
    rcases hgrows.calm hst' with ⟨earlier, hearlier, hcalm⟩
    rw [hcalm.subagents]
    exact h.subagents hearlier
  · intro st' node hst' hnode hrunning
    rcases hgrows.calm hst' with ⟨earlier, hearlier, hcalm⟩
    exact h.running hearlier hnode (hcalm.running hrunning)

theorem Desk.Sound.grow {desk : Desk} (h : desk.Sound env events shift)
    (hgrows : Grows env events events') : desk.Sound env events' shift := by
  cases desk with
  | measuring dispatch | deciding dispatch bound =>
      exact And.intro (h.left.grow hgrows) h.right
  | choosing dispatch record | naming dispatch record =>
      exact And.intro (h.left.grow hgrows) h.right
  | clear | named dispatch record | closing batch =>
      exact h

/-- Calm growth keeps the invariant, whoever it comes from. -/
theorem Sound.grow (h : Sound env events shift) (hgrows : Grows env events events') :
    Sound env events' shift := by
  refine
    { exclusive := ?_
      desk := h.desk.grow hgrows
      released := h.released
      releasing := ?_ }
  · intro st' hst' s hlive
    rcases hgrows.calm hst' with ⟨st, hst, hcalm⟩
    have hexclusive := h.exclusive hst hlive
    constructor
    · intro node held hheld hnames
      rw [hcalm.subagents] at hheld
      exact hexclusive.delegated hheld hnames
    · intro node held hheld hnames hrecording hrunning other another hanother hsame
      rw [hcalm.subagents] at hheld hanother
      exact hexclusive.newest hheld hnames hrecording (hcalm.running hrunning) hanother hsame
  · intro held hphase
    rcases h.releasing hphase with ⟨hnodup, hheld⟩
    refine And.intro hnodup ?_
    intro st' hst' node state hmem hstate
    rcases hgrows.calm hst' with ⟨st, hst, hcalm⟩
    cases hengaged : isEngaged state with
    | false =>
        rfl
    | true =>
        rcases hcalm.engaged hstate hengaged with ⟨earlier, hearlier, hwas⟩
        rw [hheld hst hmem hearlier] at hwas
        cases hwas

/-- A step that appends nothing and makes no other subagent live. -/
theorem Sound.inward (h : Sound env events shift)
    (hdelegation : next.delegation = shift.delegation)
    (hlive : forall {s : String}, next.Live s -> shift.Live s)
    (hrecording : forall {node : String}, shift.desk.recording = some node ->
      next.desk.recording = some node)
    (hcall : next.drive.call = shift.drive.call) (hdesk : next.desk.Sound env events next)
    (hreleasing : Releasing env events next.drive) : Sound env events next := by
  refine
    { exclusive := ?_
      desk := hdesk
      released := hcall ▸ h.released
      releasing := hreleasing }
  intro st hst s hnext
  have hexclusive := h.exclusive hst (hlive hnext)
  constructor
  · intro node held hheld hnames
    rw [hdelegation]
    exact hexclusive.delegated hheld hnames
  · intro node held hheld hnames hnode hrunning other another hanother hsame
    exact hexclusive.newest hheld hnames (fun heq => hnode (hrecording heq)) hrunning hanother
      hsame

/-!
## Naming the subagent
-/

theorem Decided.names (h : Decided dispatch record)
    (hchosen : Dispatched env events shift.delegation dispatch) :
    record.nodeId.text = dispatch.node := by
  rcases h.event with ⟨bound, freshId, hevent⟩
  rw [(subagentEvent_names hevent).left]
  exact (delegationEvent_eq_some hchosen.chosen).right

/-- While the record is on its way, no other node last taken by its subagent runs. -/
theorem Sound.nobody_running (h : Sound env events shift) (hnumbered : Numbered 0 events)
    (hdesk : shift.desk = .naming dispatch record) (hst : foldHistory env events = some st)
    {held : SubagentRecord} (hnode : node ≠ dispatch.node)
    (hheld : st.projection.subagents[node]? = some held)
    (hsame : held.record.subagentId = record.subagentId) :
    st.projection.nodeStates[node]? ≠ some .running := by
  intro hrunning
  have hsound := h.desk
  rw [hdesk] at hsound
  rcases hsound with ⟨hdispatched, hdecided, _⟩
  have hsubagents := hdispatched.subagents hst
  rcases Decidable.em (record.basis = .reused) with hreused | hminted
  · rcases hdecided.event with ⟨bound, freshId, hevent⟩
    rcases subagentEvent_reused hevent hreused with ⟨graphVersion, candidate, hfrom, _⟩
    rcases reuseCandidate_eq_some hfrom.chosenFrom with ⟨hnewest, hqualifies⟩
    rcases mem_otherRecords.mp hnewest.listed with ⟨other, hother, hcandidate⟩
    have hlive : shift.Live record.subagentId.text := by
      refine Or.inr (Or.inr ?_)
      rw [hdesk]
      rfl
    have hrecording : shift.desk.recording ≠ some node := by
      rw [hdesk]
      intro heq
      exact hnode (Option.some.inj heq).symm
    have horigin := subagentsFrom_of_fold hst
    -- The running node would be the newest of the subagent, and so would the candidate.
    have hle := (h.exclusive hst hlive).newest hheld (by rw [hsame]) hrecording hrunning
      (hsubagents ▸ hcandidate) (by rw [hfrom.subagent])
    rw [(delegationEvent_eq_some hdispatched.chosen).right] at hnewest
    have hge := hnewest.newest hnode (hsubagents ▸ hheld) (hsame.trans hfrom.subagent)
    have heq : node = other :=
      horigin.node_eq hnumbered hheld (hsubagents ▸ hcandidate) (Nat.le_antisymm hge hle)
    have hkeyed := horigin.keyed (hsubagents ▸ hcandidate)
    have hthen := hdispatched.running hst hnode hrunning
    unfold qualifies at hqualifies
    simp only [Bool.and_eq_true, decide_eq_true_eq] at hqualifies
    rw [hkeyed, ← heq, hthen] at hqualifies
    cases hqualifies.right
  · exact hdecided.minted hminted (hsubagents ▸ hheld) hsame

/-- `subagent_reused` itself: the node becomes the newest its subagent took. -/
theorem Sound.name (h : Sound env events shift) (hnumbered : Numbered 0 events)
    (hdesk : shift.desk = .naming dispatch record) {event : EventEnvelope}
    (hkind : event.kind = .subagentReused record)
    (hsequence : event.sequence = events.length + 1) :
    Sound env (events ++ [event]) { shift with desk := .named dispatch record } := by
  have hsound := h.desk
  rw [hdesk] at hsound
  rcases hsound with ⟨hdispatched, hdecided, hphase⟩
  have hnode := hdecided.names hdispatched
  refine
    { exclusive := ?_
      desk := hphase
      released := h.released
      releasing := ?_ }
  · intro st' hst' s hnext
    have hlive : shift.Live s := by
      rcases hnext with hholds | hflight | hnames
      · exact Or.inl hholds
      · exact Or.inr (Or.inl hflight)
      · refine Or.inr (Or.inr ?_)
        rw [hdesk]
        exact hnames
    rcases foldHistory_concat.mp hst' with ⟨st, hst, haccepted⟩
    have hexclusive := h.exclusive hst hlive
    have hsubagents := subagents_of_accepted haccepted
    unfold subagentsAfter at hsubagents
    rw [hkind] at hsubagents
    dsimp only at hsubagents
    rw [hnode] at hsubagents
    have hstates : forall {other : String}, st'.projection.nodeStates[other]? =
        st.projection.nodeStates[other]? := by
      intro other
      rw [nodeState_of_accepted haccepted]
      unfold writtenState
      rw [hkind]
      rfl
    have hcases : forall {other : String} {another : SubagentRecord},
        st'.projection.subagents[other]? = some another ->
          other = dispatch.node ∧ another.record = record ∧
              another.atSequence = events.length + 1 ∨
            other ≠ dispatch.node ∧ st.projection.subagents[other]? = some another := by
      intro other another hanother
      rw [hsubagents] at hanother
      rcases Decidable.em (dispatch.node = other) with hsame | hother
      · rw [hsame, ExtTreeMap.getElem?_insert_self] at hanother
        cases hanother
        exact Or.inl ⟨hsame.symm, rfl, hsequence⟩
      · rw [getElem?_insert_of_ne hother] at hanother
        exact Or.inr ⟨Ne.symm hother, hanother⟩
    constructor
    · intro node held hheld hnames
      rcases hcases hheld with ⟨hsame, _⟩ | ⟨_, hbefore⟩
      · rw [hsame]
        exact ⟨_, (delegationEvent_eq_some hdispatched.chosen).left⟩
      · exact hexclusive.delegated hbefore hnames
    · intro node held hheld hnames _ hrunning other another hanother hsame
      rw [hstates] at hrunning
      rcases hcases hheld with ⟨_, _, hnow⟩ | ⟨hne, hbefore⟩
      · rcases hcases hanother with ⟨_, _, hother⟩ | ⟨_, hearlier⟩
        · rw [hnow, hother]
        · have hle := (subagentsFrom_of_fold hst).atSequence_le hnumbered hearlier
          omega
      · rcases hcases hanother with ⟨_, hnew, _⟩ | ⟨_, hearlier⟩
        · have hshared : held.record.subagentId = record.subagentId := by
            apply OpaqueId.text_injective
            rw [hnames, ← hsame, hnew]
          exact absurd hrunning
            (h.nobody_running hnumbered hdesk hst hne hbefore hshared)
        · refine hexclusive.newest hbefore hnames ?_ hrunning hearlier hsame
          rw [hdesk]
          intro heq
          exact hne (Option.some.inj heq).symm
  · intro held hreleasing
    rw [show shift.drive.phase = _ from hphase] at hreleasing
    cases hreleasing

/-!
## The hops
-/

structure Moves (env : Environment) (events events' : List EventEnvelope) (node : String) :
    Prop where
  extended : exists added, events' = events ++ added
  others : forall {st' : FoldState}, foldHistory env events' = some st' ->
    exists st, foldHistory env events = some st ∧
      st'.projection.subagents = st.projection.subagents ∧
      forall {other : String}, other ≠ node ->
        st'.projection.nodeStates[other]? = st.projection.nodeStates[other]?

theorem Wrote.states {stream stream' : VerifiedStream env scope streamId.text}
    (h : Wrote stream stream' node outcome batch) {st' : FoldState}
    (hst' : foldHistory env stream'.events = some st') :
    exists st state, foldHistory env stream.events = some st ∧
      st'.projection.subagents = st.projection.subagents ∧
      applyTransition (transitionRequest st.projection node outcome) = some state ∧
      st'.projection.nodeStates[node]? = some state ∧
      forall {other : String}, other ≠ node ->
        st'.projection.nodeStates[other]? = st.projection.nodeStates[other]? := by
  rcases h.appended with ⟨added, happended⟩
  rw [happended.extended] at hst'
  rcases foldHistory_append.mp hst' with ⟨st, hst, hrun⟩
  rcases states_of_records hrun (h.records st hst) happended.carries with
    ⟨state, hstate, hnode, hothers⟩
  refine ⟨st, state, hst, subagents_of_unrecorded hrun ?_, hstate, hnode, hothers⟩
  intro event hmem
  rcases happended.mem_kind hmem with ⟨new, hnew, heq⟩
  rw [heq]
  exact h.unrecorded new hnew

theorem Wrote.moves {stream stream' : VerifiedStream env scope streamId.text}
    (h : Wrote stream stream' node outcome batch) :
    Moves env stream.events stream'.events node := by
  constructor
  · rcases h.appended with ⟨added, happended⟩
    exact ⟨added, happended.extended⟩
  · intro st' hst'
    rcases h.states hst' with ⟨st, state, hst, hsubagents, _, _, hothers⟩
    exact ⟨st, hst, hsubagents, hothers⟩

theorem Dispatched.move (h : Dispatched env events delegation dispatch)
    (hmoves : Moves env events events' dispatch.node) :
    Dispatched env events' delegation dispatch := by
  rcases hmoves.extended with ⟨added, hadded⟩
  rcases h.read with ⟨before, after, st, hevents, hst, hprojection⟩
  refine
    { chosen := h.chosen
      unpaused := h.unpaused
      read := ⟨before, after ++ added, st, ?_, hst, hprojection⟩
      subagents := ?_
      running := ?_ }
  · rw [hadded, hevents, List.append_assoc]
  · intro st' hst'
    rcases hmoves.others hst' with ⟨earlier, hearlier, hsubagents, _⟩
    rw [hsubagents]
    exact h.subagents hearlier
  · intro st' node hst' hnode hrunning
    rcases hmoves.others hst' with ⟨earlier, hearlier, _, hothers⟩
    rw [hothers hnode] at hrunning
    exact h.running hearlier hnode hrunning

/-- A start of `node`, where nobody relies on `node` standing still. -/
theorem Sound.started (h : Sound env events shift) (hmoves : Moves env events events' node)
    (hrunning : forall {st' : FoldState}, foldHistory env events' = some st' ->
      st'.projection.nodeStates[node]? = some .running ->
        shift.desk.recording = some node ∨ shift.delegation node = .absent)
    (hcall : drive.call = shift.drive.call)
    (hdesk : shift.desk.Sound env events' { shift with drive := drive })
    (hreleasing : Releasing env events' drive) :
    Sound env events' { shift with drive := drive } := by
  refine
    { exclusive := ?_
      desk := hdesk
      released := hcall ▸ h.released
      releasing := hreleasing }
  intro st' hst' s hlive
  rcases hmoves.others hst' with ⟨st, hst, hsubagents, hstates⟩
  have hexclusive := h.exclusive hst hlive
  constructor
  · intro other held hheld hnames
    rw [hsubagents] at hheld
    exact hexclusive.delegated hheld hnames
  · intro other held hheld hnames hrecording hruns third another hanother hsame
    rw [hsubagents] at hheld hanother
    rcases Decidable.em (other = node) with hsameNode | hother
    · rw [hsameNode] at hruns hheld hrecording
      rcases hrunning hst' hruns with hexempt | habsent
      · exact absurd hexempt hrecording
      · rcases hexclusive.delegated hheld hnames with ⟨kind, hkind⟩
        rw [habsent] at hkind
        cases hkind
    · rw [hstates hother] at hruns
      exact hexclusive.newest hheld hnames hrecording hruns hanother hsame

theorem Releasing.of_phase (h : forall held, drive.phase ≠ .releasing held) :
    Releasing env events drive := by
  intro held hphase
  exact absurd hphase (h held)

variable {stream stream' : VerifiedStream env scope streamId.text}

theorem Sound.clear_of_phase (h : Sound env events shift) (hwrites : shift.writes = true)
    (hphase : forall node hops rest, shift.drive.phase ≠ .starting node hops rest) :
    shift.desk = .clear := by
  unfold Shift.writes at hwrites
  have hsound := h.desk
  cases hdesk : shift.desk with
  | clear =>
      rfl
  | choosing dispatch record =>
      rw [hdesk] at hsound
      rcases hsound.right.right with ⟨hops, hstarting⟩
      exact absurd hstarting (hphase _ _ _)
  | _ =>
      rw [hdesk] at hwrites
      cases hwrites

theorem Sound.recorded (h : Sound env stream.events shift) (hwrites : shift.writes = true)
    {due : DueOutcome} (hdue : shift.drive.due = some due)
    (hwrote : Wrote stream stream' due.node due.outcome batch) :
    Sound env stream'.events { shift with drive := due.next } := by
  unfold Drive.due at hdue
  split at hdue
  · rename_i _ node rest hphase
    cases hdue
    have hclear := h.clear_of_phase hwrites (by rw [hphase]; simp)
    refine (h.grow (hwrote.grows (by simp))).inward rfl (fun hlive => hlive) (fun heq => heq) rfl
      ?_ (Releasing.of_phase (by simp))
    dsimp only
    rw [hclear]
    intro other hops others hstarting
    cases hstarting
  · rename_i _ node rest hphase
    cases hdue
    have hclear := h.clear_of_phase hwrites (by rw [hphase]; simp)
    rcases h.releasing hphase with ⟨hnodup, hheld⟩
    rw [List.nodup_cons] at hnodup
    refine h.started hwrote.moves ?_ rfl ?_ ?_
    · intro st' hst' hruns
      rcases hwrote.states hst' with ⟨st, state, hst, _, hnext, hstate, _⟩
      dsimp only at hnext hstate hruns
      rw [hruns] at hstate
      cases hstate
      have hqueued := (current_eq_iff (by decide)).mp (start_of_running hnext).right
      have hidle := hheld hst List.mem_cons_self hqueued
      cases hidle
    · rw [hclear]
      intro other hops others hstarting
      cases hstarting
    · intro held hreleasing
      cases hreleasing
      refine And.intro hnodup.right ?_
      intro st' hst' other state hmem hstate
      rcases hwrote.moves.others hst' with ⟨st, hst, _, hothers⟩
      have hother : other ≠ node := fun heq => hnodup.left (heq ▸ hmem)
      rw [hothers hother] at hstate
      exact hheld hst (List.mem_cons_of_mem node hmem) hstate
  · rename_i _ node hops rest hphase
    cases hdue
    refine h.started hwrote.moves ?_ rfl ?_ (Releasing.of_phase (by simp))
    · intro st' hst' hruns
      have hsound := h.desk
      unfold Shift.writes at hwrites
      cases hdesk : shift.desk with
      | clear =>
          rw [hdesk] at hsound
          exact Or.inr (hsound _ _ _ hphase)
      | choosing dispatch record =>
          rw [hdesk] at hsound
          rcases hsound.right.right with ⟨left, hstarting⟩
          rw [hphase] at hstarting
          cases hstarting
          exact Or.inl rfl
      | _ =>
          rw [hdesk] at hwrites
          cases hwrites
    · have hsound := h.desk
      unfold Shift.writes at hwrites
      cases hdesk : shift.desk with
      | clear =>
          rw [hdesk] at hsound
          intro other left others hstarting
          cases hstarting
          exact hsound _ _ _ hphase
      | choosing dispatch record =>
          rw [hdesk] at hsound
          rcases hsound with ⟨hdispatched, hdecided, left, hstarting⟩
          rw [hphase] at hstarting
          cases hstarting
          exact ⟨hdispatched.move hwrote.moves, hdecided, hops, rfl⟩
      | _ =>
          rw [hdesk] at hwrites
          cases hwrites
  · rename_i node rest hphase hflight
    cases hdue
    have hclear := h.clear_of_phase hwrites (by rw [hphase]; simp)
    refine (h.grow (hwrote.grows (by simp))).inward rfl (fun hlive => hlive) (fun heq => heq) rfl
      ?_ (Releasing.of_phase (by simp [hphase]))
    dsimp only
    rw [hclear]
    intro other hops others hstarting
    rw [hphase] at hstarting
    cases hstarting
  · cases hdue

/-!
## Steps that append nothing
-/

theorem Sound.clear_desk (h : Sound env events shift) (hdesk : shift.desk = .clear)
    (hcall : drive.call = shift.drive.call)
    (hstarting : forall node hops rest, drive.phase = .starting node hops rest ->
      shift.delegation node = .absent) (hreleasing : Releasing env events drive) :
    Sound env events { shift with drive := drive } := by
  refine h.inward rfl (fun hlive => hlive) (fun heq => heq) hcall ?_ hreleasing
  dsimp only
  rw [hdesk]
  exact hstarting

theorem Sound.refuse (h : Sound env events shift) (hrecording : shift.desk.recording = none)
    (node : String) (rest : List String) : Sound env events (shift.refuse node rest) := by
  refine h.inward rfl ?_ ?_ rfl ?_ (Releasing.of_phase (by simp [Shift.refuse]))
  · intro s hlive
    rcases hlive with hholds | hflight | hnames
    · exact Or.inl hholds
    · exact Or.inr (Or.inl hflight)
    · exact hnames.elim
  · intro other heq
    rw [hrecording] at heq
    cases heq
  · intro other hops others hstarting
    cases hstarting

theorem Drive.planned_call {next : Drive} (h : drive.planned projection = some next) :
    next.call = drive.call ∧
      (next.phase = .settling ∨ exists plan, next.phase = .dispatching plan) := by
  unfold Drive.planned at h
  split at h
  · cases h
  · dsimp only at h
    split at h
    · cases h
    · split at h
      · cases h
        exact And.intro rfl (Or.inl rfl)
      · cases h
        exact And.intro rfl (Or.inr ⟨_, rfl⟩)

theorem Drive.reread_outside {next : Drive} (h : drive.reread projection = some next)
    (hphase : forall node rest, drive.phase ≠ .dispatching (node :: rest)) :
    next.call = drive.call ∧
      (forall node hops rest, next.phase ≠ .starting node hops rest) ∧
      forall held, next.phase = .releasing held -> held = drive.held projection := by
  unfold Drive.reread at h
  split at h
  · split at h
    · cases h
    · cases h
      exact ⟨rfl, by simp, by simp⟩
  · split at h
    · rcases Drive.planned_call h with ⟨hcall, hsettles | ⟨plan, hplan⟩⟩
      · exact ⟨hcall, by simp [hsettles], by simp [hsettles]⟩
      · exact ⟨hcall, by simp [hplan], by simp [hplan]⟩
    · rename_i node rest hheld
      cases h
      refine ⟨rfl, by simp, ?_⟩
      intro held hreleasing
      cases hreleasing
      exact hheld.symm
  · rcases Drive.planned_call h with ⟨hcall, hsettles | ⟨plan, hplan⟩⟩
    · exact ⟨hcall, by simp [hsettles], by simp [hsettles]⟩
    · exact ⟨hcall, by simp [hplan], by simp [hplan]⟩
  · rename_i node rest hcurrent
    exact absurd hcurrent (hphase node rest)
  · cases h

theorem Drive.reread_dispatch {next : Drive} {rest : List String}
    (h : drive.reread projection = some next)
    (hphase : drive.phase = .dispatching (node :: rest)) :
    next.call = drive.call ∧
      (next.phase = .dispatching [] ∧ projection.simulationStatus = some .paused ∨
        projection.simulationStatus ≠ some .paused ∧
          exists hops, next.phase = .starting node hops rest) := by
  unfold Drive.reread at h
  rw [hphase] at h
  dsimp only at h
  split at h
  · rename_i hpaused
    cases h
    exact And.intro rfl (Or.inl (And.intro rfl hpaused))
  · rename_i hunpaused
    split at h
    · cases h
      exact And.intro rfl (Or.inr ⟨hunpaused, 2, rfl⟩)
    · cases h
      exact And.intro rfl (Or.inr ⟨hunpaused, 1, rfl⟩)

theorem Drive.held_idle {state : NodeState} (hmem : node ∈ drive.held projection)
    (hstate : projection.nodeStates[node]? = some state) : isEngaged state = false := by
  have hpaused := (List.mem_filter.mp hmem).right
  simp only [Bool.and_eq_true, decide_eq_true_eq] at hpaused
  rw [hpaused.left.left] at hstate
  cases hstate
  rfl

theorem dispatched_of_reread (hst : foldHistory env events = some st)
    (hprojection : st.projection = projection)
    (hunpaused : projection.simulationStatus ≠ some .paused)
    (hchosen : delegationEvent dispatch.node (delegation dispatch.node) projection =
      .ok (some dispatch.chosen)) (hread : dispatch.projection = projection) :
    Dispatched env events delegation dispatch := by
  refine
    { chosen := hread ▸ hchosen
      unpaused := hread ▸ hunpaused
      read := ⟨events, [], st, (List.append_nil _).symm, hst, hprojection.trans hread.symm⟩
      subagents := ?_
      running := ?_ }
  · intro other hother
    rw [hst] at hother
    cases hother
    rw [hprojection, hread]
  · intro other node hother _ hrunning
    rw [hst] at hother
    cases hother
    rw [hread, ← hprojection]
    exact hrunning

theorem Sound.atDispatch (h : Sound env events shift) {rest : List String}
    (hst : foldHistory env events = some st) (hprojection : st.projection = projection)
    (hdesk : shift.desk = .clear) (hphase : shift.drive.phase = .dispatching (node :: rest))
    (hnext : shift.atDispatch node rest projection = some next) : Sound env events next := by
  have hrecording : shift.desk.recording = none := by
    rw [hdesk]
    rfl
  unfold Shift.atDispatch at hnext
  split at hnext
  · rename_i hpaused
    rcases Option.map_eq_some_iff.mp hnext with ⟨drive, hdrive, rfl⟩
    rcases Drive.reread_dispatch hdrive hphase with ⟨hcall, hstops | hstarts⟩
    · exact h.clear_desk hdesk hcall (by simp [hstops.left])
        (Releasing.of_phase (by simp [hstops.left]))
    · exact absurd hpaused hstarts.left
  · rename_i hunpaused
    split at hnext
    · cases hnext
      exact h.refuse hrecording node rest
    · split at hnext
      · cases hnext
        exact h.refuse hrecording node rest
      · rename_i hnone
        rcases Option.map_eq_some_iff.mp hnext with ⟨drive, hdrive, rfl⟩
        rcases Drive.reread_dispatch hdrive hphase with ⟨hcall, hstops | ⟨_, hops, hstarts⟩⟩
        · exact absurd hstops.right hunpaused
        · refine h.clear_desk hdesk hcall ?_ (Releasing.of_phase (by simp [hstarts]))
          intro other left others hstarting
          rw [hstarts] at hstarting
          cases hstarting
          exact delegationEvent_eq_none hnone
      · rename_i chosen hchosen
        cases hnext
        refine h.inward rfl ?_ ?_ rfl ?_ (Releasing.of_phase (by simp [hphase]))
        · intro s hlive
          rcases hlive with hholds | hflight | hnames
          · exact Or.inl hholds
          · exact Or.inr (Or.inl hflight)
          · exact hnames.elim
        · intro other heq
          rw [hrecording] at heq
          cases heq
        · exact And.intro (dispatched_of_reread hst hprojection hunpaused hchosen rfl) hphase

theorem Sound.reread (h : Sound env events shift) (hst : foldHistory env events = some st)
    (hprojection : st.projection = projection) (hnext : shift.reread projection = some next) :
    Sound env events next := by
  unfold Shift.reread at hnext
  split at hnext
  · rename_i node rest hdesk hphase
    exact h.atDispatch hst hprojection hdesk hphase hnext
  · rename_i hdesk hphase
    rcases Option.map_eq_some_iff.mp hnext with ⟨drive, hdrive, rfl⟩
    rcases Drive.reread_outside hdrive hphase with ⟨hcall, hstarts, hreleases⟩
    refine h.clear_desk hdesk hcall ?_ ?_
    · intro node hops rest hstarting
      exact absurd hstarting (hstarts node hops rest)
    · intro held hreleasing
      rw [hreleases held hreleasing]
      refine And.intro (h.released.filter _) ?_
      intro other hother node state hmem hstate
      rw [hst] at hother
      cases hother
      rw [hprojection] at hstate
      exact Drive.held_idle hmem hstate
  · cases hnext

theorem Drive.turn_phase {next : Drive} {choice : Drive.Turn}
    (h : drive.turn choice = some next) : next.call = drive.call ∧
      (forall node hops rest, next.phase ≠ .starting node hops rest) ∧
      forall held, next.phase ≠ .releasing held := by
  unfold Drive.turn at h
  split at h
  · cases h
    exact ⟨rfl, by simp, by simp⟩
  · cases h
    exact ⟨rfl, by simp, by simp⟩
  · cases h
    exact ⟨rfl, by simp, by simp⟩
  · cases h
    exact ⟨rfl, by simp, by simp⟩
  · split at h
    · cases h
    · cases h
      exact ⟨rfl, by simp, by simp⟩
  · split at h
    · cases h
    · cases h
      exact ⟨rfl, by simp, by simp⟩
  · cases h

theorem Sound.turn (h : Sound env events shift) {choice : Drive.Turn}
    (hnext : shift.turn choice = some next) : Sound env events next := by
  unfold Shift.turn at hnext
  split at hnext
  · rename_i hdesk
    rcases Option.map_eq_some_iff.mp hnext with ⟨drive, hdrive, rfl⟩
    rcases Drive.turn_phase hdrive with ⟨hcall, hstarts, hreleases⟩
    refine h.clear_desk hdesk hcall ?_ (Releasing.of_phase hreleases)
    intro node hops rest hstarting
    exact absurd hstarting (hstarts node hops rest)
  · rename_i dispatch record hdesk
    rcases Option.map_eq_some_iff.mp hnext with ⟨drive, hdrive, rfl⟩
    rcases Drive.turn_phase hdrive with ⟨hcall, hstarts, hreleases⟩
    refine h.inward rfl ?_ ?_ hcall ?_ (Releasing.of_phase hreleases)
    · intro s hlive
      rcases hlive with hholds | ⟨node, hflight⟩ | hnames
      · exact Or.inl hholds
      · rcases List.mem_cons.mp hflight with hnew | hold
        · cases hnew
          refine Or.inr (Or.inr ?_)
          rw [hdesk]
          rfl
        · exact Or.inr (Or.inl ⟨node, hold⟩)
      · exact hnames.elim
    · intro node heq
      rw [hdesk] at heq
      cases heq
    · intro node hops rest hstarting
      exact absurd hstarting (hstarts node hops rest)
  · cases hnext

theorem Sound.measure (h : Sound env events shift) {receipts : Option ReceiptReadings}
    (hnext : shift.measure receipts = some next) : Sound env events next := by
  unfold Shift.measure at hnext
  split at hnext
  · rename_i dispatch hdesk
    cases hnext
    have hsound := h.desk
    rw [hdesk] at hsound
    refine h.inward rfl ?_ ?_ rfl hsound h.releasing
    · intro s hlive
      rcases hlive with hholds | hflight | hnames
      · exact Or.inl hholds
      · exact Or.inr (Or.inl hflight)
      · exact hnames.elim
    · intro node heq
      rw [hdesk] at heq
      cases heq
  · cases hnext

theorem Shift.decision_holds {bound : ReuseBound}
    (h : shift.decision dispatch bound freshId = .ok record) (hreused : record.basis = .reused) :
    shift.sessions.Holds record.subagentId.text := by
  unfold Shift.decision at h
  split at h
  · cases h
  · rename_i first hfirst
    dsimp only at h
    split at h
    · rename_i hdropped
      simp only [Bool.and_eq_true, decide_eq_true_eq] at hdropped
      rcases subagentEvent_reused hfirst hdropped.left with ⟨version, candidate, hfrom, _⟩
      rcases subagentEvent_reused h hreused with ⟨version', candidate', hfrom', hheld⟩
      -- The second decision weighs the same candidate, which is no longer held.
      have hsame : candidate' = candidate := by
        have hversion := hfrom'.started.symm.trans hfrom.started
        cases hversion
        exact Option.some.inj (hfrom'.chosenFrom.symm.trans hfrom.chosenFrom)
      rw [hsame, ← hfrom.subagent, ExtTreeSet.contains_erase] at hheld
      simp at hheld
    · rename_i hkept
      cases h
      simp only [hreused, Bool.and_eq_true, decide_eq_true_eq, true_and,
        Option.isNone_iff_eq_none] at hkept
      exact Option.isSome_iff_ne_none.mpr hkept

theorem Shift.decision_event {bound : ReuseBound}
    (h : shift.decision dispatch bound freshId = .ok record) : exists bound,
      subagentEvent dispatch.chosen dispatch.projection bound freshId = .ok record := by
  unfold Shift.decision at h
  split at h
  · cases h
  · rename_i first hfirst
    dsimp only at h
    split at h
    · exact ⟨_, h⟩
    · cases h
      exact ⟨_, hfirst⟩

/-- The subagent id minted for a dispatch names no subagent of the stream yet. -/
def UnusedId (events : List EventEnvelope) (freshId : OpaqueId) : Prop :=
  forall event recorded, event ∈ events -> event.kind = .subagentReused recorded ->
    recorded.subagentId ≠ freshId

theorem UnusedId.unnamed (h : UnusedId events freshId) {before after : List EventEnvelope}
    (hevents : events = before ++ after) (hst : foldHistory env before = some st)
    {held : SubagentRecord} (hheld : st.projection.subagents[node]? = some held) :
    held.record.subagentId ≠ freshId := by
  rcases (subagentsFrom_of_fold hst).origin hheld with ⟨event, hmem, _, hkind⟩
  refine h event held.record ?_ hkind
  rw [hevents]
  exact List.mem_append_left after hmem

theorem Sound.decide (h : Sound env events shift) (hunused : UnusedId events freshId)
    (hnext : shift.decide freshId = some next) :
    Sound env events next := by
  unfold Shift.decide at hnext
  split at hnext
  · rename_i dispatch bound hdesk
    have hsound := h.desk
    rw [hdesk] at hsound
    rcases hsound with ⟨hdispatched, hphase⟩
    have hrecording : shift.desk.recording = none := by
      rw [hdesk]
      rfl
    split at hnext
    · cases hnext
      exact h.refuse hrecording _ _
    · rename_i record hdecision
      rcases Option.map_eq_some_iff.mp hnext with ⟨drive, hdrive, rfl⟩
      rcases Drive.reread_dispatch hdrive hphase with ⟨hcall, hstops | ⟨_, hops, hstarts⟩⟩
      · exact absurd hstops.right hdispatched.unpaused
      · rcases Shift.decision_event hdecision with ⟨bound', hevent⟩
        have hminted : record.basis ≠ .reused -> record.subagentId = freshId :=
          subagentEvent_fresh hevent
        have hdecided : Decided dispatch record := by
          refine ⟨⟨bound', freshId, hevent⟩, ?_⟩
          intro hfresh node held hheld
          rcases hdispatched.read with ⟨before, after, st, hevents, hst, hprojection⟩
          rw [hminted hfresh]
          exact hunused.unnamed hevents hst (hprojection ▸ hheld)
        refine
          { exclusive := ?_
            desk := ⟨hdispatched, hdecided, hops, hstarts⟩
            released := hcall ▸ h.released
            releasing := Releasing.of_phase (by simp [hstarts]) }
        intro st hst s hlive
        have hcases : shift.Live s ∨ record.basis ≠ .reused ∧ s = record.subagentId.text := by
          rcases hlive with hholds | hflight | hnames
          · exact Or.inl (Or.inl hholds)
          · exact Or.inl (Or.inr (Or.inl hflight))
          · rcases Decidable.em (record.basis = .reused) with hreused | hfresh
            · refine Or.inl (Or.inl ?_)
              rw [← show record.subagentId.text = s from hnames]
              exact Shift.decision_holds hdecision hreused
            · exact Or.inr ⟨hfresh, hnames.symm⟩
        rcases hcases with hold | ⟨hfresh, hname⟩
        · have hexclusive := h.exclusive hst hold
          constructor
          · intro node held hheld hnames
            exact hexclusive.delegated hheld hnames
          · intro node held hheld hnames _ hrunning other another hanother hsame
            refine hexclusive.newest hheld hnames ?_ hrunning hanother hsame
            rw [hrecording]
            simp
        · have hnobody : forall {node : String} {held : SubagentRecord},
              st.projection.subagents[node]? = some held ->
                held.record.subagentId.text ≠ s := by
            intro node held hheld hnames
            rw [hdispatched.subagents hst] at hheld
            apply hdecided.minted hfresh hheld
            exact OpaqueId.text_injective (hnames.trans hname)
          constructor
          · intro node held hheld hnames
            exact absurd hnames (hnobody hheld)
          · intro node held hheld hnames
            exact absurd hnames (hnobody hheld)
  · cases hnext

theorem Shift.subagent_mem {subagentId : String} (h : shift.subagent node = some subagentId) :
    (node, subagentId) ∈ shift.subagentOf := by
  unfold Shift.subagent at h
  rcases Option.map_eq_some_iff.mp h with ⟨⟨other, id⟩, hfind, rfl⟩
  have hmem := List.mem_of_find?_eq_some hfind
  have hsame : (other == node) = true :=
    @List.find?_some _ (fun entry : String × String => entry.1 = node) _ _ hfind
  rw [eq_of_beq hsame] at hmem
  exact hmem

theorem Sound.sessions (h : Sound env events shift) {sessions : SubagentSessions}
    (hsessions : forall {s : String}, sessions.Holds s -> shift.Live s) :
    Sound env events { shift with sessions := sessions } := by
  refine h.inward rfl ?_ (fun heq => heq) rfl ?_ h.releasing
  · intro s hlive
    rcases hlive with hholds | hflight | hnames
    · exact hsessions hholds
    · exact Or.inr (Or.inl hflight)
    · exact Or.inr (Or.inr hnames)
  · exact h.desk

theorem Sound.reply (h : Sound env events shift) {turn : SessionTurn}
    (hnext : shift.reply node turn = some next) : Sound env events next := by
  rcases Option.map_eq_some_iff.mp hnext with ⟨subagentId, hsubagent, rfl⟩
  refine h.sessions ?_
  intro s hholds
  rcases SubagentSessions.holds_of_record hholds with rfl | hheld
  · exact Or.inr (Or.inl ⟨node, Shift.subagent_mem hsubagent⟩)
  · exact Or.inl hheld

theorem Sound.overflow (h : Sound env events shift) (hnext : shift.overflow node = some next) :
    Sound env events next := by
  rcases Option.map_eq_some_iff.mp hnext with ⟨subagentId, _, rfl⟩
  exact h.sessions fun hholds => Or.inl (SubagentSessions.holds_of_overflow hholds)

theorem Sound.dropAll (h : Sound env events shift) :
    Sound env events { shift with sessions := shift.sessions.dropAll } :=
  h.sessions fun hholds => absurd hholds SubagentSessions.not_holds_dropAll

theorem Sound.finished (h : Sound env events shift) (hdesk : shift.desk = .clear)
    {plan : List String} (hphase : shift.drive.phase = .dispatching plan) (node : String)
    (work : WorkOutcome) : Sound env events (shift.finished node work) := by
  refine h.inward rfl ?_ (fun heq => heq) rfl ?_
    (Releasing.of_phase (by simp [Shift.finished, hphase]))
  · intro s hlive
    rcases hlive with hholds | ⟨other, hflight⟩ | hnames
    · unfold Shift.finished at hholds
      dsimp only at hholds
      split at hholds
      · exact absurd hholds SubagentSessions.not_holds_dropAll
      · exact Or.inl hholds
    · exact Or.inr (Or.inl ⟨other, (List.mem_filter.mp hflight).left⟩)
    · exact Or.inr (Or.inr hnames)
  · unfold Shift.finished
    dsimp only
    rw [hdesk]
    intro other hops rest hstarting
    rw [hphase] at hstarting
    cases hstarting

end Sound

end GraphHelm
