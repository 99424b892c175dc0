import GraphHelm.Runtime.Outcomes

/-!
# Attempts and repeated outcomes

The fold counts a node's entries into `Running` and the run of its last work
outcome; the transition function compares the two counters when a failure is
reported retryable.  This module says what the counters count, over every history
that folds, and what that bounds where every outcome follows the transition
function.
-/

namespace GraphHelm

open Std
open ErrorState OrderedMap

/-!
## What the counters count
-/

def entersRunning (node : String) (event : EventEnvelope) : Bool :=
  match event.kind with
  | .nodeOutcomeRecorded payload =>
      payload.nodeId.text = node && payload.outcome = .started && payload.nextState = .running
  | _ => false

def workRecord (node : String) (event : EventEnvelope) : Option NodeOutcomeRecorded :=
  match event.kind with
  | .nodeOutcomeRecorded payload =>
      if payload.nodeId.text = node && payload.outcome != .started then some payload else none
  | _ => none

def workRecords (node : String) (events : List EventEnvelope) : List NodeOutcomeRecorded :=
  events.filterMap (workRecord node)

/-- How many times `outcome` stands at the end of `outcomes`, without a break. -/
def trailingRun (outcome : NodeOutcome) (outcomes : List NodeOutcome) : Nat :=
  (outcomes.reverse.takeWhile fun other => other = outcome).length

theorem trailingRun_concat (outcome last : NodeOutcome) (outcomes : List NodeOutcome) :
    trailingRun outcome (outcomes ++ [last]) =
      if last = outcome then trailingRun outcome outcomes + 1 else 0 := by
  unfold trailingRun
  rw [List.reverse_append, List.reverse_singleton, List.singleton_append, List.takeWhile_cons]
  by_cases h : last = outcome
  · rw [if_pos (decide_eq_true h), if_pos h, List.length_cons]
  · rw [if_neg (by simpa using h), if_neg h, List.length_nil]

theorem le_trailingRun {outcome : NodeOutcome} {before burst : List NodeOutcome}
    (h : forall other, other ∈ burst -> other = outcome) :
    burst.length <= trailingRun outcome (before ++ burst) := by
  induction burst using List.reverseRecOn with
  | nil =>
      exact Nat.zero_le _
  | append_singleton earlier last ih =>
      have hearlier := ih fun other hmem => h other (List.mem_append_left _ hmem)
      have hlast := h last (List.mem_append_right _ List.mem_cons_self)
      rw [← List.append_assoc, trailingRun_concat, if_pos hlast, List.length_append]
      exact Nat.succ_le_succ hearlier

variable {events : List EventEnvelope} {request : TransitionRequest}

section Counters

variable {env : Environment} {event : EventEnvelope} {st st' : FoldState} {node : String}

theorem counters_of_accepted (h : applyProjectionEvent env event st = .ok () st')
    (hplain : forall payload, event.kind ≠ .nodeOutcomeRecorded payload) :
    st'.projection.nodeAttempts = st.projection.nodeAttempts ∧
      st'.projection.lastOutcome = st.projection.lastOutcome ∧
      st'.projection.identicalOutcomes = st.projection.identicalOutcomes := by
  have heffect := (lifecycle_of_accepted h).right
  have hattempts := congrArg Lifecycle.nodeAttempts heffect
  have hlast := congrArg Lifecycle.lastOutcome heffect
  have hrun := congrArg Lifecycle.identicalOutcomes heffect
  unfold lifecycleAfter at hattempts hlast hrun
  cases hkind : event.kind
  all_goals simp only [hkind] at hattempts hlast hrun
  case nodeOutcomeRecorded payload =>
    exact absurd hkind (hplain payload)
  case completionClaimed =>
    rw [claimEffect_spares] at hattempts hlast hrun
    exact ⟨hattempts, hlast, hrun⟩
  case completionCleared =>
    rw [clearanceEffect_spares] at hattempts hlast hrun
    exact ⟨hattempts, hlast, hrun⟩
  case gateVerdict =>
    rw [verdictEffect_spares] at hattempts hlast hrun
    exact ⟨hattempts, hlast, hrun⟩
  all_goals
    exact ⟨hattempts, hlast, hrun⟩

theorem outcomeEffect_of_accepted {payload : NodeOutcomeRecorded}
    (h : applyProjectionEvent env event st = .ok () st')
    (hkind : event.kind = .nodeOutcomeRecorded payload) :
    st'.projection.nodeAttempts =
        (outcomeEffect event payload st.projection).nodeAttempts ∧
      st'.projection.lastOutcome = (outcomeEffect event payload st.projection).lastOutcome ∧
      st'.projection.identicalOutcomes =
        (outcomeEffect event payload st.projection).identicalOutcomes := by
  have heffect := (lifecycle_of_accepted h).right
  unfold lifecycleAfter at heffect
  simp only [hkind] at heffect
  exact ⟨congrArg Lifecycle.nodeAttempts heffect, congrArg Lifecycle.lastOutcome heffect,
    congrArg Lifecycle.identicalOutcomes heffect⟩

theorem nodeAttempts_of_accepted (h : applyProjectionEvent env event st = .ok () st') :
    st'.projection.nodeAttempts[node]?.getD 0 =
      st.projection.nodeAttempts[node]?.getD 0 + (entersRunning node event).toNat := by
  by_cases hplain : exists payload, event.kind = .nodeOutcomeRecorded payload
  · rcases hplain with ⟨payload, hkind⟩
    have hattempts := (outcomeEffect_of_accepted h hkind).left
    unfold outcomeEffect at hattempts
    unfold entersRunning
    dsimp only at hattempts
    simp only [hkind]
    by_cases hnode : payload.nodeId.text = node
    · subst hnode
      have hcount : st'.projection.nodeAttempts[payload.nodeId.text]? =
          some (attemptsAfter (st.projection.nodeAttempts[payload.nodeId.text]?.getD 0)
            payload) := by
        rw [hattempts]
        exact ExtTreeMap.getElem?_insert_self
      rw [hcount, Option.getD_some, decide_eq_true rfl, Bool.true_and]
      unfold attemptsAfter
      split
      · rename_i henters
        rw [henters]
        rfl
      · rename_i hstays
        rw [Bool.eq_false_iff.mpr hstays]
        rfl
    · have hcount : st'.projection.nodeAttempts[node]? = st.projection.nodeAttempts[node]? := by
        rw [hattempts]
        exact getElem?_insert_of_ne hnode
      rw [hcount, decide_eq_false hnode]
      rfl
  · have hother : forall payload, event.kind ≠ .nodeOutcomeRecorded payload :=
      fun payload hkind => hplain ⟨payload, hkind⟩
    rw [(counters_of_accepted h hother).left]
    unfold entersRunning
    cases hkind : event.kind <;> first
      | rfl
      | exact absurd hkind (hother _)

/-- A run counts on with its own outcome, stands for no other, and dispatch passes it by. -/
theorem identicalOutcomesFor_of_accepted (h : applyProjectionEvent env event st = .ok () st')
    (outcome : NodeOutcome) :
    st'.projection.identicalOutcomesFor node outcome =
      match workRecord node event with
      | none => st.projection.identicalOutcomesFor node outcome
      | some payload =>
          if payload.outcome = outcome then
            st.projection.identicalOutcomesFor node outcome + 1
          else
            0 := by
  unfold ExecutionProjection.identicalOutcomesFor
  by_cases hplain : exists payload, event.kind = .nodeOutcomeRecorded payload
  · rcases hplain with ⟨payload, hkind⟩
    rcases outcomeEffect_of_accepted h hkind with ⟨_, hlast, hrun⟩
    unfold outcomeEffect at hlast hrun
    unfold workRecord
    dsimp only at hlast hrun
    simp only [hkind]
    by_cases hstarted : payload.outcome = .started
    · rw [if_pos hstarted] at hlast hrun
      rw [hlast, hrun, hstarted, bne_self_eq_false, Bool.and_false, if_neg Bool.false_ne_true]
      rfl
    · rw [if_neg hstarted] at hlast hrun
      rw [bne_iff_ne.mpr hstarted, Bool.and_true]
      by_cases hnode : payload.nodeId.text = node
      · subst hnode
        have hlastNode : st'.projection.lastOutcome[payload.nodeId.text]? =
            some payload.outcome := by
          rw [hlast]
          exact ExtTreeMap.getElem?_insert_self
        have hrunNode : st'.projection.identicalOutcomes[payload.nodeId.text]? =
            some (runAfter st.projection payload) := by
          rw [hrun]
          exact ExtTreeMap.getElem?_insert_self
        rw [hlastNode, hrunNode, decide_eq_true rfl, if_pos rfl]
        by_cases hsame : payload.outcome = outcome
        · subst hsame
          unfold runAfter
          simp only [if_true, Option.getD_some]
          split <;> rfl
        · rw [if_neg fun hsome => hsame (Option.some.inj hsome)]
          simp only [if_neg hsame]
      · have hlastNode : st'.projection.lastOutcome[node]? = st.projection.lastOutcome[node]? := by
          rw [hlast]
          exact getElem?_insert_of_ne hnode
        have hrunNode : st'.projection.identicalOutcomes[node]? =
            st.projection.identicalOutcomes[node]? := by
          rw [hrun]
          exact getElem?_insert_of_ne hnode
        rw [hlastNode, hrunNode, decide_eq_false hnode, if_neg Bool.false_ne_true]
  · have hother : forall payload, event.kind ≠ .nodeOutcomeRecorded payload :=
      fun payload hkind => hplain ⟨payload, hkind⟩
    rcases counters_of_accepted h hother with ⟨_, hlast, hrun⟩
    rw [hlast, hrun]
    unfold workRecord
    cases hkind : event.kind <;> first
      | rfl
      | exact absurd hkind (hother _)

theorem nodeAttempts_eq_countP (h : foldHistory env events = some st) :
    st.projection.nodeAttempts[node]?.getD 0 = events.countP (entersRunning node) := by
  induction events using List.reverseRecOn generalizing st with
  | nil =>
      cases h
      rfl
  | append_singleton earlier event ih =>
      rcases foldHistory_concat.mp h with ⟨middle, hmiddle, haccepted⟩
      rw [nodeAttempts_of_accepted haccepted, ih hmiddle, List.countP_append,
        List.countP_singleton]
      cases entersRunning node event <;> rfl

theorem identicalOutcomesFor_eq_trailingRun (h : foldHistory env events = some st)
    (outcome : NodeOutcome) :
    st.projection.identicalOutcomesFor node outcome =
      trailingRun outcome ((workRecords node events).map NodeOutcomeRecorded.outcome) := by
  induction events using List.reverseRecOn generalizing st with
  | nil =>
      cases h
      rfl
  | append_singleton earlier event ih =>
      rcases foldHistory_concat.mp h with ⟨middle, hmiddle, haccepted⟩
      rw [identicalOutcomesFor_of_accepted haccepted, ih hmiddle]
      unfold workRecords
      rw [List.filterMap_append, List.map_append]
      cases hrecord : workRecord node event with
      | none =>
          simp only [List.filterMap_cons, hrecord, List.filterMap_nil, List.map_nil,
            List.append_nil]
      | some payload =>
          simp only [List.filterMap_cons, hrecord, List.filterMap_nil, List.map_cons,
            List.map_nil]
          rw [trailingRun_concat]

end Counters

/-!
## What the transition function bounds by them
-/

def followsTransition (st : FoldState) (event : EventEnvelope) : Bool :=
  match event.kind with
  | .nodeOutcomeRecorded payload =>
      applyTransition (transitionRequest st.projection payload.nodeId.text payload.outcome) =
        some payload.nextState
  | _ => true

def approves (node : String) (event : EventEnvelope) : Bool :=
  match event.kind with
  | .nodeOutcomeRecorded payload =>
      payload.nodeId.text = node && payload.outcome = .approved
  | _ => false

/-- The states a node gets to `Running` from by starts alone, and `Running` itself. -/
def isDispatched : NodeState -> Bool
  | .ready | .queued | .paused | .running => true
  | _ => false

def returnsToDispatch (node : String) (st : FoldState) (event : EventEnvelope) : Bool :=
  match event.kind with
  | .nodeOutcomeRecorded payload =>
      payload.nodeId.text = node && payload.outcome = .started &&
        (st.projection.nodeStates[node]? = some .waitingInput ||
          st.projection.nodeStates[node]? = some .waitingCapacity)
  | .nodeStateChanged payload =>
      payload.nodeId.text = node && isDispatched payload.nextState
  | _ => false

/-- The entries into `Running` a node has left, without an approval or a return. -/
def entriesLeft (request : TransitionRequest) : Nat :=
  match request.current with
  | .running => maxNodeAttempts - request.attempts
  | .ready | .queued | .paused => maxNodeAttempts - 1 - request.attempts + 1
  | _ => maxNodeAttempts - 1 - request.attempts

theorem entriesLeft_le (request : TransitionRequest) :
    entriesLeft request <= maxNodeAttempts := by
  unfold entriesLeft maxNodeAttempts
  split <;> omega

inductive Dispatches (request : TransitionRequest) (next : NodeState) : Prop
  | enters (hcurrent : request.current = .queued) (houtcome : request.outcome = .started)
      (hnext : next = .running)
  | stays (hcurrent : request.current = .ready ∨ request.current = .queued ∨
      request.current = .paused) (hnext : next = .queued ∨ next = .paused)
  | returns (hcurrent : request.current = .waitingInput ∨ request.current = .waitingCapacity)
      (houtcome : request.outcome = .started) (hnext : next = .queued)
  | retries (hcurrent : request.current = .running) (hattempts : request.attempts < maxNodeAttempts)
      (hnext : next = .queued)

theorem dispatches_of_transition {next : NodeState} (h : applyTransition request = some next)
    (hunapproved : request.outcome ≠ .approved) (hdispatched : isDispatched next = true) :
    Dispatches request next := by
  rcases request with ⟨current, outcome, attempts, identical⟩
  by_cases hretry : current = .running ∧ outcome = .retryableFailure
  · rcases hretry with ⟨rfl, rfl⟩
    unfold applyTransition at h
    simp only [isTerminal] at h
    by_cases hspent : (decide (maxNodeAttempts <= attempts) ||
        decide (maxIdenticalOutcomes <= identical)) = true
    · rw [if_neg Bool.false_ne_true, if_neg (by decide), if_pos hspent] at h
      cases h
      cases hdispatched
    · rw [if_neg Bool.false_ne_true, if_neg (by decide), if_neg hspent] at h
      cases h
      simp only [Bool.or_eq_true, decide_eq_true_eq, not_or, Nat.not_le] at hspent
      exact Dispatches.retries rfl hspent.left rfl
  · cases current <;> cases outcome <;> first
      | (cases h; done)
      | (cases h; cases hdispatched; done)
      | exact absurd rfl hunapproved
      | exact absurd ⟨rfl, rfl⟩ hretry
      | (cases h; exact Dispatches.enters rfl rfl rfl)
      | (cases h; refine Dispatches.returns ?_ rfl rfl; simp; done)
      | (cases h; refine Dispatches.stays ?_ ?_ <;> simp)

theorem entriesLeft_of_undispatched (h : isDispatched request.current = false) :
    entriesLeft request = maxNodeAttempts - 1 - request.attempts := by
  unfold entriesLeft
  split <;> rename_i hcurrent <;> first
    | rfl
    | (rw [hcurrent] at h; cases h)

theorem le_entriesLeft (request : TransitionRequest) :
    maxNodeAttempts - 1 - request.attempts <= entriesLeft request := by
  unfold entriesLeft
  split <;> omega

theorem entriesLeft_le_succ (request : TransitionRequest) :
    entriesLeft request <= 1 + (maxNodeAttempts - 1 - request.attempts) := by
  unfold entriesLeft
  split <;> omega

theorem entriesLeft_of_transition {after : TransitionRequest} {next : NodeState}
    (h : applyTransition request = some next) (hunapproved : request.outcome ≠ .approved)
    (hcurrent : after.current = next) (hattempts : after.attempts =
      request.attempts + (request.outcome = .started && next = .running).toNat) :
    (request.outcome = .started && next = .running).toNat + entriesLeft after <=
      (request.outcome = .started &&
          (request.current = .waitingInput || request.current = .waitingCapacity)).toNat +
        entriesLeft request := by
  cases hdispatched : isDispatched next with
  | false =>
      have hnext : next ≠ .running := by
        intro hrunning
        rw [hrunning] at hdispatched
        cases hdispatched
      rw [decide_eq_false hnext, Bool.and_false] at hattempts ⊢
      rw [entriesLeft_of_undispatched (hcurrent ▸ hdispatched), hattempts]
      have hleft := le_entriesLeft request
      simp only [Bool.toNat_false]
      omega
  | true =>
      cases dispatches_of_transition h hunapproved hdispatched with
      | enters hqueued hstarted hrunning =>
          rw [hstarted, hrunning] at hattempts ⊢
          unfold entriesLeft
          rw [hcurrent, hrunning, hqueued, hattempts]
          simp
          omega
      | stays hready hqueued =>
          have hnext : next ≠ .running := by
            rcases hqueued with hnext | hnext <;> rw [hnext] <;> decide
          rw [decide_eq_false hnext, Bool.and_false] at hattempts ⊢
          unfold entriesLeft
          rw [hcurrent, hattempts]
          rcases hready with hready | hready | hready <;>
            rcases hqueued with hqueued | hqueued <;>
              rw [hready, hqueued] <;> simp
      | returns hwaiting hstarted hqueued =>
          rw [hstarted, hqueued] at hattempts ⊢
          unfold entriesLeft
          rw [hcurrent, hqueued, hattempts]
          rcases hwaiting with hwaiting | hwaiting <;> rw [hwaiting] <;> simp <;> omega
      | retries hrunning hbound hqueued =>
          rw [hqueued] at hattempts ⊢
          unfold entriesLeft
          rw [hcurrent, hqueued, hattempts, hrunning]
          simp
          omega

section Bounds

variable {env : Environment} {event : EventEnvelope} {st st' : FoldState} {node : String}

def nodeEntriesLeft (node : String) (st : FoldState) : Nat :=
  entriesLeft (transitionRequest st.projection node .started)

theorem current_eq_iff {projection : ExecutionProjection} {outcome : NodeOutcome}
    {state : NodeState} (hstate : state ≠ .draft) :
    (transitionRequest projection node outcome).current = state <->
      projection.nodeStates[node]? = some state := by
  unfold transitionRequest
  cases projection.nodeStates[node]? with
  | none =>
      simpa using Ne.symm hstate
  | some current =>
      simp

theorem entries_of_outcome {payload : NodeOutcomeRecorded}
    (h : applyProjectionEvent env event st = .ok () st')
    (hkind : event.kind = .nodeOutcomeRecorded payload) (hnode : payload.nodeId.text = node)
    (hfollows : followsTransition st event = true) (hunapproved : approves node event = false) :
    (entersRunning node event).toNat + nodeEntriesLeft node st' <=
      (returnsToDispatch node st event).toNat + nodeEntriesLeft node st := by
  have hstate : st'.projection.nodeStates[node]? = some payload.nextState := by
    rw [nodeState_of_accepted h]
    unfold writtenState
    simp only [hkind, if_pos hnode, Option.some_or]
  have hentered : entersRunning node event =
      (decide (payload.outcome = .started) && decide (payload.nextState = .running)) := by
    unfold entersRunning
    simp only [hkind, hnode, decide_true, Bool.true_and]
  have hreturned : returnsToDispatch node st event =
      (decide (payload.outcome = .started) &&
        (decide ((transitionRequest st.projection node payload.outcome).current =
            .waitingInput) ||
          decide ((transitionRequest st.projection node payload.outcome).current =
            .waitingCapacity))) := by
    unfold returnsToDispatch
    simp only [hkind, hnode, decide_true, Bool.true_and,
      current_eq_iff (by decide : NodeState.waitingInput ≠ .draft),
      current_eq_iff (by decide : NodeState.waitingCapacity ≠ .draft)]
  unfold followsTransition at hfollows
  unfold approves at hunapproved
  simp only [hkind, hnode, decide_eq_true_eq] at hfollows hunapproved
  have houtcome : payload.outcome ≠ .approved := by
    simpa only [decide_true, Bool.true_and, decide_eq_false_iff_not] using hunapproved
  have hcurrent : (transitionRequest st'.projection node .started).current =
      payload.nextState := by
    unfold transitionRequest
    rw [hstate]
    rfl
  have hattempts : (transitionRequest st'.projection node .started).attempts =
      (transitionRequest st.projection node payload.outcome).attempts +
        (entersRunning node event).toNat :=
    nodeAttempts_of_accepted h
  rw [hentered] at hattempts ⊢
  rw [hreturned]
  exact entriesLeft_of_transition hfollows houtcome hcurrent hattempts

theorem entries_of_other (h : applyProjectionEvent env event st = .ok () st')
    (hother : forall payload, event.kind = .nodeOutcomeRecorded payload ->
      payload.nodeId.text ≠ node) :
    (entersRunning node event).toNat + nodeEntriesLeft node st' <=
      (returnsToDispatch node st event).toNat + nodeEntriesLeft node st := by
  have hentered : entersRunning node event = false := by
    unfold entersRunning
    cases hkind : event.kind <;> first
      | rfl
      | simp only [decide_eq_false (hother _ hkind), Bool.false_and]
  have hattempts : st'.projection.nodeAttempts[node]?.getD 0 =
      st.projection.nodeAttempts[node]?.getD 0 := by
    rw [nodeAttempts_of_accepted h, hentered]
    rfl
  have hstate : st'.projection.nodeStates[node]? =
      (writtenState st.projection node event).or st.projection.nodeStates[node]? :=
    nodeState_of_accepted h
  rw [hentered, Bool.toNat_false, Nat.zero_add]
  cases hwritten : writtenState st.projection node event with
  | none =>
      rw [hwritten, Option.none_or] at hstate
      have hsame : nodeEntriesLeft node st' = nodeEntriesLeft node st := by
        unfold nodeEntriesLeft entriesLeft transitionRequest
        simp only [hstate, hattempts]
      omega
  | some written =>
      rw [hwritten, Option.some_or] at hstate
      have hcurrent : (transitionRequest st'.projection node .started).current = written := by
        unfold transitionRequest
        rw [hstate]
        rfl
      have hleft : maxNodeAttempts - 1 - st.projection.nodeAttempts[node]?.getD 0 <=
          nodeEntriesLeft node st :=
        le_entriesLeft (transitionRequest st.projection node .started)
      cases hdispatched : isDispatched written with
      | false =>
          have hafter : nodeEntriesLeft node st' =
              maxNodeAttempts - 1 - st'.projection.nodeAttempts[node]?.getD 0 :=
            entriesLeft_of_undispatched (hcurrent ▸ hdispatched)
          omega
      | true =>
          -- Of the events that write a state, only a simulation's writes one to be dispatched.
          have hreturned : returnsToDispatch node st event = true := by
            unfold writtenState at hwritten
            unfold returnsToDispatch
            cases hkind : event.kind
            all_goals simp only [hkind] at hwritten ⊢
            case nodeOutcomeRecorded payload =>
              rw [if_neg (hother payload hkind)] at hwritten
              cases hwritten
            case nodeStateChanged payload =>
              split at hwritten
              · rename_i hnode
                cases hwritten
                rw [hdispatched, decide_eq_true hnode]
                rfl
              · cases hwritten
            all_goals
              first
                | cases hwritten
                | (split at hwritten <;> cases hwritten; cases hdispatched)
          have hafter : nodeEntriesLeft node st' <=
              1 + (maxNodeAttempts - 1 - st'.projection.nodeAttempts[node]?.getD 0) :=
            entriesLeft_le_succ (transitionRequest st'.projection node .started)
          rw [hreturned, Bool.toNat_true]
          omega

theorem entries_of_accepted (h : applyProjectionEvent env event st = .ok () st')
    (hfollows : followsTransition st event = true) (hunapproved : approves node event = false) :
    (entersRunning node event).toNat + nodeEntriesLeft node st' <=
      (returnsToDispatch node st event).toNat + nodeEntriesLeft node st := by
  by_cases hown : exists payload, event.kind = .nodeOutcomeRecorded payload ∧
      payload.nodeId.text = node
  · rcases hown with ⟨payload, hkind, hnode⟩
    exact entries_of_outcome h hkind hnode hfollows hunapproved
  · exact entries_of_other h fun payload hkind hnode => hown ⟨payload, hkind, hnode⟩

theorem follows_of_outcomesFollow {before window : List EventEnvelope}
    (h : OutcomesFollow env (before ++ window)) (hbefore : foldHistory env before = some st) :
    StepsMeet (accept env) (fun st event => followsTransition st event = true) st window := by
  induction window generalizing before st with
  | nil =>
      trivial
  | cons event rest ih =>
      refine And.intro ?_ ?_
      · show followsTransition st event = true
        unfold followsTransition
        split
        · rename_i payload hkind
          exact decide_eq_true (h before rest event payload st rfl hkind hbefore)
        · rfl
      · intro st' hstep
        refine ih ?_ (foldHistory_concat.mpr ⟨st, hbefore, accept_eq_some.mp hstep⟩)
        rw [List.append_assoc]
        exact h

theorem outcomesFollow_of_stepsMeet
    (h : StepsMeet (accept env) (fun st event => followsTransition st event = true)
      FoldState.initial events) : OutcomesFollow env events := by
  intro before later event payload held hsplit hkind hheld
  rw [hsplit] at h
  have hrest := h.after hheld
  have hfollows := hrest.left
  unfold followsTransition at hfollows
  simp only [hkind, decide_eq_true_eq] at hfollows
  exact hfollows

theorem run_of_requeue (h : applyTransition request = some .queued)
    (hstarted : request.outcome ≠ .started) :
    request.identicalOutcomes < maxIdenticalOutcomes := by
  rcases request with ⟨current, outcome, attempts, identical⟩
  by_cases hretry : current = .running ∧ outcome = .retryableFailure
  · rcases hretry with ⟨rfl, rfl⟩
    unfold applyTransition at h
    simp only [isTerminal] at h
    rw [if_neg Bool.false_ne_true, if_neg (by decide)] at h
    split at h
    · cases h
    · rename_i hspent
      simp only [Bool.or_eq_true, decide_eq_true_eq, not_or, Nat.not_le] at hspent
      exact hspent.right
  · cases current <;> cases outcome <;> first
      | (cases h; done)
      | exact absurd rfl hstarted
      | exact absurd ⟨rfl, rfl⟩ hretry

theorem workRecords_split {node : String} {earlier later : List NodeOutcomeRecorded}
    {record : NodeOutcomeRecorded} (h : workRecords node events = earlier ++ record :: later) :
    exists before event after, events = before ++ event :: after ∧
      workRecords node before = earlier ∧ event.kind = .nodeOutcomeRecorded record ∧
      record.nodeId.text = node ∧ record.outcome ≠ .started := by
  rcases List.filterMap_eq_append_iff.mp h with ⟨first, rest, rfl, hfirst, hrest⟩
  rcases List.filterMap_eq_cons_iff.mp hrest with ⟨quiet, event, after, rfl, hquiet, hrecord, _⟩
  refine ⟨first ++ quiet, event, after, (List.append_assoc _ _ _).symm, ?_, ?_⟩
  · unfold workRecords
    rw [List.filterMap_append, hfirst, List.filterMap_eq_nil_iff.mpr hquiet, List.append_nil]
  · unfold workRecord at hrecord
    split at hrecord
    · rename_i payload hkind
      split at hrecord
      · rename_i hown
        cases hrecord
        simp only [Bool.and_eq_true, decide_eq_true_eq, bne_iff_ne, ne_eq] at hown
        exact ⟨hkind, hown⟩
      · cases hrecord
    · cases hrecord

theorem burst_le (hfold : foldHistory env events = some st) (hfollow : OutcomesFollow env events)
    {earlier burst later : List NodeOutcomeRecorded} {outcome : NodeOutcome}
    (hsplit : workRecords node events = earlier ++ burst ++ later)
    (hburst : forall record, record ∈ burst ->
      record.outcome = outcome ∧ record.nextState = .queued) :
    burst.length <= maxIdenticalOutcomes := by
  cases hlast : burst.reverse with
  | nil =>
      rw [List.reverse_eq_nil_iff.mp hlast]
      exact Nat.zero_le _
  | cons last reversed =>
      have hshape : burst = reversed.reverse ++ [last] := by
        rw [← List.reverse_cons, ← hlast, List.reverse_reverse]
      rw [hshape, List.append_assoc, List.append_assoc, List.singleton_append,
        ← List.append_assoc] at hsplit
      rcases workRecords_split hsplit with
        ⟨before, event, after, rfl, hrecords, hkind, hnode, hwork⟩
      rcases foldHistory_append.mp hfold with ⟨middle, hmiddle, _⟩
      have hmem : last ∈ burst := by
        rw [hshape]
        exact List.mem_append_right _ List.mem_cons_self
      have hnext := hfollow before after event last middle rfl hkind hmiddle
      rw [(hburst last hmem).right, hnode] at hnext
      have hbound := run_of_requeue hnext hwork
      -- The run the failure found is at least what the burst had come to before it.
      have hrun : reversed.reverse.length <=
          middle.projection.identicalOutcomesFor node last.outcome := by
        rw [identicalOutcomesFor_eq_trailingRun hmiddle, hrecords, List.map_append]
        rw [← List.length_map (f := NodeOutcomeRecorded.outcome)]
        apply le_trailingRun
        intro other hother
        rcases List.mem_map.mp hother with ⟨record, hin, rfl⟩
        have hrecord : record ∈ burst := by
          rw [hshape]
          exact List.mem_append_left _ hin
        rw [(hburst record hrecord).left, (hburst last hmem).left]
      have hless : middle.projection.identicalOutcomesFor node last.outcome <
          maxIdenticalOutcomes := hbound
      rw [hshape, List.length_append, List.length_singleton]
      omega

/-- The returns of a node to dispatch in the events `window` that follow `before`. -/
def returnsIn (env : Environment) (node : String) (before window : List EventEnvelope) : Nat :=
  match foldHistory env before with
  | none => 0
  | some st => countSteps (accept env) (returnsToDispatch node) st window

theorem entries_le {before window : List EventEnvelope}
    (hfold : foldHistory env (before ++ window) = some st)
    (hfollow : OutcomesFollow env (before ++ window))
    (hunapproved : forall event, event ∈ window -> approves node event = false) :
    window.countP (entersRunning node) <=
      maxNodeAttempts + returnsIn env node before window := by
  rcases foldHistory_append.mp hfold with ⟨middle, hmiddle, hrun⟩
  have hquiet : StepsMeet (accept env) (fun _ event => approves node event = false) middle
      window :=
    stepsMeet_of_actions fun event hmem _ => hunapproved event hmem
  have hcount : countSteps (accept env) (fun _ event => entersRunning node event) middle window +
        nodeEntriesLeft node st <=
      countSteps (accept env) (returnsToDispatch node) middle window +
        nodeEntriesLeft node middle :=
    countSteps_add_potential_le _ _ (nodeEntriesLeft node)
      (fun hcondition hstep =>
        entries_of_accepted (accept_eq_some.mp hstep) hcondition.left hcondition.right)
      ((follows_of_outcomesFollow hfollow hmiddle).and hquiet) hrun
  rw [countSteps_eq_countP hrun] at hcount
  have hleft : nodeEntriesLeft node middle <= maxNodeAttempts := entriesLeft_le _
  unfold returnsIn
  rw [hmiddle]
  dsimp only
  omega

/--
Over every history whose outcomes follow the transition function, between two
approvals of a node: its entries into `Running` exceed the attempts allowed by no
more than its returns to dispatch, and it is requeued no more than three times in
a row on one outcome.  The counters are the entries, and the trailing runs.
-/
theorem retries_are_bounded {events : List EventEnvelope}
    (hfold : foldHistory env events = some st) (hfollow : OutcomesFollow env events) :
    (forall before window later, events = before ++ window ++ later ->
        (forall event, event ∈ window -> approves node event = false) ->
          window.countP (entersRunning node) <=
            maxNodeAttempts + returnsIn env node before window) ∧
      (forall earlier burst later outcome,
        workRecords node events = earlier ++ burst ++ later ->
          (forall record, record ∈ burst ->
            record.outcome = outcome ∧ record.nextState = .queued) ->
              burst.length <= maxIdenticalOutcomes) ∧
      st.projection.nodeAttempts[node]?.getD 0 = events.countP (entersRunning node) ∧
      forall outcome, st.projection.identicalOutcomesFor node outcome =
        trailingRun outcome ((workRecords node events).map NodeOutcomeRecorded.outcome) := by
  refine ⟨?_, ?_, nodeAttempts_eq_countP hfold, identicalOutcomesFor_eq_trailingRun hfold⟩
  · intro before window later hsplit hunapproved
    rw [hsplit] at hfold
    rcases foldHistory_append.mp hfold with ⟨middle, hmiddle, _⟩
    refine entries_le hmiddle ?_ hunapproved
    intro first rest event payload held hwindow hkind hheld
    refine hfollow first (rest ++ later) event payload held ?_ hkind hheld
    rw [hsplit, hwindow, List.append_assoc, List.cons_append]
  · intro earlier burst later outcome hsplit hburst
    exact burst_le hfold hfollow hsplit hburst

end Bounds

namespace Sample

def waitOut (index : Nat) : List NewEvent :=
  [outcome s!"wait-{index}" "node" .needsCapacity .waitingCapacity,
    outcome s!"requeue-{index}" "node" .started .queued,
    outcome s!"rerun-{index}" "node" .started .running]

/-- A node that runs nine times between two approvals, with a wait for capacity each time. -/
def waitedOut : List EventEnvelope :=
  history (parked.take 4 ++ (List.range 8).flatMap waitOut ++
    [outcome "stop" "node" .interrupted .blocked, outcome "again" "node" .approved .ready])

def betweenApprovals : List EventEnvelope :=
  (waitedOut.drop 2).dropLast

end Sample

theorem retries_are_bounded_while_parked : exists st,
    foldHistory Sample.env (Sample.history Sample.parked) = some st ∧
      st.projection.nodeAttempts["node"]?.getD 0 =
        (Sample.history Sample.parked).countP (entersRunning "node") := by
  have hfolds : (foldHistory Sample.env (Sample.history Sample.parked)).isSome = true := by
    decide +kernel
  have hfollows : StepsMeet (accept Sample.env)
      (fun st event => followsTransition st event = true) FoldState.initial
      (Sample.history Sample.parked) := by
    decide +kernel
  rcases Option.isSome_iff_exists.mp hfolds with ⟨st, hst⟩
  exact ⟨st, hst, (retries_are_bounded hst (outcomesFollow_of_stepsMeet hfollows)).right.right.left⟩

/-- Waits for capacity are no failures: the node enters `Running` nine times between approvals. -/
theorem attempts_unbounded_by_waits :
    (exists st, foldHistory Sample.env Sample.waitedOut = some st) ∧
      OutcomesFollow Sample.env Sample.waitedOut ∧
      (Sample.waitedOut[1]?.any (approves "node")) = true ∧
      (Sample.waitedOut.getLast?.any (approves "node")) = true ∧
      (forall event, event ∈ Sample.betweenApprovals -> approves "node" event = false) ∧
      maxNodeAttempts < Sample.betweenApprovals.countP (entersRunning "node") := by
  have hfolds : (foldHistory Sample.env Sample.waitedOut).isSome = true := by decide +kernel
  have hfollows : StepsMeet (accept Sample.env)
      (fun st event => followsTransition st event = true) FoldState.initial
      Sample.waitedOut := by
    decide +kernel
  refine ⟨Option.isSome_iff_exists.mp hfolds, outcomesFollow_of_stepsMeet hfollows, ?_⟩
  decide +kernel

end GraphHelm
