import GraphHelm.Runtime.Redispatch

/-!
# Cancelling an execution among other writers

`cancel.rs` takes its list of nodes from its first read, cancels them one append
each, and completes the execution at the head of a second read that looks at the
status alone.  What the others append in between decides whether every node is
terminal where the execution is completed.
-/

namespace GraphHelm

open Std
open ErrorState OrderedMap VerifiedStream

/-!
## Live nodes
-/

/-- Every node the stream leaves alive is one of `remaining`. -/
def LeftAlive (env : Environment) (events : List EventEnvelope) (remaining : List String) :
    Prop :=
  forall st, foldHistory env events = some st ->
    forall (node : String) (state : NodeState),
      st.projection.nodeStates[node]? = some state -> isTerminal state = false ->
        node ∈ remaining

def EndsTerminal (env : Environment) (events : List EventEnvelope) : Prop :=
  exists st, foldHistory env events = some st ∧
    forall (node : String) (state : NodeState),
      st.projection.nodeStates[node]? = some state -> isTerminal state = true

/-- An event that leaves a node alive which is not one of `remaining`. -/
def Revives (remaining : List String) : EventKind -> Prop
  | .nodeOutcomeRecorded payload =>
      isTerminal payload.nextState = false ∧ payload.nodeId.text ∉ remaining
  | .nodeStateChanged payload =>
      isTerminal payload.nextState = false ∧ payload.nodeId.text ∉ remaining
  | .ghostNodeProposed payload => payload.nodeId.text ∉ remaining
  | _ => False

variable {node : String} {projection : ExecutionProjection}

section LeftAlive

variable {env : Environment} {remaining : List String}

variable {event : EventEnvelope}

theorem mem_of_written {state : NodeState}
    (hwritten : writtenState projection node event = some state)
    (hlive : isTerminal state = false) (hspares : ¬ Revives remaining event.kind) :
    node ∈ remaining := by
  unfold writtenState at hwritten
  cases hkind : event.kind
  all_goals simp only [hkind] at hwritten hspares
  case nodeOutcomeRecorded payload =>
    split at hwritten
    · rename_i hsame
      cases hwritten
      by_contra hnone
      exact hspares (And.intro hlive (hsame ▸ hnone))
    · cases hwritten
  case nodeStateChanged payload =>
    split at hwritten
    · rename_i hsame
      cases hwritten
      by_contra hnone
      exact hspares (And.intro hlive (hsame ▸ hnone))
    · cases hwritten
  case ghostNodeProposed payload =>
    split at hwritten
    · rename_i hsame
      by_contra hnone
      have hother : payload.nodeId.text ∉ remaining := hsame ▸ hnone
      exact hspares hother
    · cases hwritten
  case completionCleared payload =>
    split at hwritten
    · cases hwritten
      cases hlive
    · cases hwritten
  all_goals
    cases hwritten

theorem LeftAlive.concat {events : List EventEnvelope} (h : LeftAlive env events remaining)
    (hspares : ¬ Revives remaining event.kind) :
    LeftAlive env (events ++ [event]) remaining := by
  intro st' hst' node state hstate hlive
  rcases foldHistory_concat.mp hst' with ⟨st, hst, haccepted⟩
  rw [nodeState_of_accepted haccepted] at hstate
  cases hwritten : writtenState st.projection node event with
  | none =>
      rw [hwritten] at hstate
      exact h st hst node state hstate hlive
  | some written =>
      rw [hwritten] at hstate
      cases hstate
      exact mem_of_written hwritten hlive hspares

theorem LeftAlive.append {before added : List EventEnvelope}
    (h : LeftAlive env before remaining)
    (hspares : forall event, event ∈ added -> ¬ Revives remaining event.kind) :
    LeftAlive env (before ++ added) remaining := by
  induction added using List.reverseRecOn with
  | nil =>
      rw [List.append_nil]
      exact h
  | append_singleton earlier event ih =>
      rw [← List.append_assoc]
      have hearlier := ih fun other hmem => hspares other (List.mem_append_left _ hmem)
      exact hearlier.concat (hspares event (List.mem_append_right _ List.mem_cons_self))

theorem LeftAlive.ended {events : List EventEnvelope} {payload : NodeOutcomeRecorded}
    (h : LeftAlive env events (payload.nodeId.text :: remaining))
    (hkind : event.kind = .nodeOutcomeRecorded payload)
    (hterminal : isTerminal payload.nextState = true) :
    LeftAlive env (events ++ [event]) remaining := by
  intro st' hst' node state hstate hlive
  rcases foldHistory_concat.mp hst' with ⟨st, hst, haccepted⟩
  rw [nodeState_of_accepted haccepted] at hstate
  unfold writtenState at hstate
  simp only [hkind] at hstate
  by_cases hsame : payload.nodeId.text = node
  · rw [if_pos hsame] at hstate
    cases hstate
    rw [hterminal] at hlive
    cases hlive
  · rw [if_neg hsame] at hstate
    rcases List.mem_cons.mp (h st hst node state hstate hlive) with hnode | hmem
    · exact absurd hnode.symm hsame
    · exact hmem

theorem revives_of_plain {kind : EventKind} (h : writesNodes kind = false) :
    ¬ Revives remaining kind := by
  intro hrevives
  cases kind <;> first | exact hrevives | cases h

end LeftAlive

/-!
## The sweep
-/

def appendedBy (activity : Activity) (action : WriterAction) : List NewEvent :=
  match activity, action with
  | .placing batch (some _) _, .append _ => batch
  | .pinned batch _ _, .append _ => batch
  | .idle, .accept _ batch _ => batch
  | .idle, .other news _ => news
  | _, _ => []

def outcomesOf (batch : List NewEvent) : List String :=
  batch.filterMap fun new =>
    match new.kind with
    | .nodeOutcomeRecorded payload => some payload.nodeId.text
    | _ => none

def Activity.remaining : Activity -> Option (List String)
  | .verb _ (.cancel nodes) => some nodes
  | .pinned batch _ (.verb _ (.cancel rest)) => some (outcomesOf batch ++ rest)
  | _ => none

section Sweep

variable {env : Environment} {scope : RepositoryScope} {streamId : OpaqueId}
  {Writer : Type} [DecidableEq Writer]

/--
While `writer` sweeps, nobody else commits an event that leaves a node alive
which the sweep is not still to come to.
-/
def SparesSweep (writer : Writer)
    (c : Configuration Writer (VerifiedStream env scope streamId.text) Activity)
    (turn : Writer × WriterAction) : Prop :=
  turn.1 ≠ writer -> forall remaining, (c.locals writer).remaining = some remaining ->
    forall new, new ∈ appendedBy (c.locals turn.1) turn.2 -> ¬ Revives remaining new.kind

/-- The completion a cancel commits, at the index it was decided for. -/
def CompletedAt (events : List EventEnvelope) (observed : Nat) : Prop :=
  exists (event : EventEnvelope) (payload : ExecutionCompleted),
    events[observed]? = some event ∧ event.kind = .executionCompleted payload ∧
      payload.status = .cancelled

structure EndsNode (batch : List NewEvent) (node : String) : Prop where
  recorded : exists (first : NewEvent) (rest : List NewEvent) (payload : NodeOutcomeRecorded),
    batch = first :: rest ∧ first.kind = .nodeOutcomeRecorded payload ∧
      payload.nodeId.text = node ∧ isTerminal payload.nextState = true ∧
      forall event, event ∈ rest -> writesNodes event.kind = false

/-- What a writer goes on to when no cancel is under way. -/
def Rests : Activity -> Prop
  | .placing .. | .pinned .. | .cancelled _ | .verb _ (.cancel _) => False
  | _ => True

/-- Where a cancel stands, and what it may rely on there. -/
def CancelSound (stream : VerifiedStream env scope streamId.text) : Activity -> Prop
  | .verb _ (.cancel nodes) => LeftAlive env stream.events nodes
  | .pinned batch _ (.verb _ (.cancel rest)) =>
      exists node, EndsNode batch node ∧ LeftAlive env stream.events (node :: rest)
  | .pinned batch observed (.cancelled head) =>
      head = observed ∧ observed <= stream.events.length ∧
        EndsTerminal env (stream.events.take observed) ∧
        exists (new : NewEvent) (payload : ExecutionCompleted),
          batch = [new] ∧ new.kind = .executionCompleted payload ∧ payload.status = .cancelled
  | .cancelled head =>
      head <= stream.events.length ∧ EndsTerminal env (stream.events.take head) ∧
        CompletedAt stream.events head
  | .placing _ _ next | .pinned _ _ next => Rests next
  | _ => True

variable {stream stream' : VerifiedStream env scope streamId.text}
  {activity activity' : Activity} {action : WriterAction}

variable {batch : List NewEvent} {call : VerbCall}

theorem EndsNode.outcomesOf (h : EndsNode batch node) :
    outcomesOf batch = [node] := by
  rcases h.recorded with ⟨first, rest, payload, rfl, hkind, hnode, _, hplain⟩
  unfold GraphHelm.outcomesOf
  rw [List.filterMap_cons, hkind]
  simp only [hnode]
  congr 1
  rw [List.filterMap_eq_nil_iff]
  intro new hmem
  have hwrites := hplain new hmem
  cases hother : new.kind
  all_goals first | rfl | (rw [hother] at hwrites; cases hwrites)

theorem EndsNode.appended {batch : List NewEvent} {node : String} {rest : List String}
    {position : Nat} {before after added : List EventEnvelope} (h : EndsNode batch node)
    (hleft : LeftAlive env before (node :: rest))
    (happended : Appended position batch before after added) :
    LeftAlive env after rest := by
  rcases h.recorded with ⟨first, others, payload, rfl, hkind, rfl, hterminal, hplain⟩
  cases added with
  | nil =>
      have hcarries := happended.carries
      cases hcarries
  | cons event later =>
      have hcarries := happended.carries
      rw [List.map_cons] at hcarries
      rcases List.cons.inj hcarries with ⟨hevent, hlater⟩
      have hfirst : event.kind = .nodeOutcomeRecorded payload :=
        (congrArg NewEvent.kind hevent).trans hkind
      rw [happended.extended, List.append_cons]
      refine (hleft.ended hfirst hterminal).append ?_
      intro other hmem
      refine revives_of_plain (hplain other.toNewEvent ?_)
      rw [← hlater]
      exact List.mem_map_of_mem hmem

theorem leftAlive_of_reads (hreads : Reads stream projection) :
    LeftAlive env stream.events (nonTerminalNodes projection) := by
  rcases hreads with ⟨folded, hfold, rfl⟩
  intro st hst node state hstate hlive
  rw [hfold] at hst
  cases hst
  unfold nonTerminalNodes
  refine List.mem_map.mpr ⟨(node, state), ?_, rfl⟩
  refine List.mem_filter.mpr (And.intro ?_ ?_)
  · exact ExtTreeMap.mem_toList_iff_getElem?_eq_some.mpr hstate
  · simp only [hlive, Bool.not_false]

theorem LeftAlive.endsTerminal (h : LeftAlive env stream.events [])
    (hreads : Reads stream projection) :
    EndsTerminal env stream.events := by
  rcases hreads with ⟨st, hfold, _⟩
  refine ⟨st, hfold, ?_⟩
  intro node state hstate
  by_contra hlive
  exact List.not_mem_nil (h st hfold node state hstate (by simpa using hlive))

theorem Rests.sound (h : Rests activity) : CancelSound stream activity := by
  cases activity with
  | verb verb task =>
      cases task <;> trivial
  | _ =>
      trivial

theorem BatchRecords.endsNode (h : BatchRecords projection node .cancelled batch) :
    EndsNode batch node := by
  rcases h with ⟨first, rest, payload, hbatch, hkind, hnode, _, hnext, hplain⟩
  have hterminal : isTerminal payload.nextState = true := by
    cases hcurrent : isTerminal (transitionRequest projection node .cancelled).current with
    | false =>
        rw [applyTransition_cancelled hcurrent rfl] at hnext
        rw [← Option.some.inj hnext]
        rfl
    | true =>
        rw [applyTransition_terminal hcurrent, if_neg] at hnext
        · cases hnext
        · intro hboth
          cases hboth.right
  exact EndsNode.mk ⟨first, rest, payload, hbatch, hkind, hnode, hterminal, hplain⟩

theorem beginResume_rests {history : List EventEnvelope} {graph : SuppliedGraph}
    {verifyGraph : Bool}
    (h : beginResume projection history call graph verifyGraph = some activity) :
    Rests activity := by
  unfold beginResume at h
  rcases Option.bind_eq_some_iff.mp h with ⟨executionId, _, h⟩
  split at h
  · cases h
  · cases h
    trivial

theorem beginApprove_rests (h : beginApprove projection call node = some activity) :
    Rests activity := by
  unfold beginApprove at h
  rcases Option.bind_eq_some_iff.mp h with ⟨executionId, _, h⟩
  dsimp only at h
  split at h
  · cases h
    trivial
  · cases h

theorem beginPause_sound {history : List EventEnvelope} {graph : Option SuppliedGraph}
    (h : beginPause projection history call graph = some activity) :
    CancelSound stream activity := by
  unfold beginPause at h
  rcases Option.bind_eq_some_iff.mp h with ⟨executionId, _, h⟩
  dsimp only at h
  split at h
  · cases h
  · cases h
    trivial

theorem beginCancel_sound (hreads : Reads stream projection)
    (h : beginCancel projection call = some activity) :
    CancelSound stream activity := by
  unfold beginCancel at h
  rcases Option.bind_eq_some_iff.mp h with ⟨executionId, _, h⟩
  split at h
  · cases h
  · cases h
    exact leftAlive_of_reads hreads

theorem concludeVerb_sound {verb : VerbRun} {task : VerbTask} (hreads : Reads stream projection)
    (hsound : CancelSound stream (.verb verb task))
    (h : concludeVerb verb task projection stream.events.length = some activity) :
    CancelSound stream activity := by
  unfold concludeVerb at h
  split at h
  · split at h
    · cases h
      trivial
    · cases h
  · split at h
    · cases h
    · cases h
      have hswept : LeftAlive env stream.events [] := hsound
      refine ⟨rfl, Nat.le_refl _, ?_, _, _, rfl, rfl, rfl⟩
      rw [List.take_length]
      exact hswept.endsTerminal hreads
  · cases h

theorem VerbTask.due_sound {verb : VerbRun} {task left : VerbTask} {outcome : NodeOutcome}
    {observed : Nat} (hdue : task.due = some (node, outcome, left))
    (hrecords : RecordsOn stream node outcome batch)
    (hsound : CancelSound stream (.verb verb task)) :
    CancelSound stream (.pinned batch observed (.verb verb left)) := by
  rcases hrecords with ⟨st, _, hbatch⟩
  cases task with
  | cancel nodes =>
      cases nodes with
      | nil =>
          cases hdue
      | cons other rest =>
          cases hdue
          exact ⟨node, hbatch.endsNode, hsound⟩
  | recover graph nodes =>
      cases nodes <;> cases hdue
      trivial
  | hold nodes =>
      cases nodes <;> cases hdue
      trivial
  | approve other =>
      cases hdue
      trivial

theorem CancelSound.appended {batch : List NewEvent} {observed : Nat} {next : Activity}
    {added : List EventEnvelope} (hsound : CancelSound stream (.pinned batch observed next))
    (happended : Appended (observed + 1) batch stream.events stream'.events added) :
    CancelSound stream' next := by
  cases next with
  | verb verb task =>
      cases task with
      | cancel rest =>
          rcases hsound with ⟨node, hends, hleft⟩
          exact hends.appended hleft happended
      | _ =>
          trivial
  | cancelled head =>
      rcases hsound with ⟨rfl, hbound, hterminal, new, payload, rfl, hkind, hstatus⟩
      have hlength : head = stream.events.length := Nat.succ.inj happended.expected
      rcases List.map_eq_singleton_iff.mp happended.carries with ⟨event, rfl, hevent⟩
      have hcompletes : event.kind = .executionCompleted payload :=
        (congrArg NewEvent.kind hevent).trans hkind
      have hextended := happended.extended
      refine ⟨?_, ?_, event, payload, ?_, hcompletes, hstatus⟩
      · rw [hextended, List.length_append]
        exact Nat.le_add_right_of_le hbound
      · rw [hextended, List.take_append_of_le_length hbound]
        exact hterminal
      · rw [hextended, hlength, List.getElem?_concat_length]
  | _ =>
      trivial

theorem WriterStep.cancelSound (h : WriterStep stream activity action stream' activity')
    (hsound : CancelSound stream activity) : CancelSound stream' activity' := by
  cases h with
  | resume _ hnext =>
      exact (beginResume_rests hnext).sound
  | approve _ hnext =>
      exact (beginApprove_rests hnext).sound
  | pause _ hnext =>
      exact beginPause_sound hnext
  | cancel hreads hnext =>
      exact beginCancel_sound hreads hnext
  | verbDue hdue hrecords =>
      exact VerbTask.due_sound hdue hrecords hsound
  | conclude hreads hnext =>
      exact concludeVerb_sound hreads hsound hnext
  | readNextSequence =>
      exact hsound
  | placed =>
      exact hsound.sound
  | pinned happended =>
      exact hsound.appended happended
  | _ =>
      trivial

theorem CancelSound.extended {added : List EventEnvelope}
    (hsound : CancelSound stream activity)
    (hextended : stream'.events = stream.events ++ added)
    (hspares : forall remaining, activity.remaining = some remaining ->
      forall event, event ∈ added -> ¬ Revives remaining event.kind) :
    CancelSound stream' activity := by
  cases activity with
  | verb verb task =>
      cases task with
      | cancel nodes =>
          show LeftAlive env stream'.events nodes
          rw [hextended]
          exact LeftAlive.append hsound (hspares nodes rfl)
      | _ =>
          trivial
  | pinned batch observed next =>
      cases next with
      | verb verb task =>
          cases task with
          | cancel rest =>
              rcases hsound with ⟨node, hends, hleft⟩
              have hremaining : Activity.remaining (.pinned batch observed
                  (.verb verb (.cancel rest))) = some (node :: rest) := by
                show some (GraphHelm.outcomesOf batch ++ rest) = some (node :: rest)
                rw [hends.outcomesOf]
                rfl
              refine ⟨node, hends, ?_⟩
              rw [hextended]
              exact hleft.append (hspares _ hremaining)
          | _ =>
              trivial
      | cancelled head =>
          rcases hsound with ⟨hhead, hbound, hterminal, hbatch⟩
          refine ⟨hhead, ?_, ?_, hbatch⟩
          · rw [hextended, List.length_append]
            exact Nat.le_add_right_of_le hbound
          · rw [hextended, List.take_append_of_le_length hbound]
            exact hterminal
      | _ =>
          exact hsound
  | cancelled head =>
      rcases hsound with ⟨hbound, hterminal, event, payload, hevent, hkind, hstatus⟩
      refine ⟨?_, ?_, event, payload, ?_, hkind, hstatus⟩
      · rw [hextended, List.length_append]
        exact Nat.le_add_right_of_le hbound
      · rw [hextended, List.take_append_of_le_length hbound]
        exact hterminal
      · rw [hextended, List.getElem?_append_left (List.getElem?_eq_some_iff.mp hevent).1]
        exact hevent
  | _ =>
      trivial

theorem WriterStep.kinds_appended (property : EventKind -> Prop)
    (h : WriterStep stream activity action stream' activity')
    (hbatch : forall new, new ∈ appendedBy activity action -> property new.kind) :
    exists added, stream'.events = stream.events ++ added ∧
      forall event, event ∈ added -> property event.kind := by
  cases h with
  | placed happended | pinned happended | accept _ happended | other _ happended =>
      exact kinds_of_appended happended hbatch
  | _ =>
      exact ⟨[], (List.append_nil _).symm, fun event hmem => absurd hmem List.not_mem_nil⟩

theorem cancelSound_of_turn {writer : Writer}
    {c c' : Configuration Writer (VerifiedStream env scope streamId.text) Activity}
    {turn : Writer × WriterAction} (hsound : CancelSound c.shared (c.locals writer))
    (hspares : SparesSweep writer c turn)
    (hstep : interleave writerMove c turn = some c') :
    CancelSound c'.shared (c'.locals writer) := by
  rcases interleave_eq_some.mp hstep with ⟨stream', activity', hmove, rfl⟩
  have hwriter := writerMove_step hmove
  show CancelSound stream' (Function.update c.locals turn.1 activity' writer)
  by_cases hown : turn.1 = writer
  · subst hown
    rw [Function.update_self]
    exact hwriter.cancelSound hsound
  · rw [Function.update_of_ne (Ne.symm hown)]
    have hkinds : exists added, stream'.events = c.shared.events ++ added ∧
        forall event, event ∈ added -> forall remaining,
          (c.locals writer).remaining = some remaining -> ¬ Revives remaining event.kind :=
      hwriter.kinds_appended (fun kind => forall remaining,
        (c.locals writer).remaining = some remaining -> ¬ Revives remaining kind)
        fun new hmem remaining hremaining => hspares hown remaining hremaining new hmem
    rcases hkinds with ⟨added, hextended, hadded⟩
    exact hsound.extended hextended fun remaining hremaining event hmem =>
      hadded event hmem remaining hremaining

/--
In every run in which, while `writer` sweeps, nobody else commits an event that
leaves a node alive the sweep is not still to come to: where its cancel has
completed the execution, every node is terminal.
-/
theorem cancel_leaves_no_node_alive {writer : Writer}
    {c c' : Configuration Writer (VerifiedStream env scope streamId.text) Activity}
    {turns : List (Writer × WriterAction)} {observed : Nat}
    (hidle : c.locals writer = .idle)
    (hmeet : StepsMeet (interleave writerMove) (SparesSweep writer) c turns)
    (hrun : run (interleave writerMove) c turns = some c')
    (hcancelled : c'.locals writer = .cancelled observed) :
    CompletedAt c'.shared.events observed ∧
      EndsTerminal env (c'.shared.events.take observed) := by
  have hstart : CancelSound c.shared (c.locals writer) := by
    rw [hidle]
    trivial
  have hend : CancelSound c'.shared (c'.locals writer) :=
    @run_invariant_of_steps _ _ _ (fun c => CancelSound c.shared (c.locals writer)) _
      cancelSound_of_turn _ _ _ hstart hmeet hrun
  rw [hcancelled] at hend
  exact And.intro hend.right.right hend.right.left

end Sweep

namespace Sample

def cancelledAt (observed : Nat) : Activity -> Bool
  | .cancelled head => head = observed
  | _ => false

theorem of_cancelledAt {activity : Activity} {observed : Nat}
    (h : cancelledAt observed activity = true) : activity = .cancelled observed := by
  unfold cancelledAt at h
  split at h
  · rw [of_decide_eq_true h]
  · cases h

def completesCancelled (event : EventEnvelope) : Bool :=
  match event.kind with
  | .executionCompleted payload => payload.status = .cancelled
  | _ => false

/-- A cancel of the driven execution, with nobody else at work. -/
def cancelTurns : List (Nat × WriterAction) :=
  [(1, .cancel (verbCall "cancel")), (1, .record fun index => id s!"end-{index}"),
    (1, .append (stamps 4)), (1, .conclude), (1, .append (stamps 5))]

/-- An execution of two nodes that has started, and that nobody drives yet. -/
def undriven : Configuration Nat (VerifiedStream env scope streamId.text) Activity :=
  { shared := verified (parked.take 1)
    locals := fun _ => .idle }

def twoNodes : GraphSpec :=
  { nodes := ((∅ : ExtTreeMap String GraphNode).insert "node" { customs := .absent }).insert
      "other" { customs := .absent }
    edges := []
    maxParallelModelCalls := none }

def approving (index : Nat) : List (Nat × WriterAction) :=
  [(0, .record fun offset => id s!"approve-{index}-{offset}"), (0, .readNextSequence),
    (0, .append (stamps index))]

def racedTurns : List (Nat × WriterAction) :=
  [(0, .drive { driveCall with spec := twoNodes, synchronous := false }), (0, .reread)] ++
    approving 1 ++
    [(1, .cancel (verbCall "cancel")), (1, .record fun index => id s!"end-{index}"),
      (1, .append (stamps 2))] ++
    approving 3 ++
    [(1, .conclude), (1, .append (stamps 4))]

end Sample

theorem cancel_leaves_no_node_alive_when_alone : exists c',
    run (interleave writerMove) Sample.crashed Sample.cancelTurns = some c' ∧
      CompletedAt c'.shared.events 5 ∧ EndsTerminal Sample.env (c'.shared.events.take 5) := by
  have hruns : ((run (interleave writerMove) Sample.crashed Sample.cancelTurns).any
      fun c' => Sample.cancelledAt 5 (c'.locals 1)) = true := by decide +kernel
  rcases (Option.any_eq_true _ _).mp hruns with ⟨c', hrun, hends⟩
  have hown : forall turn, turn ∈ Sample.cancelTurns -> turn.1 = 1 := by
    simp [Sample.cancelTurns]
  have hmeet : StepsMeet (interleave writerMove) (SparesSweep 1) Sample.crashed
      Sample.cancelTurns :=
    stepsMeet_of_actions fun turn hmem c hother => absurd (hown turn hmem) hother
  exact ⟨c', hrun, cancel_leaves_no_node_alive rfl hmeet hrun (Sample.of_cancelledAt hends)⟩

/-- The cancel completes the execution behind an approval of a node it did not sweep. -/
theorem cancel_leaves_a_node_ready : exists c' st,
    run (interleave writerMove) Sample.undriven Sample.racedTurns = some c' ∧
      c'.locals 1 = .cancelled 4 ∧ CompletedAt c'.shared.events 4 ∧
      foldHistory Sample.env (c'.shared.events.take 4) = some st ∧
      st.projection.nodeStates["other"]? = some .ready ∧
      ¬ EndsTerminal Sample.env (c'.shared.events.take 4) := by
  have hruns : ((run (interleave writerMove) Sample.undriven Sample.racedTurns).any
      fun c' => Sample.cancelledAt 4 (c'.locals 1) &&
        c'.shared.events[4]?.any Sample.completesCancelled &&
          (foldHistory Sample.env (c'.shared.events.take 4)).any fun st =>
            st.projection.nodeStates["other"]? = some .ready) = true := by decide +kernel
  rcases (Option.any_eq_true _ _).mp hruns with ⟨c', hrun, hends⟩
  simp only [Bool.and_eq_true] at hends
  rcases hends with ⟨⟨hlocal, hcompleted⟩, hfolded⟩
  rcases (Option.any_eq_true _ _).mp hcompleted with ⟨event, hevent, hcompletes⟩
  rcases (Option.any_eq_true _ _).mp hfolded with ⟨st, hst, hready⟩
  have hstate := of_decide_eq_true hready
  refine ⟨c', st, hrun, Sample.of_cancelledAt hlocal, ?_, hst, hstate, ?_⟩
  · unfold Sample.completesCancelled at hcompletes
    split at hcompletes
    · rename_i payload hkind
      exact ⟨event, payload, hevent, hkind, of_decide_eq_true hcompletes⟩
    · cases hcompletes
  · intro hterminal
    rcases hterminal with ⟨folded, hfold, hall⟩
    rw [hst] at hfold
    cases hfold
    have hlive := hall "other" .ready hstate
    cases hlive

end GraphHelm
