import GraphHelm.Runtime.Writers

/-!
# No blind re-dispatch after a crash

A node that was running when its driver stopped is started again only after an
owner has approved it.  Between the crash and that approval the node is in a
state no start is accepted in, and nobody holds it in a list of nodes to start.
-/

namespace GraphHelm

open Std
open ErrorState OrderedMap VerifiedStream

/-!
## Withheld nodes
-/

/-- The states no start is accepted in, and that only an approval leads out of. -/
def isWithheld : NodeState -> Bool
  | .draft | .linting | .ready | .queued | .waitingInput | .waitingCapacity | .paused => false
  | _ => true

theorem applyTransition_withheld {request : TransitionRequest} {nextState : NodeState}
    (hcurrent : isWithheld request.current = true)
    (houtcome : request.outcome = .interrupted ∨ request.outcome = .paused ∨
      request.outcome = .cancelled)
    (h : applyTransition request = some nextState) : isWithheld nextState = true := by
  rcases request with ⟨current, outcome, attempts, identical⟩
  rcases houtcome with hcase | hcase | hcase
  all_goals
    cases hcase
    cases current <;> first | (cases h <;> rfl) | cases hcurrent

def Withholds (node : String) : EventKind -> Prop
  | .nodeOutcomeRecorded payload =>
      payload.nodeId.text = node ->
        payload.outcome ≠ .started ∧ isWithheld payload.nextState = true
  | .nodeStateChanged payload => payload.nodeId.text ≠ node
  | _ => True

/-- A stream whose readers all find `node` withheld. -/
def Withheld (env : Environment) (node : String) (events : List EventEnvelope) : Prop :=
  forall st, foldHistory env events = some st ->
    exists state, st.projection.nodeStates[node]? = some state ∧ isWithheld state = true

section Withheld

variable {env : Environment} {node : String} {kind : EventKind}

theorem withholds_of_unstated (h : statesNode kind = false) : Withholds node kind := by
  cases kind <;> trivial

theorem withholds_of_plain (h : writesNodes kind = false) : Withholds node kind := by
  apply withholds_of_unstated
  cases kind <;> first | rfl | cases h

theorem withheld_of_accepted {event : EventEnvelope} {st st' : FoldState} {state : NodeState}
    (h : applyProjectionEvent env event st = .ok () st')
    (hwithholds : Withholds node event.kind)
    (hstate : st.projection.nodeStates[node]? = some state)
    (hwithheld : isWithheld state = true) :
    exists state', st'.projection.nodeStates[node]? = some state' ∧
      isWithheld state' = true := by
  have hafter : st'.projection.nodeStates[node]? =
      (writtenState st.projection node event).or st.projection.nodeStates[node]? :=
    nodeState_of_accepted h
  unfold writtenState at hafter
  cases hkind : event.kind
  all_goals simp only [hkind] at hafter hwithholds
  case nodeOutcomeRecorded payload =>
    by_cases hsame : payload.nodeId.text = node
    · rw [if_pos hsame] at hafter
      exact ⟨_, hafter, (hwithholds hsame).right⟩
    · rw [if_neg hsame] at hafter
      exact ⟨state, hafter.trans hstate, hwithheld⟩
  case nodeStateChanged payload =>
    rw [if_neg hwithholds] at hafter
    exact ⟨state, hafter.trans hstate, hwithheld⟩
  case ghostNodeProposed payload =>
    by_cases hsame : payload.nodeId.text = node
    · rw [if_pos hsame] at hafter
      exact ⟨_, hafter, rfl⟩
    · rw [if_neg hsame] at hafter
      exact ⟨state, hafter.trans hstate, hwithheld⟩
  case completionCleared payload =>
    split at hafter
    · exact ⟨_, hafter, rfl⟩
    · exact ⟨state, hafter.trans hstate, hwithheld⟩
  all_goals
    exact ⟨state, hafter.trans hstate, hwithheld⟩

theorem Withheld.append {before added : List EventEnvelope} (h : Withheld env node before)
    (hadded : forall event, event ∈ added -> Withholds node event.kind) :
    Withheld env node (before ++ added) := by
  induction added using List.reverseRecOn with
  | nil =>
      rw [List.append_nil]
      exact h
  | append_singleton earlier event ih =>
      intro st hst
      rw [← List.append_assoc] at hst
      rcases foldHistory_concat.mp hst with ⟨middle, hmiddle, haccepted⟩
      have hearlier := ih fun other hmem => hadded other (List.mem_append_left _ hmem)
      rcases hearlier middle hmiddle with ⟨state, hstate, hwithheld⟩
      have hwithholds := hadded event (List.mem_append_right _ List.mem_cons_self)
      exact withheld_of_accepted haccepted hwithholds hstate hwithheld

end Withheld

/-!
## Writers with nothing planned for the node
-/

def DrivePhase.nodes : DrivePhase -> List String
  | .approving untouched => untouched
  | .releasing held => held
  | .dispatching plan => plan
  | .starting node _ plan => node :: plan
  | _ => []

def Drive.Spares (drive : Drive) (node : String) : Prop :=
  node ∉ drive.phase.nodes ∧ node ∉ drive.inFlight

def RecordsApproval (node : String) (batch : List NewEvent) : Prop :=
  exists (new : NewEvent) (payload : NodeOutcomeRecorded),
    new ∈ batch ∧ new.kind = .nodeOutcomeRecorded payload ∧ payload.nodeId.text = node ∧
      payload.outcome = .approved

def StartsNot (node : String) (kind : EventKind) : Prop :=
  forall payload, kind = .nodeOutcomeRecorded payload -> payload.nodeId.text = node ->
    payload.outcome ≠ .started

def WithholdsOrApproves (node : String) (batch : List NewEvent) : Prop :=
  (forall new, new ∈ batch -> Withholds node new.kind) ∨
    RecordsApproval node batch ∧ forall new, new ∈ batch -> StartsNot node new.kind

def Activity.Spares (node : String) : Activity -> Prop
  | .driving drive => drive.Spares node
  | .placing batch _ next =>
      (forall new, new ∈ batch -> Withholds node new.kind) ∧ next.Spares node
  | .pinned batch _ next => WithholdsOrApproves node batch ∧ next.Spares node
  | _ => True

/-- The step that appends an owner's approval of the node, or the governor's for an owner. -/
def ApprovesNode {env : Environment} {scope : RepositoryScope} {streamId : OpaqueId}
    (node : String) (_ : VerifiedStream env scope streamId.text) (activity : Activity)
    (action : WriterAction) : Prop :=
  match activity, action with
  | .pinned batch _ _, .append _ => RecordsApproval node batch
  | .idle, .accept _ batch _ => RecordsApproval node batch
  | _, _ => False

variable {batch : List NewEvent} {other : String}

section Spares

variable {node : String}

theorem Drive.start_spares {call : DriveCall} : (Drive.start call).Spares node :=
  And.intro List.not_mem_nil List.not_mem_nil

theorem Drive.turn_spares {drive next : Drive} {choice : Drive.Turn}
    (h : drive.turn choice = some next) (hspares : drive.Spares node) : next.Spares node := by
  rcases hspares with ⟨hphase, hflight⟩
  unfold Drive.turn at h
  split at h
  · rename_i other rest hcurrent
    cases h
    rw [hcurrent] at hphase
    exact And.intro (fun hmem => hphase (List.mem_cons_of_mem other hmem)) hflight
  · rename_i other rest hcurrent
    cases h
    rw [hcurrent] at hphase
    refine And.intro (fun hmem => hphase (List.mem_cons_of_mem other hmem)) ?_
    intro hmem
    rcases List.mem_cons.mp hmem with hsame | hin
    · exact hphase (hsame ▸ List.mem_cons_self)
    · exact hflight hin
  · rename_i plan other hcurrent
    cases h
    rw [hcurrent] at hphase
    exact And.intro hphase fun hmem => hflight (List.mem_filter.mp hmem).left
  · cases h
    exact And.intro List.not_mem_nil hflight
  · split at h
    · cases h
    · cases h
      exact And.intro List.not_mem_nil hflight
  · split at h
    · cases h
    · cases h
      exact And.intro List.not_mem_nil hflight
  · cases h

section Reread

variable {drive next : Drive} {projection : ExecutionProjection} {state : NodeState}

theorem Drive.planned_spares (h : drive.planned projection = some next)
    (hstate : projection.nodeStates[node]? = some state) (hwithheld : isWithheld state = true)
    (hflight : node ∉ drive.inFlight) : next.Spares node := by
  unfold Drive.planned at h
  split at h
  · cases h
  · rename_i candidates hcandidates
    dsimp only at h
    split at h
    · cases h
    · rename_i plan hplan
      split at h
      · cases h
        exact And.intro List.not_mem_nil hflight
      · cases h
        refine And.intro ?_ hflight
        intro hmem
        split at hplan
        · cases hplan
          exact List.not_mem_nil hmem
        · have hfresh := (dispatchPlan_eq_ok hplan).left hmem
          have hcandidate := (List.mem_filter.mp hfresh).left
          rcases (state_of_candidate hcandidates hcandidate).left with hready | hqueued
          · rw [hready] at hstate
            cases hstate
            cases hwithheld
          · rw [hqueued] at hstate
            cases hstate
            cases hwithheld

theorem Drive.reread_spares (h : drive.reread projection = some next)
    (hstate : projection.nodeStates[node]? = some state) (hwithheld : isWithheld state = true)
    (hspares : drive.Spares node) : next.Spares node := by
  rcases hspares with ⟨hphase, hflight⟩
  unfold Drive.reread at h
  split at h
  · split at h
    · cases h
    · cases h
      refine And.intro ?_ hflight
      intro hmem
      have hdraft := of_decide_eq_true (List.mem_filter.mp hmem).right
      rw [hstate] at hdraft
      cases hdraft
      cases hwithheld
  · split at h
    · exact Drive.planned_spares h hstate hwithheld hflight
    · rename_i other rest hheld
      cases h
      refine And.intro ?_ hflight
      intro hmem
      change node ∈ other :: rest at hmem
      rw [← hheld] at hmem
      have hpaused := (List.mem_filter.mp hmem).right
      simp only [Bool.and_eq_true, decide_eq_true_eq] at hpaused
      have hpaused := hpaused.left.left
      rw [hstate] at hpaused
      cases hpaused
      cases hwithheld
  · exact Drive.planned_spares h hstate hwithheld hflight
  · rename_i other rest hcurrent
    rw [hcurrent] at hphase
    split at h
    · cases h
      exact And.intro List.not_mem_nil hflight
    · split at h
      · cases h
        exact And.intro hphase hflight
      · cases h
        exact And.intro hphase hflight
  · cases h

end Reread

theorem Drive.due_spares {drive : Drive} {due : DueOutcome} (h : drive.due = some due)
    (hspares : drive.Spares node) : due.node ≠ node ∧ due.next.Spares node := by
  rcases hspares with ⟨hphase, hflight⟩
  unfold Drive.due at h
  split at h
  · rename_i _ other rest hcurrent
    cases h
    rw [hcurrent] at hphase
    exact And.intro (fun hsame => hphase (hsame ▸ List.mem_cons_self))
      (And.intro (fun hmem => hphase (List.mem_cons_of_mem other hmem)) hflight)
  · rename_i _ other rest hcurrent
    cases h
    rw [hcurrent] at hphase
    exact And.intro (fun hsame => hphase (hsame ▸ List.mem_cons_self))
      (And.intro (fun hmem => hphase (List.mem_cons_of_mem other hmem)) hflight)
  · rename_i _ other hops rest hcurrent
    cases h
    rw [hcurrent] at hphase
    exact And.intro (fun hsame => hphase (hsame ▸ List.mem_cons_self))
      (And.intro hphase hflight)
  · rename_i other rest hcurrent hflying
    cases h
    rw [hflying] at hflight
    refine And.intro (fun hsame => hflight (hsame ▸ List.mem_cons_self)) ?_
    refine And.intro ?_ fun hmem => hflight (List.mem_cons_of_mem other hmem)
    rw [hcurrent]
    exact List.not_mem_nil
  · cases h

variable {outcome : NodeOutcome}

theorem BatchRecords.withholds {projection : ExecutionProjection}
    (h : BatchRecords projection other outcome batch) (hother : other ≠ node) :
    forall new, new ∈ batch -> Withholds node new.kind := by
  rcases h with ⟨first, rest, payload, rfl, hkind, hnode, _, _, hplain⟩
  intro new hmem
  rcases List.mem_cons.mp hmem with rfl | hin
  · rw [hkind]
    intro hsame
    exact absurd (hnode.symm.trans hsame) hother
  · exact withholds_of_plain (hplain new hin)

theorem VerbTask.due_outcome {task left : VerbTask} (h : task.due = some (other, outcome, left)) :
    outcome = .approved ∨ outcome = .interrupted ∨ outcome = .paused ∨ outcome = .cancelled := by
  unfold VerbTask.due at h
  split at h <;> cases h <;> simp

theorem Withholds.startsNot {kind : EventKind} (h : Withholds node kind) :
    StartsNot node kind := by
  intro payload hkind hnode
  rw [hkind] at h
  exact (h hnode).left

theorem BatchRecords.withholds_or_approves {projection : ExecutionProjection} {state : NodeState}
    (h : BatchRecords projection other outcome batch)
    (houtcome : outcome = .approved ∨ outcome = .interrupted ∨ outcome = .paused ∨
      outcome = .cancelled) (hstate : projection.nodeStates[node]? = some state)
    (hwithheld : isWithheld state = true) :
    WithholdsOrApproves node batch := by
  by_cases hother : other = node
  · rcases h with ⟨first, rest, payload, rfl, hkind, hnode, hpayload, hnext, hplain⟩
    rcases houtcome with happroved | houtcome
    · refine Or.inr (And.intro ⟨first, payload, List.mem_cons_self, hkind,
        hnode.trans hother, hpayload.trans happroved⟩ ?_)
      intro new hmem
      rcases List.mem_cons.mp hmem with rfl | hin
      · intro recorded hrecorded _
        rw [hkind] at hrecorded
        cases hrecorded
        rw [hpayload, happroved]
        decide
      · exact (withholds_of_plain (hplain new hin)).startsNot
    · refine Or.inl ?_
      intro new hmem
      rcases List.mem_cons.mp hmem with rfl | hin
      · rw [hkind]
        intro _
        have hcurrent : isWithheld (transitionRequest projection other outcome).current = true := by
          unfold transitionRequest
          dsimp only
          rw [hother, hstate]
          exact hwithheld
        refine And.intro ?_ (applyTransition_withheld hcurrent houtcome hnext)
        rw [hpayload]
        intro hstarted
        rw [hstarted] at houtcome
        simp at houtcome
      · exact withholds_of_plain (hplain new hin)
  · exact Or.inl (h.withholds hother)

theorem startsNot_of_acceptance {acceptance : DraftAcceptance}
    (hkinds : some (batch.map NewEvent.kind) = acceptance.kinds) :
    forall new, new ∈ batch -> StartsNot node new.kind := by
  intro new hmem payload hkind _
  have hwrites : writesNodes new.kind = true := by
    rw [hkind]
    rfl
  rcases DraftAcceptance.mem_kinds hkinds.symm (List.mem_map_of_mem hmem) hwrites with
    hghost | ⟨entry, _, happroval⟩
  · rcases List.mem_map.mp hghost with ⟨proposed, _, hproposed⟩
    rw [← hproposed] at hkind
    cases hkind
  · rw [happroval] at hkind
    cases hkind
    intro hstarted
    cases hstarted

theorem withholds_of_acceptance {acceptance : DraftAcceptance}
    (hkinds : some (batch.map NewEvent.kind) = acceptance.kinds)
    (hunapproved : ¬ RecordsApproval node batch) :
    forall new, new ∈ batch -> Withholds node new.kind := by
  intro new hmem
  cases hwrites : writesNodes new.kind with
  | false =>
      exact withholds_of_plain hwrites
  | true =>
      rcases DraftAcceptance.mem_kinds hkinds.symm (List.mem_map_of_mem hmem) hwrites with
        hghost | ⟨entry, _, hkind⟩
      · rcases List.mem_map.mp hghost with ⟨proposed, _, hkind⟩
        rw [← hkind]
        trivial
      · rw [hkind]
        intro hsame
        exact absurd ⟨new, _, hmem, hkind, hsame, rfl⟩ hunapproved

end Spares

/-!
## Runs
-/

section Runs

variable {env : Environment} {scope : RepositoryScope} {streamId : OpaqueId} {node : String}
  {stream stream' : VerifiedStream env scope streamId.text} {activity activity' : Activity}
  {action : WriterAction}

variable {projection : ExecutionProjection} {call : VerbCall}

theorem Withheld.reads (h : Withheld env node stream.events) (hreads : Reads stream projection) :
    exists state, projection.nodeStates[node]? = some state ∧ isWithheld state = true := by
  rcases hreads with ⟨st, hfold, rfl⟩
  exact h st hfold

theorem beginResume_spares {history : List EventEnvelope} {graph : SuppliedGraph}
    {verifyGraph : Bool}
    (h : beginResume projection history call graph verifyGraph = some activity) :
    activity.Spares node := by
  unfold beginResume at h
  rcases Option.bind_eq_some_iff.mp h with ⟨executionId, _, h⟩
  split at h
  · cases h
  · cases h
    trivial

theorem beginCancel_spares (h : beginCancel projection call = some activity) :
    activity.Spares node := by
  unfold beginCancel at h
  rcases Option.bind_eq_some_iff.mp h with ⟨executionId, _, h⟩
  split at h
  · cases h
  · cases h
    trivial

theorem beginApprove_spares (h : beginApprove projection call other = some activity) :
    activity.Spares node := by
  unfold beginApprove at h
  rcases Option.bind_eq_some_iff.mp h with ⟨executionId, _, h⟩
  dsimp only at h
  split at h
  · cases h
    trivial
  · cases h

theorem withholds_event {verb : VerbRun} {kind : EventKind} (h : Withholds node kind) :
    forall new, new ∈ [verb.event kind] -> Withholds node new.kind := by
  intro new hmem
  rw [List.mem_singleton.mp hmem]
  exact h

theorem beginPause_spares {history : List EventEnvelope} {graph : Option SuppliedGraph}
    (h : beginPause projection history call graph = some activity) : activity.Spares node := by
  unfold beginPause at h
  rcases Option.bind_eq_some_iff.mp h with ⟨executionId, _, h⟩
  dsimp only at h
  split at h
  · cases h
  · cases h
    exact And.intro (Or.inl (withholds_event trivial)) trivial

theorem concludeVerb_spares {verb : VerbRun} {task : VerbTask} {observed : Nat}
    (h : concludeVerb verb task projection observed = some activity) :
    activity.Spares node := by
  unfold concludeVerb at h
  split at h
  · split at h
    · cases h
      exact And.intro (Or.inl (withholds_event trivial)) Drive.start_spares
    · cases h
  · split at h
    · cases h
    · cases h
      exact And.intro (Or.inl (withholds_event trivial)) trivial
  · cases h

theorem kinds_of_appended {property : EventKind -> Prop} {position : Nat}
    {before after added : List EventEnvelope} (h : Appended position batch before after added)
    (hbatch : forall new, new ∈ batch -> property new.kind) :
    exists added, after = before ++ added ∧
      forall event, event ∈ added -> property event.kind := by
  refine ⟨added, h.extended, ?_⟩
  intro event hmem
  rcases h.mem_kind hmem with ⟨new, hnew, hkind⟩
  rw [hkind]
  exact hbatch new hnew

theorem WriterStep.withholds (h : WriterStep stream activity action stream' activity')
    (hwithheld : Withheld env node stream.events) (hspares : activity.Spares node)
    (hunapproved : ¬ ApprovesNode node stream activity action) :
    (exists added, stream'.events = stream.events ++ added ∧
        forall event, event ∈ added -> Withholds node event.kind) ∧
      activity'.Spares node := by
  have hquiet : exists added, stream.events = stream.events ++ added ∧
      forall event, event ∈ added -> Withholds node event.kind :=
    ⟨[], (List.append_nil _).symm, fun event hmem => absurd hmem List.not_mem_nil⟩
  cases h with
  | abandon =>
      exact And.intro hquiet trivial
  | drive =>
      exact And.intro hquiet Drive.start_spares
  | turn hturn =>
      exact And.intro hquiet (Drive.turn_spares hturn hspares)
  | reread hreads hnext =>
      rcases hwithheld.reads hreads with ⟨state, hstate, hstateWithheld⟩
      exact And.intro hquiet (Drive.reread_spares hnext hstate hstateWithheld hspares)
  | due hdue hrecords =>
      rcases Drive.due_spares hdue hspares with ⟨hother, hnext⟩
      rcases hrecords with ⟨st, _, hbatch⟩
      exact And.intro hquiet (And.intro (hbatch.withholds hother) hnext)
  | finish hflight hrecords =>
      rcases hrecords with ⟨st, _, hbatch⟩
      have hother : _ ≠ node := fun hsame => hspares.right (hsame ▸ hflight)
      exact And.intro hquiet
        (And.intro (hbatch.withholds hother)
          (And.intro hspares.left fun hmem => hspares.right (List.mem_filter.mp hmem).left))
  | note hplain =>
      exact And.intro hquiet
        (And.intro (fun new hmem => withholds_of_plain (hplain new hmem)) hspares)
  | settle hplain =>
      exact And.intro hquiet
        (And.intro (fun new hmem => withholds_of_plain (hplain new hmem)) trivial)
  | readNextSequence =>
      exact And.intro hquiet hspares
  | resume hreads hnext =>
      exact And.intro hquiet (beginResume_spares hnext)
  | pause hreads hnext =>
      exact And.intro hquiet (beginPause_spares hnext)
  | cancel hreads hnext =>
      exact And.intro hquiet (beginCancel_spares hnext)
  | approve hreads hnext =>
      exact And.intro hquiet (beginApprove_spares hnext)
  | verbDue hdue hrecords =>
      rcases hrecords with ⟨st, hfold, hbatch⟩
      rcases hwithheld st hfold with ⟨state, hstate, hstateWithheld⟩
      exact And.intro hquiet
        (And.intro
          (hbatch.withholds_or_approves (VerbTask.due_outcome hdue) hstate hstateWithheld)
          trivial)
  | conclude hreads hnext =>
      exact And.intro hquiet (concludeVerb_spares hnext)
  | placed happended =>
      exact And.intro (kinds_of_appended happended hspares.left) hspares.right
  | pinned happended =>
      rcases hspares.left with hbatch | happroves
      · exact And.intro (kinds_of_appended happended hbatch) hspares.right
      · exact absurd happroves.left hunapproved
  | accept hkinds happended =>
      exact And.intro (kinds_of_appended happended (withholds_of_acceptance hkinds hunapproved)) trivial
  | other hplain happended =>
      exact And.intro
        (kinds_of_appended happended fun new hmem => withholds_of_unstated (hplain new hmem))
        trivial

theorem WriterStep.startsNot (h : WriterStep stream activity action stream' activity')
    (hwithheld : Withheld env node stream.events) (hspares : activity.Spares node) :
    exists added, stream'.events = stream.events ++ added ∧
      forall event, event ∈ added -> StartsNot node event.kind := by
  by_cases happroves : ApprovesNode node stream activity action
  · cases h with
    | pinned happended =>
        refine kinds_of_appended happended ?_
        rcases hspares.left with hbatch | hbatch
        · exact fun new hmem => (hbatch new hmem).startsNot
        · exact hbatch.right
    | accept hkinds happended =>
        exact kinds_of_appended happended (startsNot_of_acceptance hkinds)
    | abandon =>
        cases activity <;> exact happroves.elim
    | _ =>
        exact happroves.elim
  · rcases (h.withholds hwithheld hspares happroves).left with ⟨added, hadded, hevents⟩
    exact ⟨added, hadded, fun event hmem => (hevents event hmem).startsNot⟩

/-- Between the crash of a node's driver and the first approval, every writer withholds it. -/
theorem withheld_guarantees (node : String) :
    Guarantees (@writerMove env scope streamId)
      (fun stream activity action => ¬ ApprovesNode node stream activity action)
      (fun stream => Withheld env node stream.events) (fun _ activity => activity.Spares node) := by
  refine ⟨?_, ?_, ?_⟩
  · intro s l a s' l' hshared hlocal hcondition hmove
    rcases (writerMove_step hmove).withholds hshared hlocal hcondition with
      ⟨⟨added, hadded, hevents⟩, _⟩
    show Withheld env node s'.events
    rw [hadded]
    exact hshared.append hevents
  · intro s l a s' l' hshared hlocal hcondition hmove
    exact ((writerMove_step hmove).withholds hshared hlocal hcondition).right
  · intro s l a s' l' _ _ _ _ other hother
    exact hother

def StartsNode {Writer : Type} [DecidableEq Writer]
    (node : String) (c c' : Configuration Writer (VerifiedStream env scope streamId.text)
      Activity) : Prop :=
  exists (added : List EventEnvelope) (event : EventEnvelope) (payload : NodeOutcomeRecorded),
    c'.shared.events = c.shared.events ++ added ∧ event ∈ added ∧
      event.kind = .nodeOutcomeRecorded payload ∧ payload.nodeId.text = node ∧
      payload.outcome = .started

/--
Whatever resumes, drives and owner verbs run after the driver of a running node
has stopped, in any order: before a start of that node is committed, an owner's
approval of it has been.
-/
theorem no_start_before_approval {Writer : Type} [DecidableEq Writer]
    {c middle c' : Configuration Writer (VerifiedStream env scope streamId.text) Activity}
    {turns : List (Writer × WriterAction)} {turn : Writer × WriterAction}
    {projection : ExecutionProjection}
    (hcrash : replay env scope streamId.text c.shared.events = .ok projection)
    (hrunning : projection.nodeStates[node]? = some .running)
    (hidle : forall writer, c.locals writer = .idle)
    (hrun : run (interleave writerMove) c turns = some middle)
    (hturn : interleave writerMove middle turn = some c')
    (hstarts : StartsNode node middle c') :
    exists before approval after between,
      turns = before ++ approval :: after ∧
        run (interleave writerMove) c before = some between ∧
        AtTurn (ApprovesNode node) between approval := by
  have hstart : Holds (fun stream : VerifiedStream env scope streamId.text =>
      Withheld env node stream.events) (fun _ activity => Activity.Spares node activity) c := by
    refine ⟨?_, ?_⟩
    · intro st hst
      rcases replay_eq_ok_iff.mp hcrash with ⟨_, folded, hfold, hprojection⟩
      rw [hfold] at hst
      cases hst
      rw [hprojection]
      exact ⟨.running, hrunning, rfl⟩
    · intro writer
      rw [hidle writer]
      trivial
  by_contra hnone
  -- Without an approval the whole run withholds the node, and so does the turn after it.
  have hmeet : StepsMeet (interleave writerMove)
      (AtTurn fun stream activity action => ¬ ApprovesNode node stream activity action) c
      turns := by
    by_contra hfails
    rcases exists_of_not_stepsMeet hfails with
      ⟨before, approval, after, between, hturns, hbetween, happroves⟩
    exact hnone ⟨before, approval, after, between, hturns, hbetween, not_not.mp happroves⟩
  have hholds := hstart.after_run (withheld_guarantees node) hmeet hrun
  rcases interleave_eq_some.mp hturn with ⟨s', l', hmove, rfl⟩
  rcases (writerMove_step hmove).startsNot hholds.shared (hholds.locals turn.1) with
    ⟨added, hadded, hevents⟩
  rcases hstarts with ⟨committed, event, payload, hcommitted, hmem, hkind, hnode, houtcome⟩
  have hsame : added = committed := List.append_cancel_left (hadded.symm.trans hcommitted)
  rw [← hsame] at hmem
  exact hevents event hmem payload hkind hnode houtcome

end Runs

namespace Sample

def oneNode : GraphSpec :=
  { nodes := (∅ : ExtTreeMap String GraphNode).insert "node" { customs := .absent }
    edges := []
    maxParallelModelCalls := none }

def oneNodeGraph : SuppliedGraph :=
  { number := 1, contentHash := some "sha256:graph", spec := oneNode }

def verbCall (key : String) : VerbCall :=
  { actor := { actorType := .owner, id := "owner" }
    key := id key
    outcomeKey := fun observed => id s!"{key}-{observed}" }

def driveCall : DriveCall :=
  { executionId := executionId
    spec := oneNode
    actor := systemActor
    release := []
    releaseActor := ownerActor
    synchronous := true }

/-- Writers at rest around an execution whose driver has just died. -/
def crashed : Configuration Nat (VerifiedStream env scope streamId.text) Activity :=
  { shared := driven
    locals := fun _ => .idle }

def recoveredTurns : List (Nat × WriterAction) :=
  [(0, .resume (verbCall "resume") oneNodeGraph true),
    (0, .record fun index => id s!"interrupt-{index}"), (0, .append (stamps 4)),
    (1, .approve (verbCall "approve") "node"),
    (1, .record fun index => id s!"approve-{index}"), (1, .append (stamps 5)),
    (2, .drive driveCall), (2, .reread), (2, .reread), (2, .reread),
    (2, .record fun index => id s!"start-{index}"), (2, .readNextSequence)]

def restartingTurn : Nat × WriterAction :=
  (2, .append (stamps 6))

def startsNode (node : String) (event : EventEnvelope) : Bool :=
  match event.kind with
  | .nodeOutcomeRecorded payload => payload.nodeId.text = node && payload.outcome = .started
  | _ => false

end Sample

theorem no_start_before_approval_after_a_crash :
    exists before approval after between,
      Sample.recoveredTurns = before ++ approval :: after ∧
        run (interleave writerMove) Sample.crashed before = some between ∧
        AtTurn (ApprovesNode "node") between approval := by
  have hruns : ((run (interleave writerMove) Sample.crashed Sample.recoveredTurns).any
      fun middle => (interleave writerMove middle Sample.restartingTurn).any fun c' =>
        (c'.shared.events.drop middle.shared.events.length).any
          (Sample.startsNode "node")) = true := by decide +kernel
  have hrunning : ((foldHistory Sample.env Sample.crashed.shared.events).any fun st =>
      st.projection.nodeStates["node"]? = some .running) = true := by decide +kernel
  rcases (Option.any_eq_true _ _).mp hruns with ⟨middle, hrun, hturns⟩
  rcases (Option.any_eq_true _ _).mp hturns with ⟨c', hturn, hstarted⟩
  rcases (Option.any_eq_true _ _).mp hrunning with ⟨st, hst, hstate⟩
  rcases Sample.driven_replay with ⟨projection, hreplay⟩
  rcases replay_eq_ok_iff.mp hreplay with ⟨_, folded, hfold, hprojection⟩
  have hsame : folded = st := Option.some.inj (hfold.symm.trans hst)
  have hnode : projection.nodeStates["node"]? = some .running := by
    rw [← hprojection, hsame]
    exact of_decide_eq_true hstate
  rcases interleave_eq_some.mp hturn with ⟨s', l', hmove, hc'⟩
  rcases (writerMove_step hmove).extends with ⟨added, hadded⟩
  have hevents : c'.shared.events = middle.shared.events ++ added := by
    rw [hc']
    exact hadded
  rw [hevents, List.drop_left] at hstarted
  rcases List.any_eq_true.mp hstarted with ⟨event, hmem, hevent⟩
  unfold Sample.startsNode at hevent
  split at hevent
  · rename_i payload hkind
    simp only [Bool.and_eq_true, decide_eq_true_eq] at hevent
    exact no_start_before_approval hreplay hnode (fun _ => rfl) hrun hturn
      ⟨added, event, payload, hevents, hmem, hkind, hevent.left, hevent.right⟩
  · cases hevent

end GraphHelm
