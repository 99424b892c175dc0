import GraphHelm.Projection.Ledgers

/-!
# The subagents a history records

`subagent_reused` is the one event that reaches the `subagents` map, and it keeps
one record a node: the last one, under the sequence of the event it came from.
-/

namespace GraphHelm

open Std
open ErrorState OrderedMap

def isSubagentRecord : EventKind -> Bool
  | .subagentReused _ => true
  | _ => false

def subagentsAfter (event : EventEnvelope) (before : ExtTreeMap String SubagentRecord) :
    ExtTreeMap String SubagentRecord :=
  match event.kind with
  | .subagentReused payload =>
      before.insert payload.nodeId.text { atSequence := event.sequence, record := payload }
  | _ => before

variable {event : EventEnvelope} {st : FoldState}

theorem subagentsAfter_of_unrecorded {before : ExtTreeMap String SubagentRecord}
    (h : isSubagentRecord event.kind = false) :
    subagentsAfter event before = before := by
  unfold subagentsAfter
  cases hkind : event.kind <;> rw [hkind] at h <;> first
    | rfl
    | exact absurd h.symm Bool.false_ne_true

theorem subagents_of_kind {env : Environment} {st' : FoldState}
    (h : foldKind env event st = .ok () st') :
    st'.projection.subagents = subagentsAfter event st.projection.subagents := by
  refine (congrArg Ledgers.subagents (ledgers_of_kind h)).trans ?_
  unfold ledgersAfter subagentsAfter
  cases event.kind with
  | wakeLeaseConsumed payload =>
      dsimp only
      split
      · rfl
      · rfl
  | _ => rfl

theorem subagents_of_accepted {env : Environment} {st' : FoldState}
    (h : applyProjectionEvent env event st = .ok () st') :
    st'.projection.subagents = subagentsAfter event st.projection.subagents := by
  unfold applyProjectionEvent nameStream at h
  rw [modifyProjection_bind] at h
  have hkind := subagents_of_kind h
  exact hkind

theorem subagents_of_unrecorded {env : Environment} {added : List EventEnvelope} {st' : FoldState}
    (h : run (accept env) st added = some st')
    (hadded : forall event, event ∈ added -> isSubagentRecord event.kind = false) :
    st'.projection.subagents = st.projection.subagents := by
  induction added generalizing st with
  | nil =>
      cases h
      rfl
  | cons event rest ih =>
      rcases run_cons_eq_some.mp h with ⟨next, hnext, hrest⟩
      rw [ih hrest fun other hmem => hadded other (List.mem_cons_of_mem event hmem),
        subagents_of_accepted (accept_eq_some.mp hnext),
        subagentsAfter_of_unrecorded (hadded event List.mem_cons_self)]

/-!
## Where the records come from
-/

structure SubagentsFrom (events : List EventEnvelope)
    (subagents : ExtTreeMap String SubagentRecord) : Prop where
  keyed : forall {node : String} {held : SubagentRecord},
    subagents[node]? = some held -> held.record.nodeId.text = node
  origin : forall {node : String} {held : SubagentRecord}, subagents[node]? = some held ->
    exists event, event ∈ events ∧ event.sequence = held.atSequence ∧
      event.kind = .subagentReused held.record

theorem subagentsFrom_of_fold {env : Environment} {events : List EventEnvelope}
    (h : foldHistory env events = some st) :
    SubagentsFrom events st.projection.subagents := by
  induction events using List.reverseRecOn generalizing st with
  | nil =>
      cases h
      constructor
      · intro node held hheld
        simp [FoldState.initial, ExecutionProjection.default] at hheld
      · intro node held hheld
        simp [FoldState.initial, ExecutionProjection.default] at hheld
  | append_singleton earlier event ih =>
      rcases foldHistory_concat.mp h with ⟨middle, hmiddle, haccepted⟩
      have hearlier := ih hmiddle
      have hafter := subagents_of_accepted haccepted
      have hcases : forall {node : String} {held : SubagentRecord},
          st.projection.subagents[node]? = some held ->
            middle.projection.subagents[node]? = some held ∨
              held.record.nodeId.text = node ∧ event.sequence = held.atSequence ∧
                event.kind = .subagentReused held.record := by
        intro node held hheld
        rw [hafter] at hheld
        unfold subagentsAfter at hheld
        split at hheld
        · rename_i payload hkind
          rcases Decidable.em (payload.nodeId.text = node) with hsame | hother
          · rw [hsame, ExtTreeMap.getElem?_insert_self] at hheld
            cases hheld
            exact Or.inr ⟨hsame, rfl, hkind⟩
          · rw [getElem?_insert_of_ne hother] at hheld
            exact Or.inl hheld
        · exact Or.inl hheld
      constructor
      · intro node held hheld
        rcases hcases hheld with hbefore | hnow
        · exact hearlier.keyed hbefore
        · exact hnow.left
      · intro node held hheld
        rcases hcases hheld with hbefore | hnow
        · rcases hearlier.origin hbefore with ⟨other, hmem, hother⟩
          exact ⟨other, List.mem_append_left _ hmem, hother⟩
        · exact ⟨event, List.mem_append_right _ List.mem_cons_self, hnow.right⟩

section Numbered

variable {env : Environment} {scope : RepositoryScope} {streamId : String}
  {events : List EventEnvelope} {subagents : ExtTreeMap String SubagentRecord}

/-- A record is older than whatever comes after the history. -/
theorem SubagentsFrom.atSequence_le (h : SubagentsFrom events subagents)
    (hnumbered : Numbered 0 events) {node : String} {held : SubagentRecord}
    (hheld : subagents[node]? = some held) : held.atSequence <= events.length := by
  rcases h.origin hheld with ⟨event, hmem, hsequence, _⟩
  have hle := (hnumbered.sequence_le hmem).right
  omega

theorem SubagentsFrom.node_eq (h : SubagentsFrom events subagents)
    (hnumbered : Numbered 0 events) {node other : String} {held another : SubagentRecord}
    (hheld : subagents[node]? = some held) (hanother : subagents[other]? = some another)
    (hsame : held.atSequence = another.atSequence) : node = other := by
  rcases h.origin hheld with ⟨event, hmem, hsequence, hkind⟩
  rcases h.origin hanother with ⟨event', hmem', hsequence', hkind'⟩
  have heq : event = event' :=
    hnumbered.eq_of_sequence hmem hmem' (by rw [hsequence, hsequence', hsame])
  rw [heq, hkind'] at hkind
  have hrecord : another.record = held.record := EventKind.subagentReused.inj hkind
  rw [← h.keyed hheld, ← h.keyed hanother, hrecord]

end Numbered

end GraphHelm
