import GraphHelm.Projection.History

/-!
# Maps that only events of their own kind reach

A subagent record, the arming of a wake lease and its consumption are the only
events that write to the subagents, the leases and the mis-burns.  Each does what
`ledgersAfter` says, and every other event leaves all three maps alone.
-/

namespace GraphHelm

open Std
open ErrorState OrderedMap

structure Ledgers where
  subagents : ExtTreeMap String SubagentRecord
  wakeLeases : ExtTreeMap String WakeLeaseState
  wakeMisBurns : ExtTreeMap String WakeMisBurn
deriving DecidableEq

def ExecutionProjection.ledgers (projection : ExecutionProjection) : Ledgers :=
  { subagents := projection.subagents
    wakeLeases := projection.wakeLeases
    wakeMisBurns := projection.wakeMisBurns }

/-- Every accepting run of `m` leaves the ledgers as they were. -/
def KeepsLedgers {α : Type} (m : FoldM α) : Prop :=
  Keeps (fun st => st.projection.ledgers) m

def EventKind.writesLedger : EventKind -> Bool
  | .subagentReused _ | .wakeLease _ | .wakeLeaseConsumed _ => true
  | _ => false

/-- Every arm but the three leaves the ledgers alone. -/
theorem foldKind_keepsLedgers {env : Environment} {event : EventEnvelope}
    (h : event.kind.writesLedger = false) : KeepsLedgers (foldKind env event) := by
  apply keeps_of_spared
  intro st
  cases hkind : event.kind <;> rw [hkind] at h <;> first
    | rfl
    | exact absurd h.symm Bool.false_ne_true

/-!
## What the three kinds write
-/

def leaseOf (event : EventEnvelope) (armed : WakeLease) : WakeLeaseState :=
  { cursor := armed.cursor
    rendezvousId := armed.rendezvousId.text
    armedAtSequence := event.sequence
    maturesAt := armed.maturesInSeconds.bind (horizonAfter event.occurredAt) }

def misBurnOf (event : EventEnvelope) (consumed : WakeLeaseConsumed) (burned : WakeLeaseState) :
    Option WakeMisBurn :=
  (consumed.capturedArming.filter fun captured => captured ≠ burned.armedAtSequence).map
    fun captured =>
      { atSequence := event.sequence
        capturedArming := captured
        liveArming := burned.armedAtSequence }

def Ledgers.burn (event : EventEnvelope) (consumed : WakeLeaseConsumed) (burned : WakeLeaseState)
    (before : Ledgers) : Ledgers :=
  { before with
    wakeLeases := before.wakeLeases.erase consumed.sessionId.text
    wakeMisBurns :=
      insertSome before.wakeMisBurns consumed.sessionId.text (misBurnOf event consumed burned) }

def ledgersAfter (event : EventEnvelope) (before : Ledgers) : Ledgers :=
  match event.kind with
  | .subagentReused payload =>
      { before with
        subagents :=
          before.subagents.insert payload.nodeId.text
            { atSequence := event.sequence, record := payload } }
  | .wakeLease payload =>
      { before with
        wakeLeases := before.wakeLeases.insert payload.sessionId.text (leaseOf event payload) }
  | .wakeLeaseConsumed payload =>
      match before.wakeLeases[payload.sessionId.text]? with
      | some burned => before.burn event payload burned
      | none => before
  | _ => before

section Written

variable {env : Environment} {event : EventEnvelope} {st st' : FoldState}

theorem ledgersAfter_of_unwritten {before : Ledgers} (h : event.kind.writesLedger = false) :
    ledgersAfter event before = before := by
  unfold ledgersAfter
  cases hkind : event.kind <;> rw [hkind] at h <;> first
    | rfl
    | exact absurd h.symm Bool.false_ne_true

theorem foldWakeLeaseConsumed_eq_ok {payload : WakeLeaseConsumed} :
    foldWakeLeaseConsumed event payload st = .ok () st' <->
      exists burned, st.projection.wakeLeases[payload.sessionId.text]? = some burned ∧
        { st with
          projection :=
            { st.projection with
              wakeLeases := (st.projection.ledgers.burn event payload burned).wakeLeases
              wakeMisBurns := (st.projection.ledgers.burn event payload burned).wakeMisBurns
              wakeLastConsumed :=
                st.projection.wakeLastConsumed.insert payload.sessionId.text
                  { reason := payload.reason, sequence := event.sequence } } } = st' := by
  unfold foldWakeLeaseConsumed
  rw [getProjection_bind]
  cases hburned : st.projection.wakeLeases[payload.sessionId.text]? with
  | none =>
      rw [refuse_ne_ok]
      constructor
      · intro h
        exact h.elim
      · rintro ⟨burned, hnone, _⟩
        cases hnone
  | some burned =>
      dsimp only
      rw [modifyProjection_eq_ok]
      have hmisBurns : (st.projection.ledgers.burn event payload burned).wakeMisBurns =
          payload.capturedArming.elim st.projection.wakeMisBurns fun captured =>
            if captured = burned.armedAtSequence then
              st.projection.wakeMisBurns
            else
              st.projection.wakeMisBurns.insert payload.sessionId.text
                { atSequence := event.sequence
                  capturedArming := captured
                  liveArming := burned.armedAtSequence } := by
        unfold Ledgers.burn misBurnOf
        cases payload.capturedArming with
        | none => rfl
        | some captured =>
            rcases Decidable.em (captured = burned.armedAtSequence) with hsame | hother
            · simp [hsame, insertSome, ExecutionProjection.ledgers, Option.filter]
            · simp [hother, insertSome, ExecutionProjection.ledgers, Option.filter]
      constructor
      · intro h
        refine ⟨burned, rfl, ?_⟩
        rw [hmisBurns, ← h]
        cases payload.capturedArming with
        | none => rfl
        | some captured => rfl
      · intro h
        rcases h with ⟨other, hother, h⟩
        cases hother
        rw [← h, hmisBurns]
        cases payload.capturedArming with
        | none => rfl
        | some captured => rfl

theorem ledgers_of_kind (h : foldKind env event st = .ok () st') :
    st'.projection.ledgers = ledgersAfter event st.projection.ledgers := by
  cases hwrites : event.kind.writesLedger with
  | false =>
      rw [ledgersAfter_of_unwritten hwrites]
      exact foldKind_keepsLedgers hwrites _ _ _ h
  | true =>
      unfold foldKind at h
      unfold ledgersAfter
      cases hkind : event.kind <;> rw [hkind] at hwrites h <;> first
        | exact absurd hwrites Bool.false_ne_true
        | skip
      case subagentReused payload =>
        dsimp only at h
        unfold foldSubagentReused at h
        rw [getProjection_bind, requireRoom_bind_eq_ok, modifyProjection_eq_ok] at h
        rw [← h.right]
        rfl
      case wakeLease payload =>
        cases h
        rfl
      case wakeLeaseConsumed payload =>
        rcases foldWakeLeaseConsumed_eq_ok.mp h with ⟨burned, hburned, rfl⟩
        have hlive : st.projection.ledgers.wakeLeases[payload.sessionId.text]? = some burned :=
          hburned
        dsimp only
        rw [hlive]
        rfl

theorem ledgers_of_accepted (h : applyProjectionEvent env event st = .ok () st') :
    st'.projection.ledgers = ledgersAfter event st.projection.ledgers := by
  unfold applyProjectionEvent nameStream at h
  rw [modifyProjection_bind] at h
  have hkind := ledgers_of_kind h
  exact hkind

end Written

end GraphHelm
