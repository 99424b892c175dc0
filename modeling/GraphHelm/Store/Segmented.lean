import GraphHelm.Store.Contract

/-!
# One file and many segments

A store with sealed segments is compared with one that keeps the same batches in
a single journal and has verified them from genesis.  Whatever the calls sealed
and when, the reads of the two agree.
-/

namespace GraphHelm

open Std ErrorState

namespace Store

/-- The store with all its batches in one journal. -/
def single (store : Store) : Store :=
  { store with
    sealed := []
    active := store.history }

/-- The state that a walk over that journal from genesis comes to. -/
def singleState (env : StoreEnvironment) (store : Store) : LoadedState :=
  store.history.foldl (LoadedState.absorb env) LoadedState.default

@[simp] theorem single_history (store : Store) : store.single.history = store.history :=
  rfl

end Store

section Single

variable {env : StoreEnvironment} {store : Store} {state other : LoadedState}
  {history : List PhysicalBatch} {batch : PhysicalBatch}

theorem Store.Sound.single (h : store.Sound env) : store.single.Sound env :=
  { committed := h.committed
    seals := trivial
    supported := h.supported
    filed := h.filed }

theorem Follows.of_describes (h : Follows env state batch) (hstate : Describes env state history)
    (hother : Describes env other history) : Follows env other batch :=
  { nonempty := h.nonempty
    expected := by rw [h.expected, hstate.sequences, hother.sequences]
    owned := h.owned
    numbered := h.numbered
    linked := by
      rw [hother.hashes, ← hstate.hashes]
      exact h.linked
    fresh := fun event hevent hseen =>
      h.fresh event hevent ((hstate.seen _).mpr ((hother.seen _).mp hseen))
    distinct := h.distinct
    registered := h.registered
    kept := fun item hitem existing hexisting =>
      h.kept item hitem existing
        ((hstate.artifacts _ existing).mpr ((hother.artifacts _ existing).mp hexisting)) }

theorem verifyLines_state {blobs : Blobs} {ctx ctx' : VerifyCtx} {batches : List PhysicalBatch}
    (h : ctx.Sound env blobs) (hdescribes : Describes env ctx.state history)
    (hok : verifyLines env blobs batches ctx = .ok ctx') :
    ctx'.state = batches.foldl (LoadedState.absorb env) ctx.state := by
  induction batches generalizing ctx history with
  | nil =>
      cases hok
      rfl
  | cons batch rest ih =>
      unfold verifyLines at hok
      rw [List.foldlM_cons] at hok
      rcases bind_ok hok with ⟨next, hfirst, hrest⟩
      have hpositive : 1 <= ctx.state.expectedSequence batch.key := by
        rw [hdescribes.sequences]
        exact Nat.le_add_left 1 _
      rcases verifyBatch_step h hpositive hfirst with ⟨hfollows, hstep⟩
      rw [ih hstep.sound (hstep.state ▸ hdescribes.absorb hfollows) hrest, hstep.state]
      rfl

theorem Store.single_loads (hload : loadState env store.single = .ok state) :
    state = store.singleState env := by
  rcases bind_ok hload with ⟨ctx, hctx, hstate⟩
  cases hstate
  exact verifyLines_state (VerifyCtx.seeded_sound env store.blobs LoadedState.default)
    (Describes.default env) (loadContext_eq_ok.mp hctx).right.right

end Single

/-!
## The state of the single journal describes it
-/

section Runs

variable {env : SealEnvironment} {store after : Store} {action : StoreAction}
  {actions : List StoreAction}

theorem Store.step_singleState (h : store.Sound env.toStoreEnvironment)
    (hsingle : Describes env.toStoreEnvironment (store.singleState env.toStoreEnvironment)
      store.history)
    (hstep : Store.step env store action = some after) :
    Describes env.toStoreEnvironment (after.singleState env.toStoreEnvironment)
      after.history := by
  unfold Store.singleState at hsingle ⊢
  cases action with
  | append call request =>
      cases hstep
      cases appendLocked_left h with
      | unwritten hunwritten =>
          rw [hunwritten.history]
          exact hsingle
      | written hopened hadmission hwritten =>
          have hloaded := hopened.kept.sound.of_loadState hopened.loads
          have hfollows := (admit_eq_ok hadmission).follows hopened.kept.sound hloaded.left
          rw [hwritten.history, hopened.kept.history, List.foldl_append]
          rw [hopened.kept.history] at hloaded
          exact hsingle.absorb (hfollows.of_describes hloaded.left hsingle)
  | recover =>
      cases hstep
      rcases recoverTornTail_eq env.toStoreEnvironment store with heq | heq
      · rw [heq]
        exact hsingle
      · rw [heq]
        exact hsingle

theorem Store.singleState_describes
    (hrun : run (Store.step env) Store.empty actions = some store) :
    Describes env.toStoreEnvironment (store.singleState env.toStoreEnvironment)
      store.history := by
  have hkeep : forall {s : Store} {action : StoreAction} {s' : Store},
      s.Sound env.toStoreEnvironment ∧
          Describes env.toStoreEnvironment (s.singleState env.toStoreEnvironment) s.history ->
        Store.step env s action = some s' ->
          s'.Sound env.toStoreEnvironment ∧
            Describes env.toStoreEnvironment (s'.singleState env.toStoreEnvironment)
              s'.history :=
    fun h hstep => And.intro (Store.step_sound h.left hstep)
      (Store.step_singleState h.left h.right hstep)
  exact (run_invariant hkeep (And.intro (Store.empty_sound env.toStoreEnvironment)
    (Describes.default env.toStoreEnvironment)) hrun).right

end Runs

/-!
## The reads agree
-/

/-- No read of a store that calls led to shows how its journal was cut into segments. -/
theorem segmentation_is_invisible {env : SealEnvironment} {store : Store}
    {actions : List StoreAction} (hrun : run (Store.step env) Store.empty actions = some store) :
    (forall key after limit,
      streamEventsAfter store key after limit = streamEventsAfter store.single key after limit ∧
        streamEventsAfter store key after limit =
          (past after (streamEvents key store.history)).take limit ∧
        ((streamEventsAfter store key after limit).map EventEnvelope.sequence).Nodup) ∧
      (forall single, loadState env.toStoreEnvironment store.single = .ok single ->
        single = store.singleState env.toStoreEnvironment) ∧
      forall state, loadState env.toStoreEnvironment store = .ok state ->
        (forall key keys, batchHoldingKeys store state key keys =
          batchHoldingKeys store.single (store.singleState env.toStoreEnvironment) key keys) ∧
        (forall key, state.expectedSequence key =
          (store.singleState env.toStoreEnvironment).expectedSequence key) ∧
        state.historyStreams =
          (store.singleState env.toStoreEnvironment).historyStreams ∧
        state.historyPublications =
          (store.singleState env.toStoreEnvironment).historyPublications := by
  have h := Store.Sound.of_run hrun
  have hsingle := Store.singleState_describes hrun
  refine ⟨?_, fun single hload => Store.single_loads hload, ?_⟩
  · intro key after limit
    have hreads : streamEventsAfter store key after limit =
        (past after (store.events key)).take limit := h.streamEventsAfter
    refine ⟨?_, hreads, ?_⟩
    · rw [hreads, h.single.streamEventsAfter]
      rfl
    · have hnumbered := (h.committed.streams key).numbered.sequences
      have htaken : ((past after (store.events key)).take limit).Sublist (store.events key) :=
        (List.take_sublist limit _).trans List.filter_sublist
      rw [hreads]
      refine List.Nodup.sublist (htaken.map EventEnvelope.sequence) ?_
      unfold Store.events
      rw [hnumbered]
      exact List.nodup_range'
  · intro state hload
    have hstate := (h.of_loadState hload).left
    refine ⟨fun key keys => ?_, fun key => ?_, ?_, ?_⟩
    · rw [h.batchHoldingKeys hstate, h.single.batchHoldingKeys hsingle]
      rfl
    · rw [hstate.sequences, hsingle.sequences]
    · apply ExtTreeSet.ext_mem
      intro key
      rw [hstate.streams, hsingle.streams]
    · rw [hstate.publications, hsingle.publications]

namespace Sample

/-- A call that seals every segment with a line in it. -/
def rotating : Call :=
  { quiet with rotateAt := (0, 0) }

def segmented : Store :=
  stateAfter (appendLocked storeEnv rotating (request 1))
    (stateAfter (appendLocked storeEnv rotating (request 0)) Store.empty)

end Sample

theorem segmentation_is_invisible_after_a_seal :
    run (Store.step Sample.storeEnv) Store.empty
        [.append Sample.rotating (Sample.request 0),
          .append Sample.rotating (Sample.request 1)] = some Sample.segmented ∧
      Sample.segmented.sealed.length = 1 ∧ Sample.segmented.active.length = 1 ∧
        forall key after limit,
          streamEventsAfter Sample.segmented key after limit =
            streamEventsAfter Sample.segmented.single key after limit := by
  have hrun : run (Store.step Sample.storeEnv) Store.empty
      [.append Sample.rotating (Sample.request 0),
        .append Sample.rotating (Sample.request 1)] = some Sample.segmented := rfl
  refine ⟨hrun, by decide +kernel, by decide +kernel, fun key after limit => ?_⟩
  exact ((segmentation_is_invisible hrun).left key after limit).left

end GraphHelm
