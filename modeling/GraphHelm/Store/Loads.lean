import GraphHelm.Store.Appending

/-!
# Stores that load

When a store loads, what keeps it loading, and when it still loads once a batch
has been written: exactly when the counters of a load have room for the batch.
-/

namespace GraphHelm

open Std ErrorState

/-!
## More blobs refuse no more lines
-/

/-- The second blobs hold what the first do. -/
def BlobsLe (blobs blobs' : Blobs) : Prop :=
  forall (key : ObjectKey) (stored : SealedEvidence),
    blobs[key]? = some stored -> blobs'[key]? = some stored

section MoreBlobs

variable {env : StoreEnvironment} {blobs blobs' : Blobs} {batch : PhysicalBatch}

theorem readVerifiedBlob_extends (h : BlobsLe blobs blobs') (scope : RepositoryScope)
    (reference : EvidenceReference) :
    Except.Extends (readVerifiedBlob env blobs scope reference)
      (readVerifiedBlob env blobs' scope reference) := by
  intro stored hread
  rcases readVerifiedBlob_eq_ok.mp hread with ⟨hblob, hstands⟩
  exact readVerifiedBlob_eq_ok.mpr ⟨h _ _ hblob, hstands⟩

theorem verifyRegistration_extends (h : BlobsLe blobs blobs') (ctx : VerifyCtx)
    (id : EvidenceId) :
    Except.Extends (verifyRegistration env blobs batch ctx id)
      (verifyRegistration env blobs' batch ctx id) := by
  refine (Except.Extends.refl _).bind fun reference => ?_
  refine (Except.Extends.refl _).bind fun tally => ?_
  cases ctx.digestOf { scope := batch.scope, id := id } with
  | some existing =>
      exact Except.Extends.refl _
  | none =>
      exact (readVerifiedBlob_extends h _ _).bind fun stored => Except.Extends.refl _

theorem verifyRegistrations_extends (h : BlobsLe blobs blobs') (ids : List EvidenceId)
    (ctx : VerifyCtx) :
    Except.Extends (verifyRegistrations env blobs batch ctx ids)
      (verifyRegistrations env blobs' batch ctx ids) := by
  induction ids generalizing ctx with
  | nil =>
      exact Except.Extends.refl _
  | cons id rest ih =>
      refine (verifyRegistration_extends h ctx id).bind fun result => ?_
      exact (ih result.1).bind fun _ => Except.Extends.refl _

theorem verifyReachable_extends (h : BlobsLe blobs blobs') (scope : RepositoryScope)
    (ctx : VerifyCtx) (reference : EvidenceReference) :
    Except.Extends (verifyReachable env blobs scope ctx reference)
      (verifyReachable env blobs' scope ctx reference) := by
  unfold verifyReachable
  dsimp only
  split
  · exact (readVerifiedBlob_extends h scope reference).bind fun _ => Except.Extends.refl _
  · exact Except.Extends.refl _

theorem verifyReference_extends (h : BlobsLe blobs blobs') (scope : RepositoryScope)
    (ctx : VerifyCtx) (reference : EvidenceReference) :
    Except.Extends (verifyReference env blobs scope ctx reference)
      (verifyReference env blobs' scope ctx reference) := by
  refine (Except.Extends.refl _).bind fun tally => ?_
  exact (verifyReachable_extends h scope ctx reference).bind fun _ => Except.Extends.refl _

theorem verifyEvents_extends (h : BlobsLe blobs blobs') (events : List EventEnvelope)
    (sequence : Nat) (previousHash : EventHash) (ctx : VerifyCtx) :
    Except.Extends (verifyEvents env blobs batch sequence previousHash events ctx)
      (verifyEvents env blobs' batch sequence previousHash events ctx) := by
  induction events generalizing sequence previousHash ctx with
  | nil =>
      exact Except.Extends.refl _
  | cons event rest ih =>
      refine Except.Extends.bind ?_ fun next => ih _ _ next
      unfold verifyEvent
      refine (Except.Extends.refl _).bind fun _ => ?_
      refine (Except.Extends.refl _).bind fun _ => ?_
      refine (Except.Extends.refl _).bind fun _ => ?_
      refine (Except.Extends.refl _).bind fun _ => ?_
      refine Except.Extends.bind ?_ fun _ => Except.Extends.refl _
      exact Except.Extends.foldlM (verifyReference_extends h event.scope) event.evidenceRefs _

theorem verifyBatch_extends (h : BlobsLe blobs blobs') (ctx : VerifyCtx)
    (batch : PhysicalBatch) :
    Except.Extends (verifyBatch env blobs ctx batch) (verifyBatch env blobs' ctx batch) := by
  unfold verifyBatch
  refine (Except.Extends.refl _).bind fun _ => ?_
  refine (Except.Extends.refl _).bind fun _ => ?_
  refine (Except.Extends.refl _).bind fun _ => ?_
  refine (Except.Extends.refl _).bind fun _ => ?_
  refine (Except.Extends.refl _).bind fun charged => ?_
  refine (Except.Extends.refl _).bind fun _ => ?_
  refine (Except.Extends.refl _).bind fun _ => ?_
  refine (Except.Extends.refl _).bind fun _ => ?_
  refine (Except.Extends.refl _).bind fun _ => ?_
  refine (verifyRegistrations_extends h batch.evidenceIds _).bind fun registered => ?_
  refine (Except.Extends.refl _).bind fun _ => ?_
  refine (Except.Extends.refl _).bind fun _ => ?_
  exact (verifyEvents_extends h batch.events _ _ _).bind fun _ => Except.Extends.refl _

theorem verifyLines_extends (h : BlobsLe blobs blobs') (batches : List PhysicalBatch)
    (ctx : VerifyCtx) :
    Except.Extends (verifyLines env blobs batches ctx) (verifyLines env blobs' batches ctx) :=
  Except.Extends.foldlM (verifyBatch_extends h) batches ctx

end MoreBlobs

/-!
## Stores that load
-/

/-- Whether the store loads, once part of a line at its end has been trimmed off. -/
def Store.Loads (env : StoreEnvironment) (store : Store) : Prop :=
  exists ctx, loadContext env { store with torn := false } = .ok ctx

section Loads

variable {env : StoreEnvironment} {store after : Store}

theorem loadContext_eq_ok {ctx : VerifyCtx} :
    loadContext env store = .ok ctx <->
      journalLength env store.active <= maxJournalBytes ∧ store.torn = false ∧
        verifyLines env store.blobs store.active (VerifyCtx.seeded store.seededState) =
          .ok ctx := by
  unfold loadContext
  rw [check_bind_eq_ok, check_bind_eq_ok, decide_eq_true_eq, Bool.not_eq_true']

theorem loadState_passes_iff :
    (exists state, loadState env store = .ok state) <->
      store.torn = false ∧ store.Loads env := by
  constructor
  · rintro ⟨state, hload⟩
    rcases bind_ok hload with ⟨ctx, hctx, _⟩
    rcases loadContext_eq_ok.mp hctx with ⟨hlength, htorn, hlines⟩
    exact And.intro htorn ⟨ctx, loadContext_eq_ok.mpr ⟨hlength, rfl, hlines⟩⟩
  · rintro ⟨htorn, ctx, hctx⟩
    rcases loadContext_eq_ok.mp hctx with ⟨hlength, _, hlines⟩
    exact ⟨ctx.state, Except.bind_eq_ok.mpr
      ⟨ctx, loadContext_eq_ok.mpr ⟨hlength, htorn, hlines⟩, rfl⟩⟩

theorem Store.Loads.of_nil (h : store.active = []) : store.Loads env := by
  refine ⟨VerifyCtx.seeded store.seededState, loadContext_eq_ok.mpr ⟨?_, rfl, ?_⟩⟩
  · show journalLength env store.active <= maxJournalBytes
    rw [h]
    exact Nat.zero_le _
  · show verifyLines env store.blobs store.active _ = _
    rw [h]
    rfl

theorem Store.Loads.of_same (h : store.Loads env)
    (hsegments : (after.sealed = store.sealed ∧ after.active = store.active) ∨ after.active = [])
    (hblobs : BlobsLe store.blobs after.blobs) : after.Loads env := by
  rcases hsegments with ⟨hsealed, hactive⟩ | hactive
  · rcases h with ⟨ctx, hctx⟩
    rcases loadContext_eq_ok.mp hctx with ⟨hlength, _, hlines⟩
    refine ⟨ctx, loadContext_eq_ok.mpr ⟨?_, rfl, ?_⟩⟩
    · show journalLength env after.active <= maxJournalBytes
      rw [hactive]
      exact hlength
    · have hseeded : Store.seededState { after with torn := false } = store.seededState := by
        unfold Store.seededState
        rw [← hsealed]
      show verifyLines env after.blobs after.active _ = _
      rw [hseeded, hactive]
      exact verifyLines_extends hblobs store.active _ ctx hlines
  · exact Store.Loads.of_nil hactive

end Loads

/-!
## Room for a batch
-/

def RoomToOpen (env : StoreEnvironment) (rotateAt : Nat × Nat) (store : Store)
    (request : PreparedAppend) : Prop :=
  let metadata := metadataOf env (fileBlobs store.blobs request.evidence)
  ((Tally.zero.countAll metadata (activeAfterRotation env rotateAt store)).count metadata
    request.load).Within

def Recorded (store : Store) (request : PreparedAppend) : Prop :=
  exists event, event ∈ store.events request.key ∧
    event.idempotencyKey ∈ request.events.map NewEvent.idempotencyKey

section Room

variable {env : StoreEnvironment} {call : Call} {store opened after : Store}
  {state : LoadedState} {request : PreparedAppend} {batch : PhysicalBatch}

theorem recorded_iff_isSome (h : store.Sound env)
    (hdescribes : Describes env state store.history) :
    Recorded store request <->
      (batchHoldingKeys store state request.key
        (request.events.map NewEvent.idempotencyKey)).isSome = true := by
  rw [h.batchHoldingKeys hdescribes, List.find?_isSome]
  constructor
  · rintro ⟨event, hevent, hkey⟩
    rcases mem_streamEvents.mp hevent with ⟨batch, hbatch, hstream, hevent⟩
    exact ⟨batch, hbatch, holdsKeys_iff.mpr ⟨hstream, event, hevent, hkey⟩⟩
  · rintro ⟨batch, hbatch, hholds⟩
    rcases holdsKeys_iff.mp hholds with ⟨hstream, event, hevent, hkey⟩
    exact ⟨event, mem_streamEvents.mpr ⟨batch, hbatch, hstream, hevent⟩, hkey⟩

theorem LoadedFor.recorded_iff (h : LoadedFor env call store state opened) :
    Recorded store request <->
      (batchHoldingKeys opened state request.key
        (request.events.map NewEvent.idempotencyKey)).isSome = true := by
  have hloaded := h.kept.sound.of_loadState h.loads
  rw [← recorded_iff_isSome h.kept.sound hloaded.left]
  unfold Recorded Store.events
  rw [h.kept.history]

theorem LoadedFor.room_iff (h : LoadedFor env call store state opened)
    (hwritten : Written env opened request batch after) :
    RoomToOpen env call.rotateAt store request <->
      ((Tally.zero.countAll (metadataOf env after.blobs) opened.active).count
        (metadataOf env after.blobs) request.load).Within := by
  unfold RoomToOpen
  rw [h.active, hwritten.store, h.kept.blobs]

theorem written_loads_iff (h : opened.Sound env) (hload : loadState env opened = .ok state)
    (hadmission : admitAppend env call.stamps opened state request = .ok (.fresh batch))
    (hwritten : Written env opened request batch after) :
    after.Loads env <->
      ((Tally.zero.countAll (metadataOf env after.blobs) opened.active).count
        (metadataOf env after.blobs) request.load).Within := by
  have hadmitted := admit_eq_ok hadmission
  rcases bind_ok hload with ⟨ctx, hctx, hstate⟩
  cases hstate
  rcases loadContext_eq_ok.mp hctx with ⟨_, htorn, hlines⟩
  -- What was loaded before the write is loaded again, from the blobs of after it.
  have hagain := @verifyLines_extends env _ _ hwritten.published.retained
    opened.active _ ctx hlines
  have hseeded := h.seeded
  have hlast := verifyLines_step
    (VerifyCtx.seeded_sound env after.blobs opened.seededState) hseeded.left hagain
  have hpositive : 1 <= batch.expectedNextSequence := by
    rw [hadmitted.built]
    exact request.expected_pos
  have hload : after.Loads env <->
      exists last, verifyBatch env after.blobs ctx batch = .ok last := by
    have hactive : after.active = opened.active ++ [batch] := by rw [hwritten.store]
    have hsame : Store.seededState { after with torn := false } = opened.seededState := by
      rw [hwritten.store]
      rfl
    have hlength : journalLength env after.active <= maxJournalBytes := by
      rw [hactive]
      unfold journalLength
      rw [List.map_append, List.sum_append, List.map_singleton, List.sum_singleton]
      exact hwritten.room
    unfold Store.Loads
    refine exists_congr fun last => ?_
    rw [loadContext_eq_ok, and_iff_right (show journalLength env after.active <= _ from hlength),
      and_iff_right rfl]
    show verifyLines env after.blobs after.active (VerifyCtx.seeded _) = _ <-> _
    rw [hsame, hactive, verifyLines_append, hagain]
    exact Eq.congr_left verifyLines_singleton
  have htally : ctx.tally =
      Tally.zero.countAll (metadataOf env after.blobs) opened.active :=
    hlast.right.right.left
  rw [hload, ← hadmitted.load, ← htally]
  constructor
  · rintro ⟨last, hok⟩
    have hexpected : 1 <= ctx.state.expectedSequence batch.key := by
      rw [hlast.left.sequences]
      exact Nat.le_add_left 1 _
    have hstep := (verifyBatch_step hlast.right.right.right hexpected hok).right
    rw [← hstep.tally]
    exact hstep.sound.within
  · intro hwithin
    have hdescribes := (h.of_loadContext hctx).left
    exact verifyBatch_of_standing hlast.right.right.right hpositive
      (hadmitted.stands h hdescribes hwritten.published) hwithin

end Room

end GraphHelm
