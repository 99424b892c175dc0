import GraphHelm.Store.Loading
import GraphHelm.Store.Stream

/-!
# The contract of a store

What every run of calls and recoveries keeps of its streams, what a failing call
leaves, what a repeated request is answered and what a request that only shares
keys with a committed batch is answered.
-/

namespace GraphHelm

open Std ErrorState StoreM

/-!
## What later stores keep
-/

structure Store.Extends (before after : Store) : Prop where
  history : before.history <+: after.history
  retained : forall (key : ObjectKey) (stored : SealedEvidence),
    before.blobs[key]? = some stored -> after.blobs[key]? = some stored

section Extends

variable {env : SealEnvironment} {before middle after store : Store} {action : StoreAction}
  {actions : List StoreAction}

theorem Store.Extends.refl (store : Store) : store.Extends store :=
  ⟨List.prefix_refl store.history, fun _ _ hblob => hblob⟩

theorem Store.Extends.trans (h : before.Extends middle) (hnext : middle.Extends after) :
    before.Extends after :=
  ⟨h.history.trans hnext.history, fun key stored hblob =>
    hnext.retained key stored (h.retained key stored hblob)⟩

theorem Kept.extends {env : StoreEnvironment} (h : Kept env before after) :
    before.Extends after :=
  ⟨h.history ▸ List.prefix_refl before.history, fun _ _ hblob => h.blobs ▸ hblob⟩

theorem Written.extends {env : StoreEnvironment} {request : PreparedAppend}
    {batch : PhysicalBatch} (h : Written env before request batch after) :
    before.Extends after :=
  ⟨h.history ▸ List.prefix_append before.history [batch], h.published.retained⟩

theorem Store.step_extends (h : before.Sound env.toStoreEnvironment)
    (hstep : Store.step env before action = some after) : before.Extends after := by
  cases action with
  | append call request =>
      cases hstep
      cases appendLocked_left h with
      | unwritten hunwritten =>
          exact ⟨hunwritten.history ▸ List.prefix_refl before.history, hunwritten.retained⟩
      | written hopened _ hwritten =>
          exact hopened.kept.extends.trans hwritten.extends
  | recover =>
      cases hstep
      rcases recoverTornTail_eq env.toStoreEnvironment before with heq | heq
      · rw [heq]
        exact Store.Extends.refl before
      · rw [heq]
        exact ⟨List.prefix_refl before.history, fun _ _ hblob => hblob⟩

theorem Store.run_extends (h : before.Sound env.toStoreEnvironment)
    (hrun : run (Store.step env) before actions = some after) :
    after.Sound env.toStoreEnvironment ∧ before.Extends after := by
  have hkeep : forall {s : Store} {action : StoreAction} {s' : Store},
      s.Sound env.toStoreEnvironment ∧ before.Extends s ->
        Store.step env s action = some s' ->
          s'.Sound env.toStoreEnvironment ∧ before.Extends s' :=
    fun hs hstep => And.intro (Store.step_sound hs.left hstep)
      (hs.right.trans (Store.step_extends hs.left hstep))
  exact run_invariant hkeep (And.intro h (Store.Extends.refl before)) hrun

end Extends

/-!
## Committed requests
-/

/-- A request that was let through once, and whose batch is in the history since. -/
inductive CommittedAs (env : StoreEnvironment) (request : PreparedAppend)
    (batch : PhysicalBatch) (store : Store) : Prop where
  | of {stamps : Stamps} {opened : Store} {state : LoadedState}
      (hadmitted : Admitted env stamps opened state request batch)
      (hdescribes : Describes env state opened.history)
      (hextends : opened.Extends store)
      (hmem : batch ∈ store.history)

def Repeats (env : StoreEnvironment) (request : PreparedAppend) (batch : PhysicalBatch) : Prop :=
  request.requestDigest env = .ok batch.requestDigest ∧
    sameKeys (batch.events.map EventEnvelope.idempotencyKey)
      (request.events.map NewEvent.idempotencyKey) = true

section Committed

variable {env : SealEnvironment} {store after : Store} {call : Call} {request : PreparedAppend}
  {batch other : PhysicalBatch}

theorem CommittedAs.mono {env : StoreEnvironment} (h : CommittedAs env request batch store)
    (hextends : store.Extends after) : CommittedAs env request batch after := by
  cases h with
  | of hadmitted hdescribes hbefore hmem =>
      exact CommittedAs.of hadmitted hdescribes (hbefore.trans hextends)
        (hextends.history.subset hmem)

theorem committedAs_of_appended (h : store.Sound env.toStoreEnvironment)
    (hhistory : (stateAfter (appendLocked env call request) store).history =
      store.history ++ [batch]) :
    CommittedAs env.toStoreEnvironment request batch
      (stateAfter (appendLocked env call request) store) := by
  cases appendLocked_left h with
  | unwritten hunwritten =>
      rw [hunwritten.history] at hhistory
      have hlength := congrArg List.length hhistory
      rw [List.length_append, List.length_singleton] at hlength
      omega
  | @written opened state written hopened hadmission hwritten =>
      have hlast := hwritten.history
      rw [hhistory, hopened.kept.history] at hlast
      have hsame : [batch] = [written] := List.append_cancel_left hlast
      cases hsame
      refine CommittedAs.of (admit_eq_ok hadmission)
        (hopened.kept.sound.of_loadState hopened.loads).left hwritten.extends ?_
      rw [hwritten.history]
      exact List.mem_append_right _ (List.mem_singleton_self batch)

theorem sameKeys_self (keys : List OpaqueId) : sameKeys keys keys = true := by
  unfold sameKeys
  simp

theorem mem_of_sameKeys {first second : List OpaqueId} (h : sameKeys first second = true)
    {key : OpaqueId} : key ∈ first <-> key ∈ second := by
  unfold sameKeys at h
  simp only [Bool.and_eq_true, List.all_eq_true, List.contains_iff_mem] at h
  exact ⟨h.left key, h.right key⟩

theorem Admitted.repeats {env : StoreEnvironment} {stamps : Stamps} {state : LoadedState}
    (h : Admitted env stamps store state request batch) : Repeats env request batch := by
  refine And.intro h.digest ?_
  rw [h.keys]
  exact sameKeys_self _

theorem Repeats.eq_of_holdsKeys {env : StoreEnvironment} (h : store.Sound env)
    (hrepeats : Repeats env request batch) (hbatch : batch ∈ store.history)
    (hkey : batch.key = request.key) (hother : other ∈ store.history)
    (hholds : holdsKeys request.key (request.events.map NewEvent.idempotencyKey) other = true) :
    other = batch := by
  rcases holdsKeys_iff.mp hholds with ⟨hstream, event, hevent, hshared⟩
  rcases List.mem_map.mp ((mem_of_sameKeys hrepeats.right).mpr hshared) with
    ⟨own, hown, hsame⟩
  exact h.committed.batch_eq hother hbatch (hstream.trans hkey.symm) hevent hown hsame.symm

end Committed

/-!
## Retries
-/

section Retries

variable {env : StoreEnvironment} {stamps : Stamps} {store opened : Store}
  {state later : LoadedState} {request : PreparedAppend} {batch : PhysicalBatch}

theorem artifactCommitted_of_extends (hdescribes : Describes env state opened.history)
    (hlater : Describes env later store.history) (hextends : opened.Extends store)
    {reference : ArtifactReference} (h : artifactCommitted state request reference = true) :
    artifactCommitted later request reference = true := by
  unfold artifactCommitted at h ⊢
  rcases (Option.any_eq_true _ _).mp h with ⟨item, hitem, hstands⟩
  rcases (hdescribes.artifacts _ item).mp hitem with ⟨other, hother, hregistered⟩
  have hagain := (hlater.artifacts _ item).mpr
    ⟨other, hextends.history.subset hother, hregistered⟩
  exact (Option.any_eq_true _ _).mpr ⟨item, hagain, hstands⟩

theorem CommittedAs.related (h : CommittedAs env request batch store)
    (hdescribes : Describes env state store.history) :
    artifactRelationsHold state request = true := by
  cases h with
  | @of stamps opened first hadmitted hfirst hextends hmem =>
      have hrelated := hadmitted.related
      unfold artifactRelationsHold at hrelated ⊢
      rw [Bool.and_eq_true] at hrelated ⊢
      refine And.intro ?_ ?_
      · rw [artifactsKept_iff]
        intro item hitem existing hexisting
        -- The batch of the request is one of those that registered the artifact.
        have hown := (hdescribes.artifacts _ item).mpr
          ⟨batch, hmem, hadmitted.artifacts ▸ hitem, by rw [hadmitted.scope]⟩
        rw [hown] at hexisting
        exact (Option.some.inj hexisting).symm
      · have hall := hrelated.right
        simp only [List.all_eq_true, Bool.or_eq_true] at hall ⊢
        intro event hevent reference hreference
        refine (hall event hevent reference hreference).imp id fun hcommitted => ?_
        exact artifactCommitted_of_extends hfirst hdescribes hextends hcommitted

theorem CommittedAs.available (h : CommittedAs env request batch store)
    (hdescribes : Describes env state store.history) :
    validateReferenceAvailability store.blobs request state = .ok () := by
  cases h with
  | @of stamps opened first hadmitted hfirst hextends hmem =>
      rcases bind_ok hadmitted.available with ⟨_, hreferences, hartifacts⟩
      refine Except.bind_eq_ok.mpr ⟨(), ?_, check_eq_ok.mpr ?_⟩
      · refine validateEvidenceReferences_imp ?_ hreferences
        intro reference hcommitted
        rcases evidenceCommitted_eq_true.mp hcommitted with
          ⟨hreachable, stored, hblob, hscope, hsame⟩
        refine evidenceCommitted_eq_true.mpr
          ⟨?_, stored, hextends.retained _ _ hblob, hscope, hsame⟩
        rcases (hfirst.reachable _).mp hreachable with ⟨other, hother, hrefers⟩
        exact (hdescribes.reachable _).mpr ⟨other, hextends.history.subset hother, hrefers⟩
      · have hall := check_eq_ok.mp hartifacts
        unfold artifactAvailable at hall ⊢
        simp only [List.all_eq_true, Bool.or_eq_true] at hall ⊢
        intro event hevent reference hreference
        refine (hall event hevent reference hreference).imp id fun hcommitted => ?_
        exact artifactCommitted_of_extends hfirst hdescribes hextends hcommitted

theorem CommittedAs.admit_eq (h : CommittedAs env request batch store) (hsound : store.Sound env)
    (hload : loadState env store = .ok state) :
    admitAppend env stamps store state request = .ok (.retry batch) := by
  have hdescribes := (hsound.of_loadState hload).left
  have hrelated := h.related hdescribes
  have havailable := h.available hdescribes
  cases h with
  | @of stamps opened first hadmitted hfirst hextends hmem =>
      have hheld : batchHoldingKeys store state request.key
          (request.events.map NewEvent.idempotencyKey) = some batch := by
        have hfollows : holdsKeys request.key (request.events.map NewEvent.idempotencyKey) batch =
            true := by
          rcases List.exists_mem_of_ne_nil _ (hsound.committed.nonempty batch hmem) with
            ⟨event, hevent⟩
          refine holdsKeys_iff.mpr ⟨hadmitted.key, event, hevent, ?_⟩
          rw [← hadmitted.keys]
          exact List.mem_map_of_mem hevent
        rw [hsound.batchHoldingKeys hdescribes]
        have hsome : (store.history.find? (holdsKeys request.key
            (request.events.map NewEvent.idempotencyKey))).isSome = true :=
          List.find?_isSome.mpr ⟨batch, hmem, hfollows⟩
        rcases Option.isSome_iff_exists.mp hsome with ⟨other, hother⟩
        rw [hother, hadmitted.repeats.eq_of_holdsKeys hsound hmem hadmitted.key
          (List.mem_of_find?_eq_some hother) (List.find?_some hother)]
      have hpreflight : validateRequestPreflight env request state = .ok () :=
        Except.bind_eq_ok.mpr ⟨(), hadmitted.prepared, check_eq_ok.mpr hrelated⟩
      refine Except.bind_eq_ok.mpr ⟨(), hpreflight, Except.bind_eq_ok.mpr ⟨(), havailable,
        Except.bind_eq_ok.mpr ⟨batch.requestDigest, hadmitted.digest, ?_⟩⟩⟩
      dsimp only
      rw [hheld]
      refine check_bind_eq_ok.mpr ⟨?_, rfl⟩
      rw [decide_eq_true rfl, hadmitted.repeats.right]
      rfl

theorem CommittedAs.retry {env : SealEnvironment} {call : Call}
    (h : CommittedAs env.toStoreEnvironment request batch store)
    (hsound : store.Sound env.toStoreEnvironment) (hfault : call.fault = none)
    (hload : loadForAppend env call store = .ok state opened) :
    appendLocked env call request store = .ok batch.events opened := by
  have hopened := (loadForAppend_triple hsound).ok rfl hload
  have hcommitted := h.mono hopened.kept.extends
  rw [appendLocked_of_admitAppend hload (hcommitted.admit_eq hopened.kept.sound hopened.loads)]
  refine bind_eq_ok.mpr ⟨(), opened, ?_, rfl⟩
  unfold publishActiveMarker
  by_cases hpublishes : (batch.events.any fun event => isPublication event.kind) = true
  · rw [if_pos hpublishes]
    exact site_of_ne (by rw [hfault]; simp)
  · rw [if_neg hpublishes]
    rfl

end Retries

/-!
## Conflicts
-/

section Conflicts

variable {env : SealEnvironment} {call : Call} {store opened : Store} {state : LoadedState}
  {request : PreparedAppend} {batch : PhysicalBatch}

theorem appendLocked_conflicts (h : store.Sound env.toStoreEnvironment)
    (hbatch : batch ∈ store.history)
    (hholds : holdsKeys request.key (request.events.map NewEvent.idempotencyKey) batch = true)
    (hdiffers : ¬ Repeats env.toStoreEnvironment request batch) :
    exists error after, appendLocked env call request store = .error error after ∧
      after.history = store.history := by
  have hfresh : forall {opened state other},
      LoadedFor env.toStoreEnvironment call store state opened ->
        admitAppend env.toStoreEnvironment call.stamps opened state request ≠ .ok (.fresh other) := by
    intro opened state other hopened hadmission
    have hunheld := (admit_eq_ok hadmission).unheld
    rw [hopened.kept.sound.batchHoldingKeys (hopened.kept.sound.of_loadState hopened.loads).left,
      List.find?_eq_none] at hunheld
    exact hunheld batch (hopened.kept.history ▸ hbatch) hholds
  cases happend : appendLocked env call request store with
  | ok events after =>
      rcases (appendLocked_triple h).ok rfl happend with
        ⟨opened, state, other, hopened, hsettled, _⟩
      cases hsettled with
      | written hadmission _ =>
          exact absurd hadmission (hfresh hopened)
      | retried hadmission _ =>
          rcases admit_eq_ok hadmission with ⟨hheld, hrepeats⟩
          have hsound := hopened.kept.sound
          rw [hsound.batchHoldingKeys (hsound.of_loadState hopened.loads).left] at hheld
          have hother := List.mem_of_find?_eq_some hheld
          have hsame := Repeats.eq_of_holdsKeys hsound hrepeats hother
            (holdsKeys_iff.mp (List.find?_some hheld)).left
            (hopened.kept.history ▸ hbatch) hholds
          exact absurd (hsame ▸ hrepeats) hdiffers
  | error error after =>
      refine ⟨error, after, rfl, ?_⟩
      rcases (appendLocked_triple h).error rfl happend with
        hunwritten | ⟨_, opened, state, other, hopened, hadmission, _⟩
      · exact hunwritten.history
      · exact absurd hadmission (hfresh hopened)

theorem appendLocked_conflict (h : store.Sound env.toStoreEnvironment)
    (hbatch : batch ∈ store.history)
    (hholds : holdsKeys request.key (request.events.map NewEvent.idempotencyKey) batch = true)
    (hdiffers : ¬ Repeats env.toStoreEnvironment request batch)
    (hload : loadForAppend env call store = .ok state opened)
    (hpreflight : validateRequestPreflight env.toStoreEnvironment request state = .ok ())
    (havailable : validateReferenceAvailability opened.blobs request state = .ok ()) :
    appendLocked env call request store = .error .idempotencyConflict opened := by
  have hopened := (loadForAppend_triple h).ok rfl hload
  have hsound := hopened.kept.sound
  have hdigest : exists digest, request.requestDigest env.toStoreEnvironment = .ok digest := by
    rcases bind_ok hpreflight with ⟨_, hprepared, _⟩
    unfold validatePreparedAppend at hprepared
    rcases bind_ok hprepared with ⟨_, _, hprepared⟩
    rcases check_ok hprepared with ⟨_, hprepared⟩
    rcases bind_ok hprepared with ⟨_, _, hprepared⟩
    rcases check_ok hprepared with ⟨_, hprepared⟩
    rcases bind_ok hprepared with ⟨_, _, hprepared⟩
    rcases check_ok hprepared with ⟨_, hprepared⟩
    rcases bind_ok hprepared with ⟨_, _, hprepared⟩
    rcases check_ok hprepared with ⟨_, hprepared⟩
    rcases bind_ok hprepared with ⟨_, _, hprepared⟩
    rcases bind_ok hprepared with ⟨digest, hdigest, _⟩
    exact ⟨digest, hdigest⟩
  rcases hdigest with ⟨digest, hdigest⟩
  have hsome : (opened.history.find? (holdsKeys request.key
      (request.events.map NewEvent.idempotencyKey))).isSome = true :=
    List.find?_isSome.mpr ⟨batch, hopened.kept.history ▸ hbatch, hholds⟩
  rcases Option.isSome_iff_exists.mp hsome with ⟨other, hother⟩
  have hheld : batchHoldingKeys opened state request.key
      (request.events.map NewEvent.idempotencyKey) = some other :=
    (hsound.batchHoldingKeys (hsound.of_loadState hopened.loads).left).trans hother
  have hrefused : (decide (other.requestDigest = digest) &&
      sameKeys (other.events.map EventEnvelope.idempotencyKey)
        (request.events.map NewEvent.idempotencyKey)) = false := by
    rw [Bool.eq_false_iff]
    intro hsame
    rw [Bool.and_eq_true, decide_eq_true_eq] at hsame
    have hrepeats : Repeats env.toStoreEnvironment request other :=
      And.intro (hsame.left ▸ hdigest) hsame.right
    have hmem := List.mem_of_find?_eq_some hother
    have heq := hrepeats.eq_of_holdsKeys hsound hmem
      (holdsKeys_iff.mp (List.find?_some hother)).left (hopened.kept.history ▸ hbatch) hholds
    exact hdiffers (heq ▸ hrepeats)
  have hadmission : admitAppend env.toStoreEnvironment call.stamps opened state request =
      .error .idempotencyConflict := by
    unfold admitAppend
    rw [hpreflight, havailable, hdigest]
    dsimp only [Except.ok_bind]
    rw [hheld]
    dsimp only
    rw [hrefused]
    rfl
  exact appendLocked_of_refused hload hadmission

end Conflicts

/-!
## Streams
-/

/-!
## Two refused calls
-/

namespace Sample

/-- A request with the key of the first and another, and an artifact nobody registered. -/
def unregistered : PreparedAppend :=
  { request 1 with
    events := [{ signal 0 with artifactRefs := [artifact "z"] }, signal 1]
    artifacts := []
    allowed := by decide +kernel }

def signalled : Store :=
  stateAfter (appendLocked storeEnv quiet (request 0)) Store.empty

theorem signalled_reached :
    run (Store.step storeEnv) Store.empty [.append quiet (request 0)] = some signalled :=
  rfl

theorem signalled_holds : exists batch, batch ∈ signalled.history ∧
    holdsKeys unregistered.key (unregistered.events.map NewEvent.idempotencyKey) batch = true ∧
      ¬ Repeats storeEnv.toStoreEnvironment unregistered batch := by
  have hheld : (signalled.history.any fun batch =>
      holdsKeys unregistered.key (unregistered.events.map NewEvent.idempotencyKey) batch &&
        !sameKeys (batch.events.map EventEnvelope.idempotencyKey)
          (unregistered.events.map NewEvent.idempotencyKey)) = true := by decide +kernel
  rcases List.any_eq_true.mp hheld with ⟨batch, hmem, hbatch⟩
  rw [Bool.and_eq_true, Bool.not_eq_true'] at hbatch
  refine ⟨batch, hmem, hbatch.left, ?_⟩
  intro hrepeats
  rw [hrepeats.right] at hbatch
  cases hbatch.right

theorem unregistered_refused :
    exists after, appendLocked storeEnv quiet unregistered signalled = .error .invalid after := by
  have hrefused : (match appendLocked storeEnv quiet unregistered signalled with
      | .error .invalid _ => true
      | _ => false) = true := by decide +kernel
  split at hrefused
  · rename_i after happend
    exact ⟨after, happend⟩
  · cases hrefused

/-- A call whose journal cannot be synced once the line is written. -/
def unsynced : Call :=
  { quiet with fault := some .journalSync }

end Sample

/-!
## The contract
-/

/-- After every run of calls and recoveries: the streams are numbered, chained and free of
repeated keys; a failing call leaves the history as it was, or with its whole batch at the end
when the disk failed only after the line was written; a request once committed is answered
with its batch from then on; and a request that shares a key with a batch it does not repeat
appends nothing, and conflicts unless an earlier check refused it. -/
theorem store_contract {env : SealEnvironment} {store : Store} {actions : List StoreAction}
    (hrun : run (Store.step env) Store.empty actions = some store) :
    (forall key, StreamHistory env.toEnvironment key.scope key.id.text
        (streamEvents key store.history) ∧
      ((streamEvents key store.history).map EventEnvelope.idempotencyKey).Nodup) ∧
    (forall call request error after,
      appendLocked env call request store = .error error after ->
        after.history = store.history ∨
          (call.fault.any Fault.afterWrite = true ∧ exists batch,
            batch.key = request.key ∧ batch.newEvents = request.events ∧
              after.history = store.history ++ [batch])) ∧
    (forall call request batch, batch ∈ store.history ->
      holdsKeys request.key (request.events.map NewEvent.idempotencyKey) batch = true ->
      ¬ Repeats env.toStoreEnvironment request batch ->
        (exists error after, appendLocked env call request store = .error error after ∧
          after.history = store.history) ∧
        forall state opened, loadForAppend env call store = .ok state opened ->
          validateRequestPreflight env.toStoreEnvironment request state = .ok () ->
          validateReferenceAvailability opened.blobs request state = .ok () ->
            appendLocked env call request store = .error .idempotencyConflict opened) ∧
    (forall call request batch later last,
      (stateAfter (appendLocked env call request) store).history = store.history ++ [batch] ->
      run (Store.step env) (stateAfter (appendLocked env call request) store) later =
        some last ->
        forall again state opened, again.fault = none ->
          loadForAppend env again last = .ok state opened ->
            appendLocked env again request last = .ok batch.events opened ∧
              opened.history = last.history) := by
  have h := Store.Sound.of_run hrun
  refine ⟨fun key => And.intro (h.committed.streams key) (h.committed.keys key), ?_, ?_, ?_⟩
  · intro call request error after herror
    rcases (appendLocked_triple h).error rfl herror with
      hunwritten | ⟨hfault, opened, state, batch, hopened, hadmission, hwritten⟩
    · exact Or.inl hunwritten.history
    · have hadmitted := admit_eq_ok hadmission
      refine Or.inr (And.intro hfault ⟨batch, hadmitted.key, hadmitted.newEvents, ?_⟩)
      rw [hwritten.history, hopened.kept.history]
  · intro call request batch hbatch hholds hdiffers
    exact And.intro (appendLocked_conflicts h hbatch hholds hdiffers) fun state opened =>
      appendLocked_conflict h hbatch hholds hdiffers
  · intro call request batch later last hhistory hlater again state opened hfault hload
    have hcommitted := committedAs_of_appended h hhistory
    have hmiddle := @Store.step_sound env store _ (.append call request) h rfl
    rcases Store.run_extends hmiddle hlater with ⟨hlast, hextends⟩
    have hopened := (loadForAppend_triple hlast).ok rfl hload
    exact And.intro ((hcommitted.mono hextends).retry hlast hfault hload) hopened.kept.history

theorem store_contract_after_the_first_signal :
    exists store,
      run (Store.step Sample.storeEnv) Store.empty [.append Sample.quiet (Sample.request 0)] =
          some store ∧
        store.history.length = 1 ∧
        forall key, StreamHistory Sample.storeEnv.toEnvironment key.scope key.id.text
            (streamEvents key store.history) ∧
          ((streamEvents key store.history).map EventEnvelope.idempotencyKey).Nodup := by
  exact ⟨Sample.signalled, Sample.signalled_reached, by decide +kernel,
    (store_contract Sample.signalled_reached).left⟩

/-- A failing call can leave its batch in the history, and a request under a committed key
can be refused as invalid. -/
theorem store_contract_fails_when_the_answer_is_lost :
    ¬ (forall (env : SealEnvironment) (actions : List StoreAction) (store : Store),
        run (Store.step env) Store.empty actions = some store ->
        forall call request error after,
          appendLocked env call request store = .error error after ->
            after.history = store.history) ∧
      ¬ (forall (env : SealEnvironment) (actions : List StoreAction) (store : Store),
        run (Store.step env) Store.empty actions = some store ->
        forall call request batch error after, batch ∈ store.history ->
          holdsKeys request.key (request.events.map NewEvent.idempotencyKey) batch = true ->
          ¬ Repeats env.toStoreEnvironment request batch ->
            appendLocked env call request store = .error error after ->
              error = .idempotencyConflict) := by
  refine And.intro (fun hclaim => ?_) (fun hclaim => ?_)
  · have hkept := hclaim Sample.storeEnv [] Store.empty rfl Sample.unsynced (Sample.request 0)
      .storage (stateAfter (appendLocked Sample.storeEnv Sample.unsynced (Sample.request 0))
        Store.empty) rfl
    have hlength : (stateAfter (appendLocked Sample.storeEnv Sample.unsynced (Sample.request 0))
      Store.empty).history.length = 1 := by decide +kernel
    rw [hkept] at hlength
    cases hlength
  · rcases Sample.signalled_holds with ⟨batch, hbatch, hholds, hdiffers⟩
    rcases Sample.unregistered_refused with ⟨after, hrefused⟩
    cases hclaim Sample.storeEnv [.append Sample.quiet (Sample.request 0)] Sample.signalled
      Sample.signalled_reached Sample.quiet Sample.unregistered batch .invalid after hbatch
      hholds hdiffers hrefused

end GraphHelm
