import GraphHelm.Store.Loaded

/-!
# Committed histories

The batches of a journal, read stream by stream: what a batch must be to follow
a loaded state, what the loaded state says of the history it was loaded from,
and what every stream of a history made of following batches looks like.
-/

namespace GraphHelm

open Std

def streamEvents (key : ObjectKey) (history : List PhysicalBatch) : List EventEnvelope :=
  (history.filter fun batch => batch.key = key).flatMap PhysicalBatch.events

section StreamEvents

variable {key : ObjectKey} {history more : List PhysicalBatch} {batch : PhysicalBatch}

theorem streamEvents_append :
    streamEvents key (history ++ more) = streamEvents key history ++ streamEvents key more := by
  unfold streamEvents
  rw [List.filter_append, List.flatMap_append]

theorem streamEvents_concat_own (h : batch.key = key) :
    streamEvents key (history ++ [batch]) = streamEvents key history ++ batch.events := by
  rw [streamEvents_append]
  simp [streamEvents, h]

theorem streamEvents_concat_other (h : batch.key ≠ key) :
    streamEvents key (history ++ [batch]) = streamEvents key history := by
  rw [streamEvents_append]
  simp [streamEvents, h]

theorem mem_streamEvents {event : EventEnvelope} :
    event ∈ streamEvents key history <->
      exists batch, batch ∈ history ∧ batch.key = key ∧ event ∈ batch.events := by
  unfold streamEvents
  simp only [List.mem_flatMap, List.mem_filter, decide_eq_true_eq, and_assoc]

end StreamEvents

/-!
## Batches that follow a state
-/

/-- A batch that the verifier, standing in `state`, finds to go on its stream. -/
structure Follows (env : StoreEnvironment) (state : LoadedState) (batch : PhysicalBatch) :
    Prop where
  nonempty : batch.events ≠ []
  expected : batch.expectedNextSequence = state.expectedSequence batch.key
  owned : forall event, event ∈ batch.events ->
    event.scope = batch.scope ∧ event.streamId = batch.streamId
  numbered : Numbered (batch.expectedNextSequence - 1) batch.events
  linked : (envelopeChain env.toEnvironment).Linked (state.previousHash batch.key) batch.events
  fresh : forall event, event ∈ batch.events ->
    ({ stream := batch.key, key := event.idempotencyKey } : IdempotencyIdentity) ∉
      state.seenIdempotency
  distinct : (batch.events.map EventEnvelope.idempotencyKey).Nodup
  registered : (batch.artifacts.map fun item => item.reference.artifactId).Nodup
  kept : forall item, item ∈ batch.artifacts -> forall existing,
    state.artifacts[({ scope := batch.scope, id := item.reference.artifactId } : ObjectKey)]? =
      some existing -> existing = item

structure Describes (env : StoreEnvironment) (state : LoadedState)
    (history : List PhysicalBatch) : Prop where
  sequences : forall key,
    state.expectedSequence key = (streamEvents key history).length + 1
  hashes : forall key,
    state.previousHash key =
      (envelopeChain env.toEnvironment).last genesisHash (streamEvents key history)
  seen : forall identity,
    identity ∈ state.seenIdempotency <->
      exists event, event ∈ streamEvents identity.stream history ∧
        event.idempotencyKey = identity.key
  reachable : forall key : ObjectKey,
    key ∈ state.reachableEvidence <->
      exists batch, batch ∈ history ∧ exists event, event ∈ batch.events ∧
        exists reference, reference ∈ event.evidenceRefs ∧
          key = { scope := batch.scope, id := reference.evidenceId }
  artifacts : forall (key : ObjectKey) (item : StoredArtifactRegistration),
    state.artifacts[key]? = some item <->
      exists batch, batch ∈ history ∧ item ∈ batch.artifacts ∧
        key = { scope := batch.scope, id := item.reference.artifactId }
  streams : forall key : ObjectKey,
    key ∈ state.historyStreams <-> exists batch, batch ∈ history ∧ batch.key = key
  publications : state.historyPublications = publicationsOf history

/-- A history every stream of which is numbered, chained and free of repeated keys. -/
structure Committed (env : StoreEnvironment) (history : List PhysicalBatch) : Prop where
  streams : forall key,
    StreamHistory env.toEnvironment key.scope key.id.text (streamEvents key history)
  keys : forall key, ((streamEvents key history).map EventEnvelope.idempotencyKey).Nodup
  nonempty : forall batch, batch ∈ history -> batch.events ≠ []

theorem Describes.default (env : StoreEnvironment) :
    Describes env LoadedState.default [] :=
  { sequences := fun _ => rfl
    hashes := fun _ => rfl
    seen := fun identity => by simp [LoadedState.default, streamEvents]
    reachable := fun key => by simp [LoadedState.default]
    artifacts := fun key item => by simp [LoadedState.default]
    streams := fun key => by simp [LoadedState.historyStreams, LoadedState.default]
    publications := rfl }

theorem Committed.nil (env : StoreEnvironment) : Committed env [] :=
  { streams := fun _ => StreamHistory.nil
    keys := fun _ => List.nodup_nil
    nonempty := by simp }

namespace LoadedState

section Absorb

variable (env : StoreEnvironment) (state : LoadedState) (batch : PhysicalBatch)

theorem absorb_nextSequence :
    (state.absorb env batch).nextSequence =
      state.nextSequence.insert batch.key
        (batch.expectedNextSequence + batch.events.length) := by
  let folded := batch.events.foldl (absorbEvent batch.key) state
  have hevents : SameHeads state folded := absorbEvents_heads batch.key batch.events state
  have hitems := recordArtifacts_keys batch.scope batch.artifacts (recordHeads env batch folded)
  calc
    (state.absorb env batch).nextSequence = (recordHeads env batch folded).nextSequence :=
      hitems.nextSequence
    _ = folded.nextSequence.insert batch.key
          (batch.expectedNextSequence + batch.events.length) := rfl
    _ = _ := by rw [hevents.nextSequence]

theorem absorb_lastHash :
    (state.absorb env batch).lastHash =
      state.lastHash.insert batch.key
        ((envelopeChain env.toEnvironment).last (state.previousHash batch.key)
          batch.events) := by
  let folded := batch.events.foldl (absorbEvent batch.key) state
  have hevents : SameHeads state folded := absorbEvents_heads batch.key batch.events state
  have hitems := recordArtifacts_keys batch.scope batch.artifacts (recordHeads env batch folded)
  calc
    (state.absorb env batch).lastHash = (recordHeads env batch folded).lastHash :=
      hitems.lastHash
    _ = folded.lastHash.insert batch.key
          ((envelopeChain env.toEnvironment).last (folded.previousHash batch.key)
            batch.events) := rfl
    _ = _ := by
      unfold previousHash
      rw [hevents.lastHash]

theorem absorb_batches : (state.absorb env batch).batches = state.batches ++ [batch] := by
  let folded := batch.events.foldl (absorbEvent batch.key) state
  have hevents : SameHeads state folded := absorbEvents_heads batch.key batch.events state
  have hitems := recordArtifacts_keys batch.scope batch.artifacts (recordHeads env batch folded)
  exact congrArg (fun batches => batches ++ [batch]) (hitems.batches.trans hevents.batches)

theorem absorb_sealed :
    (state.absorb env batch).sealedStreams = state.sealedStreams ∧
      (state.absorb env batch).sealedPublications = state.sealedPublications := by
  let folded := batch.events.foldl (absorbEvent batch.key) state
  have hevents : SameHeads state folded := absorbEvents_heads batch.key batch.events state
  have hitems := recordArtifacts_keys batch.scope batch.artifacts (recordHeads env batch folded)
  exact And.intro (hitems.sealedStreams.trans hevents.sealedStreams)
    (hitems.sealedPublications.trans hevents.sealedPublications)

theorem absorb_historyStreams :
    (state.absorb env batch).historyStreams = state.historyStreams.insert batch.key := by
  unfold historyStreams
  rw [absorb_batches, (absorb_sealed env state batch).left, List.foldl_append]
  rfl

theorem absorb_historyPublications :
    (state.absorb env batch).historyPublications =
      state.historyPublications ++ publicationsOf [batch] := by
  unfold historyPublications publicationsOf
  rw [absorb_batches, (absorb_sealed env state batch).right, List.flatMap_append,
    List.filter_append, List.append_assoc]

theorem absorb_seenIdempotency :
    (state.absorb env batch).seenIdempotency =
      (batch.events.foldl (absorbEvent batch.key) state).seenIdempotency :=
  (recordArtifacts_keys batch.scope batch.artifacts
    (recordHeads env batch (batch.events.foldl (absorbEvent batch.key) state))).seenIdempotency

theorem absorb_reachableEvidence :
    (state.absorb env batch).reachableEvidence =
      (batch.events.foldl (absorbEvent batch.key) state).reachableEvidence :=
  (recordArtifacts_keys batch.scope batch.artifacts
    (recordHeads env batch
      (batch.events.foldl (absorbEvent batch.key) state))).reachableEvidence

theorem absorb_expectedSequence_own :
    (state.absorb env batch).expectedSequence batch.key =
      batch.expectedNextSequence + batch.events.length := by
  unfold expectedSequence
  rw [absorb_nextSequence, ExtTreeMap.getElem?_insert_self]
  rfl

theorem absorb_previousHash_own :
    (state.absorb env batch).previousHash batch.key =
      (envelopeChain env.toEnvironment).last (state.previousHash batch.key) batch.events := by
  show ((state.absorb env batch).lastHash[batch.key]?).getD genesisHash = _
  rw [absorb_lastHash, ExtTreeMap.getElem?_insert_self]
  rfl

variable {batch} {key : ObjectKey}

theorem absorb_expectedSequence_other (h : batch.key ≠ key) :
    (state.absorb env batch).expectedSequence key = state.expectedSequence key := by
  unfold expectedSequence
  rw [absorb_nextSequence, OrderedMap.getElem?_insert_of_ne h]

theorem absorb_previousHash_other (h : batch.key ≠ key) :
    (state.absorb env batch).previousHash key = state.previousHash key := by
  unfold previousHash
  rw [absorb_lastHash, OrderedMap.getElem?_insert_of_ne h]

end Absorb

end LoadedState

section Follows

variable {env : StoreEnvironment} {state : LoadedState} {history : List PhysicalBatch}
  {batch : PhysicalBatch}

theorem Follows.expected_eq (h : Follows env state batch)
    (hdescribes : Describes env state history) :
    batch.expectedNextSequence = (streamEvents batch.key history).length + 1 :=
  h.expected.trans (hdescribes.sequences batch.key)

theorem Follows.seen_absorb (h : Describes env state history)
    (identity : IdempotencyIdentity) :
    identity ∈ (state.absorb env batch).seenIdempotency <->
      exists event, event ∈ streamEvents identity.stream (history ++ [batch]) ∧
        event.idempotencyKey = identity.key := by
  rw [LoadedState.absorb_seenIdempotency, LoadedState.mem_absorbEvents_seen, h.seen,
    streamEvents_append]
  constructor
  · rintro (⟨event, hmem, hkey⟩ | ⟨event, hmem, rfl⟩)
    · exact ⟨event, List.mem_append_left _ hmem, hkey⟩
    · refine ⟨event, List.mem_append_right _ ?_, rfl⟩
      exact mem_streamEvents.mpr ⟨batch, List.mem_singleton_self batch, rfl, hmem⟩
  · rintro ⟨event, hmem, hkey⟩
    rcases List.mem_append.mp hmem with hold | hnew
    · exact Or.inl ⟨event, hold, hkey⟩
    · rcases mem_streamEvents.mp hnew with ⟨other, hother, hstream, hevent⟩
      rw [List.mem_singleton.mp hother] at hstream hevent
      refine Or.inr ⟨event, hevent, ?_⟩
      rw [hstream, hkey]

theorem Follows.reachable_absorb (h : Describes env state history)
    (hfollows : Follows env state batch) (key : ObjectKey) :
    key ∈ (state.absorb env batch).reachableEvidence <->
      exists other, other ∈ history ++ [batch] ∧ exists event, event ∈ other.events ∧
        exists reference, reference ∈ event.evidenceRefs ∧
          key = { scope := other.scope, id := reference.evidenceId } := by
  rw [LoadedState.absorb_reachableEvidence, LoadedState.mem_absorbEvents_reachable, h.reachable]
  constructor
  · rintro (⟨other, hother, hrefers⟩ | ⟨event, hevent, reference, hreference, hkey⟩)
    · exact ⟨other, List.mem_append_left _ hother, hrefers⟩
    · rw [(hfollows.owned event hevent).left] at hkey
      exact ⟨batch, List.mem_append_right _ (List.mem_singleton_self batch), event, hevent,
        reference, hreference, hkey.symm⟩
  · rintro ⟨other, hother, event, hevent, reference, hreference, hkey⟩
    rcases List.mem_append.mp hother with hold | hnew
    · exact Or.inl ⟨other, hold, event, hevent, reference, hreference, hkey⟩
    · rw [List.mem_singleton.mp hnew] at hevent hkey
      rw [← (hfollows.owned event hevent).left] at hkey
      exact Or.inr ⟨event, hevent, reference, hreference, hkey.symm⟩

theorem Follows.artifacts_absorb (h : Describes env state history)
    (hfollows : Follows env state batch) (key : ObjectKey)
    (item : StoredArtifactRegistration) :
    (state.absorb env batch).artifacts[key]? = some item <->
      exists other, other ∈ history ++ [batch] ∧ item ∈ other.artifacts ∧
        key = { scope := other.scope, id := item.reference.artifactId } := by
  have hkeep : (LoadedState.recordHeads env batch
      (batch.events.foldl (LoadedState.absorbEvent batch.key) state)).artifacts =
        state.artifacts :=
    (LoadedState.absorbEvents_heads batch.key batch.events state).artifacts
  constructor
  · intro hitem
    rcases LoadedState.recordArtifacts_origin hitem with hold | ⟨hnew, hkey⟩
    · rw [hkeep, h.artifacts] at hold
      rcases hold with ⟨other, hother, hitem⟩
      exact ⟨other, List.mem_append_left _ hother, hitem⟩
    · exact ⟨batch, List.mem_append_right _ (List.mem_singleton_self batch), hnew,
        hkey.symm⟩
  · rintro ⟨other, hother, hitem, rfl⟩
    rcases List.mem_append.mp hother with hold | hnew
    · apply LoadedState.recordArtifacts_of_registered
      rw [hkeep, h.artifacts]
      exact ⟨other, hold, hitem, rfl⟩
    · rw [List.mem_singleton.mp hnew] at hitem ⊢
      apply LoadedState.recordArtifacts_mem hfollows.registered _ hitem
      intro later hlater existing hexisting
      rw [hkeep] at hexisting
      exact hfollows.kept later hlater existing hexisting

theorem Describes.absorb (h : Describes env state history) (hfollows : Follows env state batch) :
    Describes env (state.absorb env batch) (history ++ [batch]) := by
  refine
    { sequences := ?_
      hashes := ?_
      seen := Follows.seen_absorb h
      reachable := Follows.reachable_absorb h hfollows
      artifacts := Follows.artifacts_absorb h hfollows
      streams := ?_
      publications := ?_ }
  · intro key
    by_cases hkey : batch.key = key
    · rw [← hkey, LoadedState.absorb_expectedSequence_own, streamEvents_concat_own rfl,
        List.length_append, hfollows.expected_eq h]
      omega
    · rw [LoadedState.absorb_expectedSequence_other env state hkey,
        streamEvents_concat_other hkey, h.sequences]
  · intro key
    by_cases hkey : batch.key = key
    · rw [← hkey, LoadedState.absorb_previousHash_own, streamEvents_concat_own rfl,
        HashChain.last_append, h.hashes]
    · rw [LoadedState.absorb_previousHash_other env state hkey,
        streamEvents_concat_other hkey, h.hashes]
  · intro key
    rw [LoadedState.absorb_historyStreams, OrderedMap.mem_insert, h.streams]
    constructor
    · rintro (rfl | ⟨other, hother, hkey⟩)
      · exact ⟨batch, List.mem_append_right _ (List.mem_singleton_self batch), rfl⟩
      · exact ⟨other, List.mem_append_left _ hother, hkey⟩
    · rintro ⟨other, hother, hkey⟩
      rcases List.mem_append.mp hother with hold | hnew
      · exact Or.inr ⟨other, hold, hkey⟩
      · exact Or.inl (hkey ▸ congrArg PhysicalBatch.key (List.mem_singleton.mp hnew))
  · rw [LoadedState.absorb_historyPublications, h.publications]
    unfold publicationsOf
    rw [List.flatMap_append, List.filter_append]

theorem Follows.continuation (h : Follows env state batch)
    (hdescribes : Describes env state history) :
    Continuation env.toEnvironment batch.scope batch.streamId
      (streamEvents batch.key history).length
      ((envelopeChain env.toEnvironment).last genesisHash (streamEvents batch.key history))
      batch.newEvents batch.events := by
  have hnumbered := h.numbered
  rw [h.expected_eq hdescribes, Nat.add_sub_cancel] at hnumbered
  exact
    { carries := rfl
      owned := h.owned
      numbered := hnumbered
      linked := hdescribes.hashes batch.key ▸ h.linked }

theorem Committed.append (h : Committed env history) (hdescribes : Describes env state history)
    (hfollows : Follows env state batch) : Committed env (history ++ [batch]) := by
  refine { streams := ?_, keys := ?_, nonempty := ?_ }
  · intro key
    by_cases hkey : batch.key = key
    · rw [← hkey, streamEvents_concat_own rfl]
      exact (h.streams batch.key).append (hfollows.continuation hdescribes)
    · rw [streamEvents_concat_other hkey]
      exact h.streams key
  · intro key
    by_cases hkey : batch.key = key
    · rw [← hkey, streamEvents_concat_own rfl, List.map_append, List.nodup_append]
      refine ⟨h.keys batch.key, hfollows.distinct, ?_⟩
      intro first hfirst second hsecond heq
      rcases List.mem_map.mp hfirst with ⟨old, hold, hkey⟩
      rcases List.mem_map.mp hsecond with ⟨event, hevent, hnew⟩
      apply hfollows.fresh event hevent
      rw [hdescribes.seen]
      exact ⟨old, hold, by rw [hkey, heq, hnew]⟩
    · rw [streamEvents_concat_other hkey]
      exact h.keys key
  · intro other hother
    rcases List.mem_append.mp hother with hold | hnew
    · exact h.nonempty other hold
    · rw [List.mem_singleton.mp hnew]
      exact hfollows.nonempty

end Follows

end GraphHelm
