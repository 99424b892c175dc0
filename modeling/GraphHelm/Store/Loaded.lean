import GraphHelm.Library.OrderedMap
import GraphHelm.Store.Batches

/-!
# What a load derives from the journal

`LoadedState` of `core/events/src/local.rs`, what one verified batch adds to it,
and what it says about the history the batches make up.
-/

namespace GraphHelm

open Std

structure ActiveVersion where
  number : Nat
  semanticHash : WireHash
  sequence : Nat
  eventHash : EventHash
deriving DecidableEq

structure LoadedState where
  batches : List PhysicalBatch
  nextSequence : ExtTreeMap ObjectKey Nat
  lastHash : ExtTreeMap ObjectKey EventHash
  reachableEvidence : ExtTreeSet ObjectKey
  artifacts : ExtTreeMap ObjectKey StoredArtifactRegistration
  activeVersions : ExtTreeMap ObjectKey ActiveVersion
  seenIdempotency : ExtTreeSet IdempotencyIdentity
  sealedStreams : ExtTreeSet ObjectKey
  sealedPublications : List EventEnvelope
deriving DecidableEq

def isPublication : EventKind -> Bool
  | .graphVersionPublished _ => true
  | _ => false

/-- The graph publications of the given batches, oldest first. -/
def publicationsOf (batches : List PhysicalBatch) : List EventEnvelope :=
  (batches.flatMap PhysicalBatch.events).filter fun event => isPublication event.kind

namespace LoadedState

def default : LoadedState :=
  { batches := []
    nextSequence := ∅
    lastHash := ∅
    reachableEvidence := ∅
    artifacts := ∅
    activeVersions := ∅
    seenIdempotency := ∅
    sealedStreams := ∅
    sealedPublications := [] }

def expectedSequence (state : LoadedState) (key : ObjectKey) : Nat :=
  state.nextSequence[key]?.getD 1

def previousHash (state : LoadedState) (key : ObjectKey) : EventHash :=
  state.lastHash[key]?.getD genesisHash

def historyStreams (state : LoadedState) : ExtTreeSet ObjectKey :=
  state.batches.foldl (fun streams batch => streams.insert batch.key) state.sealedStreams

def historyPublications (state : LoadedState) : List EventEnvelope :=
  state.sealedPublications ++ publicationsOf state.batches

/-!
## What one batch adds
-/

def recordPublication (key : ObjectKey) (event : EventEnvelope) (state : LoadedState) :
    LoadedState :=
  match event.kind with
  | .graphVersionPublished version =>
      { state with
        activeVersions :=
          state.activeVersions.insert key
            { number := version.number
              semanticHash := version.semanticHash
              sequence := event.sequence
              eventHash := event.eventHash } }
  | _ => state

def recordKey (key : ObjectKey) (event : EventEnvelope) (state : LoadedState) : LoadedState :=
  { state with
    seenIdempotency :=
      state.seenIdempotency.insert { stream := key, key := event.idempotencyKey } }

def recordReference (scope : RepositoryScope) (state : LoadedState)
    (reference : EvidenceReference) : LoadedState :=
  { state with
    reachableEvidence :=
      state.reachableEvidence.insert { scope := scope, id := reference.evidenceId } }

def absorbEvent (key : ObjectKey) (state : LoadedState) (event : EventEnvelope) : LoadedState :=
  event.evidenceRefs.foldl (recordReference event.scope)
    (recordKey key event (recordPublication key event state))

def recordArtifact (scope : RepositoryScope) (state : LoadedState)
    (item : StoredArtifactRegistration) : LoadedState :=
  { state with
    artifacts :=
      state.artifacts.insertIfNew { scope := scope, id := item.reference.artifactId } item }

/-- The heads of a stream once a batch of it has been verified. -/
def recordHeads (env : StoreEnvironment) (batch : PhysicalBatch) (state : LoadedState) :
    LoadedState :=
  { state with
    nextSequence :=
      state.nextSequence.insert batch.key (batch.expectedNextSequence + batch.events.length)
    lastHash :=
      state.lastHash.insert batch.key
        ((envelopeChain env.toEnvironment).last (state.previousHash batch.key) batch.events) }

/-- The state after a batch that nothing was wrong with. -/
def absorb (env : StoreEnvironment) (state : LoadedState) (batch : PhysicalBatch) :
    LoadedState :=
  let folded := recordHeads env batch (batch.events.foldl (absorbEvent batch.key) state)
  let registered := batch.artifacts.foldl (recordArtifact batch.scope) folded
  { registered with batches := registered.batches ++ [batch] }

/-!
## What a batch leaves alone
-/

/-- The parts of a state that the events of a batch do not touch. -/
structure SameHeads (before after : LoadedState) : Prop where
  batches : after.batches = before.batches
  nextSequence : after.nextSequence = before.nextSequence
  lastHash : after.lastHash = before.lastHash
  artifacts : after.artifacts = before.artifacts
  sealedStreams : after.sealedStreams = before.sealedStreams
  sealedPublications : after.sealedPublications = before.sealedPublications

theorem SameHeads.refl (state : LoadedState) : SameHeads state state :=
  ⟨rfl, rfl, rfl, rfl, rfl, rfl⟩

theorem SameHeads.trans {a b c : LoadedState} (hab : SameHeads a b) (hbc : SameHeads b c) :
    SameHeads a c :=
  ⟨hbc.batches.trans hab.batches, hbc.nextSequence.trans hab.nextSequence,
    hbc.lastHash.trans hab.lastHash, hbc.artifacts.trans hab.artifacts,
    hbc.sealedStreams.trans hab.sealedStreams,
    hbc.sealedPublications.trans hab.sealedPublications⟩

theorem SameHeads.foldl {α : Type} {f : LoadedState -> α -> LoadedState}
    (hstep : forall state a, SameHeads state (f state a)) (xs : List α) (state : LoadedState) :
    SameHeads state (xs.foldl f state) := by
  induction xs generalizing state with
  | nil =>
      exact SameHeads.refl state
  | cons x rest ih =>
      exact (hstep state x).trans (ih (f state x))

theorem recordPublication_heads (key : ObjectKey) (event : EventEnvelope)
    (state : LoadedState) : SameHeads state (recordPublication key event state) := by
  unfold recordPublication
  split
  · exact ⟨rfl, rfl, rfl, rfl, rfl, rfl⟩
  · exact SameHeads.refl state

theorem recordPublication_keys (key : ObjectKey) (event : EventEnvelope)
    (state : LoadedState) :
    (recordPublication key event state).seenIdempotency = state.seenIdempotency ∧
      (recordPublication key event state).reachableEvidence = state.reachableEvidence := by
  unfold recordPublication
  split
  · exact And.intro rfl rfl
  · exact And.intro rfl rfl

theorem absorbEvent_heads (key : ObjectKey) (state : LoadedState) (event : EventEnvelope) :
    SameHeads state (absorbEvent key state event) := by
  have hpublished := recordPublication_heads key event state
  have hreferences := SameHeads.foldl
    (fun before reference =>
      (⟨rfl, rfl, rfl, rfl, rfl, rfl⟩ :
        SameHeads before (recordReference event.scope before reference)))
    event.evidenceRefs (recordKey key event (recordPublication key event state))
  exact hpublished.trans
    ((⟨rfl, rfl, rfl, rfl, rfl, rfl⟩ : SameHeads (recordPublication key event state)
      (recordKey key event (recordPublication key event state))).trans hreferences)

theorem absorbEvents_heads (key : ObjectKey) (events : List EventEnvelope)
    (state : LoadedState) : SameHeads state (events.foldl (absorbEvent key) state) :=
  SameHeads.foldl (absorbEvent_heads key) events state

/-!
## The sets a batch adds to
-/

theorem recordReferences_seen (scope : RepositoryScope) (references : List EvidenceReference)
    (state : LoadedState) :
    (references.foldl (recordReference scope) state).seenIdempotency =
      state.seenIdempotency := by
  induction references generalizing state with
  | nil =>
      rfl
  | cons reference rest ih =>
      exact ih (recordReference scope state reference)

theorem absorbEvent_seen (key : ObjectKey) (state : LoadedState) (event : EventEnvelope) :
    (absorbEvent key state event).seenIdempotency =
      state.seenIdempotency.insert { stream := key, key := event.idempotencyKey } := by
  unfold absorbEvent
  rw [recordReferences_seen]
  unfold recordKey
  rw [(recordPublication_keys key event state).left]

variable {state : LoadedState} {object : ObjectKey} {item : StoredArtifactRegistration}
    {items : List StoredArtifactRegistration} {scope : RepositoryScope}

theorem mem_absorbEvents_seen {key : ObjectKey} {events : List EventEnvelope}
    {identity : IdempotencyIdentity} :
    identity ∈ (events.foldl (absorbEvent key) state).seenIdempotency <->
      identity ∈ state.seenIdempotency ∨
        exists event, event ∈ events ∧
          { stream := key, key := event.idempotencyKey } = identity := by
  have hfold : (events.foldl (absorbEvent key) state).seenIdempotency =
      events.foldl
        (fun set event =>
          set.insert ({ stream := key, key := event.idempotencyKey } : IdempotencyIdentity))
        state.seenIdempotency :=
    (List.foldl_hom LoadedState.seenIdempotency fun before event =>
      (absorbEvent_seen key before event).symm).symm
  rw [hfold]
  exact OrderedMap.mem_foldl_insert

theorem mem_absorbEvent_reachable {key : ObjectKey} {event : EventEnvelope} :
    object ∈ (absorbEvent key state event).reachableEvidence <->
      object ∈ state.reachableEvidence ∨
        exists reference, reference ∈ event.evidenceRefs ∧
          { scope := event.scope, id := reference.evidenceId } = object := by
  have hfold : (absorbEvent key state event).reachableEvidence =
      event.evidenceRefs.foldl
        (fun set reference =>
          set.insert ({ scope := event.scope, id := reference.evidenceId } : ObjectKey))
        state.reachableEvidence := by
    rw [← (recordPublication_keys key event state).right]
    exact (List.foldl_hom LoadedState.reachableEvidence fun _ _ => rfl).symm
  rw [hfold]
  exact OrderedMap.mem_foldl_insert

theorem mem_absorbEvents_reachable {key : ObjectKey} {events : List EventEnvelope} :
    object ∈ (events.foldl (absorbEvent key) state).reachableEvidence <->
      object ∈ state.reachableEvidence ∨
        exists event, event ∈ events ∧ exists reference, reference ∈ event.evidenceRefs ∧
          { scope := event.scope, id := reference.evidenceId } = object := by
  induction events generalizing state with
  | nil =>
      simp
  | cons event rest ih =>
      rw [List.foldl_cons, ih, mem_absorbEvent_reachable]
      constructor
      · rintro ((hold | hhere) | ⟨other, hother, hlater⟩)
        · exact Or.inl hold
        · exact Or.inr ⟨event, List.mem_cons_self, hhere⟩
        · exact Or.inr ⟨other, List.mem_cons_of_mem event hother, hlater⟩
      · rintro (hold | ⟨other, hother, hhere⟩)
        · exact Or.inl (Or.inl hold)
        · rcases List.mem_cons.mp hother with heq | hmem
          · exact Or.inl (Or.inr (heq ▸ hhere))
          · exact Or.inr ⟨other, hmem, hhere⟩

/-- The parts of a state that registering artifacts does not touch. -/
structure SameKeys (before after : LoadedState) : Prop where
  batches : after.batches = before.batches
  nextSequence : after.nextSequence = before.nextSequence
  lastHash : after.lastHash = before.lastHash
  reachableEvidence : after.reachableEvidence = before.reachableEvidence
  activeVersions : after.activeVersions = before.activeVersions
  seenIdempotency : after.seenIdempotency = before.seenIdempotency
  sealedStreams : after.sealedStreams = before.sealedStreams
  sealedPublications : after.sealedPublications = before.sealedPublications

theorem recordArtifacts_keys (scope : RepositoryScope)
    (items : List StoredArtifactRegistration) (state : LoadedState) :
    SameKeys state (items.foldl (recordArtifact scope) state) := by
  induction items generalizing state with
  | nil =>
      exact ⟨rfl, rfl, rfl, rfl, rfl, rfl, rfl, rfl⟩
  | cons item rest ih =>
      have hrest := ih (recordArtifact scope state item)
      exact ⟨hrest.batches, hrest.nextSequence, hrest.lastHash, hrest.reachableEvidence,
        hrest.activeVersions, hrest.seenIdempotency, hrest.sealedStreams,
        hrest.sealedPublications⟩

theorem recordArtifacts_of_registered (h : state.artifacts[object]? = some item) :
    (items.foldl (recordArtifact scope) state).artifacts[object]? = some item := by
  induction items generalizing state with
  | nil =>
      exact h
  | cons other rest ih =>
      apply ih
      unfold recordArtifact
      rw [ExtTreeMap.getElem?_insertIfNew]
      have hmem : object ∈ state.artifacts := by
        rw [ExtTreeMap.mem_iff_isSome_getElem?, h]
        rfl
      rw [if_neg, h]
      rintro ⟨hcompare, hnew⟩
      rw [LawfulEqOrd.eq_of_compare hcompare] at hnew
      exact hnew hmem

theorem recordArtifacts_origin
    (h : (items.foldl (recordArtifact scope) state).artifacts[object]? = some item) :
    state.artifacts[object]? = some item ∨
      item ∈ items ∧ { scope := scope, id := item.reference.artifactId } = object := by
  induction items generalizing state with
  | nil =>
      exact Or.inl h
  | cons other rest ih =>
      rcases ih h with hbefore | ⟨hmem, hkey⟩
      · unfold recordArtifact at hbefore
        rw [ExtTreeMap.getElem?_insertIfNew] at hbefore
        split at hbefore
        · rename_i hnew
          cases hbefore
          exact Or.inr ⟨List.mem_cons_self, LawfulEqOrd.eq_of_compare hnew.left⟩
        · exact Or.inl hbefore
      · exact Or.inr ⟨List.mem_cons_of_mem other hmem, hkey⟩

/-- Registering artifacts of distinct identifiers registers each, or keeps an equal one. -/
theorem recordArtifacts_mem (hdistinct : (items.map fun item => item.reference.artifactId).Nodup)
    (hkept : forall item, item ∈ items -> forall existing,
      state.artifacts[({ scope := scope, id := item.reference.artifactId } : ObjectKey)]? =
        some existing -> existing = item) (hmem : item ∈ items) :
    (items.foldl (recordArtifact scope) state).artifacts[
      ({ scope := scope, id := item.reference.artifactId } : ObjectKey)]? = some item := by
  induction items generalizing state with
  | nil =>
      cases hmem
  | cons other rest ih =>
      have hparts := List.nodup_cons.mp hdistinct
      rcases List.mem_cons.mp hmem with heq | hmem
      · subst heq
        rw [List.foldl_cons]
        apply recordArtifacts_of_registered
        unfold recordArtifact
        rw [ExtTreeMap.getElem?_insertIfNew]
        by_cases hold :
            ({ scope := scope, id := item.reference.artifactId } : ObjectKey) ∈ state.artifacts
        · rw [if_neg fun h => h.right hold]
          rcases Option.isSome_iff_exists.mp
            (ExtTreeMap.mem_iff_isSome_getElem?.mp hold) with ⟨existing, hexisting⟩
          rw [hexisting, hkept item List.mem_cons_self existing hexisting]
        · rw [if_pos ⟨ReflOrd.compare_self, hold⟩]
      · apply ih hparts.right _ hmem
        intro later hlater existing hexisting
        apply hkept later (List.mem_cons_of_mem other hlater) existing
        unfold recordArtifact at hexisting
        rw [ExtTreeMap.getElem?_insertIfNew, if_neg] at hexisting
        · exact hexisting
        · rintro ⟨hcompare, _⟩
          have hsame := LawfulEqOrd.eq_of_compare hcompare
          have hid : later.reference.artifactId = other.reference.artifactId :=
            (congrArg ObjectKey.id hsame).symm
          exact hparts.left (List.mem_map.mpr ⟨later, hlater, hid⟩)

end LoadedState

end GraphHelm
