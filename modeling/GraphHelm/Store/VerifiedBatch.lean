import GraphHelm.Store.Verified

/-!
# Verified batches

The events of a batch, and the batch as a whole: a batch that is verified
followed the state it was verified in, and a batch that follows it is verified
unless the limits of a load refuse it.
-/

namespace GraphHelm

open Std

structure EventsFollow (env : StoreEnvironment) (state : LoadedState) (batch : PhysicalBatch)
    (lastSequence : Nat) (previousHash : EventHash) (events : List EventEnvelope) : Prop where
  owned : forall event, event ∈ events ->
    event.scope = batch.scope ∧ event.streamId = batch.streamId
  numbered : Numbered lastSequence events
  linked : (envelopeChain env.toEnvironment).Linked previousHash events
  fresh : forall event, event ∈ events ->
    ({ stream := batch.key, key := event.idempotencyKey } : IdempotencyIdentity) ∉
      state.seenIdempotency
  distinct : (events.map EventEnvelope.idempotencyKey).Nodup

variable {key : ObjectKey} {state : LoadedState}

section Events

variable {env : StoreEnvironment} {blobs : Blobs} {ctx ctx' : VerifyCtx}
  {batch : PhysicalBatch} {event : EventEnvelope} {events : List EventEnvelope}
  {sequence lastSequence : Nat} {previousHash : EventHash}

theorem VerifyCtx.Sound.withState (h : ctx.Sound env blobs) (state : LoadedState) :
    VerifyCtx.Sound env blobs { ctx with state := state } :=
  ⟨h.within, h.verified, h.counted⟩

theorem continuesBatch_eq_true :
    continuesBatch env batch sequence previousHash event = true <->
      (event.scope = batch.scope ∧ event.streamId = batch.streamId) ∧
        event.sequence = sequence ∧ event.previousHash = previousHash ∧
        eventHash env.toEnvironment event previousHash = event.eventHash := by
  unfold continuesBatch
  simp only [Bool.and_eq_true, decide_eq_true_eq, and_assoc]

theorem verifyEvent_step (h : ctx.Sound env blobs)
    (hok : verifyEvent env blobs batch sequence previousHash ctx event = .ok ctx') :
    continuesBatch env batch sequence previousHash event = true ∧
      ({ stream := batch.key, key := event.idempotencyKey } : IdempotencyIdentity) ∉
        ctx.state.seenIdempotency ∧
      VerifyCtx.Step env blobs ctx (ctx.state.absorbEvent batch.key event)
        (ctx.tally.countEvent batch.scope event.toNewEvent) ctx' := by
  unfold verifyEvent at hok
  rcases check_ok hok with ⟨_, hok⟩
  rcases check_ok hok with ⟨_, hok⟩
  rcases check_ok hok with ⟨hcontinues, hok⟩
  rcases check_ok hok with ⟨hunseen, hok⟩
  rcases bind_ok hok with ⟨referred, hreferences, hartifacts⟩
  refine ⟨hcontinues, ?_, ?_⟩
  · rw [Bool.not_eq_true'] at hunseen
    intro hmem
    rw [ExtTreeSet.contains_iff_mem.mpr hmem] at hunseen
    exact Bool.noConfusion hunseen
  · have hscope := (continuesBatch_eq_true.mp hcontinues).left.left
    have hfirst := verifyReferences_step (h.withState _) hreferences
    have hsecond := verifyArtifacts_step hfirst.sound hartifacts
    rw [hfirst.state, hfirst.tally, hscope] at hsecond
    exact ⟨hsecond.state.trans (by rw [LoadedState.absorbEvent, hscope]), hsecond.tally,
      hsecond.sound, fun key hkey => hsecond.grows key (hfirst.grows key hkey)⟩

theorem LoadedState.seen_absorbEvent {identity : IdempotencyIdentity} :
    identity ∈ (state.absorbEvent key event).seenIdempotency <->
      identity = { stream := key, key := event.idempotencyKey } ∨
        identity ∈ state.seenIdempotency := by
  rw [LoadedState.absorbEvent_seen]
  exact OrderedMap.mem_insert

theorem verifyEvents_step (h : ctx.Sound env blobs)
    (hok : verifyEvents env blobs batch (lastSequence + 1) previousHash events ctx = .ok ctx') :
    EventsFollow env ctx.state batch lastSequence previousHash events ∧
      VerifyCtx.Step env blobs ctx
        (events.foldl (LoadedState.absorbEvent batch.key) ctx.state)
        ((events.map EventEnvelope.toNewEvent).foldl (Tally.countEvent batch.scope) ctx.tally)
        ctx' := by
  induction events generalizing lastSequence previousHash ctx with
  | nil =>
      cases hok
      refine And.intro ?_ (VerifyCtx.Step.refl h)
      exact
        { owned := by simp
          numbered := trivial
          linked := trivial
          fresh := by simp
          distinct := List.nodup_nil }
  | cons event rest ih =>
      rcases bind_ok hok with ⟨next, hfirst, hrest⟩
      rcases verifyEvent_step h hfirst with ⟨hcontinues, hunseen, hstep⟩
      rcases continuesBatch_eq_true.mp hcontinues with ⟨howned, hsequence, hprevious, hhash⟩
      rcases ih hstep.sound hrest with ⟨hlater, hlast⟩
      rw [hstep.state, hstep.tally] at hlast
      rw [hstep.state] at hlater
      refine And.intro ?_ (hstep.trans hlast)
      refine
        { owned := ?_
          numbered := And.intro hsequence (hsequence ▸ hlater.numbered)
          linked := ⟨hprevious, hhash, hlater.linked⟩
          fresh := ?_
          distinct := ?_ }
      · intro other hother
        rcases List.mem_cons.mp hother with heq | hmem
        · exact heq ▸ howned
        · exact hlater.owned other hmem
      · intro other hother
        rcases List.mem_cons.mp hother with heq | hmem
        · exact heq ▸ hunseen
        · intro hseen
          exact hlater.fresh other hmem (LoadedState.seen_absorbEvent.mpr (Or.inr hseen))
      · rw [List.map_cons, List.nodup_cons]
        refine And.intro ?_ hlater.distinct
        intro hmem
        rcases List.mem_map.mp hmem with ⟨other, hother, hkey⟩
        apply hlater.fresh other hother
        exact LoadedState.seen_absorbEvent.mpr (Or.inl (by rw [hkey]))

/-!
## Events that stand
-/

/-- The version a stream's next publication must follow. -/
def LoadedState.activeIdentity (state : LoadedState) (key : ObjectKey) :
    Option (Nat × WireHash) :=
  state.activeVersions[key]?.map ActiveVersion.identity

theorem LoadedState.absorbEvent_activeVersions (state : LoadedState) (key : ObjectKey) :
    (state.absorbEvent key event).activeVersions =
      (state.recordPublication key event).activeVersions := by
  unfold LoadedState.absorbEvent
  generalize hstate : LoadedState.recordKey key event (state.recordPublication key event) = before
  have hbefore : before.activeVersions = (state.recordPublication key event).activeVersions := by
    rw [← hstate]
    rfl
  rw [← hbefore]
  clear hstate hbefore
  induction event.evidenceRefs generalizing before with
  | nil =>
      rfl
  | cons reference rest ih =>
      exact ih (LoadedState.recordReference event.scope before reference)

theorem LoadedState.absorbEvent_of_publication {version : PersistedGraphVersion}
    (h : event.kind = .graphVersionPublished version) :
    (state.absorbEvent key event).activeIdentity key =
      some (version.number, version.semanticHash) := by
  unfold LoadedState.activeIdentity
  rw [LoadedState.absorbEvent_activeVersions]
  unfold LoadedState.recordPublication
  rw [h]
  dsimp only
  rw [ExtTreeMap.getElem?_insert_self]
  rfl

theorem LoadedState.absorbEvent_of_other
    (h : forall version, event.kind ≠ .graphVersionPublished version) :
    (state.absorbEvent key event).activeIdentity key = state.activeIdentity key := by
  unfold LoadedState.activeIdentity
  rw [LoadedState.absorbEvent_activeVersions]
  unfold LoadedState.recordPublication
  split
  · rename_i version hkind
    exact absurd hkind (h version)
  · rfl

/-- Everything the verifier asks of events, besides the limits. -/
structure EventsStand (env : StoreEnvironment) (blobs : Blobs) (ctx : VerifyCtx)
    (batch : PhysicalBatch) (lastSequence : Nat) (previousHash : EventHash)
    (events : List EventEnvelope) : Prop where
  follow : EventsFollow env ctx.state batch lastSequence previousHash events
  valid : forall event, event ∈ events -> validateEnvelope env.toEnvironment event = .ok ()
  projections : forall event, event ∈ events -> forall version,
    event.kind = .graphVersionPublished version ->
      env.validatePersistedProjection version = true
  lineage : validateGraphLineage (ctx.state.activeIdentity batch.key)
    (events.map EventEnvelope.toNewEvent) = .ok ()
  supported : forall event, event ∈ events -> forall reference,
    reference ∈ event.evidenceRefs ->
      Supported env blobs batch.scope reference ∧
        (({ scope := batch.scope, id := reference.evidenceId } : ObjectKey) ∈
            ctx.state.reachableEvidence ∨
          (ctx.digestOf { scope := batch.scope, id := reference.evidenceId }).isSome = true)
  artifacts : forall event, event ∈ events -> forall artifact,
    artifact ∈ event.artifactRefs -> artifactStands ctx.state batch event artifact = true

theorem EventsStand.publication
    (h : EventsStand env blobs ctx batch lastSequence previousHash (event :: events)) :
    publicationFollows env ctx.state batch.key event = true ∧
      validateGraphLineage ((ctx.state.absorbEvent batch.key event).activeIdentity batch.key)
        (events.map EventEnvelope.toNewEvent) = .ok () := by
  have hlineage := h.lineage
  rw [List.map_cons, validateGraphLineage] at hlineage
  split at hlineage
  · rename_i version hkind
    have hversion : event.kind = .graphVersionPublished version := hkind
    rcases check_ok hlineage with ⟨hagrees, hrest⟩
    refine And.intro ?_ ?_
    · unfold publicationFollows
      rw [hversion]
      dsimp only
      rw [h.projections event List.mem_cons_self version hversion]
      exact hagrees
    · rw [LoadedState.absorbEvent_of_publication hversion]
      exact hrest
  · rename_i hkind
    have hother : forall version, event.kind ≠ .graphVersionPublished version := hkind
    refine And.intro ?_ ?_
    · unfold publicationFollows
      split
      · rename_i version heq
        exact absurd heq (hother version)
      · rfl
    · rw [LoadedState.absorbEvent_of_other hother]
      exact hlineage

/-- The rest of the events stand in whatever context the first of them leaves. -/
theorem EventsStand.tail {next : VerifyCtx}
    (h : EventsStand env blobs ctx batch lastSequence previousHash (event :: events))
    (hstep : VerifyCtx.Step env blobs ctx (ctx.state.absorbEvent batch.key event)
      (ctx.tally.countEvent batch.scope event.toNewEvent) next) :
    EventsStand env blobs next batch (lastSequence + 1) event.eventHash events := by
  have hnumbered := h.follow.numbered
  have hdistinct := List.nodup_cons.mp h.follow.distinct
  have hstate : next.state = ctx.state.absorbEvent batch.key event := hstep.state
  refine
    { follow := ?_
      valid := fun other hother => h.valid other (List.mem_cons_of_mem event hother)
      projections := fun other hother =>
        h.projections other (List.mem_cons_of_mem event hother)
      lineage := hstate ▸ h.publication.right
      supported := ?_
      artifacts := ?_ }
  · refine
      { owned := fun other hother => h.follow.owned other (List.mem_cons_of_mem event hother)
        numbered := hnumbered.left ▸ hnumbered.right
        linked := h.follow.linked.right.right
        fresh := ?_
        distinct := hdistinct.right }
    intro other hother hseen
    rw [hstate] at hseen
    rcases LoadedState.seen_absorbEvent.mp hseen with heq | hold
    · have hkey : other.idempotencyKey = event.idempotencyKey :=
        congrArg IdempotencyIdentity.key heq
      exact hdistinct.left (List.mem_map.mpr ⟨other, hother, hkey⟩)
    · exact h.follow.fresh other (List.mem_cons_of_mem event hother) hold
  · intro other hother reference hreference
    rcases h.supported other (List.mem_cons_of_mem event hother) reference hreference with
      ⟨hsupported, hreachable | hverified⟩
    · refine And.intro hsupported (Or.inl ?_)
      rw [hstate]
      exact LoadedState.mem_absorbEvent_reachable.mpr (Or.inl hreachable)
    · exact And.intro hsupported (Or.inr (hstep.grows _ hverified))
  · intro other hother artifact hartifact
    have hartifacts : next.state.artifacts = ctx.state.artifacts := by
      rw [hstate]
      exact (LoadedState.absorbEvent_heads batch.key ctx.state event).artifacts
    have hstands := h.artifacts other (List.mem_cons_of_mem event hother) artifact hartifact
    unfold artifactStands at hstands ⊢
    rw [hartifacts]
    exact hstands

theorem verifyEvent_of_standing (h : ctx.Sound env blobs)
    (hstand : EventsStand env blobs ctx batch lastSequence previousHash (event :: events))
    (hwithin : (ctx.tally.countEvent batch.scope event.toNewEvent).Within) :
    exists ctx',
      verifyEvent env blobs batch (lastSequence + 1) previousHash ctx event = .ok ctx' := by
  have howned := hstand.follow.owned event List.mem_cons_self
  have hlinked := hstand.follow.linked
  have hcontinues : continuesBatch env batch (lastSequence + 1) previousHash event = true :=
    continuesBatch_eq_true.mpr
      ⟨howned, hstand.follow.numbered.left, hlinked.left, hlinked.right.left⟩
  refine check_bind_passes (by rw [hstand.valid event List.mem_cons_self]; rfl) ?_
  refine check_bind_passes hstand.publication.left ?_
  refine check_bind_passes hcontinues ?_
  refine check_bind_passes ?_ ?_
  · rw [Bool.not_eq_true', Bool.eq_false_iff]
    intro hseen
    exact hstand.follow.fresh event List.mem_cons_self (ExtTreeSet.contains_iff_mem.mp hseen)
  · have hrecorded := h.withState
      (LoadedState.recordKey batch.key event
        (LoadedState.recordPublication batch.key event ctx.state))
    have hreferences : (event.evidenceRefs.foldl
        (fun tally reference =>
          tally.countEvidence { scope := batch.scope, id := reference.evidenceId })
        ctx.tally).Within :=
      Tally.Within.of_foldl Tally.Within.of_countArtifact hwithin
    have hsupported : forall reference, reference ∈ event.evidenceRefs ->
        Supported env blobs batch.scope reference ∧
          (({ scope := batch.scope, id := reference.evidenceId } : ObjectKey) ∈
              (LoadedState.recordPublication batch.key event ctx.state).reachableEvidence ∨
            (ctx.digestOf { scope := batch.scope, id := reference.evidenceId }).isSome =
              true) := by
      rw [(LoadedState.recordPublication_keys batch.key event ctx.state).right]
      exact hstand.supported event List.mem_cons_self
    dsimp only
    rw [howned.left]
    rcases verifyReferences_of_supported hrecorded hsupported hreferences with
      ⟨referred, hreferred⟩
    have hstep := verifyReferences_step hrecorded hreferred
    refine Except.bind_passes hreferred (verifyArtifacts_of_standing hstep.sound ?_ ?_)
    · intro artifact hartifact
      have hartifacts : referred.state.artifacts = ctx.state.artifacts := by
        rw [hstep.state, ← howned.left]
        exact (LoadedState.absorbEvent_heads batch.key ctx.state event).artifacts
      have hstands := hstand.artifacts event List.mem_cons_self artifact hartifact
      unfold artifactStands at hstands ⊢
      rw [hartifacts]
      exact hstands
    · rw [hstep.tally, howned.left]
      exact hwithin

theorem verifyEvents_of_standing (h : ctx.Sound env blobs)
    (hstand : EventsStand env blobs ctx batch lastSequence previousHash events)
    (hwithin :
      ((events.map EventEnvelope.toNewEvent).foldl (Tally.countEvent batch.scope)
        ctx.tally).Within) :
    exists ctx',
      verifyEvents env blobs batch (lastSequence + 1) previousHash events ctx = .ok ctx' := by
  induction events generalizing ctx lastSequence previousHash with
  | nil =>
      exact ⟨ctx, rfl⟩
  | cons event rest ih =>
      have hfirst : (ctx.tally.countEvent batch.scope event.toNewEvent).Within :=
        Tally.Within.of_foldl Tally.Within.of_countEvent hwithin
      rcases verifyEvent_of_standing h hstand hfirst with ⟨next, hnext⟩
      have hstep := (verifyEvent_step h hnext).right.right
      refine Except.bind_passes hnext (ih hstep.sound (hstand.tail hstep) ?_)
      rw [hstep.tally]
      exact hwithin

end Events

/-!
## Batches
-/

section Batches

variable {env : StoreEnvironment} {blobs : Blobs} {ctx ctx' : VerifyCtx}
  {batch : PhysicalBatch}

theorem VerifyCtx.Sound.charge {charges : List (LoadCounter × Nat)}
    (h : ctx.Sound env blobs) (hwithin : (ctx.tally.charge charges).Within) :
    VerifyCtx.Step env blobs ctx ctx.state (ctx.tally.charge charges)
      { ctx with tally := ctx.tally.charge charges } :=
  ⟨rfl, rfl, ⟨hwithin, h.verified, h.counted⟩, fun _ hkey => hkey⟩

theorem artifactsProduced_distinct {events : List NewEvent} {streamId : OpaqueId}
    {items : List StoredArtifactRegistration}
    (h : artifactsProduced events streamId items = true) :
    (items.map fun item => item.reference.artifactId).Nodup := by
  unfold artifactsProduced at h
  simp only [Bool.and_eq_true, decide_eq_true_eq] at h
  exact h.left.left

theorem artifactsKept_iff {scope : RepositoryScope} {items : List StoredArtifactRegistration} :
    artifactsKept state scope items = true <->
      forall item, item ∈ items -> forall existing,
        state.artifacts[({ scope := scope, id := item.reference.artifactId } : ObjectKey)]? =
          some existing -> existing = item := by
  unfold artifactsKept
  rw [List.all_eq_true]
  refine forall_congr' fun item => imp_congr_right fun _ => ?_
  rw [Option.all_eq_true]
  simp only [decide_eq_true_eq]

theorem verifyBatch_step (h : ctx.Sound env blobs)
    (hpositive : 1 <= ctx.state.expectedSequence batch.key)
    (hok : verifyBatch env blobs ctx batch = .ok ctx') :
    Follows env ctx.state batch ∧
      VerifyCtx.Step env blobs ctx (ctx.state.absorb env batch)
        (ctx.tally.count (metadataOf env blobs) batch.load) ctx' := by
  unfold verifyBatch at hok
  rcases check_ok hok with ⟨_, hok⟩
  rcases bind_ok hok with ⟨_, _, hok⟩
  rcases check_ok hok with ⟨_, hok⟩
  rcases check_ok hok with ⟨hhead, hok⟩
  rcases bind_ok hok with ⟨charged, hcharged, hok⟩
  rcases check_ok hok with ⟨hexpected, hok⟩
  rcases check_ok hok with ⟨hproduced, hok⟩
  rcases check_ok hok with ⟨hkept, hok⟩
  rcases check_ok hok with ⟨_, hok⟩
  rcases bind_ok hok with ⟨⟨registered, digests⟩, hregistered, hok⟩
  rcases bind_ok hok with ⟨digest, _, hok⟩
  rcases check_ok hok with ⟨_, hok⟩
  rcases bind_ok hok with ⟨folded, hfolded, hok⟩
  rcases bind_ok hok with ⟨artifacts, hartifacts, hok⟩
  cases hok
  rcases (Tally.spend_eq_ok h.within).mp hcharged with ⟨rfl, hwithin⟩
  have hcharge := h.charge hwithin
  have hregister := (verifyRegistrations_step hcharge.sound hregistered).left
  have hexpected : ctx.state.expectedSequence batch.key = batch.expectedNextSequence :=
    of_decide_eq_true hexpected
  rw [hexpected] at hpositive
  rw [← Nat.sub_add_cancel hpositive] at hfolded
  rcases verifyEvents_step hregister.sound hfolded with ⟨hfollow, hfold⟩
  have hitems := verifyRegisteredArtifacts_step
    (hfold.sound.withState (folded.state.recordHeads env batch)) hartifacts
  rw [hregister.state] at hfollow
  rw [hregister.state, hregister.tally] at hfold
  refine And.intro ?_ ?_
  · exact
      { nonempty := by
          rintro hnil
          rw [hnil] at hhead
          exact absurd (of_decide_eq_true hhead) (by simp)
        expected := hexpected.symm
        owned := hfollow.owned
        numbered := hfollow.numbered
        linked := hfollow.linked
        fresh := hfollow.fresh
        distinct := hfollow.distinct
        registered := artifactsProduced_distinct hproduced
        kept := artifactsKept_iff.mp hkept }
  · refine ⟨?_, ?_, ?_, ?_⟩
    · have hstate : artifacts.state =
          batch.artifacts.foldl (LoadedState.recordArtifact batch.scope)
            (folded.state.recordHeads env batch) := hitems.state
      show { artifacts.state with batches := artifacts.state.batches ++ [batch] } = _
      rw [hstate, hfold.state]
      rfl
    · have htally : artifacts.tally =
          folded.tally.countArtifacts batch.scope
            (batch.artifacts.map fun item => item.reference.artifactId) := hitems.tally
      show artifacts.tally = _
      rw [htally, hfold.tally]
      rfl
    · exact hitems.sound.withState _
    · intro key hkey
      exact hitems.grows key (hfold.grows key (hregister.grows key (hcharge.grows key hkey)))

theorem Tally.countRegistrations_contains {metadata : ObjectKey -> Nat} {scope : RepositoryScope}
    {ids : List EvidenceId} {tally : Tally}
    (h : tally.evidence.contains key = true ∨ exists id, id ∈ ids ∧
      key = { scope := scope, id := id }) :
    (tally.countRegistrations metadata scope ids).evidence.contains key = true := by
  induction ids generalizing tally with
  | nil =>
      exact h.resolve_right (by simp)
  | cons id rest ih =>
      apply ih
      rw [Tally.countRegistration_evidence, Tally.countEvidence_contains, Bool.or_eq_true,
        decide_eq_true_eq]
      rcases h with hold | ⟨other, hother, rfl⟩
      · exact Or.inl (Or.inr hold)
      · rcases List.mem_cons.mp hother with heq | hmem
        · exact Or.inl (Or.inl (by rw [heq]))
        · exact Or.inr ⟨other, hmem, rfl⟩

def RegisteredDigests (env : StoreEnvironment) (blobs : Blobs) (batch : PhysicalBatch)
    (digests : List EvidenceDigest) : Prop :=
  digests.map some =
    batch.evidenceIds.map fun id =>
      blobs[({ scope := batch.scope, id := id } : ObjectKey)]?.map (evidenceDigest env)

/-- Everything the verifier asks of a batch, besides the limits. -/
structure BatchStands (env : StoreEnvironment) (blobs : Blobs) (state : LoadedState)
    (batch : PhysicalBatch) : Prop where
  line : env.canonicalBatchLen batch <= maxBatchBytes
  parsed : parsePhysicalBatch env batch = .ok ()
  checksum : batch.checksum = batchChecksum env batch
  follows : Follows env state batch
  produced : artifactsProduced batch.newEvents batch.streamId batch.artifacts = true
  agree : referencesAgree (evidenceReferences batch.newEvents) = true
  declared : evidenceDeclared batch.newEvents batch.evidenceIds = true
  registrations : forall id, id ∈ batch.evidenceIds -> exists reference,
    findReference batch.newEvents id = some reference ∧
      Supported env blobs batch.scope reference
  digest : forall digests, RegisteredDigests env blobs batch digests ->
    requestDigestOf env
      { scope := batch.scope
        streamId := batch.streamId
        expectedNextSequence := batch.expectedNextSequence
        events := batch.newEvents
        evidence := digests
        artifacts := batch.artifacts } = .ok batch.requestDigest
  valid : forall event, event ∈ batch.events ->
    validateEnvelope env.toEnvironment event = .ok ()
  projections : forall event, event ∈ batch.events -> forall version,
    event.kind = .graphVersionPublished version ->
      env.validatePersistedProjection version = true
  lineage : validateGraphLineage (state.activeIdentity batch.key) batch.newEvents = .ok ()
  referenced : forall event, event ∈ batch.events -> forall reference,
    reference ∈ event.evidenceRefs ->
      Supported env blobs batch.scope reference ∧
        (({ scope := batch.scope, id := reference.evidenceId } : ObjectKey) ∈
            state.reachableEvidence ∨
          reference.evidenceId ∈ batch.evidenceIds)
  artifacts : forall event, event ∈ batch.events -> forall artifact,
    artifact ∈ event.artifactRefs -> artifactStands state batch event artifact = true

theorem verifyBatch_of_standing (h : ctx.Sound env blobs)
    (hpositive : 1 <= batch.expectedNextSequence)
    (hstand : BatchStands env blobs ctx.state batch)
    (hwithin : (ctx.tally.count (metadataOf env blobs) batch.load).Within) :
    exists ctx', verifyBatch env blobs ctx batch = .ok ctx' := by
  have hitems := hwithin
  unfold Tally.count at hitems
  have hevents := hitems.of_countArtifacts
  have hregistrations := Tally.Within.of_foldl Tally.Within.of_countEvent hevents
  have hcharge := h.charge hregistrations.of_countRegistrations
  have hhead : batch.events.head?.map EventEnvelope.sequence =
      some batch.expectedNextSequence := by
    have hnumbered := hstand.follows.numbered
    cases hfirst : batch.events with
    | nil =>
        exact absurd hfirst hstand.follows.nonempty
    | cons event rest =>
        rw [hfirst] at hnumbered
        have hsequence := hnumbered.left
        rw [Nat.sub_add_cancel hpositive] at hsequence
        exact congrArg some hsequence
  refine check_bind_passes (decide_eq_true hstand.line) ?_
  refine Except.bind_passes hstand.parsed ?_
  refine check_bind_passes (decide_eq_true hstand.checksum) ?_
  refine check_bind_passes (decide_eq_true hhead) ?_
  refine Except.bind_passes
    ((Tally.spend_eq_ok h.within).mpr ⟨rfl, hregistrations.of_countRegistrations⟩) ?_
  refine check_bind_passes (decide_eq_true hstand.follows.expected.symm) ?_
  refine check_bind_passes hstand.produced ?_
  refine check_bind_passes (artifactsKept_iff.mpr hstand.follows.kept) ?_
  refine check_bind_passes (by rw [hstand.agree, hstand.declared]; rfl) ?_
  rcases verifyRegistrations_of_supported hcharge.sound hstand.registrations hregistrations
    with ⟨⟨registered, digests⟩, hregistered⟩
  rcases verifyRegistrations_step hcharge.sound hregistered with ⟨hregister, hdigests⟩
  refine Except.bind_passes hregistered ?_
  refine Except.bind_passes (hstand.digest digests hdigests) ?_
  refine check_bind_passes (decide_eq_true rfl) ?_
  -- Evidence the batch registers is known by now, whether or not it was reachable.
  have hstanding : EventsStand env blobs registered batch (batch.expectedNextSequence - 1)
      (ctx.state.previousHash batch.key) batch.events := by
    refine
      { follow := ?_
        valid := hstand.valid
        projections := hstand.projections
        lineage := ?_
        supported := ?_
        artifacts := ?_ }
    · rw [hregister.state]
      exact
        { owned := hstand.follows.owned
          numbered := hstand.follows.numbered
          linked := hstand.follows.linked
          fresh := hstand.follows.fresh
          distinct := hstand.follows.distinct }
    · rw [hregister.state]
      exact hstand.lineage
    · intro event hevent reference hreference
      rcases hstand.referenced event hevent reference hreference with
        ⟨hsupported, hreachable | hdeclared⟩
      · exact And.intro hsupported (Or.inl (hregister.state ▸ hreachable))
      · refine And.intro hsupported (Or.inr ?_)
        rw [← hregister.sound.counted_iff, hregister.tally]
        exact Tally.countRegistrations_contains
          (Or.inr ⟨reference.evidenceId, hdeclared, rfl⟩)
    · intro event hevent artifact hartifact
      rw [hregister.state]
      exact hstand.artifacts event hevent artifact hartifact
  have hcounted : ((batch.events.map EventEnvelope.toNewEvent).foldl
      (Tally.countEvent batch.scope) registered.tally).Within := by
    rw [hregister.tally]
    exact hevents
  rcases verifyEvents_of_standing hregister.sound hstanding hcounted with ⟨folded, hfolded⟩
  rw [Nat.sub_add_cancel hpositive] at hfolded
  refine Except.bind_passes hfolded ?_
  have hfold := (verifyEvents_step hregister.sound
    (by rw [Nat.sub_add_cancel hpositive]; exact hfolded)).right
  have hkept : artifactsKept (folded.state.recordHeads env batch) batch.scope
      batch.artifacts = true := by
    have hsame : (folded.state.recordHeads env batch).artifacts = ctx.state.artifacts := by
      show folded.state.artifacts = _
      rw [hfold.state, hregister.state]
      exact (LoadedState.absorbEvents_heads batch.key batch.events ctx.state).artifacts
    unfold artifactsKept
    rw [hsame]
    exact artifactsKept_iff.mpr hstand.follows.kept
  rcases verifyRegisteredArtifacts_of_kept
    (hfold.sound.withState (folded.state.recordHeads env batch))
    hstand.follows.registered hkept
    (by
      show (folded.tally.countArtifacts batch.scope _).Within
      rw [hfold.tally, hregister.tally]
      exact hitems) with ⟨artifacts, hartifacts⟩
  exact Except.bind_passes hartifacts ⟨_, rfl⟩

end Batches

/-!
## Lines
-/

def Tally.countAll (metadata : ObjectKey -> Nat) (tally : Tally) (batches : List PhysicalBatch) :
    Tally :=
  batches.foldl (fun tally batch => tally.count metadata batch.load) tally

section Lines

variable {env : StoreEnvironment} {blobs : Blobs} {ctx ctx' : VerifyCtx}
  {history batches : List PhysicalBatch}

theorem verifyLines_step (h : ctx.Sound env blobs) (hdescribes : Describes env ctx.state history)
    (hok : verifyLines env blobs batches ctx = .ok ctx') :
    Describes env ctx'.state (history ++ batches) ∧
      ctx'.state.batches = ctx.state.batches ++ batches ∧
      ctx'.tally = ctx.tally.countAll (metadataOf env blobs) batches ∧
      ctx'.Sound env blobs := by
  induction batches generalizing ctx history with
  | nil =>
      cases hok
      rw [List.append_nil, List.append_nil]
      exact ⟨hdescribes, rfl, rfl, h⟩
  | cons batch rest ih =>
      unfold verifyLines at hok
      rw [List.foldlM_cons] at hok
      rcases bind_ok hok with ⟨next, hfirst, hrest⟩
      have hpositive : 1 <= ctx.state.expectedSequence batch.key := by
        rw [hdescribes.sequences]
        exact Nat.le_add_left 1 _
      rcases verifyBatch_step h hpositive hfirst with ⟨hfollows, hstep⟩
      have hnext : Describes env next.state (history ++ [batch]) := by
        rw [hstep.state]
        exact hdescribes.absorb hfollows
      rcases ih hstep.sound hnext hrest with ⟨hlast, hbatches, htally, hsound⟩
      refine ⟨?_, ?_, ?_, hsound⟩
      · rw [List.append_assoc] at hlast
        exact hlast
      · rw [hbatches, hstep.state, LoadedState.absorb_batches, List.append_assoc]
        rfl
      · rw [htally, hstep.tally]
        rfl

theorem verifyLines_append {first second : List PhysicalBatch} :
    verifyLines env blobs (first ++ second) ctx =
      verifyLines env blobs first ctx >>= verifyLines env blobs second := by
  unfold verifyLines
  rw [List.foldlM_append]

theorem verifyLines_singleton {batch : PhysicalBatch} :
    verifyLines env blobs [batch] ctx = verifyBatch env blobs ctx batch := by
  unfold verifyLines
  rw [List.foldlM_cons]
  cases verifyBatch env blobs ctx batch with
  | ok next =>
      rfl
  | error error =>
      rfl

end Lines

end GraphHelm
