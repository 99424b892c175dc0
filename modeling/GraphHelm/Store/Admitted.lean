import GraphHelm.Store.Append

/-!
# What admission establishes

A request that the checks of an append let through as a new one follows the
state it was judged in, and the batch built for it is one the verifier finds
nothing wrong with but the limits of a load, in any blobs that still hold what
the store held and the evidence the request brings.
-/

namespace GraphHelm

open Std

/-!
## References
-/

def tiedReference (prepared : List SealedEvidence) (verified : List EvidenceReference)
    (id : EvidenceId) : Option EvidenceReference :=
  match prepared.find? fun item => item.reference.evidenceId = id with
  | some item => some item.reference
  | none => verified.find? fun reference => reference.evidenceId = id

section References

variable {prepared : List SealedEvidence} {verified references : List EvidenceReference}
  {committed committed' : EvidenceReference -> Except EventRepositoryError Bool}
  {reference : EvidenceReference}

/-- The step of `validateEvidenceReferences`: a tied reference must be the one it is tied to,
and any other must be committed. -/
theorem validateEvidenceReferences_cons_eq_ok {rest : List EvidenceReference} :
    validateEvidenceReferences prepared committed verified (reference :: rest) = .ok () <->
      (tiedReference prepared verified reference.evidenceId = some reference ∧
          validateEvidenceReferences prepared committed verified rest = .ok ()) ∨
        (tiedReference prepared verified reference.evidenceId = none ∧
          committed reference = .ok true ∧
          validateEvidenceReferences prepared committed (reference :: verified) rest =
            .ok ()) := by
  rw [validateEvidenceReferences]
  unfold tiedReference
  cases hprepared : prepared.find? fun item =>
      item.reference.evidenceId = reference.evidenceId with
  | some item =>
      simp only [check_bind_eq_ok, decide_eq_true_eq, Option.some.injEq, reduceCtorEq, false_and,
        or_false]
  | none =>
      cases hverified : verified.find? fun other =>
          other.evidenceId = reference.evidenceId with
      | some existing =>
          simp only [check_bind_eq_ok, decide_eq_true_eq, Option.some.injEq, reduceCtorEq,
            false_and, or_false]
      | none =>
          simp only [Except.bind_eq_ok, check_eq_ok, reduceCtorEq, false_and, true_and,
            false_or]
          constructor
          · rintro ⟨stands, hcommitted, _, hstands, hrest⟩
            rw [hstands] at hcommitted
            exact And.intro hcommitted hrest
          · rintro ⟨hcommitted, hrest⟩
            exact ⟨true, hcommitted, (), rfl, hrest⟩

theorem validateEvidenceReferences_imp
    (himp : forall reference, committed reference = .ok true ->
      committed' reference = .ok true)
    (h : validateEvidenceReferences prepared committed verified references = .ok ()) :
    validateEvidenceReferences prepared committed' verified references = .ok () := by
  induction references generalizing verified with
  | nil =>
      rfl
  | cons reference rest ih =>
      rw [validateEvidenceReferences_cons_eq_ok] at h ⊢
      rcases h with ⟨htied, hrest⟩ | ⟨hfree, hcommitted, hrest⟩
      · exact Or.inl ⟨htied, ih hrest⟩
      · exact Or.inr ⟨hfree, himp reference hcommitted, ih hrest⟩

theorem tiedReference_cons_of_some {tied : EvidenceReference} {id : EvidenceId}
    (h : tiedReference prepared verified id = some tied)
    (hfree : tiedReference prepared verified reference.evidenceId = none) :
    tiedReference prepared (reference :: verified) id = some tied := by
  unfold tiedReference at h hfree ⊢
  cases hprepared : prepared.find? fun item => item.reference.evidenceId = id with
  | some item =>
      rw [hprepared] at h
      exact h
  | none =>
      rw [hprepared] at h
      dsimp only at h ⊢
      rw [List.find?_cons_of_neg]
      · exact h
      · intro hsame
        rw [of_decide_eq_true hsame, hprepared] at hfree
        dsimp only at hfree
        rw [hfree] at h
        cases h

theorem tiedReference_cons_self
    (hfree : tiedReference prepared verified reference.evidenceId = none) :
    tiedReference prepared (reference :: verified) reference.evidenceId = some reference := by
  unfold tiedReference at hfree ⊢
  cases hprepared : prepared.find? fun item =>
      item.reference.evidenceId = reference.evidenceId with
  | some item =>
      rw [hprepared] at hfree
      cases hfree
  | none =>
      exact List.find?_cons_of_pos (decide_eq_true rfl)

theorem validateEvidenceReferences_tied {tied : EvidenceReference}
    (h : validateEvidenceReferences prepared committed verified references = .ok ())
    (hmem : reference ∈ references)
    (htied : tiedReference prepared verified reference.evidenceId = some tied) :
    tied = reference := by
  induction references generalizing verified with
  | nil =>
      cases hmem
  | cons first rest ih =>
      rcases validateEvidenceReferences_cons_eq_ok.mp h with ⟨hfirst, hrest⟩ | ⟨hfree, _, hrest⟩
      · rcases List.mem_cons.mp hmem with rfl | hlater
        · rw [htied] at hfirst
          exact Option.some.inj hfirst
        · exact ih hrest hlater htied
      · rcases List.mem_cons.mp hmem with rfl | hlater
        · rw [htied] at hfree
          cases hfree
        · exact ih hrest hlater (tiedReference_cons_of_some htied hfree)

theorem validateEvidenceReferences_agree
    (h : validateEvidenceReferences prepared committed verified references = .ok ()) :
    referencesAgree references = true := by
  have hpairwise : references.Pairwise fun first second =>
      first.evidenceId = second.evidenceId -> first = second := by
    induction references generalizing verified with
    | nil =>
        exact List.Pairwise.nil
    | cons first rest ih =>
        rcases validateEvidenceReferences_cons_eq_ok.mp h with
          ⟨htied, hrest⟩ | ⟨hfree, _, hrest⟩
        · refine List.Pairwise.cons ?_ (ih hrest)
          intro second hsecond hsame
          exact validateEvidenceReferences_tied hrest hsecond (hsame ▸ htied)
        · refine List.Pairwise.cons ?_ (ih hrest)
          intro second hsecond hsame
          exact validateEvidenceReferences_tied hrest hsecond
            (hsame ▸ tiedReference_cons_self hfree)
  unfold referencesAgree
  simp only [List.all_eq_true, decide_eq_true_eq]
  have hflipped := hpairwise.imp fun {first second} hsame heq =>
    (hsame (Eq.symm heq)).symm
  exact fun first hfirst second hsecond =>
    hpairwise.forall_of_forall_of_flip (fun _ _ _ => rfl) hflipped hfirst hsecond

theorem validateEvidenceReferences_stand
    (h : validateEvidenceReferences prepared committed verified references = .ok ())
    (hmem : reference ∈ references) :
    (exists item, item ∈ prepared ∧ item.reference = reference) ∨ reference ∈ verified ∨
      committed reference = .ok true := by
  induction references generalizing verified with
  | nil =>
      cases hmem
  | cons first rest ih =>
      rcases validateEvidenceReferences_cons_eq_ok.mp h with
        ⟨htied, hrest⟩ | ⟨hfree, hcommitted, hrest⟩
      · rcases List.mem_cons.mp hmem with rfl | hlater
        · unfold tiedReference at htied
          split at htied
          · rename_i item hfound
            exact Or.inl ⟨item, List.mem_of_find?_eq_some hfound, Option.some.inj htied⟩
          · exact Or.inr (Or.inl (List.mem_of_find?_eq_some htied))
        · exact ih hrest hlater
      · rcases List.mem_cons.mp hmem with rfl | hlater
        · exact Or.inr (Or.inr hcommitted)
        · rcases ih hrest hlater with hprepared | hverified | hstands
          · exact Or.inl hprepared
          · rcases List.mem_cons.mp hverified with rfl | hverified
            · exact Or.inr (Or.inr hcommitted)
            · exact Or.inr (Or.inl hverified)
          · exact Or.inr (Or.inr hstands)

end References

/-!
## Keys
-/

variable {event : EventEnvelope}

section Keys

variable {env : StoreEnvironment} {store : Store} {state : LoadedState} {key : ObjectKey}
  {keys : List OpaqueId}

theorem unseen_of_batchHoldingKeys (h : store.Sound env)
    (hdescribes : Describes env state store.history)
    (hheld : batchHoldingKeys store state key keys = none) {item : OpaqueId}
    (hmem : item ∈ keys) :
    ({ stream := key, key := item } : IdempotencyIdentity) ∉ state.seenIdempotency := by
  intro hseen
  rcases (hdescribes.seen _).mp hseen with ⟨event, hevent, hkey⟩
  rcases mem_streamEvents.mp hevent with ⟨batch, hbatch, hstream, hevent⟩
  rw [h.batchHoldingKeys hdescribes, List.find?_eq_none] at hheld
  exact hheld batch hbatch (holdsKeys_iff.mpr ⟨hstream, event, hevent, hkey ▸ hmem⟩)

theorem Committed.batch_eq {history : List PhysicalBatch} (h : Committed env history)
    {first second : PhysicalBatch} (hfirst : first ∈ history) (hsecond : second ∈ history)
    (hstream : first.key = second.key) {other : EventEnvelope} (hevent : event ∈ first.events)
    (hother : other ∈ second.events) (hkey : event.idempotencyKey = other.idempotencyKey) :
    first = second := by
  have hkeys := h.keys first.key
  unfold streamEvents at hkeys
  rw [List.map_flatMap, List.nodup_flatMap] at hkeys
  by_contra hne
  have hfirst : first ∈ history.filter fun batch => batch.key = first.key :=
    List.mem_filter.mpr ⟨hfirst, decide_eq_true rfl⟩
  have hsecond : second ∈ history.filter fun batch => batch.key = first.key :=
    List.mem_filter.mpr ⟨hsecond, decide_eq_true hstream.symm⟩
  let Apart (a b : PhysicalBatch) : Prop :=
    a ≠ b -> forall item, item ∈ a.events.map EventEnvelope.idempotencyKey ->
      item ∉ b.events.map EventEnvelope.idempotencyKey
  have hapart : (history.filter fun batch => batch.key = first.key).Pairwise Apart :=
    hkeys.right.imp fun {a b} hdisjoint _ item hitem hitem' => hdisjoint hitem hitem'
  have hflipped : (history.filter fun batch => batch.key = first.key).Pairwise (flip Apart) := by
    refine hkeys.right.imp ?_
    intro a b hdisjoint _ item hitem hitem'
    exact hdisjoint hitem' hitem
  have hdisjoint := hapart.forall_of_forall_of_flip (fun _ _ hne => absurd rfl hne) hflipped
    hfirst hsecond hne
  exact hdisjoint event.idempotencyKey (List.mem_map_of_mem hevent)
    (hkey ▸ List.mem_map_of_mem hother)

end Keys

/-!
## Prepared requests
-/

structure Prepared (env : StoreEnvironment) (request : PreparedAppend) : Prop where
  distinct : (request.events.map NewEvent.idempotencyKey).Nodup
  publications : forall event, event ∈ request.events ->
    publicationPrepared env request.scope event = true
  identified : (request.evidence.map fun item => item.reference.evidenceId).Nodup
  evidence : forall item, item ∈ request.evidence ->
    item.scope = request.scope ∧ env.validateSealedMetadata item = true
  declared : evidenceDeclared request.events request.evidenceIds = true
  referenced : validateEvidenceReferences request.evidence (fun _ => .ok true) []
    (evidenceReferences request.events) = .ok ()
  produced : artifactsProduced request.events request.streamId request.storedArtifacts = true

section Prepared

variable {env : StoreEnvironment} {request : PreparedAppend}

theorem preflightEvents_publications {scope : RepositoryScope} {bytes : Nat}
    {events : List NewEvent} (h : preflightEvents env scope bytes events = .ok ())
    {event : NewEvent} (hmem : event ∈ events) :
    publicationPrepared env scope event = true := by
  induction events generalizing bytes with
  | nil =>
      cases hmem
  | cons first rest ih =>
      rcases check_ok h with ⟨_, h⟩
      rcases check_ok h with ⟨_, h⟩
      rcases bind_ok h with ⟨_, _, h⟩
      rcases check_ok h with ⟨_, h⟩
      rcases check_ok h with ⟨_, h⟩
      rcases check_ok h with ⟨hprepared, h⟩
      rcases List.mem_cons.mp hmem with rfl | hlater
      · exact hprepared
      · exact ih h hlater

theorem validatePreparedAppend_prepared (h : validatePreparedAppend env request = .ok ()) :
    Prepared env request := by
  unfold validatePreparedAppend at h
  rcases bind_ok h with ⟨_, _, h⟩
  rcases check_ok h with ⟨hdistinct, h⟩
  rcases bind_ok h with ⟨_, hevents, h⟩
  rcases check_ok h with ⟨hevidence, h⟩
  rcases bind_ok h with ⟨_, _, h⟩
  rcases check_ok h with ⟨hdeclared, h⟩
  rcases bind_ok h with ⟨_, hreferenced, h⟩
  rcases check_ok h with ⟨hproduced, h⟩
  simp only [Bool.and_eq_true, decide_eq_true_eq, List.all_eq_true] at hevidence
  exact
    { distinct := of_decide_eq_true hdistinct
      publications := fun event hmem => preflightEvents_publications hevents hmem
      identified := hevidence.left
      evidence := hevidence.right
      declared := hdeclared
      referenced := hreferenced
      produced := hproduced }

end Prepared

/-!
## Admitted requests
-/

structure Admitted (env : StoreEnvironment) (stamps : Stamps) (store : Store)
    (state : LoadedState) (request : PreparedAppend) (batch : PhysicalBatch) : Prop where
  prepared : validatePreparedAppend env request = .ok ()
  related : artifactRelationsHold state request = true
  available : validateReferenceAvailability store.blobs request state = .ok ()
  unheld : batchHoldingKeys store state request.key
    (request.events.map NewEvent.idempotencyKey) = none
  digest : request.requestDigest env = .ok batch.requestDigest
  lineage : validateGraphLineage (state.activeIdentity request.key) request.events = .ok ()
  room : ensureLoadRoom state.batches request.events.length = .ok ()
  expected : state.expectedSequence request.key = request.expectedNextSequence
  built : batch = buildBatch env request batch.requestDigest batch.events
  enveloped : buildEnvelopes env.toEnvironment request.scope request.streamId stamps
    request.expectedNextSequence 0 (state.previousHash request.key) request.events =
      .ok batch.events
  parsed : parsePhysicalBatch env batch = .ok ()
  line : env.canonicalBatchLen batch + 1 <= maxBatchBytes

section Admission

variable {env : StoreEnvironment} {stamps : Stamps} {store : Store} {state : LoadedState}
  {request : PreparedAppend} {batch : PhysicalBatch}

theorem ensureReadableBack_parses (h : ensureReadableBack env batch = .ok ()) :
    parsePhysicalBatch env batch = .ok () := by
  unfold ensureReadableBack at h
  unfold parsePhysicalBatch
  cases hran : env.validateBatch batch with
  | refused =>
      rw [hran] at h
      cases h
  | ran clean =>
      rw [hran] at h
      exact check_eq_ok.mpr (check_eq_ok.mp h)

theorem PreparedAppend.expected_pos (request : PreparedAppend) :
    1 <= request.expectedNextSequence := by
  have hallowed := request.allowed
  unfold newRequestAllowed at hallowed
  simp only [Bool.and_eq_true, decide_eq_true_eq] at hallowed
  exact Nat.one_le_iff_ne_zero.mpr hallowed.left.left.left.left.left.left

theorem admit_eq_ok {admission : Admission}
    (h : admitAppend env stamps store state request = .ok admission) :
    match admission with
    | .fresh batch => Admitted env stamps store state request batch
    | .retry batch =>
        batchHoldingKeys store state request.key
            (request.events.map NewEvent.idempotencyKey) = some batch ∧
          request.requestDigest env = .ok batch.requestDigest ∧
          sameKeys (batch.events.map EventEnvelope.idempotencyKey)
            (request.events.map NewEvent.idempotencyKey) = true := by
  unfold admitAppend at h
  rcases bind_ok h with ⟨_, hpreflight, h⟩
  rcases bind_ok hpreflight with ⟨_, hprepared, hrelated⟩
  rcases bind_ok h with ⟨_, havailable, h⟩
  rcases bind_ok h with ⟨digest, hdigest, h⟩
  dsimp only at h
  split at h
  · rename_i batch hheld
    rcases check_ok h with ⟨hsame, h⟩
    cases h
    simp only [Bool.and_eq_true, decide_eq_true_eq] at hsame
    exact ⟨hheld, hsame.left ▸ hdigest, hsame.right⟩
  · rename_i hheld
    rcases bind_ok h with ⟨batch, hfresh, h⟩
    cases h
    unfold admitFresh at hfresh
    rcases bind_ok hfresh with ⟨_, hlineage, hfresh⟩
    rcases bind_ok hfresh with ⟨_, hroom, hfresh⟩
    rcases check_ok hfresh with ⟨hexpected, hfresh⟩
    rcases bind_ok hfresh with ⟨envelopes, henvelopes, hfresh⟩
    rcases check_ok hfresh with ⟨_, hfresh⟩
    rcases bind_ok hfresh with ⟨_, hreadable, hfresh⟩
    rcases check_ok hfresh with ⟨hline, hfresh⟩
    cases hfresh
    exact
      { prepared := hprepared
        related := check_eq_ok.mp hrelated
        available := havailable
        unheld := hheld
        digest := hdigest
        lineage := hlineage
        room := hroom
        expected := of_decide_eq_true hexpected
        built := rfl
        enveloped := henvelopes
        parsed := ensureReadableBack_parses hreadable
        line := of_decide_eq_true hline }

theorem admit_of_fresh {digest : WireHash} {envelopes : List EventEnvelope}
    (hprepared : validatePreparedAppend env request = .ok ())
    (hrelated : artifactRelationsHold state request = true)
    (havailable : validateReferenceAvailability store.blobs request state = .ok ())
    (hdigest : request.requestDigest env = .ok digest)
    (hunheld : batchHoldingKeys store state request.key
      (request.events.map NewEvent.idempotencyKey) = none)
    (hlineage : validateGraphLineage (state.activeIdentity request.key) request.events = .ok ())
    (hroom : ensureLoadRoom state.batches request.events.length = .ok ())
    (hexpected : state.expectedSequence request.key = request.expectedNextSequence)
    (henvelopes : buildEnvelopes env.toEnvironment request.scope request.streamId stamps
      request.expectedNextSequence 0 (state.previousHash request.key) request.events =
        .ok envelopes)
    (hserialized : env.serializedBatchLen (buildBatch env request digest envelopes) <=
      maxBatchBytes)
    (hreadable : ensureReadableBack env (buildBatch env request digest envelopes) = .ok ())
    (hline : env.canonicalBatchLen (buildBatch env request digest envelopes) + 1 <=
      maxBatchBytes) :
    admitAppend env stamps store state request =
      .ok (.fresh (buildBatch env request digest envelopes)) := by
  have hfresh : admitFresh env stamps state request digest =
      .ok (buildBatch env request digest envelopes) :=
    Except.bind_eq_ok.mpr ⟨(), hlineage, Except.bind_eq_ok.mpr ⟨(), hroom,
      check_bind_eq_ok.mpr ⟨decide_eq_true hexpected, Except.bind_eq_ok.mpr
        ⟨envelopes, henvelopes, check_bind_eq_ok.mpr ⟨decide_eq_true hserialized,
          Except.bind_eq_ok.mpr ⟨(), hreadable,
            check_bind_eq_ok.mpr ⟨decide_eq_true hline, rfl⟩⟩⟩⟩⟩⟩⟩
  have hpreflight : validateRequestPreflight env request state = .ok () :=
    Except.bind_eq_ok.mpr ⟨(), hprepared, check_eq_ok.mpr hrelated⟩
  refine Except.bind_eq_ok.mpr ⟨(), hpreflight, Except.bind_eq_ok.mpr ⟨(), havailable,
    Except.bind_eq_ok.mpr ⟨digest, hdigest, ?_⟩⟩⟩
  dsimp only
  rw [hunheld]
  exact Except.bind_eq_ok.mpr ⟨_, hfresh, rfl⟩

theorem Admitted.continues (h : Admitted env stamps store state request batch) :
    Continuation env.toEnvironment request.scope request.streamId
      (request.expectedNextSequence - 1) (state.previousHash request.key) request.events
      batch.events ∧
        forall event, event ∈ batch.events ->
          validateEnvelope env.toEnvironment event = .ok () := by
  have henveloped := h.enveloped
  rw [← Nat.sub_add_cancel request.expected_pos] at henveloped
  exact buildEnvelopes_continuation henveloped

/-!
### The batch as it is built
-/

theorem Admitted.key (h : Admitted env stamps store state request batch) :
    batch.key = request.key := by
  rw [h.built]
  rfl

theorem Admitted.scope (h : Admitted env stamps store state request batch) :
    batch.scope = request.scope := by
  rw [h.built]
  rfl

theorem Admitted.evidenceIds (h : Admitted env stamps store state request batch) :
    batch.evidenceIds = request.evidenceIds := by
  rw [h.built]
  rfl

theorem Admitted.artifacts (h : Admitted env stamps store state request batch) :
    batch.artifacts = request.storedArtifacts := by
  rw [h.built]
  rfl

theorem Admitted.newEvents (h : Admitted env stamps store state request batch) :
    batch.newEvents = request.events :=
  h.continues.left.carries

theorem Admitted.keys (h : Admitted env stamps store state request batch) :
    batch.events.map EventEnvelope.idempotencyKey =
      request.events.map NewEvent.idempotencyKey := by
  rw [← h.newEvents, PhysicalBatch.newEvents, List.map_map]
  rfl

theorem Admitted.load (h : Admitted env stamps store state request batch) :
    batch.load = request.load := by
  unfold PhysicalBatch.load PreparedAppend.load
  rw [h.scope, h.newEvents, h.evidenceIds, h.artifacts]
  unfold PreparedAppend.storedArtifacts
  rw [List.map_map]
  rfl

theorem Admitted.follows (h : Admitted env stamps store state request batch)
    (hsound : store.Sound env) (hdescribes : Describes env state store.history) :
    Follows env state batch := by
  have hprepared := validatePreparedAppend_prepared h.prepared
  rcases h.continues with ⟨hcontinues, _⟩
  have hexpected : batch.expectedNextSequence = request.expectedNextSequence := by
    rw [h.built]
    rfl
  have hstream : batch.streamId = request.streamId := by
    rw [h.built]
    rfl
  refine
    { nonempty := ?_
      expected := ?_
      owned := ?_
      numbered := hexpected ▸ hcontinues.numbered
      linked := h.key ▸ hcontinues.linked
      fresh := ?_
      distinct := h.keys ▸ hprepared.distinct
      registered := h.artifacts ▸ artifactsProduced_distinct hprepared.produced
      kept := ?_ }
  · intro hnil
    apply request.events_ne_nil
    rw [← hcontinues.carries, hnil]
    rfl
  · rw [hexpected, h.key, h.expected]
  · rw [h.scope, hstream]
    exact hcontinues.owned
  · intro event hevent
    rw [h.key]
    apply unseen_of_batchHoldingKeys hsound hdescribes h.unheld
    rw [← h.keys]
    exact List.mem_map_of_mem hevent
  · have hrelated := h.related
    unfold artifactRelationsHold at hrelated
    rw [Bool.and_eq_true] at hrelated
    rw [h.scope, h.artifacts]
    exact artifactsKept_iff.mp hrelated.left

/-!
### The evidence and artifacts of the batch
-/

theorem evidenceCommitted_eq_true {blobs : Blobs} {scope : RepositoryScope}
    {reference : EvidenceReference} :
    evidenceCommitted blobs state scope reference = .ok true <->
      ({ scope := scope, id := reference.evidenceId } : ObjectKey) ∈ state.reachableEvidence ∧
        exists stored,
          blobs[({ scope := scope, id := reference.evidenceId } : ObjectKey)]? = some stored ∧
            stored.scope = scope ∧ stored.reference = reference := by
  unfold evidenceCommitted
  dsimp only
  by_cases hreachable : state.reachableEvidence.contains
      { scope := scope, id := reference.evidenceId } = true
  · rw [if_pos hreachable]
    simp only [Except.bind_eq_ok, orRefuse_eq_ok, Except.ok.injEq, Bool.and_eq_true,
      decide_eq_true_eq]
    exact (and_iff_right (ExtTreeSet.contains_iff_mem.mp hreachable)).symm
  · rw [if_neg hreachable]
    constructor
    · intro h
      cases h
    · rintro ⟨hmem, _⟩
      exact absurd (ExtTreeSet.contains_iff_mem.mpr hmem) hreachable

structure Published (before : Blobs) (request : PreparedAppend) (blobs : Blobs) : Prop where
  retained : forall (key : ObjectKey) (stored : SealedEvidence),
    before[key]? = some stored -> blobs[key]? = some stored
  staged : forall item, item ∈ request.evidence -> blobs[item.key]? = some item

variable {blobs : Blobs}

theorem Admitted.referenced (h : Admitted env stamps store state request batch)
    (hsound : store.Sound env) (hpublished : Published store.blobs request blobs)
    (hevent : event ∈ batch.events) {reference : EvidenceReference}
    (hreference : reference ∈ event.evidenceRefs) :
    Supported env blobs batch.scope reference ∧
      (({ scope := batch.scope, id := reference.evidenceId } : ObjectKey) ∈
          state.reachableEvidence ∨
        reference.evidenceId ∈ batch.evidenceIds) := by
  have hprepared := validatePreparedAppend_prepared h.prepared
  have hmem : reference ∈ evidenceReferences request.events := by
    rw [← h.newEvents]
    exact List.mem_flatMap.mpr ⟨event.toNewEvent, List.mem_map_of_mem hevent, hreference⟩
  rcases bind_ok h.available with ⟨_, havailable, _⟩
  rw [h.scope, h.evidenceIds]
  rcases validateEvidenceReferences_stand havailable hmem with
    ⟨item, hitem, rfl⟩ | hnone | hcommitted
  · rcases hprepared.evidence item hitem with ⟨hscope, hvalid⟩
    have hblob := hpublished.staged item hitem
    unfold SealedEvidence.key at hblob
    rw [hscope] at hblob
    refine And.intro ⟨item, hblob, hscope, rfl, hvalid⟩ (Or.inr ?_)
    rw [PreparedAppend.evidenceIds_eq_map_sorted]
    exact List.mem_map_of_mem (f := fun item => item.reference.evidenceId)
      (PreparedAppend.mem_sortedEvidence.mpr hitem)
  · cases hnone
  · rcases evidenceCommitted_eq_true.mp hcommitted with
      ⟨hreachable, stored, hblob, hscope, hsame⟩
    refine And.intro ⟨stored, hpublished.retained _ _ hblob, hscope, hsame, ?_⟩
      (Or.inl hreachable)
    exact (hsound.filed _ _ hblob).right

theorem Admitted.registrations (h : Admitted env stamps store state request batch)
    (hpublished : Published store.blobs request blobs) {id : EvidenceId}
    (hid : id ∈ batch.evidenceIds) :
    exists reference, findReference batch.newEvents id = some reference ∧
      Supported env blobs batch.scope reference := by
  have hprepared := validatePreparedAppend_prepared h.prepared
  have hdeclared := hprepared.declared
  unfold evidenceDeclared at hdeclared
  simp only [Bool.and_eq_true, List.all_eq_true] at hdeclared
  rw [h.evidenceIds] at hid
  rcases Option.isSome_iff_exists.mp (hdeclared.right id hid) with ⟨reference, hfound⟩
  rcases findReference_eq_some hfound with ⟨hmem, hsame⟩
  rw [PreparedAppend.evidenceIds_eq_map_sorted] at hid
  rcases List.mem_map.mp hid with ⟨item, hitem, hitemId⟩
  have hitem := PreparedAppend.mem_sortedEvidence.mp hitem
  -- The reference is tied to the item prepared under its identifier.
  have htied : tiedReference request.evidence [] reference.evidenceId =
      some item.reference := by
    unfold tiedReference
    have hfind : request.evidence.find? (fun other =>
        decide (other.reference.evidenceId = reference.evidenceId)) = some item := by
      have hsome : (request.evidence.find? fun other =>
          decide (other.reference.evidenceId = reference.evidenceId)).isSome = true := by
        rw [List.find?_isSome]
        exact ⟨item, hitem, decide_eq_true (hitemId.trans hsame.symm)⟩
      rcases Option.isSome_iff_exists.mp hsome with ⟨other, hother⟩
      have hotherId : other.reference.evidenceId = reference.evidenceId := by
        simpa using List.find?_some hother
      rw [hother, List.inj_on_of_nodup_map hprepared.identified
        (List.mem_of_find?_eq_some hother) hitem
        (hotherId.trans (hsame.trans hitemId.symm))]
    rw [hfind]
  have hreference := validateEvidenceReferences_tied hprepared.referenced hmem htied
  rcases hprepared.evidence item hitem with ⟨hscope, hvalid⟩
  have hblob := hpublished.staged item hitem
  unfold SealedEvidence.key at hblob
  rw [hscope] at hblob
  rw [h.newEvents, h.scope]
  exact ⟨reference, hfound, item, hreference ▸ hblob, hscope, hreference, hvalid⟩

theorem Admitted.digests (h : Admitted env stamps store state request batch)
    (hpublished : Published store.blobs request blobs) {digests : List EvidenceDigest}
    (hdigests : RegisteredDigests env blobs batch digests) :
    digests = request.sortedEvidence.map (evidenceDigest env) := by
  have hprepared := validatePreparedAppend_prepared h.prepared
  unfold RegisteredDigests at hdigests
  rw [h.evidenceIds, PreparedAppend.evidenceIds_eq_map_sorted, List.map_map] at hdigests
  apply (List.map_injective_iff.mpr (Option.some_injective EvidenceDigest))
  rw [hdigests, List.map_map]
  refine List.map_congr_left fun item hitem => ?_
  have hitem := PreparedAppend.mem_sortedEvidence.mp hitem
  have hblob := hpublished.staged item hitem
  unfold SealedEvidence.key at hblob
  rw [(hprepared.evidence item hitem).left] at hblob
  show blobs[({ scope := batch.scope, id := item.reference.evidenceId } : ObjectKey)]?.map
    (evidenceDigest env) = some (evidenceDigest env item)
  rw [h.scope, hblob]
  rfl

theorem Admitted.artifactStands (h : Admitted env stamps store state request batch)
    (hevent : event ∈ batch.events) {artifact : ArtifactReference}
    (hartifact : artifact ∈ event.artifactRefs) :
    artifactStands state batch event artifact = true := by
  have howned := h.continues.left.owned event hevent
  rcases bind_ok h.available with ⟨_, _, havailable⟩
  have hall := List.all_eq_true.mp (check_eq_ok.mp havailable) event.toNewEvent
    (by rw [← h.newEvents]; exact List.mem_map_of_mem hevent)
  have hstands := List.all_eq_true.mp hall artifact hartifact
  unfold artifactAvailable artifactCommitted at hstands
  unfold GraphHelm.artifactStands
  rw [howned.left, howned.right, h.artifacts]
  unfold PreparedAppend.storedArtifacts
  dsimp only
  rw [List.find?_map, Option.any_map, Bool.or_comm]
  simpa [Function.comp_def] using hstands

theorem Admitted.stands (h : Admitted env stamps store state request batch)
    (hsound : store.Sound env) (hdescribes : Describes env state store.history)
    (hpublished : Published store.blobs request blobs) :
    BatchStands env blobs state batch := by
  have hprepared := validatePreparedAppend_prepared h.prepared
  refine
    { line := Nat.le_of_succ_le h.line
      parsed := h.parsed
      checksum := ?_
      follows := h.follows hsound hdescribes
      produced := ?_
      agree := ?_
      declared := ?_
      registrations := fun id hid => h.registrations hpublished hid
      digest := ?_
      valid := h.continues.right
      projections := ?_
      lineage := ?_
      referenced := fun event hevent reference hreference =>
        h.referenced hsound hpublished hevent hreference
      artifacts := fun event hevent artifact hartifact => h.artifactStands hevent hartifact }
  · rw [h.built]
    rfl
  · have hstream : batch.streamId = request.streamId := by
      rw [h.built]
      rfl
    rw [h.newEvents, h.artifacts, hstream]
    exact hprepared.produced
  · rw [h.newEvents]
    exact validateEvidenceReferences_agree hprepared.referenced
  · rw [h.newEvents, h.evidenceIds]
    exact hprepared.declared
  · intro digests hdigests
    have hinput : request.digestInput env =
        { scope := batch.scope
          streamId := batch.streamId
          expectedNextSequence := batch.expectedNextSequence
          events := batch.newEvents
          evidence := digests
          artifacts := batch.artifacts } := by
      rw [h.newEvents, h.digests hpublished hdigests, h.built]
      rfl
    rw [← hinput]
    exact h.digest
  · intro event hevent version hversion
    have hpublication := hprepared.publications event.toNewEvent
      (by rw [← h.newEvents]; exact List.mem_map_of_mem hevent)
    unfold publicationPrepared at hpublication
    rw [show event.toNewEvent.kind = event.kind from rfl, hversion] at hpublication
    simp only [Bool.and_eq_true] at hpublication
    exact hpublication.left.left.left.left
  · rw [h.key, h.newEvents]
    exact h.lineage

end Admission

end GraphHelm
