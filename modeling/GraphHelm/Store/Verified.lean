import GraphHelm.Store.Verification

/-!
# What verification establishes

Each step of the verifier is given one lemma in each direction.  Read backwards,
a batch that passes followed the state before it, was absorbed into the state
after it, and left a tally that counts it and is within the limits.  Read
forwards, nothing but the limits can refuse a batch whose parts stand.
-/

namespace GraphHelm

open Std

def metadataOf (env : StoreEnvironment) (blobs : Blobs) (key : ObjectKey) : Nat :=
  (blobs[key]?.map fun stored => env.evidenceDigestLen (evidenceDigest env stored)).getD 0

def Supported (env : StoreEnvironment) (blobs : Blobs) (scope : RepositoryScope)
    (reference : EvidenceReference) : Prop :=
  exists stored,
    blobs[({ scope := scope, id := reference.evidenceId } : ObjectKey)]? = some stored ∧
      stored.scope = scope ∧ stored.reference = reference ∧
      env.validateSealedMetadata stored = true

variable {reference : EvidenceReference} {scope : RepositoryScope} {batch : PhysicalBatch}

theorem readVerifiedBlob_eq_ok {env : StoreEnvironment} {blobs : Blobs}
    {stored : SealedEvidence} :
    readVerifiedBlob env blobs scope reference = .ok stored <->
      blobs[({ scope := scope, id := reference.evidenceId } : ObjectKey)]? = some stored ∧
        stored.scope = scope ∧ stored.reference = reference ∧
        env.validateSealedMetadata stored = true := by
  unfold readVerifiedBlob
  rw [Except.bind_eq_ok]
  constructor
  · rintro ⟨blob, hblob, h⟩
    rcases check_ok h with ⟨hsame, h⟩
    rcases check_ok h with ⟨hvalid, h⟩
    cases h
    simp only [Bool.and_eq_true, decide_eq_true_eq] at hsame
    exact ⟨orRefuse_eq_ok.mp hblob, hsame.left, hsame.right, hvalid⟩
  · rintro ⟨hblob, hscope, hreference, hvalid⟩
    refine ⟨stored, orRefuse_eq_ok.mpr hblob, ?_⟩
    refine check_bind_eq_ok.mpr ⟨?_, check_bind_eq_ok.mpr ⟨hvalid, rfl⟩⟩
    rw [hscope, hreference]
    simp

theorem findReference_eq_some {events : List NewEvent} {id : EvidenceId}
    (h : findReference events id = some reference) :
    reference ∈ evidenceReferences events ∧ reference.evidenceId = id := by
  have hid := List.find?_some h
  exact And.intro (List.mem_of_find?_eq_some h) (of_decide_eq_true hid)

namespace VerifyCtx

structure Sound (env : StoreEnvironment) (blobs : Blobs) (ctx : VerifyCtx) : Prop where
  within : ctx.tally.Within
  verified : forall key digest, ctx.digestOf key = some digest ->
    exists stored, blobs[key]? = some stored ∧ digest = evidenceDigest env stored
  counted : forall key, ctx.tally.evidence.contains key = (ctx.digestOf key).isSome

/-- `ctx'` is sound, has the given state and tally, and knows what `ctx` knew. -/
structure Step (env : StoreEnvironment) (blobs : Blobs) (ctx : VerifyCtx)
    (state : LoadedState) (tally : Tally) (ctx' : VerifyCtx) : Prop where
  state : ctx'.state = state
  tally : ctx'.tally = tally
  sound : ctx'.Sound env blobs
  grows : forall key, (ctx.digestOf key).isSome = true -> (ctx'.digestOf key).isSome = true

theorem Step.refl {env : StoreEnvironment} {blobs : Blobs} {ctx : VerifyCtx}
    (h : ctx.Sound env blobs) : Step env blobs ctx ctx.state ctx.tally ctx :=
  ⟨rfl, rfl, h, fun _ hkey => hkey⟩

theorem Step.trans {env : StoreEnvironment} {blobs : Blobs} {ctx middle last : VerifyCtx}
    {state state' : LoadedState} {tally tally' : Tally}
    (hfirst : Step env blobs ctx state tally middle)
    (hsecond : Step env blobs middle state' tally' last) :
    Step env blobs ctx state' tally' last :=
  ⟨hsecond.state, hsecond.tally, hsecond.sound,
    fun key hkey => hsecond.grows key (hfirst.grows key hkey)⟩

theorem seeded_sound (env : StoreEnvironment) (blobs : Blobs) (state : LoadedState) :
    (seeded state).Sound env blobs :=
  { within := Tally.zero_within
    verified := fun key digest h => by simp [seeded, digestOf] at h
    counted := fun key => by simp [seeded, digestOf, Tally.zero] }

end VerifyCtx

/-!
## Evidence
-/

namespace Tally

theorem countEvidence_contains (tally : Tally) (key other : ObjectKey) :
    (tally.countEvidence key).evidence.contains other =
      (decide (key = other) || tally.evidence.contains other) := by
  unfold countEvidence
  by_cases hcounted : tally.evidence.contains key = true
  · rw [if_pos hcounted]
    by_cases heq : key = other
    · rw [← heq, hcounted, Bool.or_true]
    · rw [decide_eq_false heq, Bool.false_or]
  · rw [if_neg hcounted, ExtTreeSet.contains_insert]
    congr 1
    by_cases heq : key = other
    · rw [heq, ReflOrd.compare_self, decide_eq_true rfl]
      rfl
    · rw [decide_eq_false heq, beq_eq_false_iff_ne]
      exact fun hcompare => heq (LawfulEqOrd.eq_of_compare hcompare)

theorem countRegistration_evidence (metadata : ObjectKey -> Nat) (tally : Tally)
    (key : ObjectKey) :
    (tally.countRegistration metadata key).evidence = (tally.countEvidence key).evidence := by
  unfold countRegistration
  split
  · rename_i hcounted
    unfold countEvidence
    rw [if_pos hcounted]
  · rfl

end Tally

section Evidence

variable {env : StoreEnvironment} {blobs : Blobs} {ctx ctx' : VerifyCtx}

variable {digest : EvidenceDigest} {key : ObjectKey}

theorem VerifyCtx.Sound.supplied (h : ctx.Sound env blobs)
    (hsupported : Supported env blobs scope reference)
    (hkey : key = { scope := scope, id := reference.evidenceId })
    (hdigest : ctx.digestOf key = some digest) :
    digest.scope = scope ∧ digest.reference = reference := by
  rcases h.verified key digest hdigest with ⟨stored, hblob, rfl⟩
  rcases hsupported with ⟨blob, hfound, hscope, hreference, _⟩
  rw [hkey, hfound] at hblob
  cases hblob
  exact And.intro hscope hreference

theorem VerifyCtx.Sound.known {tally : Tally} {state : LoadedState} (h : ctx.Sound env blobs)
    (hknown : (ctx.digestOf key).isSome = true) (hwithin : tally.Within)
    (hevidence : tally.evidence = (ctx.tally.countEvidence key).evidence) :
    VerifyCtx.Sound env blobs
      { state := state, tally := tally, verifiedEvidence := ctx.verifiedEvidence } := by
  refine { within := hwithin, verified := h.verified, counted := fun other => ?_ }
  show tally.evidence.contains other = (ctx.digestOf other).isSome
  rw [hevidence, Tally.countEvidence_contains, h.counted]
  by_cases heq : key = other
  · rw [← heq, hknown, Bool.or_true]
  · rw [decide_eq_false heq, Bool.false_or]

theorem VerifyCtx.Sound.insert {stored : SealedEvidence} {tally : Tally} {state : LoadedState}
    (h : ctx.Sound env blobs) (hblob : blobs[key]? = some stored) (hwithin : tally.Within)
    (hevidence : tally.evidence = (ctx.tally.countEvidence key).evidence) :
    VerifyCtx.Sound env blobs
      { state := state
        tally := tally
        verifiedEvidence := ctx.verifiedEvidence.insert key (evidenceDigest env stored) } := by
  refine { within := hwithin, verified := ?_, counted := ?_ }
  · intro other digest hdigest
    change (ctx.verifiedEvidence.insert key (evidenceDigest env stored))[other]? = _ at hdigest
    by_cases heq : key = other
    · rw [heq, ExtTreeMap.getElem?_insert_self] at hdigest
      cases hdigest
      exact ⟨stored, heq ▸ hblob, rfl⟩
    · rw [OrderedMap.getElem?_insert_of_ne heq] at hdigest
      exact h.verified other digest hdigest
  · intro other
    show tally.evidence.contains other =
      (ctx.verifiedEvidence.insert key (evidenceDigest env stored))[other]?.isSome
    rw [hevidence, Tally.countEvidence_contains, h.counted]
    by_cases heq : key = other
    · rw [heq, ExtTreeMap.getElem?_insert_self, decide_eq_true rfl]
      rfl
    · rw [OrderedMap.getElem?_insert_of_ne heq, decide_eq_false heq, Bool.false_or]
      rfl

theorem VerifyCtx.digestOf_insert_isSome {other : ObjectKey}
    (h : (ctx.digestOf other).isSome = true) :
    ((ctx.verifiedEvidence.insert key digest)[other]?).isSome = true := by
  by_cases heq : key = other
  · rw [heq, ExtTreeMap.getElem?_insert_self]
    rfl
  · rw [OrderedMap.getElem?_insert_of_ne heq]
    exact h

theorem VerifyCtx.Sound.counted_iff (h : ctx.Sound env blobs) (key : ObjectKey) :
    ctx.tally.evidence.contains key = true <-> (ctx.digestOf key).isSome = true := by
  rw [h.counted key]

theorem verifyRegistration_step {id : EvidenceId} (h : ctx.Sound env blobs)
    (hok : verifyRegistration env blobs batch ctx id = .ok (ctx', digest)) :
    VerifyCtx.Step env blobs ctx ctx.state
        (ctx.tally.countRegistration (metadataOf env blobs)
          { scope := batch.scope, id := id }) ctx' ∧
      exists stored,
        blobs[({ scope := batch.scope, id := id } : ObjectKey)]? = some stored ∧
          digest = evidenceDigest env stored := by
  unfold verifyRegistration at hok
  rcases bind_ok hok with ⟨reference, hfound, hok⟩
  rcases bind_ok hok with ⟨tally, htally, hok⟩
  rcases (Tally.spendEvidence_eq_ok h.within).mp htally with ⟨rfl, hwithin⟩
  have hid := (findReference_eq_some (orRefuse_eq_ok.mp hfound)).right
  cases hdigest : ctx.digestOf { scope := batch.scope, id := id } with
  | some existing =>
      rw [hdigest] at hok
      rcases check_ok hok with ⟨_, hok⟩
      cases hok
      have hcounted := (h.counted_iff { scope := batch.scope, id := id }).mpr
        (by rw [hdigest]; rfl)
      have hsame : ctx.tally.countRegistration (metadataOf env blobs)
          { scope := batch.scope, id := id } = ctx.tally := by
        unfold Tally.countRegistration
        rw [if_pos hcounted]
      have hsame' : ctx.tally.countEvidence { scope := batch.scope, id := id } = ctx.tally := by
        unfold Tally.countEvidence
        rw [if_pos hcounted]
      rw [hsame, hsame']
      exact And.intro (VerifyCtx.Step.refl h) (h.verified _ _ hdigest)
  | none =>
      rw [hdigest] at hok
      rcases bind_ok hok with ⟨stored, hread, hok⟩
      rcases bind_ok hok with ⟨metered, hmetered, hok⟩
      cases hok
      rcases (Tally.spendMetadata_eq_ok hwithin).mp hmetered with ⟨rfl, hwithin'⟩
      have hblob := (readVerifiedBlob_eq_ok.mp hread).left
      rw [hid] at hblob
      have hcounted : ¬ ctx.tally.evidence.contains { scope := batch.scope, id := id } = true := by
        rw [h.counted_iff, hdigest]
        exact Bool.false_ne_true
      have hmetadata : metadataOf env blobs { scope := batch.scope, id := id } =
          env.evidenceDigestLen (evidenceDigest env stored) := by
        unfold metadataOf
        rw [hblob]
        rfl
      refine And.intro ⟨rfl, ?_, ?_, ?_⟩ ⟨stored, hblob, rfl⟩
      · unfold Tally.countRegistration
        rw [if_neg hcounted, hmetadata]
      · exact h.insert hblob hwithin' rfl
      · exact fun key hkey => VerifyCtx.digestOf_insert_isSome hkey

theorem verifyRegistration_of_supported {id : EvidenceId} (h : ctx.Sound env blobs)
    (hfound : findReference batch.newEvents id = some reference)
    (hsupported : Supported env blobs batch.scope reference)
    (hwithin : (ctx.tally.countRegistration (metadataOf env blobs)
      { scope := batch.scope, id := id }).Within) :
    exists result, verifyRegistration env blobs batch ctx id = .ok result := by
  have hid := (findReference_eq_some hfound).right
  subst hid
  have hcounted : (ctx.tally.countEvidence
      { scope := batch.scope, id := reference.evidenceId }).Within := by
    unfold Tally.countRegistration at hwithin
    split at hwithin
    · rename_i hmem
      unfold Tally.countEvidence
      rw [if_pos hmem]
      exact hwithin
    · exact hwithin.of_addMetadata.left
  unfold verifyRegistration
  refine Except.bind_passes (orRefuse_eq_ok.mpr hfound) ?_
  refine Except.bind_passes ((Tally.spendEvidence_eq_ok h.within).mpr ⟨rfl, hcounted⟩) ?_
  cases hdigest : ctx.digestOf { scope := batch.scope, id := reference.evidenceId } with
  | some existing =>
      have hsame := h.supplied hsupported rfl hdigest
      refine check_bind_passes ?_ ⟨_, rfl⟩
      rw [decide_eq_true hsame.left, decide_eq_true hsame.right]
      rfl
  | none =>
      rcases hsupported with ⟨stored, hblob, hstands⟩
      have hmetadata : metadataOf env blobs
          { scope := batch.scope, id := reference.evidenceId } =
            env.evidenceDigestLen (evidenceDigest env stored) := by
        unfold metadataOf
        rw [hblob]
        rfl
      have hnew : ¬ ctx.tally.evidence.contains
          { scope := batch.scope, id := reference.evidenceId } = true := by
        rw [h.counted_iff, hdigest]
        exact Bool.false_ne_true
      unfold Tally.countRegistration at hwithin
      rw [if_neg hnew, hmetadata] at hwithin
      refine Except.bind_passes (readVerifiedBlob_eq_ok.mpr ⟨hblob, hstands⟩) ?_
      exact Except.bind_passes ((Tally.spendMetadata_eq_ok hcounted).mpr ⟨rfl, hwithin⟩)
        ⟨_, rfl⟩

theorem verifyRegistrations_step {ids : List EvidenceId} {digests : List EvidenceDigest}
    (h : ctx.Sound env blobs)
    (hok : verifyRegistrations env blobs batch ctx ids = .ok (ctx', digests)) :
    VerifyCtx.Step env blobs ctx ctx.state
        (ctx.tally.countRegistrations (metadataOf env blobs) batch.scope ids) ctx' ∧
      digests.map some =
        ids.map fun id =>
          blobs[({ scope := batch.scope, id := id } : ObjectKey)]?.map (evidenceDigest env) := by
  induction ids generalizing ctx digests with
  | nil =>
      cases hok
      exact And.intro (VerifyCtx.Step.refl h) rfl
  | cons id rest ih =>
      rcases bind_ok hok with ⟨⟨next, digest⟩, hfirst, hok⟩
      rcases bind_ok hok with ⟨⟨last, later⟩, hrest, hok⟩
      cases hok
      rcases verifyRegistration_step h hfirst with ⟨hstep, stored, hblob, rfl⟩
      rcases ih hstep.sound hrest with ⟨hlast, hlater⟩
      rw [hstep.state, hstep.tally] at hlast
      refine And.intro (hstep.trans hlast) ?_
      rw [List.map_cons, List.map_cons, hlater, hblob]
      rfl

theorem verifyRegistrations_of_supported {ids : List EvidenceId} (h : ctx.Sound env blobs)
    (hsupported : forall id, id ∈ ids -> exists reference,
      findReference batch.newEvents id = some reference ∧
        Supported env blobs batch.scope reference)
    (hwithin : (ctx.tally.countRegistrations (metadataOf env blobs) batch.scope ids).Within) :
    exists result, verifyRegistrations env blobs batch ctx ids = .ok result := by
  induction ids generalizing ctx with
  | nil =>
      exact ⟨(ctx, []), rfl⟩
  | cons id rest ih =>
      rcases hsupported id List.mem_cons_self with ⟨reference, hfound, hstands⟩
      have hrest : ((ctx.tally.countRegistration (metadataOf env blobs)
          { scope := batch.scope, id := id }).countRegistrations (metadataOf env blobs)
            batch.scope rest).Within := hwithin
      rcases verifyRegistration_of_supported h hfound hstands hrest.of_countRegistrations with
        ⟨⟨next, digest⟩, hfirst⟩
      have hstep := (verifyRegistration_step h hfirst).left
      refine Except.bind_passes hfirst ?_
      rcases ih hstep.sound
        (fun other hother => hsupported other (List.mem_cons_of_mem id hother))
        (hstep.tally ▸ hrest) with ⟨⟨last, later⟩, hlast⟩
      exact Except.bind_passes hlast ⟨_, rfl⟩

theorem verifyReachable_step {verified : ExtTreeMap ObjectKey EvidenceDigest}
    (hok : verifyReachable env blobs scope ctx reference = .ok verified) :
    verified = ctx.verifiedEvidence ∨
      exists stored,
        blobs[({ scope := scope, id := reference.evidenceId } : ObjectKey)]? = some stored ∧
          verified =
            ctx.verifiedEvidence.insert { scope := scope, id := reference.evidenceId }
              (evidenceDigest env stored) := by
  unfold verifyReachable at hok
  dsimp only at hok
  split at hok
  · rcases bind_ok hok with ⟨stored, hread, hok⟩
    cases hok
    exact Or.inr ⟨stored, (readVerifiedBlob_eq_ok.mp hread).left, rfl⟩
  · cases hok
    exact Or.inl rfl

theorem verifyReference_step (h : ctx.Sound env blobs)
    (hok : verifyReference env blobs scope ctx reference = .ok ctx') :
    VerifyCtx.Step env blobs ctx (ctx.state.recordReference scope reference)
      (ctx.tally.countEvidence { scope := scope, id := reference.evidenceId }) ctx' := by
  unfold verifyReference at hok
  rcases bind_ok hok with ⟨tally, htally, hok⟩
  rcases bind_ok hok with ⟨verified, hverified, hok⟩
  rcases check_ok hok with ⟨hstands, hok⟩
  cases hok
  rcases (Tally.spendEvidence_eq_ok h.within).mp htally with ⟨rfl, hwithin⟩
  rcases verifyReachable_step hverified with rfl | ⟨stored, hblob, rfl⟩
  · have hknown : (ctx.digestOf { scope := scope, id := reference.evidenceId }).isSome = true := by
      unfold VerifyCtx.digestOf
      cases hdigest :
          ctx.verifiedEvidence[({ scope := scope, id := reference.evidenceId } : ObjectKey)]? with
      | none =>
          rw [hdigest] at hstands
          exact absurd hstands Bool.false_ne_true
      | some digest =>
          rfl
    exact ⟨rfl, rfl, h.known hknown hwithin rfl, fun _ hkey => hkey⟩
  · exact ⟨rfl, rfl, h.insert hblob hwithin rfl,
      fun _ hkey => VerifyCtx.digestOf_insert_isSome hkey⟩

theorem verifyReference_of_supported (h : ctx.Sound env blobs)
    (hsupported : Supported env blobs scope reference) (hknown :
      ({ scope := scope, id := reference.evidenceId } : ObjectKey) ∈ ctx.state.reachableEvidence ∨
        (ctx.digestOf { scope := scope, id := reference.evidenceId }).isSome = true) (hwithin :
      (ctx.tally.countEvidence { scope := scope, id := reference.evidenceId }).Within) :
    exists ctx', verifyReference env blobs scope ctx reference = .ok ctx' := by
  refine Except.bind_passes ((Tally.spendEvidence_eq_ok h.within).mpr ⟨rfl, hwithin⟩) ?_
  cases hdigest : ctx.digestOf { scope := scope, id := reference.evidenceId } with
  | some digest =>
      have hsame := h.supplied hsupported rfl hdigest
      have hverified : verifyReachable env blobs scope ctx reference =
          .ok ctx.verifiedEvidence := by
        unfold verifyReachable
        rw [if_neg]
        simp [hdigest]
      refine Except.bind_passes hverified (check_bind_passes ?_ ⟨_, rfl⟩)
      unfold VerifyCtx.digestOf at hdigest
      rw [hdigest]
      simp [hsame.left, hsame.right]
  | none =>
      rcases hsupported with ⟨stored, hblob, hscope, hreference, hvalid⟩
      have hreachable := hknown.resolve_right (by rw [hdigest]; exact Bool.false_ne_true)
      have hverified : verifyReachable env blobs scope ctx reference =
          .ok (ctx.verifiedEvidence.insert { scope := scope, id := reference.evidenceId }
            (evidenceDigest env stored)) := by
        unfold verifyReachable
        rw [if_pos]
        · exact Except.bind_eq_ok.mpr ⟨stored,
            readVerifiedBlob_eq_ok.mpr ⟨hblob, hscope, hreference, hvalid⟩, rfl⟩
        · rw [hdigest]
          exact ExtTreeSet.contains_iff_mem.mpr hreachable
      refine Except.bind_passes hverified (check_bind_passes ?_ ⟨_, rfl⟩)
      rw [ExtTreeMap.getElem?_insert_self]
      simp [evidenceDigest, hscope, hreference]

theorem verifyReferences_step {references : List EvidenceReference} (h : ctx.Sound env blobs)
    (hok : references.foldlM (verifyReference env blobs scope) ctx = .ok ctx') :
    VerifyCtx.Step env blobs ctx
      (references.foldl (LoadedState.recordReference scope) ctx.state)
      (references.foldl
        (fun tally reference =>
          tally.countEvidence { scope := scope, id := reference.evidenceId }) ctx.tally)
      ctx' := by
  induction references generalizing ctx with
  | nil =>
      cases hok
      exact VerifyCtx.Step.refl h
  | cons reference rest ih =>
      rw [List.foldlM_cons] at hok
      rcases bind_ok hok with ⟨next, hfirst, hrest⟩
      have hstep := verifyReference_step h hfirst
      have hlast := ih hstep.sound hrest
      rw [hstep.state, hstep.tally] at hlast
      exact hstep.trans hlast

theorem verifyReferences_of_supported {references : List EvidenceReference}
    (h : ctx.Sound env blobs) (hsupported : forall reference, reference ∈ references ->
      Supported env blobs scope reference ∧
        (({ scope := scope, id := reference.evidenceId } : ObjectKey) ∈
            ctx.state.reachableEvidence ∨
          (ctx.digestOf { scope := scope, id := reference.evidenceId }).isSome = true)) (hwithin :
      (references.foldl
        (fun tally reference =>
          tally.countEvidence { scope := scope, id := reference.evidenceId })
        ctx.tally).Within) :
    exists ctx', references.foldlM (verifyReference env blobs scope) ctx = .ok ctx' := by
  induction references generalizing ctx with
  | nil =>
      exact ⟨ctx, rfl⟩
  | cons reference rest ih =>
      rw [List.foldlM_cons]
      rcases hsupported reference List.mem_cons_self with ⟨hstands, hknown⟩
      have hfirst : (ctx.tally.countEvidence
          { scope := scope, id := reference.evidenceId }).Within :=
        Tally.Within.of_foldl Tally.Within.of_countEvidence hwithin
      rcases verifyReference_of_supported h hstands hknown hfirst with ⟨next, hnext⟩
      have hstep := verifyReference_step h hnext
      refine Except.bind_passes hnext (ih hstep.sound ?_ (hstep.tally ▸ hwithin))
      intro other hother
      rcases hsupported other (List.mem_cons_of_mem reference hother) with
        ⟨hsupported, hreachable | hverified⟩
      · refine And.intro hsupported (Or.inl ?_)
        rw [hstep.state]
        exact OrderedMap.mem_insert.mpr (Or.inr hreachable)
      · exact And.intro hsupported (Or.inr (hstep.grows _ hverified))

end Evidence

/-!
## Artifacts
-/

section Artifacts

variable {env : StoreEnvironment} {blobs : Blobs} {ctx ctx' : VerifyCtx}

theorem VerifyCtx.Sound.countArtifact {key : ObjectKey} {state : LoadedState}
    (h : ctx.Sound env blobs) (hwithin : (ctx.tally.countArtifact key).Within) :
    VerifyCtx.Step env blobs ctx state (ctx.tally.countArtifact key)
      { ctx with tally := ctx.tally.countArtifact key, state := state } := by
  refine ⟨rfl, rfl, ?_, fun _ hkey => hkey⟩
  refine { within := hwithin, verified := h.verified, counted := fun other => ?_ }
  have hevidence : (ctx.tally.countArtifact key).evidence = ctx.tally.evidence := by
    unfold Tally.countArtifact
    split
    · rfl
    · rfl
  show (ctx.tally.countArtifact key).evidence.contains other = _
  rw [hevidence]
  exact h.counted other

variable {event : EventEnvelope}

theorem verifyArtifact_eq_ok {artifact : ArtifactReference} (h : ctx.Sound env blobs) :
    verifyArtifact batch event ctx artifact = .ok ctx' <->
      (ctx.tally.countArtifact { scope := event.scope, id := artifact.artifactId }).Within ∧
        artifactStands ctx.state batch event artifact = true ∧
        { ctx with
          tally :=
            ctx.tally.countArtifact { scope := event.scope, id := artifact.artifactId } } =
          ctx' := by
  unfold verifyArtifact
  rw [Except.bind_eq_ok]
  constructor
  · rintro ⟨tally, htally, hok⟩
    rcases check_ok hok with ⟨hstands, hok⟩
    cases hok
    rcases (Tally.spendArtifact_eq_ok h.within).mp htally with ⟨rfl, hwithin⟩
    exact ⟨hwithin, hstands, rfl⟩
  · rintro ⟨hwithin, hstands, rfl⟩
    exact ⟨_, (Tally.spendArtifact_eq_ok h.within).mpr ⟨rfl, hwithin⟩,
      check_bind_eq_ok.mpr ⟨hstands, rfl⟩⟩

theorem verifyArtifacts_step {artifacts : List ArtifactReference} (h : ctx.Sound env blobs)
    (hok : artifacts.foldlM (verifyArtifact batch event) ctx = .ok ctx') :
    VerifyCtx.Step env blobs ctx ctx.state
      (artifacts.foldl
        (fun tally artifact =>
          tally.countArtifact { scope := event.scope, id := artifact.artifactId }) ctx.tally)
      ctx' := by
  induction artifacts generalizing ctx with
  | nil =>
      cases hok
      exact VerifyCtx.Step.refl h
  | cons artifact rest ih =>
      rw [List.foldlM_cons] at hok
      rcases bind_ok hok with ⟨next, hfirst, hrest⟩
      rcases (verifyArtifact_eq_ok h).mp hfirst with ⟨hwithin, _, rfl⟩
      have hstep := @VerifyCtx.Sound.countArtifact env blobs ctx _ ctx.state h hwithin
      exact hstep.trans (ih hstep.sound hrest)

theorem verifyArtifacts_of_standing {artifacts : List ArtifactReference} (h : ctx.Sound env blobs)
    (hstanding : forall artifact, artifact ∈ artifacts ->
      artifactStands ctx.state batch event artifact = true) (hwithin :
      (artifacts.foldl
        (fun tally artifact =>
          tally.countArtifact { scope := event.scope, id := artifact.artifactId })
        ctx.tally).Within) :
    exists ctx', artifacts.foldlM (verifyArtifact batch event) ctx = .ok ctx' := by
  induction artifacts generalizing ctx with
  | nil =>
      exact ⟨ctx, rfl⟩
  | cons artifact rest ih =>
      rw [List.foldlM_cons]
      have hfirst : (ctx.tally.countArtifact
          { scope := event.scope, id := artifact.artifactId }).Within :=
        Tally.Within.of_foldl Tally.Within.of_countArtifact hwithin
      have hstep := @VerifyCtx.Sound.countArtifact env blobs ctx _ ctx.state h hfirst
      refine Except.bind_passes
        ((verifyArtifact_eq_ok h).mpr ⟨hfirst, hstanding artifact List.mem_cons_self, rfl⟩) ?_
      exact ih hstep.sound
        (fun other hother => hstanding other (List.mem_cons_of_mem artifact hother)) hwithin

theorem verifyRegisteredArtifact_eq_ok {item : StoredArtifactRegistration}
    (h : ctx.Sound env blobs) :
    verifyRegisteredArtifact scope ctx item = .ok ctx' <->
      (ctx.tally.countArtifact { scope := scope, id := item.reference.artifactId }).Within ∧
        (ctx.state.artifacts[
          ({ scope := scope, id := item.reference.artifactId } : ObjectKey)]?.all
            fun existing => existing = item) = true ∧
        { ctx with
          tally := ctx.tally.countArtifact { scope := scope, id := item.reference.artifactId }
          state := ctx.state.recordArtifact scope item } = ctx' := by
  unfold verifyRegisteredArtifact
  rw [Except.bind_eq_ok]
  constructor
  · rintro ⟨tally, htally, hok⟩
    rcases check_ok hok with ⟨hkept, hok⟩
    cases hok
    rcases (Tally.spendArtifact_eq_ok h.within).mp htally with ⟨rfl, hwithin⟩
    exact ⟨hwithin, hkept, rfl⟩
  · rintro ⟨hwithin, hkept, rfl⟩
    exact ⟨_, (Tally.spendArtifact_eq_ok h.within).mpr ⟨rfl, hwithin⟩,
      check_bind_eq_ok.mpr ⟨hkept, rfl⟩⟩

theorem verifyRegisteredArtifacts_step {items : List StoredArtifactRegistration}
    (h : ctx.Sound env blobs)
    (hok : items.foldlM (verifyRegisteredArtifact scope) ctx = .ok ctx') :
    VerifyCtx.Step env blobs ctx (items.foldl (LoadedState.recordArtifact scope) ctx.state)
      (ctx.tally.countArtifacts scope (items.map fun item => item.reference.artifactId))
      ctx' := by
  induction items generalizing ctx with
  | nil =>
      cases hok
      exact VerifyCtx.Step.refl h
  | cons item rest ih =>
      rw [List.foldlM_cons] at hok
      rcases bind_ok hok with ⟨next, hfirst, hrest⟩
      rcases (verifyRegisteredArtifact_eq_ok h).mp hfirst with ⟨hwithin, _, rfl⟩
      have hstep := @VerifyCtx.Sound.countArtifact env blobs ctx _
        (ctx.state.recordArtifact scope item) h hwithin
      exact hstep.trans (ih hstep.sound hrest)

theorem verifyRegisteredArtifacts_of_kept {items : List StoredArtifactRegistration}
    (h : ctx.Sound env blobs)
    (hdistinct : (items.map fun item => item.reference.artifactId).Nodup)
    (hkept : artifactsKept ctx.state scope items = true)
    (hwithin : (ctx.tally.countArtifacts scope
      (items.map fun item => item.reference.artifactId)).Within) :
    exists ctx', items.foldlM (verifyRegisteredArtifact scope) ctx = .ok ctx' := by
  induction items generalizing ctx with
  | nil =>
      exact ⟨ctx, rfl⟩
  | cons item rest ih =>
      rw [List.foldlM_cons]
      have hparts := List.nodup_cons.mp hdistinct
      have hitems := List.all_eq_true.mp hkept
      have hfirst : (ctx.tally.countArtifact
          { scope := scope, id := item.reference.artifactId }).Within :=
        Tally.Within.of_foldl Tally.Within.of_countArtifact hwithin
      have hstep := @VerifyCtx.Sound.countArtifact env blobs ctx _
        (ctx.state.recordArtifact scope item) h hfirst
      refine Except.bind_passes
        ((verifyRegisteredArtifact_eq_ok h).mpr ⟨hfirst, hitems item List.mem_cons_self, rfl⟩) ?_
      refine ih hstep.sound hparts.right ?_ hwithin
      refine List.all_eq_true.mpr fun other hother => ?_
      show ((ctx.state.artifacts.insertIfNew _ item)[_]?.all _) = true
      rw [ExtTreeMap.getElem?_insertIfNew, if_neg]
      · exact hitems other (List.mem_cons_of_mem item hother)
      · rintro ⟨hcompare, _⟩
        have hid : other.reference.artifactId = item.reference.artifactId :=
          (congrArg ObjectKey.id (LawfulEqOrd.eq_of_compare hcompare)).symm
        exact hparts.left (List.mem_map.mpr ⟨other, hother, hid⟩)

end Artifacts

end GraphHelm
