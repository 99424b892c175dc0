import GraphHelm.Projection.History

/-!
# Legal holds over whole histories

Evidence may be held under several ids at once, and one id placed and released
over and over.  A hold stands once it was placed and for as long as it has not
been released since; evidence is held while one of its holds stands.
-/

namespace GraphHelm

open Std
open OrderedMap

/-- The hold an event places or releases. -/
def EvidenceLegalHoldChanged.hold (payload : EvidenceLegalHoldChanged) : LegalHold :=
  { evidence := { scope := payload.evidenceScope, evidenceId := payload.evidenceId }
    holdId := payload.holdId.text }

def EventEnvelope.Sets (event : EventEnvelope) (hold : LegalHold) (state : LegalHoldState) : Prop :=
  exists payload, event.kind = .evidenceLegalHoldChanged payload ∧ payload.hold = hold ∧
    payload.state = state

def HoldStands (events : List EventEnvelope) (hold : LegalHold) : Prop :=
  exists before placing since,
    events = before ++ placing :: since ∧ placing.Sets hold .placed ∧
      forall later, later ∈ since -> ¬ later.Sets hold .released

/-- The visible set is the evidence of the holds that are placed. -/
def FoldState.HoldsAgree (st : FoldState) : Prop :=
  forall evidence : ScopedEvidenceId,
    evidence ∈ st.projection.legalHolds <->
      exists hold, hold ∈ st.activeLegalHolds ∧ hold.evidence = evidence

section Holds

variable {env : Environment} {events : List EventEnvelope} {event : EventEnvelope}
  {st st' : FoldState} {hold : LegalHold} {state : LegalHoldState}

/-!
## Holds of a history
-/

theorem EventEnvelope.Sets.state_eq {other : LegalHoldState} (h : event.Sets hold state)
    (hother : event.Sets hold other) : state = other := by
  rcases h with ⟨payload, hkind, _, rfl⟩
  rcases hother with ⟨payload', hkind', _, rfl⟩
  rw [EventKind.evidenceLegalHoldChanged.inj (hkind.symm.trans hkind')]

theorem holdStands_concat :
    HoldStands (events ++ [event]) hold <->
      event.Sets hold .placed ∨ HoldStands events hold ∧ ¬ event.Sets hold .released := by
  constructor
  · rintro ⟨before, placing, since, hevents, hplaced, hsince⟩
    rcases List.eq_nil_or_concat since with rfl | ⟨earlier, last, rfl⟩
    · have hlast := (List.append_inj' hevents rfl).right
      exact Or.inl (List.singleton_inj.mp hlast ▸ hplaced)
    · rw [List.concat_eq_append, ← List.cons_append, ← List.append_assoc] at hevents
      rcases List.append_inj' hevents rfl with ⟨hbefore, hlast⟩
      rw [List.concat_eq_append] at hsince
      refine Or.inr (And.intro ⟨before, placing, earlier, hbefore, hplaced, ?_⟩ ?_)
      · intro later hmem
        exact hsince later (List.mem_append_left _ hmem)
      · rw [List.singleton_inj.mp hlast]
        exact hsince last (List.mem_append_right _ List.mem_cons_self)
  · rintro (hplaced | ⟨⟨before, placing, since, rfl, hplaced, hsince⟩, hkept⟩)
    · exact ⟨events, event, [], rfl, hplaced, fun _ hmem => absurd hmem List.not_mem_nil⟩
    · refine ⟨before, placing, since ++ [event], ?_, hplaced, ?_⟩
      · rw [List.append_assoc, List.cons_append]
      · intro later hmem
        rcases List.mem_append.mp hmem with hold | hnew
        · exact hsince later hold
        · rw [List.mem_singleton.mp hnew]
          exact hkept

theorem not_holdStands_nil : ¬ HoldStands [] hold := by
  rintro ⟨before, placing, since, hevents, _⟩
  exact List.append_ne_nil_of_right_ne_nil before (List.cons_ne_nil placing since) hevents.symm

/-!
## Holds of a fold
-/

theorem holds_of_other (h : applyProjectionEvent env event st = .ok () st')
    (hother : forall payload, event.kind ≠ .evidenceLegalHoldChanged payload) :
    st'.activeLegalHolds = st.activeLegalHolds ∧
      st'.projection.legalHolds = st.projection.legalHolds := by
  unfold applyProjectionEvent nameStream at h
  rw [modifyProjection_bind] at h
  have hspared : forall st : FoldState,
      (event.kind.sparedState st).activeLegalHolds = st.activeLegalHolds ∧
        (event.kind.sparedState st).projection.legalHolds = st.projection.legalHolds := by
    intro st
    cases hkind : event.kind <;> first
      | exact And.intro rfl rfl
      | exact absurd hkind (hother _)
  have hactive := @keeps_of_spared _ FoldState.activeLegalHolds env event
    (fun st => (hspared st).left) _ _ _ h
  have hvisible := @keeps_of_spared _ (fun st => st.projection.legalHolds) env event
    (fun st => (hspared st).right) _ _ _ h
  exact And.intro hactive hvisible

/-- What the fold makes of a placement: one more hold, and its evidence held. -/
theorem holds_of_placed (h : applyProjectionEvent env event st = .ok () st')
    (hset : event.Sets hold .placed) :
    st'.activeLegalHolds = st.activeLegalHolds.insert hold ∧
      st'.projection.legalHolds = st.projection.legalHolds.insert hold.evidence := by
  rcases hset with ⟨payload, hkind, rfl, hstate⟩
  unfold applyProjectionEvent nameStream at h
  rw [modifyProjection_bind] at h
  unfold foldKind foldEvidenceLegalHoldChanged at h
  simp only [hkind, hstate] at h
  cases h
  exact And.intro rfl rfl

theorem holds_of_released (h : applyProjectionEvent env event st = .ok () st')
    (hset : event.Sets hold .released) :
    st'.activeLegalHolds = st.activeLegalHolds.erase hold ∧
      st'.projection.legalHolds =
        if (st.activeLegalHolds.erase hold).any fun other => other.evidence = hold.evidence then
          st.projection.legalHolds
        else
          st.projection.legalHolds.erase hold.evidence := by
  rcases hset with ⟨payload, hkind, rfl, hstate⟩
  unfold applyProjectionEvent nameStream at h
  rw [modifyProjection_bind] at h
  unfold foldKind foldEvidenceLegalHoldChanged at h
  simp only [hkind, hstate] at h
  cases h
  exact And.intro rfl
    (apply_ite (fun projection : ExecutionProjection => projection.legalHolds) _ _ _)

theorem holds_cases (event : EventEnvelope) :
    (forall payload, event.kind ≠ .evidenceLegalHoldChanged payload) ∨
      (exists hold, event.Sets hold .placed) ∨ exists hold, event.Sets hold .released := by
  cases hkind : event.kind
  case evidenceLegalHoldChanged payload =>
    cases hstate : payload.state with
    | placed => exact Or.inr (Or.inl ⟨payload.hold, payload, hkind, rfl, hstate⟩)
    | released => exact Or.inr (Or.inr ⟨payload.hold, payload, hkind, rfl, hstate⟩)
  all_goals
    refine Or.inl fun payload heq => ?_
    cases heq

theorem EventEnvelope.Sets.hold_eq {other : LegalHold} {otherState : LegalHoldState}
    (h : event.Sets hold state) (hother : event.Sets other otherState) : hold = other := by
  rcases h with ⟨payload, hkind, rfl, _⟩
  rcases hother with ⟨payload', hkind', rfl, _⟩
  rw [EventKind.evidenceLegalHoldChanged.inj (hkind.symm.trans hkind')]

theorem mem_active_of_accepted (h : applyProjectionEvent env event st = .ok () st') :
    hold ∈ st'.activeLegalHolds <->
      event.Sets hold .placed ∨ hold ∈ st.activeLegalHolds ∧ ¬ event.Sets hold .released := by
  rcases holds_cases event with hother | ⟨placed, hplaced⟩ | ⟨released, hreleased⟩
  · have hunset : forall state, ¬ event.Sets hold state := by
      rintro state ⟨payload, hkind, _⟩
      exact hother payload hkind
    rw [(holds_of_other h hother).left]
    simp [hunset]
  · rw [(holds_of_placed h hplaced).left, mem_insert]
    constructor
    · rintro (rfl | hmem)
      · exact Or.inl hplaced
      · exact Or.inr (And.intro hmem fun hset =>
          LegalHoldState.noConfusion ((hplaced.hold_eq hset ▸ hplaced).state_eq hset))
    · rintro (hset | ⟨hmem, _⟩)
      · exact Or.inl (hset.hold_eq hplaced)
      · exact Or.inr hmem
  · rw [(holds_of_released h hreleased).left, mem_erase]
    constructor
    · rintro ⟨hne, hmem⟩
      exact Or.inr (And.intro hmem fun hset => hne (hset.hold_eq hreleased))
    · rintro (hset | ⟨hmem, hkept⟩)
      · exact LegalHoldState.noConfusion
          ((hset.hold_eq hreleased ▸ hset).state_eq hreleased)
      · exact And.intro (fun heq => hkept (heq ▸ hreleased)) hmem

theorem holdsAgree_of_accepted (hagree : st.HoldsAgree)
    (h : applyProjectionEvent env event st = .ok () st') : st'.HoldsAgree := by
  intro evidence
  rcases holds_cases event with hother | ⟨placed, hplaced⟩ | ⟨released, hreleased⟩
  · rw [(holds_of_other h hother).left, (holds_of_other h hother).right]
    exact hagree evidence
  · rw [(holds_of_placed h hplaced).left, (holds_of_placed h hplaced).right, mem_insert, hagree]
    simp only [mem_insert]
    constructor
    · rintro (rfl | ⟨other, hmem, rfl⟩)
      · exact ⟨placed, Or.inl rfl, rfl⟩
      · exact ⟨other, Or.inr hmem, rfl⟩
    · rintro ⟨other, rfl | hmem, rfl⟩
      · exact Or.inl rfl
      · exact Or.inr ⟨other, hmem, rfl⟩
  · rw [(holds_of_released h hreleased).left, (holds_of_released h hreleased).right]
    simp only [mem_erase]
    split
    · rename_i hanother
      rcases any_iff_exists_mem.mp hanother with ⟨another, hanother, hsame⟩
      rw [hagree]
      constructor
      · rintro ⟨other, hmem, rfl⟩
        rcases Decidable.em (other = released) with rfl | hne
        · exact ⟨another, mem_erase.mp hanother, of_decide_eq_true hsame⟩
        · exact ⟨other, And.intro hne hmem, rfl⟩
      · rintro ⟨other, hmem, rfl⟩
        exact ⟨other, hmem.right, rfl⟩
    · rename_i hlast
      rw [mem_erase, hagree]
      constructor
      · rintro ⟨hne, other, hmem, rfl⟩
        exact ⟨other, And.intro (fun heq => hne (heq ▸ rfl)) hmem, rfl⟩
      · rintro ⟨other, hmem, rfl⟩
        refine And.intro (fun heq => hlast ?_) ⟨other, hmem.right, rfl⟩
        exact any_iff_exists_mem.mpr ⟨other, mem_erase.mpr hmem, decide_eq_true heq⟩

theorem holds_of_foldHistory (hfold : foldHistory env events = some st) :
    (forall hold, hold ∈ st.activeLegalHolds <-> HoldStands events hold) ∧ st.HoldsAgree := by
  induction events using List.reverseRecOn generalizing st with
  | nil =>
      cases hfold
      constructor
      · intro hold
        exact iff_of_false ExtTreeSet.not_mem_empty not_holdStands_nil
      · intro evidence
        refine iff_of_false ExtTreeSet.not_mem_empty ?_
        rintro ⟨hold, hmem, _⟩
        exact ExtTreeSet.not_mem_empty hmem
  | append_singleton earlier event ih =>
      rcases foldHistory_concat.mp hfold with ⟨before, hbefore, hstep⟩
      rcases ih hbefore with ⟨hstands, hagree⟩
      constructor
      · intro hold
        rw [mem_active_of_accepted hstep, hstands, holdStands_concat]
      · exact holdsAgree_of_accepted hagree hstep

end Holds

/-!
## The law of legal holds
-/

def RefusesUnknownReleases (env : Environment) (events : List EventEnvelope) : Prop :=
  forall (before later : List EventEnvelope) (event : EventEnvelope) (hold : LegalHold),
    events = before ++ event :: later -> event.Sets hold .released ->
      ¬ HoldStands before hold -> foldHistory env (before ++ [event]) = none

structure HoldLaw (env : Environment) (events : List EventEnvelope) : Prop where
  held : forall {before later : List EventEnvelope} {st : FoldState},
    events = before ++ later -> foldHistory env before = some st ->
      forall evidence : ScopedEvidenceId,
        evidence ∈ st.projection.legalHolds <->
          exists holdId, HoldStands before { evidence := evidence, holdId := holdId }
  overlapping : forall {before later : List EventEnvelope} {event : EventEnvelope}
      {st : FoldState} {released other : LegalHold},
    events = before ++ event :: later -> foldHistory env (before ++ [event]) = some st ->
      event.Sets released .released -> HoldStands before other -> other ≠ released ->
        other.evidence ∈ st.projection.legalHolds
  unknown : forall {before later : List EventEnvelope} {event : EventEnvelope}
      {st : FoldState} {hold : LegalHold},
    events = before ++ event :: later -> foldHistory env before = some st ->
      event.Sets hold .released -> ¬ HoldStands before hold ->
        exists st', applyProjectionEvent env event st = .ok () st' ∧
          (forall other, other ∈ st'.activeLegalHolds <-> other ∈ st.activeLegalHolds) ∧
            forall evidence : ScopedEvidenceId,
              evidence ∈ st'.projection.legalHolds <-> evidence ∈ st.projection.legalHolds

/-- Evidence is held exactly while one of its holds stands, in whatever order they come. -/
theorem legal_holds_follow_the_standing_holds (env : Environment) (events : List EventEnvelope) :
    HoldLaw env events where
  held := by
    intro before later st _ hfold evidence
    rcases holds_of_foldHistory hfold with ⟨hstands, hagree⟩
    rw [hagree]
    constructor
    · rintro ⟨hold, hmem, rfl⟩
      exact ⟨hold.holdId, (hstands hold).mp hmem⟩
    · rintro ⟨holdId, hstand⟩
      exact ⟨_, (hstands _).mpr hstand, rfl⟩
  overlapping := by
    intro before later event st released other _ hfold hreleased hstand hne
    rcases holds_of_foldHistory hfold with ⟨hstands, hagree⟩
    refine (hagree _).mpr ⟨other, (hstands other).mpr ?_, rfl⟩
    exact holdStands_concat.mpr (Or.inr (And.intro hstand fun hset => hne (hset.hold_eq hreleased)))
  unknown := by
    intro before later event st hold _ hfold hreleased hunknown
    rcases holds_of_foldHistory hfold with ⟨hstands, hagree⟩
    have haccepted : exists st', applyProjectionEvent env event st = .ok () st' := by
      rcases hreleased with ⟨payload, hkind, rfl, hstate⟩
      unfold applyProjectionEvent nameStream
      rw [modifyProjection_bind]
      unfold foldKind foldEvidenceLegalHoldChanged
      simp only [hkind, hstate]
      exact ⟨_, rfl⟩
    rcases haccepted with ⟨st', hstep⟩
    have hactive : forall other, other ∈ st'.activeLegalHolds <-> other ∈ st.activeLegalHolds := by
      intro other
      rw [(holds_of_released hstep hreleased).left, mem_erase]
      refine and_iff_right_of_imp ?_
      rintro hmem rfl
      exact hunknown ((hstands other).mp hmem)
    refine ⟨st', hstep, hactive, fun evidence => ?_⟩
    rw [holdsAgree_of_accepted hagree hstep, hagree]
    simp only [hactive]

namespace Sample

def holdChange (key holdId : String) (state : LegalHoldState) : NewEvent :=
  event key (.evidenceLegalHoldChanged
    { evidenceScope := scope
      holdId := id holdId
      evidenceId := id "evidence"
      state := state
      body := "" })

def strayRelease : List EventEnvelope :=
  history [holdChange "placed" "hold-1" .placed, holdChange "stray" "hold-2" .released]

end Sample

theorem unknown_release_is_not_refused :
    ¬ RefusesUnknownReleases Sample.env Sample.strayRelease := by
  intro hrefuses
  have hsplit : exists placed stray, Sample.strayRelease = [placed] ++ stray :: [] ∧
      stray.Sets { evidence := { scope := Sample.scope, evidenceId := Sample.id "evidence" }
                   holdId := "hold-2" } .released ∧
      placed.Sets { evidence := { scope := Sample.scope, evidenceId := Sample.id "evidence" }
                    holdId := "hold-1" } .placed :=
    ⟨_, _, rfl, ⟨_, rfl, rfl, rfl⟩, ⟨_, rfl, rfl, rfl⟩⟩
  rcases hsplit with ⟨placed, stray, hevents, hstray, hplaced⟩
  have hnone := hrefuses [placed] [] stray _ hevents hstray (fun hstand => by
    rcases (@holdStands_concat [] placed _).mp hstand with hset | ⟨hstand, _⟩
    · exact absurd (congrArg LegalHold.holdId (hset.hold_eq hplaced)) (by decide)
    · exact not_holdStands_nil hstand)
  have hsome : (foldHistory Sample.env Sample.strayRelease).isSome = true := by
    decide
  rw [hevents, hnone] at hsome
  cases hsome

end GraphHelm
