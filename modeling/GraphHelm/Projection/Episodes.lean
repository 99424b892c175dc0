import GraphHelm.Projection.Customs
import GraphHelm.Projection.Overdue

/-!
# The episodes of overdue stages

A stage is entered by one event, and the sequence of that event is its episode.
Parks, returns and claims enter one stage each; a redrive enters the claimed stage
again for every open claim of its node.
-/

namespace GraphHelm

open Std
open OrderedMap

/-!
## What the report says
-/

def WaitsUnanswered (projection : ExecutionProjection) (stage : OverdueStage) : Prop :=
  stage.claimSeq = none ∧
    exists wait, projection.openWaits[stage.node]? = some wait ∧
      wait.atSequence = stage.episodeSeq ∧ wait.deadline = some stage.deadline ∧
      forall (claimSeq : Nat) (claim : OpenClaim),
        projection.openClaims[claimSeq]? = some claim -> claim.completesWaitSeq ≠ wait.atSequence

def AwaitsClearance (projection : ExecutionProjection) (stage : OverdueStage) : Prop :=
  exists (claimSeq : Nat) (claim : OpenClaim), stage.claimSeq = some claimSeq ∧
    projection.openClaims[claimSeq]? = some claim ∧ claim.node = stage.node ∧
    claim.stageEnteredAt = stage.episodeSeq ∧ claim.deadline = some stage.deadline

/-- What is asked of the report at an instant. -/
structure OverdueExact (projection : ExecutionProjection) (asOf : PersistedTimestamp) : Prop where
  exact : forall stage, stage ∈ overdueAt projection asOf <->
    (WaitsUnanswered projection stage ∨ AwaitsClearance projection stage) ∧
      stage.deadline <= asOf ∧ ¬ stage.episodeSeq ∈ projection.exceptionMarked
  /-- No two entries share an episode, so there is one entry for each. -/
  distinct : ((overdueAt projection asOf).map OverdueStage.episodeSeq).Nodup

section Report

variable {projection : ExecutionProjection} {asOf : PersistedTimestamp} {stage : OverdueStage}

theorem lapsed_eq_some {deadline : Option PersistedTimestamp} {instant : PersistedTimestamp} :
    lapsed deadline asOf = some instant <-> deadline = some instant ∧ instant <= asOf := by
  unfold lapsed
  rw [Option.filter_eq_some_iff, decide_eq_true_iff]

theorem mem_claimedWaits {wait : Nat} : wait ∈ claimedWaits projection <->
    exists (claimSeq : Nat) (claim : OpenClaim),
      projection.openClaims[claimSeq]? = some claim ∧ claim.completesWaitSeq = wait := by
  unfold claimedWaits
  simp only [List.mem_map, Prod.exists, ExtTreeMap.mem_toList_iff_getElem?_eq_some]

theorem overdueWait_eq_some {node : String} {wait : OpenWait}
    (hwait : projection.openWaits[node]? = some wait) :
    overdueWait projection asOf (node, wait) = some stage <->
      stage.node = node ∧ WaitsUnanswered projection stage ∧ stage.deadline <= asOf ∧
        ¬ stage.episodeSeq ∈ projection.exceptionMarked := by
  unfold overdueWait
  dsimp only
  constructor
  · intro h
    split at h
    · cases h
    · rename_i hopen
      rw [Bool.or_eq_true, not_or, List.contains_iff_mem, mem_claimedWaits,
        ExtTreeSet.contains_iff_mem] at hopen
      rcases Option.map_eq_some_iff.mp h with ⟨deadline, hlapsed, rfl⟩
      rcases lapsed_eq_some.mp hlapsed with ⟨hdeadline, hpast⟩
      refine ⟨rfl, ⟨rfl, wait, hwait, rfl, hdeadline, ?_⟩, hpast, hopen.right⟩
      intro claimSeq claim hclaim hanswers
      exact hopen.left ⟨claimSeq, claim, hclaim, hanswers⟩
  · intro h
    rcases h with ⟨rfl, ⟨hnone, wait', hwait', hepisode, hdeadline, hfree⟩, hpast, hunmarked⟩
    rw [hwait] at hwait'
    cases hwait'
    have hopen : ¬ ((claimedWaits projection).contains wait.atSequence ||
        projection.exceptionMarked.contains wait.atSequence) = true := by
      rw [Bool.or_eq_true, not_or, List.contains_iff_mem, mem_claimedWaits,
        ExtTreeSet.contains_iff_mem, hepisode]
      refine And.intro ?_ hunmarked
      intro hclaimed
      rcases hclaimed with ⟨claimSeq, claim, hclaim, hanswers⟩
      exact hfree claimSeq claim hclaim (hanswers.trans hepisode.symm)
    rw [if_neg hopen, lapsed_eq_some.mpr (And.intro hdeadline hpast), Option.map_some, hepisode,
      ← hnone]

theorem overdueClaim_eq_some {claimSeq : Nat} {claim : OpenClaim}
    (hclaim : projection.openClaims[claimSeq]? = some claim) :
    overdueClaim projection asOf (claimSeq, claim) = some stage <->
      stage.claimSeq = some claimSeq ∧ AwaitsClearance projection stage ∧
        stage.deadline <= asOf ∧ ¬ stage.episodeSeq ∈ projection.exceptionMarked := by
  unfold overdueClaim
  dsimp only
  constructor
  · intro h
    split at h
    · cases h
    · rename_i hopen
      rw [ExtTreeSet.contains_iff_mem] at hopen
      rcases Option.map_eq_some_iff.mp h with ⟨deadline, hlapsed, rfl⟩
      rcases lapsed_eq_some.mp hlapsed with ⟨hdeadline, hpast⟩
      exact ⟨rfl, ⟨claimSeq, claim, rfl, hclaim, rfl, rfl, hdeadline⟩, hpast, hopen⟩
  · intro h
    rcases h with
      ⟨hseq, ⟨claimSeq', claim', hseq', hclaim', hnode, hepisode, hdeadline⟩, hpast, hunmarked⟩
    rw [hseq] at hseq'
    cases hseq'
    rw [hclaim] at hclaim'
    cases hclaim'
    have hopen : ¬ projection.exceptionMarked.contains claim.stageEnteredAt = true := by
      rw [ExtTreeSet.contains_iff_mem, hepisode]
      exact hunmarked
    rw [if_neg hopen, lapsed_eq_some.mpr (And.intro hdeadline hpast), Option.map_some, hepisode,
      hnode, ← hseq]

theorem mem_overdueAt : stage ∈ overdueAt projection asOf <->
    (WaitsUnanswered projection stage ∨ AwaitsClearance projection stage) ∧
      stage.deadline <= asOf ∧ ¬ stage.episodeSeq ∈ projection.exceptionMarked := by
  unfold overdueAt
  rw [List.mem_insertionSort, List.mem_append, List.mem_filterMap, List.mem_filterMap, or_and_right]
  constructor
  · intro h
    rcases h with ⟨⟨node, wait⟩, hmem, hstage⟩ | ⟨⟨claimSeq, claim⟩, hmem, hstage⟩
    · have hwait := ExtTreeMap.mem_toList_iff_getElem?_eq_some.mp hmem
      exact Or.inl ((overdueWait_eq_some hwait).mp hstage).right
    · have hclaim := ExtTreeMap.mem_toList_iff_getElem?_eq_some.mp hmem
      exact Or.inr ((overdueClaim_eq_some hclaim).mp hstage).right
  · intro h
    rcases h with hwaits | hclears
    · rcases hwaits.left with ⟨_, wait, hwait, _⟩
      exact Or.inl ⟨(stage.node, wait), ExtTreeMap.mem_toList_iff_getElem?_eq_some.mpr hwait,
        (overdueWait_eq_some hwait).mpr (And.intro rfl hwaits)⟩
    · rcases hclears.left with ⟨claimSeq, claim, hseq, hclaim, _⟩
      exact Or.inr ⟨(claimSeq, claim), ExtTreeMap.mem_toList_iff_getElem?_eq_some.mpr hclaim,
        (overdueClaim_eq_some hclaim).mpr (And.intro hseq hclears)⟩

end Report

/-!
## Where the stages come from
-/

inductive ClaimStep (event : EventEnvelope) (projection : ExecutionProjection) (claimSeq : Nat)
    (claim : OpenClaim) : Prop where
  | filed (payload : CompletionClaimed) (hkind : event.kind = .completionClaimed payload)
      (hseq : claimSeq = event.sequence) (hstage : claim.stageEnteredAt = event.sequence)
  | kept (hold : projection.openClaims[claimSeq]? = some claim)
  | stopped (old : OpenClaim) (hold : projection.openClaims[claimSeq]? = some old)
      (hnode : claim.node = old.node) (hstage : claim.stageEnteredAt = old.stageEnteredAt)
      (hdeadline : claim.deadline = none)
  | redriven (payload : DlqRedrive) (old : OpenClaim) (hkind : event.kind = .dlqRedrive payload)
      (hold : projection.openClaims[claimSeq]? = some old)
      (hnode : old.node = payload.nodeId.text) (hsame : claim.node = old.node)
      (hstage : claim.stageEnteredAt = event.sequence)
      (hdeadline : claim.deadline = clearanceDeadline projection event payload.nodeId.text)

def EntersStage (event : EventEnvelope) (claimSeq : Nat) (claim : OpenClaim) : Prop :=
  claim.stageEnteredAt = event.sequence ∧
    ((exists payload, event.kind = .completionClaimed payload ∧ claimSeq = event.sequence) ∨
      exists payload, event.kind = .dlqRedrive payload ∧ claim.node = payload.nodeId.text)

structure StagesFrom (events : List EventEnvelope) (projection : ExecutionProjection) : Prop where
  waits : forall {node : String} {wait : OpenWait}, projection.openWaits[node]? = some wait ->
    exists event, event ∈ events ∧ wait.atSequence = event.sequence ∧
      event.kind.parks node = true
  claims : forall {claimSeq : Nat} {claim : OpenClaim},
    projection.openClaims[claimSeq]? = some claim ->
      exists event, event ∈ events ∧ EntersStage event claimSeq claim

section Origins

variable {env : Environment} {events : List EventEnvelope} {event : EventEnvelope}
  {st st' : FoldState} {node : String} {claimSeq : Nat} {claim : OpenClaim}

theorem openWaits_origin (h : applyProjectionEvent env event st = .ok () st') {wait : OpenWait}
    (hwait : st'.projection.openWaits[node]? = some wait) :
    st.projection.openWaits[node]? = some wait ∨
      wait.atSequence = event.sequence ∧ event.kind.parks node = true := by
  have herased : forall {key : String},
      (st.projection.openWaits.erase key)[node]? = some wait ->
        st.projection.openWaits[node]? = some wait := by
    intro key hget
    rw [ExtTreeMap.getElem?_erase] at hget
    split at hget
    · cases hget
    · exact hget
  have hopened : forall {key : String} {opened : OpenWait},
      opened.atSequence = event.sequence -> (key = node -> event.kind.parks node = true) ->
      (st.projection.openWaits.insert key opened)[node]? = some wait ->
        st.projection.openWaits[node]? = some wait ∨
          wait.atSequence = event.sequence ∧ event.kind.parks node = true := by
    intro key opened hseq hparks hget
    rcases Decidable.em (key = node) with rfl | hother
    · rw [ExtTreeMap.getElem?_insert_self] at hget
      cases hget
      exact Or.inr (And.intro hseq (hparks rfl))
    · rw [getElem?_insert_of_ne hother] at hget
      exact Or.inl hget
  rw [openWaits_of_accepted h] at hwait
  unfold lifecycleAfter at hwait
  cases hkind : event.kind <;> simp only [hkind] at hwait
  case nodeOutcomeRecorded payload =>
    unfold outcomeEffect at hwait
    dsimp only at hwait
    split at hwait
    · rename_i hwaiting
      have hparks : payload.nodeId.text = node -> event.kind.parks node = true := by
        intro hnode
        rw [hkind]
        exact Bool.and_eq_true_iff.mpr
          (And.intro (decide_eq_true hnode) (decide_eq_true hwaiting))
      exact hkind ▸ hopened rfl hparks hwait
    · exact Or.inl (herased hwait)
  case completionClaimed payload =>
    unfold claimEffect at hwait
    dsimp only at hwait
    split at hwait
    · exact Or.inl hwait
    · exact Or.inl hwait
  case completionCleared payload =>
    unfold clearanceEffect at hwait
    dsimp only at hwait
    split at hwait
    · exact Or.inl hwait
    · split at hwait
      · exact Or.inl hwait
      · exact Or.inl (herased hwait)
  case gateVerdict payload =>
    unfold verdictEffect at hwait
    dsimp only at hwait
    split at hwait
    · exact Or.inl hwait
    · exact Or.inl hwait
  case dlqRouted payload =>
    exact Or.inl (herased hwait)
  case dlqReturned payload =>
    have hparks : payload.nodeId.text = node -> event.kind.parks node = true := by
      intro hnode
      rw [hkind]
      exact decide_eq_true hnode
    exact hkind ▸ hopened rfl hparks hwait
  all_goals exact Or.inl hwait

theorem claimStep_of_accepted (h : applyProjectionEvent env event st = .ok () st')
    (hclaim : st'.projection.openClaims[claimSeq]? = some claim) :
    ClaimStep event st.projection claimSeq claim := by
  have herased : forall {key : Nat},
      (st.projection.openClaims.erase key)[claimSeq]? = some claim ->
        ClaimStep event st.projection claimSeq claim := by
    intro key hget
    rw [ExtTreeMap.getElem?_erase] at hget
    split at hget
    · cases hget
    · exact .kept hget
  rw [openClaims_of_accepted h] at hclaim
  unfold lifecycleAfter at hclaim
  cases hkind : event.kind <;> simp only [hkind] at hclaim
  case completionClaimed payload =>
    unfold claimEffect at hclaim
    dsimp only at hclaim
    split at hclaim
    · rcases Decidable.em (event.sequence = claimSeq) with rfl | hother
      · rw [ExtTreeMap.getElem?_insert_self] at hclaim
        cases hclaim
        exact .filed payload hkind rfl rfl
      · rw [getElem?_insert_of_ne hother] at hclaim
        exact .kept hclaim
    · exact .kept hclaim
  case completionCleared payload =>
    unfold clearanceEffect at hclaim
    dsimp only at hclaim
    split at hclaim
    · exact herased hclaim
    · split at hclaim
      · exact herased hclaim
      · exact herased hclaim
  case completionRejected payload =>
    exact herased hclaim
  case gateVerdict payload =>
    unfold verdictEffect at hclaim
    dsimp only at hclaim
    split at hclaim
    · exact .kept hclaim
    · exact .kept hclaim
  case dlqRouted payload =>
    rw [ExtTreeMap.getElem?_map] at hclaim
    rcases Option.map_eq_some_iff.mp hclaim with ⟨old, hold, hstop⟩
    unfold stopClock at hstop
    split at hstop
    · cases hstop
      exact .stopped old hold rfl rfl rfl
    · cases hstop
      exact .kept hold
  case dlqRedrive payload =>
    rw [ExtTreeMap.getElem?_map] at hclaim
    rcases Option.map_eq_some_iff.mp hclaim with ⟨old, hold, hrebase⟩
    unfold rebase at hrebase
    split at hrebase
    · rename_i hnode
      cases hrebase
      exact .redriven payload old hkind hold hnode rfl rfl rfl
    · cases hrebase
      exact .kept hold
  all_goals exact .kept hclaim

theorem stagesFrom_of_fold (hfold : foldHistory env events = some st) :
    StagesFrom events st.projection := by
  induction events using List.reverseRecOn generalizing st with
  | nil =>
      cases hfold
      constructor
      · intro node wait hwait
        have hnone : FoldState.initial.projection.openWaits[node]? = none :=
          ExtTreeMap.getElem?_empty
        rw [hnone] at hwait
        cases hwait
      · intro claimSeq claim hclaim
        have hnone : FoldState.initial.projection.openClaims[claimSeq]? = none :=
          ExtTreeMap.getElem?_empty
        rw [hnone] at hclaim
        cases hclaim
  | append_singleton earlier event ih =>
      rcases foldHistory_concat.mp hfold with ⟨before, hbefore, hstep⟩
      have hlast : event ∈ earlier ++ [event] := List.mem_append_right _ List.mem_cons_self
      have hfrom := ih hbefore
      constructor
      · intro node wait hwait
        rcases openWaits_origin hstep hwait with hold | hnew
        · rcases hfrom.waits hold with ⟨parking, hmem, hparking⟩
          exact ⟨parking, List.mem_append_left _ hmem, hparking⟩
        · exact ⟨event, hlast, hnew⟩
      · intro claimSeq claim hclaim
        cases claimStep_of_accepted hstep hclaim with
        | filed payload hkind hseq hstage =>
            exact ⟨event, hlast, hstage, Or.inl ⟨payload, hkind, hseq⟩⟩
        | kept hold =>
            rcases hfrom.claims hold with ⟨entering, hmem, henters⟩
            exact ⟨entering, List.mem_append_left _ hmem, henters⟩
        | stopped old hold hnode hstage _ =>
            rcases hfrom.claims hold with ⟨entering, hmem, hentered, hhow⟩
            refine ⟨entering, List.mem_append_left _ hmem, hstage.trans hentered, ?_⟩
            rw [hnode]
            exact hhow
        | redriven payload old hkind hold hnode hsame hstage _ =>
            exact ⟨event, hlast, hstage, Or.inr ⟨payload, hkind, hsame.trans hnode⟩⟩

end Origins

/-!
## Episodes apart
-/

def StagesApart (projection : ExecutionProjection) : Prop :=
  forall (first second : Nat) (claim other : OpenClaim),
    projection.openClaims[first]? = some claim -> projection.openClaims[second]? = some other ->
      claim.stageEnteredAt = other.stageEnteredAt -> first ≠ second ->
        claim.deadline = none ∨ other.deadline = none ∨
          claim.stageEnteredAt ∈ projection.exceptionMarked

/--
A redrive that enters one stage only: its node has one open claim, or none of its
claims will ever be reported in the stage, for want of a deadline or because the
sequence of the redrive was marked ahead of it.
-/
def RedriveApart (projection : ExecutionProjection) (event : EventEnvelope) : Prop :=
  forall payload, event.kind = .dlqRedrive payload ->
    clearanceDeadline projection event payload.nodeId.text = none ∨
      event.sequence ∈ projection.exceptionMarked ∨
        forall (first second : Nat) (claim other : OpenClaim),
          projection.openClaims[first]? = some claim ->
            projection.openClaims[second]? = some other ->
              claim.node = payload.nodeId.text -> other.node = payload.nodeId.text ->
                first = second

section Apart

variable {env : Environment} {events : List EventEnvelope} {event : EventEnvelope}
  {st st' : FoldState} {asOf : PersistedTimestamp}

theorem stagesApart_initial : StagesApart FoldState.initial.projection := by
  intro first second claim other hclaim
  have hnone : FoldState.initial.projection.openClaims[first]? = none := ExtTreeMap.getElem?_empty
  rw [hnone] at hclaim
  cases hclaim

theorem exceptionMarked_kept (h : applyProjectionEvent env event st = .ok () st') {episode : Nat}
    (hmarked : episode ∈ st.projection.exceptionMarked) :
    episode ∈ st'.projection.exceptionMarked := by
  rw [exceptionMarked_of_accepted h]
  split
  · exact ExtTreeSet.mem_insert.mpr (Or.inr hmarked)
  · exact hmarked

theorem StagesFrom.stage_lt (h : StagesFrom events st.projection)
    (hnumbered : Numbered 0 (events ++ [event])) {claimSeq : Nat} {claim : OpenClaim}
    (hclaim : st.projection.openClaims[claimSeq]? = some claim) :
    claim.stageEnteredAt < event.sequence := by
  rcases h.claims hclaim with ⟨entering, hmem, hstage, _⟩
  rcases numbered_append.mp hnumbered with ⟨hearlier, hlast, _⟩
  have hle := (hearlier.sequence_le hmem).right
  omega

theorem ClaimStep.stage {projection : ExecutionProjection} {claimSeq : Nat} {claim : OpenClaim}
    (h : ClaimStep event projection claimSeq claim) :
    claim.stageEnteredAt = event.sequence ∨
      exists old, projection.openClaims[claimSeq]? = some old ∧
        claim.stageEnteredAt = old.stageEnteredAt ∧
        (old.deadline = none -> claim.deadline = none) := by
  cases h with
  | filed payload hkind hseq hstage => exact Or.inl hstage
  | kept hold => exact Or.inr ⟨claim, hold, rfl, fun hnone => hnone⟩
  | stopped old hold hnode hstage hdeadline => exact Or.inr ⟨old, hold, hstage, fun _ => hdeadline⟩
  | redriven payload old hkind hold hnode hsame hstage hdeadline => exact Or.inl hstage

theorem ClaimStep.entered {claimSeq : Nat} {claim : OpenClaim}
    (h : ClaimStep event st.projection claimSeq claim)
    (hlt : forall {claimSeq : Nat} {claim : OpenClaim},
      st.projection.openClaims[claimSeq]? = some claim -> claim.stageEnteredAt < event.sequence)
    (hstage : claim.stageEnteredAt = event.sequence) :
    (exists payload, event.kind = .completionClaimed payload ∧ claimSeq = event.sequence) ∨
      exists payload old, event.kind = .dlqRedrive payload ∧
        st.projection.openClaims[claimSeq]? = some old ∧ old.node = payload.nodeId.text ∧
        claim.deadline = clearanceDeadline st.projection event payload.nodeId.text := by
  cases h with
  | filed payload hkind hseq _ => exact Or.inl ⟨payload, hkind, hseq⟩
  | kept hold => exact absurd hstage (Nat.ne_of_lt (hlt hold))
  | stopped old hold _ hsame _ => exact absurd (hsame.symm.trans hstage) (Nat.ne_of_lt (hlt hold))
  | redriven payload old hkind hold hnode _ _ hdeadline =>
      exact Or.inr ⟨payload, old, hkind, hold, hnode, hdeadline⟩

theorem stagesApart_of_accepted (h : applyProjectionEvent env event st = .ok () st')
    (hfrom : StagesFrom events st.projection) (hnumbered : Numbered 0 (events ++ [event]))
    (hapart : StagesApart st.projection) (hredrive : RedriveApart st.projection event) :
    StagesApart st'.projection := by
  intro first second claim other hclaim hother hstage hne
  have hlt : forall {claimSeq : Nat} {claim : OpenClaim},
      st.projection.openClaims[claimSeq]? = some claim ->
        claim.stageEnteredAt < event.sequence :=
    hfrom.stage_lt hnumbered
  have hstep := claimStep_of_accepted h hclaim
  have hstep' := claimStep_of_accepted h hother
  rcases hstep.stage with hnew | ⟨old, hold, hsame, hkept⟩
  · rcases hstep.entered hlt hnew with
      ⟨payload, hkind, hseq⟩ | ⟨payload, old, hkind, hold, hnode, hdue⟩
    · rcases hstep'.entered hlt (hstage.symm.trans hnew) with
        ⟨_, _, hseq'⟩ | ⟨payload', _, hkind', _⟩
      · exact absurd (hseq.trans hseq'.symm) hne
      · rw [hkind] at hkind'
        cases hkind'
    · rcases hstep'.entered hlt (hstage.symm.trans hnew) with
        ⟨payload', hkind', _⟩ | ⟨payload', old', hkind', hold', hnode', hdue'⟩
      · rw [hkind] at hkind'
        cases hkind'
      · rw [hkind] at hkind'
        cases hkind'
        rcases hredrive payload hkind with hnone | hmarked | hone
        · exact Or.inl (hdue.trans hnone)
        · exact Or.inr (Or.inr (hnew ▸ exceptionMarked_kept h hmarked))
        · exact absurd (hone first second old old' hold hold' hnode hnode') hne
  · rcases hstep'.stage with hnew | ⟨old', hold', hsame', hkept'⟩
    · exact absurd (hsame.symm.trans (hstage.trans hnew)) (Nat.ne_of_lt (hlt hold))
    · rcases hapart first second old old' hold hold' (hsame.symm.trans (hstage.trans hsame')) hne
        with hnone | hnone | hmarked
      · exact Or.inl (hkept hnone)
      · exact Or.inr (Or.inl (hkept' hnone))
      · exact Or.inr (Or.inr (hsame ▸ exceptionMarked_kept h hmarked))

theorem parks_node {kind : EventKind} {node other : String} (h : kind.parks node = true)
    (hother : kind.parks other = true) : node = other := by
  unfold EventKind.parks at h hother
  split at h
  · rw [Bool.and_eq_true, decide_eq_true_iff] at h hother
    exact h.left.symm.trans hother.left
  · rw [decide_eq_true_iff] at h hother
    exact h.symm.trans hother
  · cases h

theorem WaitsUnanswered.parked {stage : OverdueStage}
    (h : WaitsUnanswered st.projection stage) (hfrom : StagesFrom events st.projection) :
    exists event, event ∈ events ∧ stage.episodeSeq = event.sequence ∧
      event.kind.parks stage.node = true := by
  rcases h with ⟨_, wait, hwait, hepisode, _⟩
  rcases hfrom.waits hwait with ⟨parking, hmem, hseq, hparks⟩
  exact ⟨parking, hmem, hepisode.symm.trans hseq, hparks⟩

theorem WaitsUnanswered.episode_ne {stage other : OverdueStage}
    (h : WaitsUnanswered st.projection stage) (hother : AwaitsClearance st.projection other)
    (hfrom : StagesFrom events st.projection) (hnumbered : Numbered 0 events) :
    stage.episodeSeq ≠ other.episodeSeq := by
  intro hsame
  rcases h.parked hfrom with ⟨parking, hmem, hseq, hparks⟩
  rcases hother with ⟨claimSeq, claim, _, hclaim, _, hepisode, _⟩
  rcases hfrom.claims hclaim with ⟨entering, hmem', hstage, hhow⟩
  have heq : parking = entering :=
    hnumbered.eq_of_sequence hmem hmem' (by rw [← hseq, hsame, ← hepisode, hstage])
  rw [heq] at hparks
  rcases hhow with ⟨payload, hkind, _⟩ | ⟨payload, hkind, _⟩
  · rw [hkind] at hparks
    cases hparks
  · rw [hkind] at hparks
    cases hparks

theorem overdueAt_distinct (hfrom : StagesFrom events st.projection)
    (hnumbered : Numbered 0 events) (hapart : StagesApart st.projection) :
    ((overdueAt st.projection asOf).map OverdueStage.episodeSeq).Nodup := by
  unfold overdueAt
  rw [((List.perm_insertionSort _ _).map _).nodup_iff, List.map_append, List.nodup_append]
  refine And.intro ?_ (And.intro ?_ ?_)
  · rw [List.nodup_iff_pairwise_ne, List.pairwise_map, List.pairwise_filterMap]
    refine ExtTreeMap.distinct_keys_toList.imp_of_mem ?_
    intro entry entry' hmem hmem' hkeys stage hstage stage' hstage' hsame
    rcases (overdueWait_eq_some (ExtTreeMap.mem_toList_iff_getElem?_eq_some.mp hmem)).mp hstage with
      ⟨hnode, hwaits, _⟩
    rcases (overdueWait_eq_some (ExtTreeMap.mem_toList_iff_getElem?_eq_some.mp hmem')).mp
      hstage' with ⟨hnode', hwaits', _⟩
    rcases hwaits.parked hfrom with ⟨parking, hin, hseq, hparks⟩
    rcases hwaits'.parked hfrom with ⟨parking', hin', hseq', hparks'⟩
    have heq : parking = parking' :=
      hnumbered.eq_of_sequence hin hin' (by rw [← hseq, hsame, hseq'])
    rw [hnode] at hparks
    rw [← heq, hnode'] at hparks'
    exact hkeys (Std.compare_eq_iff_eq.mpr (parks_node hparks hparks'))
  · rw [List.nodup_iff_pairwise_ne, List.pairwise_map, List.pairwise_filterMap]
    refine ExtTreeMap.distinct_keys_toList.imp_of_mem ?_
    intro entry entry' hmem hmem' hkeys stage hstage stage' hstage' hsame
    have hclaim := ExtTreeMap.mem_toList_iff_getElem?_eq_some.mp hmem
    have hclaim' := ExtTreeMap.mem_toList_iff_getElem?_eq_some.mp hmem'
    rcases (overdueClaim_eq_some hclaim).mp hstage with ⟨hseq, hclears, _, hunmarked⟩
    rcases (overdueClaim_eq_some hclaim').mp hstage' with ⟨hseq', hclears', _, _⟩
    rcases hclears with ⟨first, claim, hfirst, hopen, _, hepisode, hdeadline⟩
    rcases hclears' with ⟨second, other, hsecond, hopen', _, hepisode', hdeadline'⟩
    have hne : first ≠ second := by
      intro heq
      rw [hseq] at hfirst
      rw [hseq'] at hsecond
      rw [Option.some.inj hfirst, Option.some.inj hsecond] at hkeys
      exact hkeys (Std.compare_eq_iff_eq.mpr heq)
    rcases hapart first second claim other hopen hopen'
      (by rw [hepisode, hsame, hepisode']) hne with hnone | hnone | hmarked
    · rw [hdeadline] at hnone
      cases hnone
    · rw [hdeadline'] at hnone
      cases hnone
    · exact hunmarked (hepisode ▸ hmarked)
  · intro episode hwaits episode' hclears
    rcases List.mem_map.mp hwaits with ⟨stage, hstage, rfl⟩
    rcases List.mem_map.mp hclears with ⟨other, hother, rfl⟩
    rcases List.mem_filterMap.mp hstage with ⟨entry, hmem, hentry⟩
    rcases List.mem_filterMap.mp hother with ⟨entry', hmem', hentry'⟩
    have hwait := (overdueWait_eq_some (ExtTreeMap.mem_toList_iff_getElem?_eq_some.mp hmem)).mp
      hentry
    have hclear := (overdueClaim_eq_some
      (ExtTreeMap.mem_toList_iff_getElem?_eq_some.mp hmem')).mp hentry'
    exact hwait.right.left.episode_ne hclear.right.left hfrom hnumbered

/-- A redrive of several claims is reported under one episode once its deadline has passed. -/
theorem overdue_shares_after_redrive (h : applyProjectionEvent env event st = .ok () st')
    (hredrive : ¬ RedriveApart st.projection event) :
    exists asOf, ¬ OverdueExact st'.projection asOf := by
  unfold RedriveApart at hredrive
  push Not at hredrive
  rcases hredrive with
    ⟨payload, hkind, hdeadline, hunmarked, first, second, claim, other, hclaim, hother, hnode,
      hnode', hne⟩
  rcases Option.ne_none_iff_exists'.mp hdeadline with ⟨deadline, hdeadline⟩
  have hmarks : ¬ event.sequence ∈ st'.projection.exceptionMarked := by
    rw [exceptionMarked_of_accepted h, hkind]
    exact hunmarked
  have hrebased : forall {claimSeq : Nat} {claim : OpenClaim},
      st.projection.openClaims[claimSeq]? = some claim -> claim.node = payload.nodeId.text ->
        { node := claim.node
          episodeSeq := event.sequence
          deadline := deadline
          claimSeq := some claimSeq } ∈ overdueAt st'.projection deadline := by
    intro claimSeq claim hclaim hnode
    refine mem_overdueAt.mpr (And.intro (Or.inr ?_) (And.intro (Int.le_refl deadline) hmarks))
    refine ⟨claimSeq, { claim with stageEnteredAt := event.sequence, deadline := some deadline },
      rfl, ?_, rfl, rfl, rfl⟩
    rw [openClaims_of_accepted h]
    unfold lifecycleAfter
    simp only [hkind]
    rw [ExtTreeMap.getElem?_map]
    show (st.projection.openClaims[claimSeq]?).map _ = _
    rw [hclaim, Option.map_some, hdeadline]
    exact congrArg some (if_pos hnode)
  refine ⟨deadline, fun hexact => hne ?_⟩
  have hsame := List.inj_on_of_nodup_map hexact.distinct (hrebased hclaim hnode)
    (hrebased hother hnode') rfl
  exact Option.some.inj (congrArg OverdueStage.claimSeq hsame)

end Apart

/-!
## Reachable projections
-/

/-- The report is exact at every instant, whatever prefix of the history has been folded. -/
def OverdueExactThroughout (env : Environment) (events : List EventEnvelope) : Prop :=
  forall (before later : List EventEnvelope) (st : FoldState), events = before ++ later ->
    foldHistory env before = some st -> forall asOf, OverdueExact st.projection asOf

def RedrivesApart (env : Environment) (events : List EventEnvelope) : Prop :=
  forall (before later : List EventEnvelope) (event : EventEnvelope) (st : FoldState),
    events = before ++ event :: later -> foldHistory env before = some st ->
      RedriveApart st.projection event

section Reachable

variable {env : Environment} {scope : RepositoryScope} {streamId : String}
  {events : List EventEnvelope} {st : FoldState} {projection : ExecutionProjection}

theorem stagesApart_of_fold (hfold : foldHistory env events = some st)
    (hnumbered : Numbered 0 events) (hapart : RedrivesApart env events) :
    StagesApart st.projection := by
  induction events using List.reverseRecOn generalizing st with
  | nil =>
      cases hfold
      exact stagesApart_initial
  | append_singleton earlier event ih =>
      rcases foldHistory_concat.mp hfold with ⟨before, hbefore, hstep⟩
      refine stagesApart_of_accepted hstep (stagesFrom_of_fold hbefore) hnumbered ?_
        (hapart earlier [] event before rfl hbefore)
      refine ih hbefore (numbered_append.mp hnumbered).left ?_
      intro first later other st hsplit hfirst
      refine hapart first (later ++ [event]) other st ?_ hfirst
      rw [hsplit, List.append_assoc, List.cons_append]

/-- A history that replays is reported exactly all along when its redrives are apart. -/
theorem overdue_at_exact_iff (h : replay env scope streamId events = .ok projection) :
    OverdueExactThroughout env events <-> RedrivesApart env events := by
  rcases replay_eq_ok_iff.mp h with ⟨hreadable, folded, hfold, _⟩
  have hnumbered := hreadable.presentable.numbered
  constructor
  · intro hexact before later event st hsplit hbefore
    by_contra hshared
    have hrest : foldHistory env (before ++ event :: later) = some folded := hsplit ▸ hfold
    rcases foldHistory_append.mp hrest with ⟨st', hst', hrun⟩
    rw [hbefore] at hst'
    cases hst'
    rcases run_cons_eq_some.mp hrun with ⟨next, hnext, _⟩
    have hstep := accept_eq_some.mp hnext
    rcases overdue_shares_after_redrive hstep hshared with ⟨asOf, hinexact⟩
    refine hinexact (hexact (before ++ [event]) later next ?_ ?_ asOf)
    · rw [hsplit, List.append_assoc, List.cons_append, List.nil_append]
    · exact foldHistory_concat.mpr ⟨st, hbefore, hstep⟩
  · intro hapart before later st hsplit hfold asOf
    have hbegins : Numbered 0 before := (numbered_append.mp (hsplit ▸ hnumbered)).left
    refine { exact := fun _ => mem_overdueAt, distinct := ?_ }
    refine overdueAt_distinct (stagesFrom_of_fold hfold) hbegins
      (stagesApart_of_fold hfold hbegins ?_)
    intro first rest other st hinner hfirst
    refine hapart first (rest ++ later) other st ?_ hfirst
    rw [hsplit, hinner, List.append_assoc, List.cons_append]

end Reachable

namespace Sample

def dueParked : List NewEvent :=
  event "form" (.executionFormDeclared
    { executionId := executionId
      nodeCustomsBudgets :=
        (∅ : ExtTreeMap String CustomsBudgets).insert "node"
          { waitWithinSeconds := 1
            clearanceWithinSeconds := 1
            dlqWithinSeconds := none }
      body := "" }) :: parked

def redriven (key : String) : NewEvent :=
  event key (.dlqRedrive
    { executionId := executionId
      nodeId := id "node"
      dlqEpisodeSequence := 9 })

/-- Two claims answer one wait, and their node is redriven. -/
def claimedTwice : List EventEnvelope :=
  history (dueParked ++ [claimed "first" 6, claimed "second" 6, redriven "redrive"])

def claimedOnce : List EventEnvelope :=
  history (dueParked ++ [claimed "first" 6, redriven "redrive"])

end Sample

theorem overdue_at_exact_iff_of_one_claim : exists projection,
    replay Sample.env Sample.scope Sample.streamId.text Sample.claimedOnce = .ok projection ∧
      (OverdueExactThroughout Sample.env Sample.claimedOnce <->
        RedrivesApart Sample.env Sample.claimedOnce) := by
  have hreadable : Readable Sample.env Sample.scope Sample.streamId.text Sample.claimedOnce :=
    Sample.history_readable (by decide) (by decide) (by decide) (by decide)
  rcases hreadable.replay_isOk (by decide) with ⟨projection, hreplay⟩
  exact ⟨projection, hreplay, overdue_at_exact_iff hreplay⟩

/-- Both claims are reported under the sequence of the redrive. -/
theorem overdue_at_shares_an_episode :
    (exists projection,
      replay Sample.env Sample.scope Sample.streamId.text Sample.claimedTwice =
        .ok projection) ∧
      ¬ OverdueExactThroughout Sample.env Sample.claimedTwice := by
  have hreadable : Readable Sample.env Sample.scope Sample.streamId.text Sample.claimedTwice :=
    Sample.history_readable (by decide) (by decide) (by decide) (by decide)
  refine And.intro (hreadable.replay_isOk (by decide)) fun hexact => ?_
  have hfolds : (foldHistory Sample.env Sample.claimedTwice).any (fun st =>
      decide ((overdueAt st.projection 2000000000).map OverdueStage.episodeSeq = [9, 9])) =
        true := by
    decide
  rcases (Option.any_eq_true _ _).mp hfolds with ⟨st, hfold, hepisodes⟩
  have hdistinct :=
    (hexact Sample.claimedTwice [] st (List.append_nil _).symm hfold 2000000000).distinct
  rw [of_decide_eq_true hepisodes] at hdistinct
  exact absurd hdistinct (by decide)

end GraphHelm
