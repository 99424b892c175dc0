import GraphHelm.Execution.Transition
import GraphHelm.Projection.History

/-!
# Customs over whole histories

A claim is testimony about the wait that was open when it was filed, and a
clearance releases the node the claim names.  This module follows a claim from
its filing to its clearance: which waits can be open meanwhile, and which node
states a release can overwrite.
-/

namespace GraphHelm

open Std

/-!
## The fields a customs law is about
-/

section Fields

variable {env : Environment} {event : EventEnvelope} {st st' : FoldState}

theorem nodeStates_of_accepted (h : applyProjectionEvent env event st = .ok () st') :
    st'.projection.nodeStates = (lifecycleAfter env event st.projection).nodeStates :=
  congrArg Lifecycle.nodeStates (lifecycle_of_accepted h).right

theorem openWaits_of_accepted (h : applyProjectionEvent env event st = .ok () st') :
    st'.projection.openWaits = (lifecycleAfter env event st.projection).openWaits :=
  congrArg Lifecycle.openWaits (lifecycle_of_accepted h).right

theorem openClaims_of_accepted (h : applyProjectionEvent env event st = .ok () st') :
    st'.projection.openClaims = (lifecycleAfter env event st.projection).openClaims :=
  congrArg Lifecycle.openClaims (lifecycle_of_accepted h).right

end Fields

/-!
## Releases
-/

def EventKind.isCustoms : EventKind -> Bool
  | .completionClaimed _ | .completionCleared _ | .completionRejected _
  | .completionRefused _ | .dlqRouted _ | .dlqReturned _ | .dlqRedrive _ => true
  | _ => false

/-- The node `event` releases: it clears an open claim and the verdict is favourable. -/
def releasedNode (projection : ExecutionProjection) (event : EventEnvelope) :
    Option String :=
  match event.kind with
  | .completionCleared payload =>
      match projection.openClaims[payload.claimSeq]? with
      | some claim =>
          if clearanceVerdict projection.clearanceRegistry claim payload.verifier = .cleared then
            some claim.node
          else
            none
      | none => none
  | _ => none

variable {payload : CompletionCleared} {projection : ExecutionProjection} {claim : OpenClaim}

theorem clearanceEffect_released (env : Environment) {event : EventEnvelope}
    (projection : ExecutionProjection) (hkind : event.kind = .completionCleared payload) :
    (lifecycleAfter env event projection).nodeStates =
        (match releasedNode projection event with
          | some node => projection.nodeStates.insert node .succeeded
          | none => projection.nodeStates) ∧
      (lifecycleAfter env event projection).openWaits =
        (match releasedNode projection event with
          | some node => projection.openWaits.erase node
          | none => projection.openWaits) := by
  unfold lifecycleAfter releasedNode
  simp only [hkind]
  unfold clearanceEffect
  cases hclaim : projection.openClaims[payload.claimSeq]? with
  | none =>
      exact And.intro rfl rfl
  | some claim =>
      cases hverdict : clearanceVerdict projection.clearanceRegistry claim payload.verifier with
      | cleared =>
          simp only [hverdict, if_true]
          exact And.intro rfl rfl
      | refused reason =>
          simp only [hverdict, reduceCtorEq, if_false]
          exact And.intro rfl rfl

theorem nodeStates_of_customs {env : Environment} {event : EventEnvelope}
    {st st' : FoldState} (h : applyProjectionEvent env event st = .ok () st')
    (hcustoms : event.kind.isCustoms = true) :
    st'.projection.nodeStates =
      match releasedNode st.projection event with
      | some node => st.projection.nodeStates.insert node .succeeded
      | none => st.projection.nodeStates := by
  rw [nodeStates_of_accepted h]
  cases hkind : event.kind <;> rw [hkind] at hcustoms <;> first
    | exact absurd hcustoms Bool.false_ne_true
    | skip
  case completionCleared payload =>
    exact (clearanceEffect_released env st.projection hkind).left
  case completionClaimed payload =>
    unfold lifecycleAfter releasedNode
    simp only [hkind]
    unfold claimEffect
    dsimp only
    split <;> rfl
  all_goals
    unfold lifecycleAfter releasedNode
    simp only [hkind]
    rfl

/-!
## Owner decisions and releases
-/

def isDecided (state : NodeState) : Bool :=
  isTerminal state && decide (state ≠ .succeeded)

def DecisionsStand (env : Environment) (events : List EventEnvelope) : Prop :=
  forall (before middle later : List EventEnvelope) (event : EventEnvelope)
      (decided st st' : FoldState) (node : String) (state : NodeState),
    events = before ++ middle ++ event :: later ->
    foldHistory env before = some decided ->
    decided.projection.nodeStates[node]? = some state ->
    isDecided state = true ->
    foldHistory env (before ++ middle) = some st ->
    applyProjectionEvent env event st = .ok () st' ->
    event.kind.isCustoms = true ->
    st'.projection.nodeStates[node]? = st.projection.nodeStates[node]?

def NoReleaseAfterDecision (env : Environment) (events : List EventEnvelope) : Prop :=
  forall (before middle later : List EventEnvelope) (event : EventEnvelope)
      (decided st st' : FoldState) (node : String) (state : NodeState),
    events = before ++ middle ++ event :: later ->
    foldHistory env before = some decided ->
    decided.projection.nodeStates[node]? = some state ->
    isDecided state = true ->
    foldHistory env (before ++ middle) = some st ->
    applyProjectionEvent env event st = .ok () st' ->
    releasedNode st.projection event = some node ->
    st.projection.nodeStates[node]? = some .succeeded

theorem isCustoms_of_released {event : EventEnvelope} {node : String}
    (h : releasedNode projection event = some node) :
    event.kind.isCustoms = true := by
  unfold releasedNode at h
  cases hkind : event.kind <;> rw [hkind] at h <;> first
    | rfl
    | cases h

/-- Decisions stand exactly in the histories that hold no late release. -/
theorem decisionsStand_iff (env : Environment) (events : List EventEnvelope) :
    DecisionsStand env events <-> NoReleaseAfterDecision env events := by
  constructor
  · intro hstand before middle later event decided st st' node state hevents hbefore hstate
      hdecided hst hstep hreleased
    have hcustoms := isCustoms_of_released hreleased
    have hsame := hstand before middle later event decided st st' node state hevents hbefore
      hstate hdecided hst hstep hcustoms
    rw [nodeStates_of_customs hstep hcustoms, hreleased] at hsame
    rw [ExtTreeMap.getElem?_insert_self] at hsame
    exact hsame.symm
  · intro hnone before middle later event decided st st' node state hevents hbefore hstate
      hdecided hst hstep hcustoms
    rw [nodeStates_of_customs hstep hcustoms]
    cases hreleased : releasedNode st.projection event with
    | none =>
        rfl
    | some released =>
        by_cases hnode : released = node
        · subst hnode
          rw [ExtTreeMap.getElem?_insert_self]
          exact (hnone before middle later event decided st st' released state hevents hbefore
            hstate hdecided hst hstep hreleased).symm
        · exact OrderedMap.getElem?_insert_of_ne hnode

namespace Sample

def claimed (key : String) (waitSeq : Nat) : NewEvent :=
  event key (.completionClaimed
    { executionId := executionId
      node := id "node"
      completesWaitSeq := waitSeq
      evidence := []
      attestation := { asserter := id "claimant", mode := .machineVerified } })

def cleared (key : String) (claimSeq : Nat) : NewEvent :=
  event key (.completionCleared
    { executionId := executionId
      claimSeq := claimSeq
      verifier := .machineReplay (claimEvidenceDigest env []) })

def clearedAfterCancel : List EventEnvelope :=
  history (parked ++
    [claimed "claim" 5, outcome "cancel" "node" .cancelled .cancelled, cleared "clear" 6])

end Sample

/-- A claim filed before the owner's cancel, cleared after it, succeeds the node. -/
theorem decisionsStand_fails_after_cancel :
    (exists projection,
      replay Sample.env Sample.scope Sample.streamId.text Sample.clearedAfterCancel =
        .ok projection) ∧
      ¬ DecisionsStand Sample.env Sample.clearedAfterCancel := by
  have hreadable :
      Readable Sample.env Sample.scope Sample.streamId.text Sample.clearedAfterCancel :=
    Sample.history_readable (by decide) (by decide) (by decide) (by decide)
  refine And.intro (hreadable.replay_isOk (by decide)) ?_
  intro hstand
  have hstep : (stepAt Sample.env Sample.clearedAfterCancel 7).any (fun step =>
      decide (step.before.projection.nodeStates["node"]? = some .cancelled) &&
        step.event.kind.isCustoms &&
        decide (step.after.projection.nodeStates["node"]? = some .succeeded)) = true := by
    decide
  rcases (Option.any_eq_true _ _).mp hstep with ⟨step, hat, hstates⟩
  simp only [Bool.and_eq_true, decide_eq_true_eq] at hstates
  rcases hstates with ⟨⟨hcancelled, hcustoms⟩, hsucceeded⟩
  rcases stepAt_eq_some hat with ⟨hevents, hbefore, haccepted⟩
  have hsame := hstand (Sample.clearedAfterCancel.take 7) []
    (Sample.clearedAfterCancel.drop 8) step.event step.before step.before step.after "node"
    .cancelled (by rw [List.append_nil]; exact hevents) hbefore hcancelled rfl
    (by rw [List.append_nil]; exact hbefore) haccepted hcustoms
  rw [hcancelled, hsucceeded] at hsame
  exact absurd hsame (by decide)

/-!
## Waits between a claim and its clearance
-/

def EventKind.parks (node : String) : EventKind -> Bool
  | .nodeOutcomeRecorded payload =>
      decide (payload.nodeId.text = node) && decide (payload.nextState = .waitingInput)
  | .dlqReturned payload => decide (payload.nodeId.text = node)
  | _ => false

/--
The kinds that can leave `node` in `WaitingInput` with no wait open: routing it
to the dead letters, and a simulation that sets its state outright.
-/
def EventKind.strands (node : String) : EventKind -> Bool
  | .dlqRouted payload => decide (payload.nodeId.text = node)
  | .nodeStateChanged payload =>
      decide (payload.nodeId.text = node) && decide (payload.nextState = .waitingInput)
  | _ => false

def openWaitSeq (projection : ExecutionProjection) (node : String) : Option Nat :=
  projection.openWaits[node]?.map OpenWait.atSequence

theorem openWaitSeq_of_openWaits {projection' : ExecutionProjection} {node : String}
    (h : projection'.openWaits[node]? = projection.openWaits[node]?) :
    openWaitSeq projection' node = openWaitSeq projection node :=
  congrArg (Option.map OpenWait.atSequence) h

/-- What an event that opens no wait for `node` can do to its wait and its state. -/
structure WaitStep (node : String) (event : EventEnvelope)
    (before after : ExecutionProjection) : Prop where
  wait : after.openWaits[node]? = before.openWaits[node]? ∨ after.openWaits[node]? = none
  stranded : after.openWaits[node]? = none ->
    after.nodeStates[node]? = some .waitingInput ->
    event.kind.strands node = true ∨
      before.openWaits[node]? = none ∧ before.nodeStates[node]? = some .waitingInput

theorem WaitStep.of_same {node : String} {event : EventEnvelope}
    {before after : ExecutionProjection}
    (hwaits : after.openWaits[node]? = before.openWaits[node]?)
    (hstates : after.nodeStates[node]? = before.nodeStates[node]?) :
    WaitStep node event before after :=
  { wait := Or.inl hwaits
    stranded := fun hnone hwaiting =>
      Or.inr (And.intro (hwaits.symm.trans hnone) (hstates.symm.trans hwaiting)) }

theorem WaitStep.of_left {node : String} {event : EventEnvelope}
    {before after : ExecutionProjection} {state : NodeState}
    (hwait : after.openWaits[node]? = before.openWaits[node]? ∨
      after.openWaits[node]? = none)
    (hstate : after.nodeStates[node]? = some state) (hleft : state ≠ .waitingInput) :
    WaitStep node event before after :=
  { wait := hwait
    stranded := fun _ hwaiting =>
      absurd (Option.some.inj (hstate.symm.trans hwaiting)) hleft }

section WaitSteps

variable {env : Environment} {event : EventEnvelope} {st st' : FoldState} {node : String}

theorem waitStep_of_outcome {payload : NodeOutcomeRecorded}
    (h : applyProjectionEvent env event st = .ok () st')
    (hkind : event.kind = .nodeOutcomeRecorded payload)
    (hparks : event.kind.parks node = false) :
    WaitStep node event st.projection st'.projection := by
  have hwaits := openWaits_of_accepted h
  have hstates := nodeStates_of_accepted h
  unfold lifecycleAfter at hwaits hstates
  simp only [hkind] at hwaits hstates
  unfold outcomeEffect at hwaits hstates
  dsimp only at hwaits hstates
  by_cases hnode : payload.nodeId.text = node
  · subst hnode
    have hleft : payload.nextState ≠ .waitingInput := by
      intro hwaiting
      rw [hkind] at hparks
      simp [EventKind.parks, hwaiting] at hparks
    rw [if_neg hleft] at hwaits
    refine WaitStep.of_left (Or.inr ?_) ?_ hleft
    · rw [hwaits, ExtTreeMap.getElem?_erase_self]
    · rw [hstates, ExtTreeMap.getElem?_insert_self]
  · apply WaitStep.of_same
    · rw [hwaits]
      split
      · exact OrderedMap.getElem?_insert_of_ne hnode
      · exact OrderedMap.getElem?_erase_of_ne hnode
    · rw [hstates]
      exact OrderedMap.getElem?_insert_of_ne hnode

theorem waitStep_of_stateChange {payload : NodeStateChanged}
    (h : applyProjectionEvent env event st = .ok () st')
    (hkind : event.kind = .nodeStateChanged payload) :
    WaitStep node event st.projection st'.projection := by
  have hwaits := openWaits_of_accepted h
  have hstates := nodeStates_of_accepted h
  unfold lifecycleAfter at hwaits hstates
  simp only [hkind] at hwaits hstates
  have hsame : st'.projection.openWaits[node]? = st.projection.openWaits[node]? := by
    rw [hwaits]
    rfl
  by_cases hnode : payload.nodeId.text = node
  · by_cases hwaiting : payload.nextState = .waitingInput
    · refine { wait := Or.inl hsame, stranded := fun _ _ => Or.inl ?_ }
      rw [hkind]
      simp [EventKind.strands, hnode, hwaiting]
    · refine WaitStep.of_left (Or.inl hsame) ?_ hwaiting
      rw [hstates, ← hnode, ExtTreeMap.getElem?_insert_self]
  · apply WaitStep.of_same hsame
    rw [hstates]
    exact OrderedMap.getElem?_insert_of_ne hnode

theorem waitStep_of_ghost {payload : GhostNodeProposed}
    (h : applyProjectionEvent env event st = .ok () st')
    (hkind : event.kind = .ghostNodeProposed payload) :
    WaitStep node event st.projection st'.projection := by
  have hwaits := openWaits_of_accepted h
  have hstates := nodeStates_of_accepted h
  unfold lifecycleAfter at hwaits hstates
  simp only [hkind] at hwaits hstates
  have hsame : st'.projection.openWaits[node]? = st.projection.openWaits[node]? := by
    rw [hwaits]
    rfl
  by_cases hnode : payload.nodeId.text = node
  · refine WaitStep.of_left (Or.inl hsame) ?_ (by decide : NodeState.ghost ≠ .waitingInput)
    rw [hstates, ← hnode, ExtTreeMap.getElem?_insert_self]
  · apply WaitStep.of_same hsame
    rw [hstates]
    exact OrderedMap.getElem?_insert_of_ne hnode

theorem waitStep_of_clearance (h : applyProjectionEvent env event st = .ok () st')
    (hkind : event.kind = .completionCleared payload) :
    WaitStep node event st.projection st'.projection := by
  have heffect := clearanceEffect_released env st.projection hkind
  rw [← openWaits_of_accepted h, ← nodeStates_of_accepted h] at heffect
  cases hreleased : releasedNode st.projection event with
  | none =>
      simp only [hreleased] at heffect
      exact WaitStep.of_same (by rw [heffect.right]) (by rw [heffect.left])
  | some released =>
      simp only [hreleased] at heffect
      by_cases hnode : released = node
      · subst hnode
        refine WaitStep.of_left (Or.inr ?_) ?_ (by decide : NodeState.succeeded ≠ .waitingInput)
        · rw [heffect.right, ExtTreeMap.getElem?_erase_self]
        · rw [heffect.left, ExtTreeMap.getElem?_insert_self]
      · apply WaitStep.of_same
        · rw [heffect.right]
          exact OrderedMap.getElem?_erase_of_ne hnode
        · rw [heffect.left]
          exact OrderedMap.getElem?_insert_of_ne hnode

theorem waitStep_of_route {payload : DlqRouted}
    (h : applyProjectionEvent env event st = .ok () st')
    (hkind : event.kind = .dlqRouted payload) :
    WaitStep node event st.projection st'.projection := by
  have hwaits := openWaits_of_accepted h
  have hstates := nodeStates_of_accepted h
  unfold lifecycleAfter at hwaits hstates
  simp only [hkind] at hwaits hstates
  by_cases hnode : payload.nodeId.text = node
  · refine { wait := Or.inr ?_, stranded := fun _ _ => Or.inl ?_ }
    · rw [hwaits, ← hnode, ExtTreeMap.getElem?_erase_self]
    · rw [hkind]
      simp [EventKind.strands, hnode]
  · apply WaitStep.of_same
    · rw [hwaits]
      exact OrderedMap.getElem?_erase_of_ne hnode
    · rw [hstates]
      rfl

theorem waitStep_of_return {payload : DlqReturned}
    (h : applyProjectionEvent env event st = .ok () st')
    (hkind : event.kind = .dlqReturned payload) (hparks : event.kind.parks node = false) :
    WaitStep node event st.projection st'.projection := by
  have hwaits := openWaits_of_accepted h
  have hstates := nodeStates_of_accepted h
  unfold lifecycleAfter at hwaits hstates
  simp only [hkind] at hwaits hstates
  have hnode : payload.nodeId.text ≠ node := by
    rw [hkind] at hparks
    exact of_decide_eq_false hparks
  apply WaitStep.of_same
  · rw [hwaits]
    exact OrderedMap.getElem?_insert_of_ne hnode
  · rw [hstates]
    rfl

theorem waitStep_of_accepted (h : applyProjectionEvent env event st = .ok () st')
    (hparks : event.kind.parks node = false) :
    WaitStep node event st.projection st'.projection := by
  cases hkind : event.kind with
  | nodeOutcomeRecorded payload =>
      exact waitStep_of_outcome h hkind hparks
  | nodeStateChanged payload =>
      exact waitStep_of_stateChange h hkind
  | ghostNodeProposed payload =>
      exact waitStep_of_ghost h hkind
  | completionCleared payload =>
      exact waitStep_of_clearance h hkind
  | dlqRouted payload =>
      exact waitStep_of_route h hkind
  | dlqReturned payload =>
      exact waitStep_of_return h hkind hparks
  | completionClaimed payload =>
      apply WaitStep.of_same
      · rw [openWaits_of_accepted h]
        unfold lifecycleAfter
        simp only [hkind]
        unfold claimEffect
        dsimp only
        split <;> rfl
      · rw [nodeStates_of_accepted h]
        unfold lifecycleAfter
        simp only [hkind]
        unfold claimEffect
        dsimp only
        split <;> rfl
  | gateVerdict payload =>
      apply WaitStep.of_same
      · rw [openWaits_of_accepted h]
        unfold lifecycleAfter
        simp only [hkind]
        unfold verdictEffect
        dsimp only
        split <;> rfl
      · rw [nodeStates_of_accepted h]
        unfold lifecycleAfter
        simp only [hkind]
        unfold verdictEffect
        dsimp only
        split <;> rfl
  | _ =>
      apply WaitStep.of_same
      · rw [openWaits_of_accepted h]
        unfold lifecycleAfter
        simp only [hkind]
        rfl
      · rw [nodeStates_of_accepted h]
        unfold lifecycleAfter
        simp only [hkind]
        rfl

end WaitSteps

/-!
## Following a claim
-/

def WaitStands (claim : OpenClaim) (since : List EventEnvelope)
    (projection : ExecutionProjection) : Prop :=
  openWaitSeq projection claim.node = some claim.completesWaitSeq ∨
    projection.openWaits[claim.node]? = none ∧
      (projection.nodeStates[claim.node]? = some .waitingInput ->
        exists event, event ∈ since ∧ event.kind.strands claim.node = true)

/--
How an open claim got into the projection, and what became of its wait since:
as long as no new wait was opened, it stands or was closed without another.
-/
def Filed (env : Environment) (events : List EventEnvelope) (claimSeq : Nat)
    (claim : OpenClaim) (projection : ExecutionProjection) : Prop :=
  exists (before since : List EventEnvelope) (event : EventEnvelope)
      (payload : CompletionClaimed) (st : FoldState),
    events = before ++ event :: since ∧
      event.sequence = claimSeq ∧
      event.kind = .completionClaimed payload ∧
      payload.node.text = claim.node ∧
      payload.completesWaitSeq = claim.completesWaitSeq ∧
      foldHistory env before = some st ∧
      openWaitSeq st.projection claim.node = some claim.completesWaitSeq ∧
      ((forall other, other ∈ since -> other.kind.parks claim.node = false) ->
        WaitStands claim since projection)

def SameTestimony (claim other : OpenClaim) : Prop :=
  other.node = claim.node ∧ other.completesWaitSeq = claim.completesWaitSeq

theorem openClaims_origin {env : Environment} {event : EventEnvelope} {st st' : FoldState}
    (h : applyProjectionEvent env event st = .ok () st') {claimSeq : Nat}
    (hclaim : st'.projection.openClaims[claimSeq]? = some claim) :
    (exists payload, event.kind = .completionClaimed payload ∧
      event.sequence = claimSeq ∧
      payload.node.text = claim.node ∧
      payload.completesWaitSeq = claim.completesWaitSeq ∧
      openWaitSeq st.projection claim.node = some claim.completesWaitSeq) ∨
      exists old, st.projection.openClaims[claimSeq]? = some old ∧
        SameTestimony old claim := by
  have hkept : forall {claims : ExtTreeMap Nat OpenClaim},
      claims = st.projection.openClaims -> claims[claimSeq]? = some claim ->
      exists old, st.projection.openClaims[claimSeq]? = some old ∧
        SameTestimony old claim := by
    intro claims hsame hget
    exact ⟨claim, hsame ▸ hget, rfl, rfl⟩
  have herased : forall {key : Nat},
      (st.projection.openClaims.erase key)[claimSeq]? = some claim ->
      exists old, st.projection.openClaims[claimSeq]? = some old ∧
        SameTestimony old claim := by
    intro key hget
    rw [ExtTreeMap.getElem?_erase] at hget
    split at hget
    · cases hget
    · exact ⟨claim, hget, rfl, rfl⟩
  have hmapped : forall {f : OpenClaim -> OpenClaim},
      (forall old, SameTestimony old (f old)) ->
      (st.projection.openClaims.map fun _ => f)[claimSeq]? = some claim ->
      exists old, st.projection.openClaims[claimSeq]? = some old ∧
        SameTestimony old claim := by
    intro f hsame hget
    rw [ExtTreeMap.getElem?_map] at hget
    rcases Option.map_eq_some_iff.mp hget with ⟨old, hold, heq⟩
    exact ⟨old, hold, heq ▸ hsame old⟩
  rw [openClaims_of_accepted h] at hclaim
  unfold lifecycleAfter at hclaim
  cases hkind : event.kind <;> simp only [hkind] at hclaim
  case completionClaimed payload =>
    unfold claimEffect at hclaim
    by_cases hanswers : answersOpenWait st.projection payload = true
    · simp only [if_pos hanswers] at hclaim
      by_cases hseq : event.sequence = claimSeq
      · subst hseq
        rw [ExtTreeMap.getElem?_insert_self] at hclaim
        have hclaim := Option.some.inj hclaim
        subst hclaim
        exact Or.inl ⟨payload, rfl, rfl, rfl, rfl, of_decide_eq_true hanswers⟩
      · rw [OrderedMap.getElem?_insert_of_ne hseq] at hclaim
        exact Or.inr (hkept rfl hclaim)
    · simp only [if_neg hanswers] at hclaim
      exact Or.inr (hkept rfl hclaim)
  case completionCleared payload =>
    unfold clearanceEffect at hclaim
    dsimp only at hclaim
    split at hclaim
    · exact Or.inr (herased hclaim)
    · split at hclaim
      · exact Or.inr (herased hclaim)
      · exact Or.inr (herased hclaim)
  case completionRejected payload =>
    exact Or.inr (herased hclaim)
  case dlqRouted payload =>
    refine Or.inr (hmapped ?_ hclaim)
    intro old
    unfold stopClock
    split <;> exact ⟨rfl, rfl⟩
  case dlqRedrive payload =>
    refine Or.inr (hmapped ?_ hclaim)
    intro old
    unfold rebase
    split <;> exact ⟨rfl, rfl⟩
  case gateVerdict payload =>
    unfold verdictEffect at hclaim
    dsimp only at hclaim
    split at hclaim
    · exact Or.inr (hkept rfl hclaim)
    · exact Or.inr (hkept rfl hclaim)
  all_goals exact Or.inr (hkept rfl hclaim)

theorem WaitStands.step {env : Environment} {event : EventEnvelope} {st st' : FoldState}
    {old : OpenClaim} {since : List EventEnvelope} (h : WaitStands old since st.projection)
    (hsame : SameTestimony old claim) (hstep : applyProjectionEvent env event st = .ok () st')
    (hparks : event.kind.parks claim.node = false) :
    WaitStands claim (since ++ [event]) st'.projection := by
  have hwait := waitStep_of_accepted hstep hparks
  unfold WaitStands at h ⊢
  rw [← hsame.left, ← hsame.right] at h
  rcases hwait.wait with hkept | hclosed
  · rcases h with hopen | ⟨hnone, hstranded⟩
    · exact Or.inl ((openWaitSeq_of_openWaits hkept).trans hopen)
    · refine Or.inr (And.intro (hkept.trans hnone) ?_)
      intro hwaiting
      rcases hwait.stranded (hkept.trans hnone) hwaiting with hhere | ⟨_, hbefore⟩
      · exact ⟨event, by simp, hhere⟩
      · rcases hstranded hbefore with ⟨other, hmem, hstrands⟩
        exact ⟨other, List.mem_append_left _ hmem, hstrands⟩
  · refine Or.inr (And.intro hclosed ?_)
    intro hwaiting
    rcases hwait.stranded hclosed hwaiting with hhere | ⟨hnone, hbefore⟩
    · exact ⟨event, by simp, hhere⟩
    · rcases h with hopen | ⟨_, hstranded⟩
      · unfold openWaitSeq at hopen
        rw [hnone] at hopen
        cases hopen
      · rcases hstranded hbefore with ⟨other, hmem, hstrands⟩
        exact ⟨other, List.mem_append_left _ hmem, hstrands⟩

theorem WaitStands.of_filing {env : Environment} {event : EventEnvelope} {st st' : FoldState}
    {payload : CompletionClaimed} (hstep : applyProjectionEvent env event st = .ok () st')
    (hkind : event.kind = .completionClaimed payload)
    (hopen : openWaitSeq st.projection claim.node = some claim.completesWaitSeq) :
    WaitStands claim [] st'.projection := by
  refine Or.inl ((openWaitSeq_of_openWaits ?_).trans hopen)
  rw [openWaits_of_accepted hstep]
  unfold lifecycleAfter
  simp only [hkind]
  unfold claimEffect
  dsimp only
  split <;> rfl

theorem Filed.step {env : Environment} {events : List EventEnvelope} {event : EventEnvelope}
    {st st' : FoldState}
    (hinv : forall claimSeq claim, st.projection.openClaims[claimSeq]? = some claim ->
      Filed env events claimSeq claim st.projection) (hfold : foldHistory env events = some st)
    (hstep : applyProjectionEvent env event st = .ok () st') {claimSeq : Nat}
    (hclaim : st'.projection.openClaims[claimSeq]? = some claim) :
    Filed env (events ++ [event]) claimSeq claim st'.projection := by
  rcases openClaims_origin hstep hclaim with
    ⟨payload, hkind, hseq, hnode, hwait, hopen⟩ | ⟨old, hold, hsame⟩
  · exact ⟨events, [], event, payload, st, rfl, hseq, hkind, hnode, hwait, hfold, hopen,
      fun _ => WaitStands.of_filing hstep hkind hopen⟩
  · rcases hinv claimSeq old hold with
      ⟨before, since, filing, payload, then_, hevents, hseq, hkind, hnode, hwait, hbefore,
        hopen, hstands⟩
    refine ⟨before, since ++ [event], filing, payload, then_, ?_, hseq, hkind, ?_, ?_, hbefore,
      ?_, ?_⟩
    · rw [hevents, List.append_assoc, List.cons_append]
    · rw [hnode, hsame.left]
    · rw [hwait, hsame.right]
    · rw [hsame.left, hsame.right]
      exact hopen
    · intro hnone
      rw [hsame.left] at hnone
      have hstands := hstands fun other hmem =>
        hnone other (List.mem_append_left _ hmem)
      have hparks := hnone event (by simp)
      rw [← hsame.left] at hparks
      exact hstands.step hsame hstep hparks

theorem openClaims_filed {env : Environment} {events : List EventEnvelope} {st : FoldState}
    (hfold : foldHistory env events = some st) {claimSeq : Nat}
    (hclaim : st.projection.openClaims[claimSeq]? = some claim) :
    Filed env events claimSeq claim st.projection := by
  induction events using List.reverseRecOn generalizing st claimSeq claim with
  | nil =>
      cases hfold
      have hempty : (FoldState.initial.projection.openClaims)[claimSeq]? = none :=
        ExtTreeMap.getElem?_empty
      rw [hempty] at hclaim
      cases hclaim
  | append_singleton events event ih =>
      rcases foldHistory_concat.mp hfold with ⟨before, hbefore, hstep⟩
      exact Filed.step (fun _ _ => ih hbefore) hbefore hstep hclaim

/-!
## Releases and the waits they answer
-/

theorem releasedNode_of_succeeded {env : Environment} {event : EventEnvelope} {st st' : FoldState}
    {node : String} (hstep : applyProjectionEvent env event st = .ok () st')
    (hkind : event.kind = .completionCleared payload)
    (hbefore : st.projection.nodeStates[node]? = some .waitingInput)
    (hafter : st'.projection.nodeStates[node]? = some .succeeded) :
    releasedNode st.projection event = some node := by
  have heffect := (clearanceEffect_released env st.projection hkind).left
  rw [← nodeStates_of_accepted hstep] at heffect
  rw [heffect] at hafter
  cases hreleased : releasedNode st.projection event with
  | none =>
      rw [hreleased] at hafter
      exact absurd (hbefore.symm.trans hafter) (by decide)
  | some released =>
      rw [hreleased] at hafter
      by_cases hnode : released = node
      · rw [hnode]
      · have hsame := (OrderedMap.getElem?_insert_of_ne hnode).symm.trans hafter
        exact absurd (hbefore.symm.trans hsame) (by decide)

theorem openClaim_of_released {event : EventEnvelope} {node : String}
    (hkind : event.kind = .completionCleared payload)
    (hreleased : releasedNode projection event = some node) :
    exists claim, projection.openClaims[payload.claimSeq]? = some claim ∧
      claim.node = node := by
  unfold releasedNode at hreleased
  simp only [hkind] at hreleased
  cases hclaim : projection.openClaims[payload.claimSeq]? with
  | none =>
      rw [hclaim] at hreleased
      cases hreleased
  | some claim =>
      simp only [hclaim] at hreleased
      split at hreleased
      · exact ⟨claim, rfl, Option.some.inj hreleased⟩
      · cases hreleased

def ReleasesAnswerOpenWait (env : Environment) (events : List EventEnvelope) : Prop :=
  forall (earlier later : List EventEnvelope) (event : EventEnvelope)
      (st st' : FoldState) (payload : CompletionCleared) (claim : OpenClaim) (node : String),
    events = earlier ++ event :: later ->
    foldHistory env earlier = some st ->
    applyProjectionEvent env event st = .ok () st' ->
    event.kind = .completionCleared payload ->
    st.projection.openClaims[payload.claimSeq]? = some claim ->
    st.projection.nodeStates[node]? = some .waitingInput ->
    st'.projection.nodeStates[node]? = some .succeeded ->
    openWaitSeq st.projection node = some claim.completesWaitSeq

/--
A released claim was filed against the wait then open.  Unless the node was
parked again or returned since, that wait is still the open one, or none is: the
node was dead-lettered, which keeps the testimony, or set by a simulation.
-/
theorem release_answers_the_wait_it_was_filed_against {env : Environment}
    {events : List EventEnvelope} {event : EventEnvelope} {st st' : FoldState}
    {payload : CompletionCleared} {node : String}
    (hfold : foldHistory env events = some st)
    (hstep : applyProjectionEvent env event st = .ok () st')
    (hkind : event.kind = .completionCleared payload)
    (hbefore : st.projection.nodeStates[node]? = some .waitingInput)
    (hafter : st'.projection.nodeStates[node]? = some .succeeded) :
    exists (claim : OpenClaim) (before since : List EventEnvelope)
        (filing : EventEnvelope) (filed : CompletionClaimed) (then_ : FoldState),
      st.projection.openClaims[payload.claimSeq]? = some claim ∧
        claim.node = node ∧
        events = before ++ filing :: since ∧
        filing.sequence = payload.claimSeq ∧
        filing.kind = .completionClaimed filed ∧
        filed.node.text = node ∧
        filed.completesWaitSeq = claim.completesWaitSeq ∧
        foldHistory env before = some then_ ∧
        openWaitSeq then_.projection node = some claim.completesWaitSeq ∧
        ((forall other, other ∈ since -> other.kind.parks node = false) ->
          openWaitSeq st.projection node = some claim.completesWaitSeq ∨
            st.projection.openWaits[node]? = none ∧
              exists other, other ∈ since ∧ other.kind.strands node = true) := by
  have hreleased := releasedNode_of_succeeded hstep hkind hbefore hafter
  rcases openClaim_of_released hkind hreleased with ⟨claim, hclaim, hnode⟩
  subst hnode
  rcases openClaims_filed hfold hclaim with
    ⟨before, since, filing, filed, then_, hevents, hseq, hfiled, hfiledNode, hwait, hthen, hopen,
      hstands⟩
  refine ⟨claim, before, since, filing, filed, then_, hclaim, rfl, hevents, hseq, hfiled,
    hfiledNode, hwait, hthen, hopen, ?_⟩
  intro hnone
  rcases hstands hnone with hstill | ⟨hclosed, hstranded⟩
  · exact Or.inl hstill
  · exact Or.inr (And.intro hclosed (hstranded hbefore))

namespace Sample

def clearedWhileParked : List EventEnvelope :=
  history (parked ++ [claimed "claim" 5, cleared "clear" 6])

/-- The claim's node is dead-lettered and put back in play before the clearance. -/
def clearedAfterRedrive : List EventEnvelope :=
  history (parked ++
    [claimed "claim" 5,
      event "route" (.dlqRouted
        { executionId := executionId
          nodeId := id "node"
          episodeSequence := 6
          reason := "clearance_overdue" }),
      event "redrive" (.dlqRedrive
        { executionId := executionId
          nodeId := id "node"
          dlqEpisodeSequence := 7 }),
      cleared "clear" 6])

end Sample

/-- A claim cleared while its node still waits was filed against that wait. -/
theorem release_answers_the_wait_while_parked :
    exists (st : FoldState) (claim : OpenClaim) (before since : List EventEnvelope)
        (filing : EventEnvelope) (then_ : FoldState),
      foldHistory Sample.env (Sample.clearedWhileParked.take 6) = some st ∧
        st.projection.openClaims[6]? = some claim ∧
        Sample.clearedWhileParked.take 6 = before ++ filing :: since ∧
        foldHistory Sample.env before = some then_ ∧
        openWaitSeq then_.projection "node" = some claim.completesWaitSeq := by
  have hstep : (stepAt Sample.env Sample.clearedWhileParked 6).any (fun step =>
      decide (step.event.kind = .completionCleared
          { executionId := Sample.executionId
            claimSeq := 6
            verifier := .machineReplay (claimEvidenceDigest Sample.env []) }) &&
        decide (step.before.projection.nodeStates["node"]? = some .waitingInput) &&
        decide (step.after.projection.nodeStates["node"]? = some .succeeded)) = true := by
    decide
  rcases (Option.any_eq_true _ _).mp hstep with ⟨step, hat, hstates⟩
  simp only [Bool.and_eq_true, decide_eq_true_eq] at hstates
  rcases hstates with ⟨⟨hkind, hwaiting⟩, hsucceeded⟩
  rcases stepAt_eq_some hat with ⟨_, hfold, haccepted⟩
  rcases release_answers_the_wait_it_was_filed_against hfold haccepted hkind hwaiting
    hsucceeded with
    ⟨claim, before, since, filing, _, then_, hclaim, _, hevents, _, _, _, _, hthen, hopen, _⟩
  exact ⟨step.before, claim, before, since, filing, then_, hfold, hclaim, hevents, hthen, hopen⟩

/-- After a redrive the clearance releases the node with no wait open for it. -/
theorem releasesAnswerOpenWait_fails_after_redrive :
    (exists projection,
      replay Sample.env Sample.scope Sample.streamId.text Sample.clearedAfterRedrive =
        .ok projection) ∧
      ¬ ReleasesAnswerOpenWait Sample.env Sample.clearedAfterRedrive := by
  have hreadable :
      Readable Sample.env Sample.scope Sample.streamId.text Sample.clearedAfterRedrive :=
    Sample.history_readable (by decide) (by decide) (by decide) (by decide)
  refine And.intro (hreadable.replay_isOk (by decide)) ?_
  intro hanswers
  have hstep : (stepAt Sample.env Sample.clearedAfterRedrive 8).any (fun step =>
      decide (step.event.kind = .completionCleared
          { executionId := Sample.executionId
            claimSeq := 6
            verifier := .machineReplay (claimEvidenceDigest Sample.env []) }) &&
        decide (step.before.projection.openClaims[6]?.isSome = true) &&
        decide (step.before.projection.nodeStates["node"]? = some .waitingInput) &&
        decide (step.before.projection.openWaits["node"]? = none) &&
        decide (step.after.projection.nodeStates["node"]? = some .succeeded)) = true := by
    decide
  rcases (Option.any_eq_true _ _).mp hstep with ⟨step, hat, hstates⟩
  simp only [Bool.and_eq_true, decide_eq_true_eq] at hstates
  rcases hstates with ⟨⟨⟨⟨hkind, hclaim⟩, hwaiting⟩, hnone⟩, hsucceeded⟩
  rcases Option.isSome_iff_exists.mp hclaim with ⟨claim, hclaim⟩
  rcases stepAt_eq_some hat with ⟨hevents, hfold, haccepted⟩
  have hopen := hanswers _ _ step.event step.before step.after _ claim "node" hevents hfold
    haccepted hkind hclaim hwaiting hsucceeded
  unfold openWaitSeq at hopen
  rw [hnone] at hopen
  cases hopen

end GraphHelm
