import GraphHelm.Projection.Customs

/-!
# Waits, claims and node states

The open waits, the open claims, the dead letters and the node states of a
projection are separate maps, and about ten arms of the fold write some of them.
This module says when they agree, and which events of a history keep them in
agreement.
-/

namespace GraphHelm

open Std
open ErrorState OrderedMap

/-!
## Timelines
-/

def scanOf (projection : ExecutionProjection) (event : EventEnvelope) :
    Option (String × CustomsStage) :=
  match event.kind with
  | .nodeOutcomeRecorded payload =>
      if payload.nextState = .waitingInput then some (payload.nodeId.text, .parked) else none
  | .completionClaimed payload =>
      if answersOpenWait projection payload then some (payload.node.text, .claimed) else none
  | .completionCleared payload =>
      projection.openClaims[payload.claimSeq]?.map fun claim =>
        match clearanceVerdict projection.clearanceRegistry claim payload.verifier with
        | .cleared => (claim.node, .cleared)
        | .refused _ => (claim.node, .rejected)
  | .completionRejected payload =>
      projection.openClaims[payload.claimSeq]?.map fun claim => (claim.node, .rejected)
  | .completionRefused payload => some (payload.node.text, .refused)
  | .dlqRouted payload => some (payload.nodeId.text, .deadLettered)
  | .dlqReturned payload => some (payload.nodeId.text, .parked)
  | .dlqRedrive payload => some (payload.nodeId.text, .claimed)
  | _ => none

/-- `after` is `before` with a scan of the stage at the end of the node's timeline. -/
def Scanned (before after : ExtTreeMap String (List CustomsScan)) :
    Option (String × CustomsStage) -> Prop
  | none => after = before
  | some entry =>
      exists scan : CustomsScan, scan.stage = entry.2 ∧
        after = before.insert entry.1 (before[entry.1]?.getD [] ++ [scan])

section Scans

variable {env : Environment} {event : EventEnvelope} {st st' : FoldState}

theorem recordScan_scanned {node : String} {scan : CustomsScan}
    (h : recordScan node scan st = .ok () st') :
    Scanned st.projection.customsScans st'.projection.customsScans
      (some (node, scan.stage)) := by
  unfold recordScan at h
  rw [getProjection_bind, requireRoom_bind_eq_ok, require_bind_eq_ok,
    modifyProjection_eq_ok] at h
  refine ⟨scan, rfl, ?_⟩
  rw [← h.right.right]

theorem park_scanned {node : String} {deadline : Option PersistedTimestamp}
    (h : park event node deadline st = .ok () st') :
    Scanned st.projection.customsScans st'.projection.customsScans
      (some (node, .parked)) := by
  unfold park at h
  rw [modifyProjection_bind] at h
  have hscanned := recordScan_scanned h
  exact hscanned

theorem foldNodeOutcomeRecorded_scanned {payload : NodeOutcomeRecorded}
    (h : foldNodeOutcomeRecorded event payload st = .ok () st') :
    Scanned st.projection.customsScans st'.projection.customsScans
      (if payload.nextState = .waitingInput then
        some (payload.nodeId.text, .parked)
      else
        none) := by
  unfold foldNodeOutcomeRecorded at h
  rw [requireExecution_bind_eq_ok] at h
  rcases bind_eq_ok.mp h.right with ⟨_, counted, hcount, hrest⟩
  rcases bind_eq_ok.mp hrest with ⟨_, folded, hrun, hrest⟩
  have hsame : folded.projection.customsScans = st.projection.customsScans := by
    rw [countIdenticalOutcome_effect hrun, countAttempt_effect hcount]
  rw [← hsame]
  by_cases hparks : payload.nextState = .waitingInput
  · simp only [if_pos hparks] at hrest ⊢
    rw [getProjection_bind, requireRoom_bind_eq_ok] at hrest
    rcases bind_eq_ok.mp hrest.right with ⟨_, parked, hpark, hset⟩
    unfold setNodeState at hset
    rw [modifyProjection_eq_ok] at hset
    rw [← hset]
    have hscanned := park_scanned hpark
    exact hscanned
  · simp only [if_neg hparks] at hrest ⊢
    unfold closeWait setNodeState at hrest
    rw [modifyProjection_bind, modifyProjection_eq_ok] at hrest
    rw [← hrest]
    rfl

theorem foldCompletionClaimed_scanned {payload : CompletionClaimed}
    (h : foldCompletionClaimed env event payload st = .ok () st') :
    Scanned st.projection.customsScans st'.projection.customsScans
      (if answersOpenWait st.projection payload then
        some (payload.node.text, .claimed)
      else
        none) := by
  unfold foldCompletionClaimed at h
  rw [requireExecution_bind_eq_ok, getProjection_bind, require_bind_eq_ok] at h
  have hbranch := h.right.right
  unfold answersOpenWait
  by_cases hanswers : st.projection.openWaits[payload.node.text]?.map OpenWait.atSequence =
      some payload.completesWaitSeq
  · rw [if_pos hanswers, modifyProjection_bind] at hbranch
    rw [if_pos (decide_eq_true hanswers)]
    have hscanned := recordScan_scanned hbranch
    exact hscanned
  · rw [if_neg hanswers] at hbranch
    rw [if_neg (by simpa using hanswers)]
    cases hbranch
    rfl

theorem foldCompletionCleared_scanned {payload : CompletionCleared}
    (h : foldCompletionCleared event payload st = .ok () st') :
    Scanned st.projection.customsScans st'.projection.customsScans
      (st.projection.openClaims[payload.claimSeq]?.map fun claim =>
        match clearanceVerdict st.projection.clearanceRegistry claim payload.verifier with
        | .cleared => (claim.node, .cleared)
        | .refused _ => (claim.node, .rejected)) := by
  unfold foldCompletionCleared at h
  rw [requireExecution_bind_eq_ok, getProjection_bind] at h
  have hrest := h.right
  cases hclaim : st.projection.openClaims[payload.claimSeq]? with
  | none =>
      rw [hclaim] at hrest
      cases hrest
  | some claim =>
      simp only [hclaim] at hrest
      rw [modifyProjection_bind] at hrest
      rw [Option.map_some]
      cases hverdict : clearanceVerdict st.projection.clearanceRegistry claim
          payload.verifier with
      | refused reason =>
          simp only [hverdict] at hrest ⊢
          have hscanned := recordScan_scanned hrest
          exact hscanned
      | cleared =>
          simp only [hverdict] at hrest ⊢
          unfold closeWait setNodeState at hrest
          rw [modifyProjection_bind] at hrest
          rcases bind_eq_ok.mp hrest with ⟨_, scanned, hscan, hset⟩
          rw [modifyProjection_eq_ok] at hset
          rw [← hset]
          have hscanned := recordScan_scanned hscan
          exact hscanned

theorem foldCompletionRejected_scanned {payload : CompletionRejected}
    (h : foldCompletionRejected event payload st = .ok () st') :
    Scanned st.projection.customsScans st'.projection.customsScans
      (st.projection.openClaims[payload.claimSeq]?.map fun claim => (claim.node, .rejected)) := by
  unfold foldCompletionRejected at h
  rw [requireExecution_bind_eq_ok, getProjection_bind] at h
  have hrest := h.right
  cases hclaim : st.projection.openClaims[payload.claimSeq]? with
  | none =>
      rw [hclaim] at hrest
      cases hrest
  | some claim =>
      simp only [hclaim] at hrest
      rw [modifyProjection_bind] at hrest
      have hscanned := recordScan_scanned hrest
      exact hscanned

theorem foldDlqRouted_scanned {payload : DlqRouted}
    (h : foldDlqRouted event payload st = .ok () st') :
    Scanned st.projection.customsScans st'.projection.customsScans
      (some (payload.nodeId.text, .deadLettered)) := by
  unfold foldDlqRouted closeWait at h
  rw [requireExecution_bind_eq_ok, modifyProjection_bind, modifyProjection_bind] at h
  have hscanned := recordScan_scanned h.right
  exact hscanned

theorem foldDlqReturned_scanned {payload : DlqReturned}
    (h : foldDlqReturned event payload st = .ok () st') :
    Scanned st.projection.customsScans st'.projection.customsScans
      (some (payload.nodeId.text, .parked)) := by
  unfold foldDlqReturned at h
  rw [requireExecution_bind_eq_ok, getProjection_bind, requireRoom_bind_eq_ok] at h
  exact park_scanned h.right.right

theorem foldDlqRedrive_scanned {payload : DlqRedrive}
    (h : foldDlqRedrive event payload st = .ok () st') :
    Scanned st.projection.customsScans st'.projection.customsScans
      (some (payload.nodeId.text, .claimed)) := by
  unfold foldDlqRedrive at h
  rw [requireExecution_bind_eq_ok, getProjection_bind, modifyProjection_bind] at h
  have hscanned := recordScan_scanned h.right
  exact hscanned

theorem scanned_of_kind (h : foldKind env event st = .ok () st') :
    Scanned st.projection.customsScans st'.projection.customsScans
      (scanOf st.projection event) := by
  have hkept : (forall before : FoldState,
      (event.kind.sparedState before).projection.customsScans = before.projection.customsScans) ->
        st'.projection.customsScans = st.projection.customsScans := fun hview =>
    @keeps_of_spared _ (fun before => before.projection.customsScans) _ _ hview _ _ _ h
  unfold scanOf
  unfold foldKind at h
  cases hkind : event.kind <;> rw [hkind] at h hkept <;> first
    | exact hkept fun _ => rfl
    | skip
  case nodeOutcomeRecorded =>
    exact foldNodeOutcomeRecorded_scanned h
  case completionClaimed =>
    exact foldCompletionClaimed_scanned h
  case completionCleared =>
    exact foldCompletionCleared_scanned h
  case completionRejected =>
    exact foldCompletionRejected_scanned h
  case completionRefused =>
    dsimp only at h
    unfold foldCompletionRefused at h
    rw [requireExecution_bind_eq_ok] at h
    have hscanned := recordScan_scanned h.right
    exact hscanned
  case dlqRouted =>
    exact foldDlqRouted_scanned h
  case dlqReturned =>
    exact foldDlqReturned_scanned h
  case dlqRedrive =>
    exact foldDlqRedrive_scanned h

/-- The timelines after an accepted event: it adds the scan `scanOf` names, or nothing. -/
theorem scanned_of_accepted (h : applyProjectionEvent env event st = .ok () st') :
    Scanned st.projection.customsScans st'.projection.customsScans
      (scanOf st.projection event) := by
  unfold applyProjectionEvent nameStream at h
  rw [modifyProjection_bind] at h
  have hscanned := scanned_of_kind h
  exact hscanned

end Scans

/-!
## Dead letters
-/

def stagesOf (projection : ExecutionProjection) (node : String) : List CustomsStage :=
  (projection.customsScans[node]?.getD []).map CustomsScan.stage

/-- Whether a stage says what became of the wait of its node. -/
def decidesWait : CustomsStage -> Bool
  | .parked | .deadLettered => true
  | _ => false

def isDeadLettered (projection : ExecutionProjection) (node : String) : Bool :=
  ((stagesOf projection node).filter decidesWait).getLast? = some .deadLettered

/-- What a stage added to the timeline of `node` leaves of a dead letter. -/
def deadLetteredBy (entry : Option (String × CustomsStage)) (node : String) (before : Bool) :
    Bool :=
  match entry with
  | some (scanned, .parked) => if scanned = node then false else before
  | some (scanned, .deadLettered) => if scanned = node then true else before
  | _ => before

section DeadLetters

variable {projection projection' : ExecutionProjection} {node : String}

theorem stagesOf_scanned {entry : String × CustomsStage}
    (h : Scanned projection.customsScans projection'.customsScans (some entry)) :
    stagesOf projection' node =
      stagesOf projection node ++ if entry.1 = node then [entry.2] else [] := by
  rcases h with ⟨scan, hstage, hscans⟩
  unfold stagesOf
  rw [hscans]
  by_cases hnode : entry.1 = node
  · subst hnode
    rw [ExtTreeMap.getElem?_insert_self, if_pos rfl, Option.getD_some, List.map_append, ← hstage]
    rfl
  · rw [getElem?_insert_of_ne hnode, if_neg hnode, List.append_nil]

theorem isDeadLettered_scanned {entry : Option (String × CustomsStage)}
    (h : Scanned projection.customsScans projection'.customsScans entry) :
    isDeadLettered projection' node =
      deadLetteredBy entry node (isDeadLettered projection node) := by
  cases entry with
  | none =>
      unfold isDeadLettered stagesOf deadLetteredBy
      rw [h]
  | some entry =>
      rcases entry with ⟨scanned, stage⟩
      unfold isDeadLettered deadLetteredBy
      rw [stagesOf_scanned h]
      by_cases hnode : scanned = node
      · rw [if_pos hnode, List.filter_append]
        cases stage <;> simp [decidesWait, hnode]
      · rw [if_neg hnode, List.append_nil]
        cases stage <;> simp [hnode]

end DeadLetters

/-!
## Agreement
-/

def isAwaiting (projection : ExecutionProjection) (node : String) : Bool :=
  projection.nodeStates[node]? = some .waitingInput && !isDeadLettered projection node

def IsClaimed (projection : ExecutionProjection) (node : String) : Prop :=
  exists (claimSeq : Nat) (claim : OpenClaim),
    projection.openClaims[claimSeq]? = some claim ∧ claim.node = node

structure WaitsAgree (projection : ExecutionProjection) : Prop where
  waits : forall node : String, projection.openWaits.contains node = isAwaiting projection node
  claims : forall node : String, IsClaimed projection node ->
    projection.nodeStates[node]? = some .waitingInput

/-- What an event must find for the maps it writes to go on agreeing. -/
def KeepsAgreement (projection : ExecutionProjection) (event : EventEnvelope) : Prop :=
  match event.kind with
  | .nodeStateChanged payload =>
      let node := payload.nodeId.text
      if payload.nextState = .waitingInput then
        projection.openWaits.contains node = !isDeadLettered projection node
      else
        projection.openWaits.contains node = false ∧ ¬ IsClaimed projection node
  | .nodeOutcomeRecorded payload =>
      payload.nextState = .waitingInput ∨ ¬ IsClaimed projection payload.nodeId.text
  | .completionCleared payload =>
      forall node, releasedNode projection event = some node ->
        forall (claimSeq : Nat) (claim : OpenClaim),
          projection.openClaims[claimSeq]? = some claim -> claim.node = node ->
            claimSeq = payload.claimSeq
  | .dlqReturned payload =>
      projection.nodeStates[payload.nodeId.text]? = some .waitingInput
  | _ => True

section Agreement

variable {env : Environment} {event : EventEnvelope} {st st' : FoldState} {node : String}

theorem isDeadLettered_of_accepted (h : applyProjectionEvent env event st = .ok () st') :
    isDeadLettered st'.projection node =
      deadLetteredBy (scanOf st.projection event) node (isDeadLettered st.projection node) :=
  isDeadLettered_scanned (scanned_of_accepted h)

variable {projection projection' : ExecutionProjection}

theorem WaitsAgree.of_same (h : WaitsAgree projection)
    (hwaits : projection'.openWaits = projection.openWaits)
    (hstates : projection'.nodeStates = projection.nodeStates) (hdead : forall node,
      isDeadLettered projection' node = isDeadLettered projection node)
    (hclaims : forall node, IsClaimed projection' node -> IsClaimed projection node) :
    WaitsAgree projection' := by
  constructor
  · intro node
    unfold isAwaiting
    rw [hwaits, hstates, hdead]
    exact h.waits node
  · intro node hclaimed
    rw [hstates]
    exact h.claims node (hclaims node hclaimed)

theorem isClaimed_of_openClaims (h : projection'.openClaims = projection.openClaims) :
    IsClaimed projection' node <-> IsClaimed projection node := by
  unfold IsClaimed
  rw [h]

theorem isClaimed_of_map {f : OpenClaim -> OpenClaim}
    (hnode : forall claim, (f claim).node = claim.node)
    (h : projection'.openClaims = projection.openClaims.map fun _ => f)
    (hclaimed : IsClaimed projection' node) : IsClaimed projection node := by
  rcases hclaimed with ⟨claimSeq, claim, hclaim, hnamed⟩
  rw [h, ExtTreeMap.getElem?_map, Option.map_eq_some_iff] at hclaim
  rcases hclaim with ⟨old, hold, rfl⟩
  exact ⟨claimSeq, old, hold, (hnode old).symm.trans hnamed⟩

theorem isClaimed_of_erase {claimSeq : Nat}
    (h : projection'.openClaims = projection.openClaims.erase claimSeq)
    (hclaimed : IsClaimed projection' node) : IsClaimed projection node := by
  rcases hclaimed with ⟨other, claim, hclaim, hnamed⟩
  rw [h] at hclaim
  by_cases hsame : claimSeq = other
  · subst hsame
    rw [ExtTreeMap.getElem?_erase_self] at hclaim
    cases hclaim
  · rw [getElem?_erase_of_ne hsame] at hclaim
    exact ⟨other, claim, hclaim, hnamed⟩

theorem contains_insert_of_ne {map : ExtTreeMap String OpenWait} {key other : String}
    {wait : OpenWait} (h : key ≠ other) :
    (map.insert key wait).contains other = map.contains other := by
  rw [ExtTreeMap.contains_eq_isSome_getElem?, ExtTreeMap.contains_eq_isSome_getElem?,
    getElem?_insert_of_ne h]

theorem contains_erase_of_ne {map : ExtTreeMap String OpenWait} {key other : String}
    (h : key ≠ other) : (map.erase key).contains other = map.contains other := by
  rw [ExtTreeMap.contains_eq_isSome_getElem?, ExtTreeMap.contains_eq_isSome_getElem?,
    getElem?_erase_of_ne h]

theorem agree_of_stateChange {payload : NodeStateChanged}
    (h : applyProjectionEvent env event st = .ok () st')
    (hkind : event.kind = .nodeStateChanged payload) (hagree : WaitsAgree st.projection) :
    WaitsAgree st'.projection <-> KeepsAgreement st.projection event := by
  have hwaits := openWaits_of_accepted h
  have hstates := nodeStates_of_accepted h
  have hclaims := openClaims_of_accepted h
  have hdead : forall node,
      isDeadLettered st'.projection node = isDeadLettered st.projection node := by
    intro node
    rw [isDeadLettered_of_accepted h]
    unfold scanOf
    rw [hkind]
    rfl
  unfold lifecycleAfter at hwaits hstates hclaims
  simp only [hkind] at hwaits hstates hclaims
  change st'.projection.openWaits = st.projection.openWaits at hwaits
  change st'.projection.openClaims = st.projection.openClaims at hclaims
  have hnext : st'.projection.nodeStates[payload.nodeId.text]? = some payload.nextState := by
    rw [hstates]
    exact ExtTreeMap.getElem?_insert_self
  have hother : forall node : String, payload.nodeId.text ≠ node ->
      st'.projection.nodeStates[node]? = st.projection.nodeStates[node]? := by
    intro node hne
    rw [hstates]
    exact getElem?_insert_of_ne hne
  unfold KeepsAgreement
  simp only [hkind]
  constructor
  · intro hafter
    have hnode := hafter.waits payload.nodeId.text
    unfold isAwaiting at hnode
    rw [hwaits, hnext, hdead] at hnode
    split
    · rename_i hwaiting
      simpa [hwaiting] using hnode
    · rename_i hleft
      refine And.intro (by simpa [hleft] using hnode) ?_
      intro hclaimed
      have hwaiting := hafter.claims _ ((isClaimed_of_openClaims hclaims).mpr hclaimed)
      rw [hnext] at hwaiting
      exact hleft (Option.some.inj hwaiting)
  · intro hkeeps
    constructor
    · intro node
      unfold isAwaiting
      rw [hwaits, hdead]
      by_cases hnode : payload.nodeId.text = node
      · subst hnode
        rw [hnext]
        split at hkeeps
        · rename_i hwaiting
          simpa [hwaiting] using hkeeps
        · rename_i hleft
          simpa [hleft] using hkeeps.left
      · rw [hother node hnode]
        exact hagree.waits node
    · intro node hclaimed
      have hbefore := (isClaimed_of_openClaims hclaims).mp hclaimed
      by_cases hnode : payload.nodeId.text = node
      · subst hnode
        rw [hnext]
        split at hkeeps
        · rename_i hwaiting
          rw [hwaiting]
        · exact absurd hbefore hkeeps.right
      · rw [hother node hnode]
        exact hagree.claims node hbefore

theorem agree_of_outcome {payload : NodeOutcomeRecorded}
    (h : applyProjectionEvent env event st = .ok () st')
    (hkind : event.kind = .nodeOutcomeRecorded payload) (hagree : WaitsAgree st.projection) :
    WaitsAgree st'.projection <-> KeepsAgreement st.projection event := by
  have hwaits := openWaits_of_accepted h
  have hstates := nodeStates_of_accepted h
  have hclaims := openClaims_of_accepted h
  have hdead : forall node, isDeadLettered st'.projection node =
      deadLetteredBy (scanOf st.projection event) node (isDeadLettered st.projection node) :=
    fun node => isDeadLettered_of_accepted h
  unfold lifecycleAfter at hwaits hstates hclaims
  unfold scanOf at hdead
  simp only [hkind] at hwaits hstates hclaims hdead
  change st'.projection.openClaims = st.projection.openClaims at hclaims
  unfold outcomeEffect at hwaits hstates
  dsimp only at hwaits hstates
  have hnext : st'.projection.nodeStates[payload.nodeId.text]? = some payload.nextState := by
    rw [hstates]
    exact ExtTreeMap.getElem?_insert_self
  have hother : forall node : String, payload.nodeId.text ≠ node ->
      st'.projection.nodeStates[node]? = st.projection.nodeStates[node]? := by
    intro node hne
    rw [hstates]
    exact getElem?_insert_of_ne hne
  -- The outcome opens or closes the wait with the state it writes, so only a claim can disagree.
  have hwaitsAgree : forall node : String,
      st'.projection.openWaits.contains node = isAwaiting st'.projection node := by
    intro node
    unfold isAwaiting
    rw [hdead node]
    by_cases hnode : payload.nodeId.text = node
    · subst hnode
      rw [hnext, hwaits]
      by_cases hwaiting : payload.nextState = .waitingInput
      · simp [hwaiting, deadLetteredBy]
      · simp [hwaiting]
    · rw [hother node hnode, hwaits]
      have hbefore := hagree.waits node
      unfold isAwaiting at hbefore
      by_cases hwaiting : payload.nextState = .waitingInput
      · rw [if_pos hwaiting, if_pos hwaiting, contains_insert_of_ne hnode]
        simp only [deadLetteredBy, if_neg hnode]
        exact hbefore
      · rw [if_neg hwaiting, if_neg hwaiting, contains_erase_of_ne hnode]
        exact hbefore
  unfold KeepsAgreement
  simp only [hkind]
  constructor
  · intro hafter
    by_contra hneither
    rcases not_or.mp hneither with ⟨hleft, hclaimed⟩
    have hnamed := (isClaimed_of_openClaims hclaims).mpr (not_not.mp hclaimed)
    have hwaiting := hafter.claims _ hnamed
    rw [hnext] at hwaiting
    exact hleft (Option.some.inj hwaiting)
  · intro hkeeps
    refine WaitsAgree.mk hwaitsAgree ?_
    intro node hclaimed
    have hbefore := (isClaimed_of_openClaims hclaims).mp hclaimed
    by_cases hnode : payload.nodeId.text = node
    · subst hnode
      rw [hnext]
      rcases hkeeps with hwaiting | hunclaimed
      · rw [hwaiting]
      · exact absurd hbefore hunclaimed
    · rw [hother node hnode]
      exact hagree.claims node hbefore

theorem agree_of_ghost {payload : GhostNodeProposed}
    (h : applyProjectionEvent env event st = .ok () st')
    (hkind : event.kind = .ghostNodeProposed payload) (hagree : WaitsAgree st.projection) :
    WaitsAgree st'.projection := by
  have hwaits := openWaits_of_accepted h
  have hstates := nodeStates_of_accepted h
  have hclaims := openClaims_of_accepted h
  have hguard := (lifecycle_of_accepted h).left
  have hdead : forall node,
      isDeadLettered st'.projection node = isDeadLettered st.projection node := by
    intro node
    rw [isDeadLettered_of_accepted h]
    unfold scanOf
    rw [hkind]
    rfl
  unfold lifecycleAfter at hwaits hstates hclaims
  unfold lifecycleGuard at hguard
  simp only [hkind] at hwaits hstates hclaims hguard
  change st'.projection.openWaits = st.projection.openWaits at hwaits
  change st'.projection.openClaims = st.projection.openClaims at hclaims
  have hghost : st'.projection.nodeStates[payload.nodeId.text]? = some .ghost := by
    rw [hstates]
    exact ExtTreeMap.getElem?_insert_self
  have hother : forall node : String, payload.nodeId.text ≠ node ->
      st'.projection.nodeStates[node]? = st.projection.nodeStates[node]? := by
    intro node hne
    rw [hstates]
    exact getElem?_insert_of_ne hne
  constructor
  · intro node
    have hbefore := hagree.waits node
    unfold isAwaiting at hbefore ⊢
    rw [hwaits, hbefore, hdead]
    by_cases hnode : payload.nodeId.text = node
    · subst hnode
      rw [hguard, hghost]
      rfl
    · rw [hother node hnode]
  · intro node hclaimed
    have hbefore := hagree.claims node ((isClaimed_of_openClaims hclaims).mp hclaimed)
    by_cases hnode : payload.nodeId.text = node
    · subst hnode
      rw [hguard] at hbefore
      cases hbefore
    · rw [hother node hnode]
      exact hbefore

theorem agree_of_claim {payload : CompletionClaimed}
    (h : applyProjectionEvent env event st = .ok () st')
    (hkind : event.kind = .completionClaimed payload) (hagree : WaitsAgree st.projection) :
    WaitsAgree st'.projection := by
  have hwaits := openWaits_of_accepted h
  have hstates := nodeStates_of_accepted h
  have hclaims := openClaims_of_accepted h
  have hdead : forall node,
      isDeadLettered st'.projection node = isDeadLettered st.projection node := by
    intro node
    rw [isDeadLettered_of_accepted h]
    unfold scanOf
    rw [hkind]
    dsimp only
    split <;> rfl
  unfold lifecycleAfter at hwaits hstates hclaims
  simp only [hkind] at hwaits hstates hclaims
  rw [claimEffect_spares] at hwaits hstates
  change st'.projection.openWaits = st.projection.openWaits at hwaits
  change st'.projection.nodeStates = st.projection.nodeStates at hstates
  constructor
  · intro node
    unfold isAwaiting
    rw [hwaits, hstates, hdead]
    exact hagree.waits node
  · intro node hclaimed
    rw [hstates]
    rcases hclaimed with ⟨claimSeq, claim, hclaim, hnamed⟩
    rw [hclaims] at hclaim
    unfold claimEffect at hclaim
    dsimp only at hclaim
    split at hclaim
    · rename_i hanswers
      by_cases hsame : event.sequence = claimSeq
      · subst hsame
        rw [ExtTreeMap.getElem?_insert_self] at hclaim
        cases hclaim
        -- The claim answers a wait that is open, so its node is waiting.
        have hopen : st.projection.openWaits.contains payload.node.text = true := by
          rw [ExtTreeMap.contains_eq_isSome_getElem?]
          have hwait := of_decide_eq_true hanswers
          rcases Option.map_eq_some_iff.mp hwait with ⟨wait, hentry, _⟩
          rw [hentry]
          rfl
        rw [hagree.waits payload.node.text] at hopen
        rw [← hnamed]
        exact of_decide_eq_true ((Bool.and_eq_true _ _).mp hopen).left
      · rw [getElem?_insert_of_ne hsame] at hclaim
        exact hagree.claims node ⟨claimSeq, claim, hclaim, hnamed⟩
    · exact hagree.claims node ⟨claimSeq, claim, hclaim, hnamed⟩

theorem agree_of_clearance {payload : CompletionCleared}
    (h : applyProjectionEvent env event st = .ok () st')
    (hkind : event.kind = .completionCleared payload) (hagree : WaitsAgree st.projection) :
    WaitsAgree st'.projection <-> KeepsAgreement st.projection event := by
  have heffect := clearanceEffect_released env st.projection hkind
  rw [← openWaits_of_accepted h, ← nodeStates_of_accepted h] at heffect
  have hclaims : st'.projection.openClaims =
      st.projection.openClaims.erase payload.claimSeq := by
    rw [openClaims_of_accepted h]
    unfold lifecycleAfter
    simp only [hkind]
    unfold clearanceEffect
    dsimp only
    split
    · rfl
    · split <;> rfl
  have hdead : forall node,
      isDeadLettered st'.projection node = isDeadLettered st.projection node := by
    intro node
    rw [isDeadLettered_of_accepted h]
    unfold scanOf
    simp only [hkind]
    cases st.projection.openClaims[payload.claimSeq]? with
    | none =>
        rfl
    | some claim =>
        simp only [Option.map_some]
        cases clearanceVerdict st.projection.clearanceRegistry claim payload.verifier <;> rfl
  unfold KeepsAgreement
  simp only [hkind]
  cases hreleased : releasedNode st.projection event with
  | none =>
      simp only [hreleased] at heffect
      refine iff_of_true ?_ fun node hnode => absurd hnode (by simp)
      exact hagree.of_same heffect.right heffect.left hdead fun node => isClaimed_of_erase hclaims
  | some released =>
      simp only [hreleased] at heffect
      rcases heffect with ⟨hstates, hwaits⟩
      have hstill : forall (claimSeq : Nat) (claim : OpenClaim), claimSeq ≠ payload.claimSeq ->
          st.projection.openClaims[claimSeq]? = some claim ->
            st'.projection.openClaims[claimSeq]? = some claim := by
        intro claimSeq claim hne hclaim
        rw [hclaims, getElem?_erase_of_ne (Ne.symm hne)]
        exact hclaim
      constructor
      · intro hafter node hnode claimSeq claim hclaim hnamed
        cases hnode
        by_contra hne
        have hwaiting := hafter.claims released
          ⟨claimSeq, claim, hstill claimSeq claim hne hclaim, hnamed⟩
        rw [hstates, ExtTreeMap.getElem?_insert_self] at hwaiting
        cases hwaiting
      · intro hkeeps
        constructor
        · intro node
          have hbefore := hagree.waits node
          unfold isAwaiting at hbefore ⊢
          rw [hwaits, hdead, hstates]
          by_cases hnode : released = node
          · subst hnode
            simp
          · rw [contains_erase_of_ne hnode, getElem?_insert_of_ne hnode]
            exact hbefore
        · intro node hclaimed
          have hbefore := hagree.claims node (isClaimed_of_erase hclaims hclaimed)
          rw [hstates]
          by_cases hnode : released = node
          · subst hnode
            rcases hclaimed with ⟨claimSeq, claim, hclaim, hnamed⟩
            rw [hclaims] at hclaim
            by_cases hsame : payload.claimSeq = claimSeq
            · subst hsame
              rw [ExtTreeMap.getElem?_erase_self] at hclaim
              cases hclaim
            · rw [getElem?_erase_of_ne hsame] at hclaim
              exact absurd (hkeeps released rfl claimSeq claim hclaim hnamed).symm hsame
          · rw [getElem?_insert_of_ne hnode]
            exact hbefore

theorem agree_of_route {payload : DlqRouted}
    (h : applyProjectionEvent env event st = .ok () st')
    (hkind : event.kind = .dlqRouted payload) (hagree : WaitsAgree st.projection) :
    WaitsAgree st'.projection := by
  have hwaits := openWaits_of_accepted h
  have hstates := nodeStates_of_accepted h
  have hclaims := openClaims_of_accepted h
  have hdead : forall node, isDeadLettered st'.projection node =
      deadLetteredBy (some (payload.nodeId.text, .deadLettered)) node
        (isDeadLettered st.projection node) := by
    intro node
    rw [isDeadLettered_of_accepted h]
    unfold scanOf
    rw [hkind]
  unfold lifecycleAfter at hwaits hstates hclaims
  simp only [hkind] at hwaits hstates hclaims
  change st'.projection.nodeStates = st.projection.nodeStates at hstates
  constructor
  · intro node
    have hbefore := hagree.waits node
    unfold isAwaiting at hbefore ⊢
    rw [hwaits, hstates, hdead]
    unfold deadLetteredBy
    by_cases hnode : payload.nodeId.text = node
    · simp [hnode]
    · rw [contains_erase_of_ne hnode]
      simp only [if_neg hnode]
      exact hbefore
  · intro node hclaimed
    rw [hstates]
    refine hagree.claims node (isClaimed_of_map ?_ hclaims hclaimed)
    intro claim
    unfold stopClock
    split <;> rfl

theorem agree_of_return {payload : DlqReturned}
    (h : applyProjectionEvent env event st = .ok () st')
    (hkind : event.kind = .dlqReturned payload) (hagree : WaitsAgree st.projection) :
    WaitsAgree st'.projection <-> KeepsAgreement st.projection event := by
  have hwaits := openWaits_of_accepted h
  have hstates := nodeStates_of_accepted h
  have hclaims := openClaims_of_accepted h
  have hdead : forall node, isDeadLettered st'.projection node =
      deadLetteredBy (some (payload.nodeId.text, .parked)) node
        (isDeadLettered st.projection node) := by
    intro node
    rw [isDeadLettered_of_accepted h]
    unfold scanOf
    rw [hkind]
  unfold lifecycleAfter at hwaits hstates hclaims
  simp only [hkind] at hwaits hstates hclaims
  change st'.projection.nodeStates = st.projection.nodeStates at hstates
  change st'.projection.openClaims = st.projection.openClaims at hclaims
  unfold KeepsAgreement
  simp only [hkind]
  constructor
  · intro hafter
    have hnode := hafter.waits payload.nodeId.text
    unfold isAwaiting at hnode
    rw [hwaits, hstates, ExtTreeMap.contains_insert_self] at hnode
    exact of_decide_eq_true ((Bool.and_eq_true _ _).mp hnode.symm).left
  · intro hwaiting
    constructor
    · intro node
      have hbefore := hagree.waits node
      unfold isAwaiting at hbefore ⊢
      rw [hwaits, hstates, hdead]
      unfold deadLetteredBy
      by_cases hnode : payload.nodeId.text = node
      · subst hnode
        simp [hwaiting]
      · rw [contains_insert_of_ne hnode]
        simp only [if_neg hnode]
        exact hbefore
    · intro node hclaimed
      rw [hstates]
      exact hagree.claims node ((isClaimed_of_openClaims hclaims).mp hclaimed)

theorem agree_of_spared (h : applyProjectionEvent env event st = .ok () st')
    (hwaits : st'.projection.openWaits = st.projection.openWaits)
    (hstates : st'.projection.nodeStates = st.projection.nodeStates)
    (hclaims : forall node, IsClaimed st'.projection node -> IsClaimed st.projection node)
    (hscan : forall node before,
      deadLetteredBy (scanOf st.projection event) node before = before)
    (hagree : WaitsAgree st.projection) : WaitsAgree st'.projection := by
  refine hagree.of_same hwaits hstates ?_ hclaims
  intro node
  rw [isDeadLettered_of_accepted h]
  exact hscan node _

/-- The maps agree after an accepted event exactly when it found what it must find. -/
theorem agree_iff_of_accepted (h : applyProjectionEvent env event st = .ok () st')
    (hagree : WaitsAgree st.projection) :
    WaitsAgree st'.projection <-> KeepsAgreement st.projection event := by
  have hwaits := openWaits_of_accepted h
  have hstates := nodeStates_of_accepted h
  have hclaims := openClaims_of_accepted h
  cases hkind : event.kind
  case nodeStateChanged =>
    exact agree_of_stateChange h hkind hagree
  case nodeOutcomeRecorded =>
    exact agree_of_outcome h hkind hagree
  case completionCleared =>
    exact agree_of_clearance h hkind hagree
  case dlqReturned =>
    exact agree_of_return h hkind hagree
  -- The others keep the agreement whatever they find.
  all_goals
    refine iff_of_true ?_ (by unfold KeepsAgreement; rw [hkind]; trivial)
  case ghostNodeProposed =>
    exact agree_of_ghost h hkind hagree
  case completionClaimed =>
    exact agree_of_claim h hkind hagree
  case dlqRouted =>
    exact agree_of_route h hkind hagree
  all_goals
    unfold lifecycleAfter at hwaits hstates hclaims
    simp only [hkind] at hwaits hstates hclaims
  case gateVerdict =>
    rw [verdictEffect_spares] at hwaits hstates hclaims
    refine agree_of_spared h hwaits hstates ?_ ?_ hagree
    · exact fun node => (isClaimed_of_openClaims hclaims).mp
    · intro node before
      unfold scanOf
      rw [hkind]
      rfl
  case completionRejected payload =>
    refine agree_of_spared h hwaits hstates (fun node => isClaimed_of_erase hclaims) ?_ hagree
    intro node before
    unfold scanOf
    simp only [hkind]
    cases st.projection.openClaims[payload.claimSeq]? <;> rfl
  case dlqRedrive =>
    refine agree_of_spared h hwaits hstates ?_ ?_ hagree
    · refine fun node => isClaimed_of_map ?_ hclaims
      intro claim
      unfold rebase
      split <;> rfl
    · intro node before
      unfold scanOf
      rw [hkind]
      rfl
  all_goals
    refine agree_of_spared h hwaits hstates ?_ ?_ hagree
    · exact fun node => (isClaimed_of_openClaims hclaims).mp
    · intro node before
      unfold scanOf
      rw [hkind]
      rfl

theorem waitsAgree_initial : WaitsAgree FoldState.initial.projection := by
  constructor
  · intro node
    rfl
  · intro node hclaimed
    rcases hclaimed with ⟨claimSeq, claim, hclaim, _⟩
    cases hclaim

/--
The waits, the claims and the node states of a history that folds agree at every
point of it exactly when each of its events finds what it must find, and then
they agree in the projection.
-/
theorem waits_agree_throughout_iff {events : List EventEnvelope} {st : FoldState}
    (h : foldHistory env events = some st) :
    (Throughout (accept env) (fun st => WaitsAgree st.projection) FoldState.initial events <->
        StepsMeet (accept env) (fun st event => KeepsAgreement st.projection event)
          FoldState.initial events) ∧
      (StepsMeet (accept env) (fun st event => KeepsAgreement st.projection event)
          FoldState.initial events -> WaitsAgree st.projection) := by
  have hiff := throughout_iff_stepsMeet (P := fun st => WaitsAgree st.projection)
    (fun hagree hstep => agree_iff_of_accepted (accept_eq_some.mp hstep) hagree)
    waitsAgree_initial h
  exact And.intro hiff fun hmeet => (hiff.mpr hmeet).last h

end Agreement

namespace Sample

def cancelledWhileClaimed : List EventEnvelope :=
  history (parked ++ [claimed "claim" 5, outcome "cancel" "node" .cancelled .cancelled])

end Sample

theorem waits_agree_throughout_iff_while_claimed : exists st,
    foldHistory Sample.env (Sample.cancelledWhileClaimed.take 6) = some st ∧
      (Throughout (accept Sample.env) (fun st => WaitsAgree st.projection) FoldState.initial
          (Sample.cancelledWhileClaimed.take 6) <->
        StepsMeet (accept Sample.env) (fun st event => KeepsAgreement st.projection event)
          FoldState.initial (Sample.cancelledWhileClaimed.take 6)) := by
  have hfolds : (foldHistory Sample.env (Sample.cancelledWhileClaimed.take 6)).isSome = true := by
    decide
  rcases Option.isSome_iff_exists.mp hfolds with ⟨st, hst⟩
  exact ⟨st, hst, (waits_agree_throughout_iff hst).left⟩

/-- The claim stays open, and its node is cancelled. -/
theorem waits_disagree_after_cancel : exists projection,
    replay Sample.env Sample.scope Sample.streamId.text Sample.cancelledWhileClaimed =
        .ok projection ∧
      IsClaimed projection "node" ∧ projection.nodeStates["node"]? = some .cancelled ∧
      ¬ WaitsAgree projection := by
  have hreadable :
      Readable Sample.env Sample.scope Sample.streamId.text Sample.cancelledWhileClaimed :=
    Sample.history_readable (by decide) (by decide) (by decide) (by decide)
  rcases hreadable.replay_isOk (by decide) with ⟨projection, hreplay⟩
  have hfolds : (foldHistory Sample.env Sample.cancelledWhileClaimed).any (fun st =>
      (st.projection.openClaims[6]?.any fun claim => claim.node = "node") &&
        decide (st.projection.nodeStates["node"]? = some .cancelled)) = true := by
    decide
  rcases (Option.any_eq_true _ _).mp hfolds with ⟨st, hst, hmaps⟩
  rcases replay_eq_ok_iff.mp hreplay with ⟨_, folded, hfold, rfl⟩
  rw [hst] at hfold
  cases hfold
  simp only [Bool.and_eq_true, decide_eq_true_eq] at hmaps
  rcases hmaps with ⟨hclaim, hcancelled⟩
  rcases (Option.any_eq_true _ _).mp hclaim with ⟨claim, hopen, hnode⟩
  have hclaimed : IsClaimed st.projection "node" := ⟨6, claim, hopen, of_decide_eq_true hnode⟩
  refine ⟨st.projection, hreplay, hclaimed, hcancelled, ?_⟩
  intro hagree
  have hwaiting := hagree.claims "node" hclaimed
  rw [hcancelled] at hwaiting
  cases hwaiting

end GraphHelm
