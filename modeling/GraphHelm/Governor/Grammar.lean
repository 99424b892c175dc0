import GraphHelm.Governor.Applying

/-!
# What the grammar reads back

The builders of a batch and the grammar of its recovery are two descriptions of
one format.  Each part that a builder writes is read back here, whatever follows
it.
-/

namespace GraphHelm

open Std

/-!
## The events a batch is built of
-/

variable {event : NewEvent}

section Built

variable {env : GovernorEnvironment} {request : RequestIdentity}

theorem governorEvent_eq_ok {purpose : String} {kind : EventKind}
    {refs : List EvidenceReference} :
    governorEvent env request purpose kind refs = .ok event <->
      exists key, governorEventKey env request.identity purpose = .ok key ∧
        event = newEvent key request.actor kind refs := by
  unfold governorEvent
  rw [Except.bind_eq_ok]
  constructor
  · rintro ⟨key, hkey, h⟩
    cases h
    exact ⟨key, hkey, rfl⟩
  · rintro ⟨key, hkey, h⟩
    exact ⟨key, hkey, h ▸ rfl⟩

/-- An event of the request under the key of `purpose`, with no references. -/
structure CarriesPayload (env : GovernorEnvironment) (request : RequestIdentity)
    (purpose : String) (kind : EventKind) (event : NewEvent) : Prop where
  keyed : governorEventKey env request.identity purpose = .ok event.idempotencyKey
  shaped : event = newEvent event.idempotencyKey request.actor kind []

theorem carriesPayload_of_governorEvent {purpose : String} {kind : EventKind}
    (h : governorEvent env request purpose kind [] = .ok event) :
    CarriesPayload env request purpose kind event := by
  rcases governorEvent_eq_ok.mp h with ⟨key, hkey, rfl⟩
  exact
    { keyed := hkey
      shaped := rfl }

theorem CarriesPayload.kind_eq {purpose : String} {kind : EventKind}
    (h : CarriesPayload env request purpose kind event) : event.kind = kind := by
  rw [h.shaped]
  rfl

theorem opaqueId_eq_ok {value : String} {id : OpaqueId} (h : opaqueId value = .ok id) :
    id.text = value :=
  OpaqueId.text_of_parse (orRefuse_eq_ok.mp h)

theorem obligationEvent_eq_ok {obligation : PolicyObligation}
    (h : obligationEvent env request obligation = .ok event) :
    exists payload : PolicyObligationEvaluated,
      CarriesPayload env request s!"obligation:{payload.requirementId.text}"
        (.policyObligationEvaluated payload) event ∧
      payload.draftId.text = request.draft.id ∧
      payload.reasonCode = statusReason payload.status ∧ payload.evidenceIds = [] := by
  unfold obligationEvent at h
  rcases bind_ok h with ⟨payload, hpayload, h⟩
  unfold obligationPayload at hpayload
  rcases bind_ok hpayload with ⟨draftId, hdraft, hpayload⟩
  rcases bind_ok hpayload with ⟨requirementId, hrequirement, hpayload⟩
  cases hpayload
  have hnamed : requirementId.text = obligation.requirement := opaqueId_eq_ok hrequirement
  rw [← hnamed] at h
  refine
    ⟨{ draftId := draftId
       requirementId := requirementId
       status := persistedStatus obligation.status
       evidenceIds := []
       reasonCode := statusReason (persistedStatus obligation.status)
       overrideable := obligation.overrideable }, ?_, opaqueId_eq_ok hdraft, rfl, rfl⟩
  exact carriesPayload_of_governorEvent h

end Built

/-!
## Reading obligations and waivers back
-/

section TakeKeyed

variable {env : GovernorEnvironment} {request : RequestIdentity} {α ι : Type} [DecidableEq ι]
  {payload : NewEvent -> Option α} {purpose : α -> String} {mark : α -> ι} {stands : α -> Bool}

end TakeKeyed

section Evaluated

variable {env : GovernorEnvironment} {request : RequestIdentity}

theorem createdWaivers_of_events {waivers : List PolicyWaiver} {waived : List NewEvent}
    (h : waivers.mapM (waiverEvent env request) = .ok waived) :
    waived.filterMap createdWaiver = waivers := by
  induction Except.mapM_eq_ok.mp h with
  | nil =>
      rfl
  | cons hevent hrest ih =>
      rename_i waiver event waivers waived
      have hcreated : createdWaiver event = some waiver := by
        unfold createdWaiver
        rw [(carriesPayload_of_governorEvent hevent).kind_eq]
      rw [List.filterMap_cons_some hcreated, ih (Except.mapM_eq_ok.mpr hrest)]

end Evaluated

/-!
## Reading ghosts back

A ghost is written under the index of its operation and looked for under its
place among the ghosts.
-/

section Ghosts

variable {env : GovernorEnvironment} {request : RequestIdentity} {executionId : OpaqueId}
  {refs : List EvidenceReference}

theorem ghostEvents_cons {index : Nat} {operation : DraftOperation} {id : String}
    {rest : List DraftOperation} {ghosts : List NewEvent}
    (hadded : operation.addedNode = some id)
    (h : ghostEvents env request executionId refs index (operation :: rest) = .ok ghosts) :
    exists (key : OpaqueId) (payload : GhostNodeProposed) (more : List NewEvent),
      governorEventKey env request.identity s!"ghost:{index}" = .ok key ∧
        payload.nodeId.text = id ∧ payload.draftId.text = request.draft.id ∧
        payload.executionId = executionId ∧
        ghosts = newEvent key request.actor (.ghostNodeProposed payload) refs :: more ∧
        ghostEvents env request executionId refs (index + 1) rest = .ok more := by
  unfold ghostEvents at h
  rw [hadded] at h
  rcases bind_ok h with ⟨nodeId, hnode, h⟩
  rcases bind_ok h with ⟨draftId, hdraft, h⟩
  rcases bind_ok h with ⟨ghost, hghost, h⟩
  rcases bind_ok h with ⟨more, hmore, h⟩
  cases h
  rcases governorEvent_eq_ok.mp hghost with ⟨key, hkey, hshape⟩
  refine
    ⟨key,
      { executionId := executionId
        nodeId := nodeId
        draftId := draftId }, more, hkey, opaqueId_eq_ok hnode, opaqueId_eq_ok hdraft, rfl, ?_,
      hmore⟩
  rw [hshape]

theorem ghostEvents_skip {index : Nat} {operation : DraftOperation}
    {rest : List DraftOperation} (hadded : operation.addedNode = none) :
    ghostEvents env request executionId refs index (operation :: rest) =
      ghostEvents env request executionId refs (index + 1) rest := by
  rw [ghostEvents, hadded]

end Ghosts

/-!
## Reading an acceptance back
-/

section Decisions

variable {env : GovernorEnvironment} {request : RequestIdentity} {executionId : OpaqueId}
  {acceptance : ExecutionDraftAcceptance}

def assignmentKind (acceptance : ExecutionDraftAcceptance) (executionId : OpaqueId)
    (entry : OpaqueId × PersistedActor) : EventKind :=
  .nodeAssigned
    { executionId := executionId
      nodeId := entry.1
      assignedActor := entry.2
      proposalSha256 := acceptance.proposalSha256 }

def approvalKind (executionId nodeId : OpaqueId) : EventKind :=
  .nodeOutcomeRecorded
    { executionId := executionId
      nodeId := nodeId
      outcome := .approved
      nextState := .ready
      cause := "" }

theorem decisionEvents_eq_ok {entry : OpaqueId × PersistedActor} {events : List NewEvent}
    (h : decisionEvents env request acceptance executionId entry = .ok events) :
    exists assignedKey approvedKey,
      governorEventKey env request.identity s!"assignment:{entry.1.text}" = .ok assignedKey ∧
        approvalKey env request (some acceptance) entry.1 = .ok approvedKey ∧
        events =
          [newEvent assignedKey request.actor (assignmentKind acceptance executionId entry) [],
            newEvent approvedKey request.actor (approvalKind executionId entry.1) []] := by
  unfold decisionEvents at h
  rcases bind_ok h with ⟨nextState, hnext, h⟩
  rcases bind_ok h with ⟨assigned, hassigned, h⟩
  rcases bind_ok h with ⟨approvedKey, happroved, h⟩
  rcases governorEvent_eq_ok.mp hassigned with ⟨assignedKey, hkey, hshape⟩
  have hready : nextState = .ready := by
    have hsome := orRefuse_eq_ok.mp hnext
    cases hsome
    rfl
  cases h
  refine ⟨assignedKey, approvedKey, hkey, happroved, ?_⟩
  rw [hshape, hready]
  rfl

theorem acceptanceEvents_eq_ok {number : Nat} {events : List NewEvent}
    (h : acceptanceEvents env request executionId number (some acceptance) = .ok events) :
    exists (decisions : List (List NewEvent)) (key : OpaqueId) (payload : MutationAccepted),
      acceptance.assignments.mapM (decisionEvents env request acceptance executionId) =
          .ok decisions ∧
        governorEventKey env request.identity "accepted" = .ok key ∧
        payload.executionId = executionId ∧ payload.draftId.text = request.draft.id ∧
        payload.mode = acceptance.mode ∧ payload.graphVersion = number ∧
        events = decisions.flatten ++ [newEvent key request.actor (.mutationAccepted payload) []] := by
  unfold acceptanceEvents at h
  rcases bind_ok h with ⟨decisions, hdecisions, h⟩
  rcases bind_ok h with ⟨draftId, hdraft, h⟩
  rcases bind_ok h with ⟨accepted, haccepted, h⟩
  rcases governorEvent_eq_ok.mp haccepted with ⟨key, hkey, hshape⟩
  cases h
  refine
    ⟨decisions, key,
      { executionId := executionId
        draftId := draftId
        mode := acceptance.mode
        graphVersion := number }, hdecisions, hkey, rfl, opaqueId_eq_ok hdraft, rfl, rfl, ?_⟩
  rw [hshape]

theorem decisions_kinds {decisions : List (List NewEvent)}
    (h : acceptance.assignments.mapM (decisionEvents env request acceptance executionId) =
      .ok decisions) (hmem : event ∈ decisions.flatten) :
    exists entry, entry ∈ acceptance.assignments ∧
      ((event.kind = assignmentKind acceptance executionId entry ∧
          governorEventKey env request.identity s!"assignment:{entry.1.text}" =
            .ok event.idempotencyKey) ∨
        (event.kind = approvalKind executionId entry.1 ∧
          approvalKey env request (some acceptance) entry.1 = .ok event.idempotencyKey)) := by
  rcases List.mem_flatten.mp hmem with ⟨events, hevents, hmem⟩
  rcases Except.mem_of_mapM h hevents with ⟨entry, hentry, hpair⟩
  rcases decisionEvents_eq_ok hpair with ⟨assignedKey, approvedKey, hassigned, happroved, rfl⟩
  refine ⟨entry, hentry, ?_⟩
  rcases List.mem_cons.mp hmem with rfl | hmem
  · exact Or.inl (And.intro rfl hassigned)
  · rcases List.mem_singleton.mp hmem with rfl
    exact Or.inr (And.intro rfl happroved)

end Decisions

end GraphHelm
