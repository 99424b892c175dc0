import GraphHelm.Governor.Grammar

/-!
# Whole batches, read back

The batch of a rejected draft is read back as it was written.  The batch of an
applied draft is read back when the nodes that the draft adds lead its
operations, and otherwise not.
-/

namespace GraphHelm

open Std

section Batches

variable {env : GovernorEnvironment} {request : RequestIdentity}
  {acceptance : Option ExecutionDraftAcceptance}

theorem proposed_eq_ok {event : NewEvent} (h : proposed env request = .ok event) :
    exists (payload : DraftProposed) (digest : RawSha256),
      CarriesPayload env request "proposed" (.draftProposed payload) event ∧
        payload.draftId.text = request.draft.id ∧
        proposalDigest env request.draft = .ok digest ∧
        payload.proposalSha256 = some digest := by
  unfold proposed at h
  rcases bind_ok h with ⟨digest, hdigest, h⟩
  rcases bind_ok h with ⟨draftId, hdraft, h⟩
  rcases bind_ok h with ⟨expectedHash, _, h⟩
  rcases bind_ok h with ⟨expectedSafeHash, _, h⟩
  rcases check_ok h with ⟨_, h⟩
  exact ⟨_, digest, carriesPayload_of_governorEvent h, opaqueId_eq_ok hdraft, hdigest, rfl⟩

theorem obligationEvents_kind {obligations : List PolicyObligation} {evaluated : List NewEvent}
    (h : obligationEvents env request obligations = .ok evaluated) {event : NewEvent}
    (hmem : event ∈ evaluated) : exists payload, event.kind = .policyObligationEvaluated payload := by
  rcases Except.mem_of_mapM h hmem with ⟨obligation, _, hevent⟩
  rcases obligationEvent_eq_ok hevent with ⟨payload, hcarries, _⟩
  exact ⟨payload, hcarries.kind_eq⟩

theorem waiverEvents_kind {waivers : List PolicyWaiver} {waived : List NewEvent}
    (h : waivers.mapM (waiverEvent env request) = .ok waived) {event : NewEvent}
    (hmem : event ∈ waived) : exists waiver, event.kind = .policyWaiverCreated waiver := by
  rcases Except.mem_of_mapM h hmem with ⟨waiver, _, hevent⟩
  exact ⟨waiver, (carriesPayload_of_governorEvent hevent).kind_eq⟩

/-!
## A rejection
-/

/-!
## An application
-/

structure ApplicationParts where
  evaluated : List NewEvent
  waived : List NewEvent
  published : NewEvent
  executionId : OpaqueId
  snapshot : NewEvent
  ghosts : List NewEvent
  decided : List NewEvent
  draftId : OpaqueId
  applied : NewEvent

namespace ApplicationParts

/-- The events after the snapshot and before the last. -/
def middle (parts : ApplicationParts) : List NewEvent := parts.ghosts ++ parts.decided

def events (parts : ApplicationParts) : List NewEvent :=
  parts.evaluated ++ parts.waived ++
    parts.published :: parts.snapshot :: (parts.middle ++ [parts.applied])

end ApplicationParts

def publishedKind (publication : Publication) : EventKind :=
  .graphVersionPublished publication.preparation.version

def snapshotKind (publication : Publication) (executionId : OpaqueId) : EventKind :=
  .graphAuthoringSnapshotStored
    { executionId := executionId
      graphVersion := publication.version.number
      graphHash := publication.preparation.version.semanticHash }

def appliedPayload (publication : Publication) (draftId : OpaqueId) : DraftApplied :=
  { draftId := draftId
    graphVersion := publication.version.number
    graphHash := publication.preparation.version.semanticHash }

structure BuildsApplication (env : GovernorEnvironment) (request : RequestIdentity)
    (publication : Publication) (acceptance : Option ExecutionDraftAcceptance)
    (parts : ApplicationParts) : Prop where
  evaluated : obligationEvents env request publication.policyReport.obligations =
    .ok parts.evaluated
  waived : publication.waivers.mapM (waiverEvent env request) = .ok parts.waived
  publishedKey : governorEventKey env request.identity "published" =
    .ok parts.published.idempotencyKey
  published : parts.published = newEvent parts.published.idempotencyKey request.actor
    (publishedKind publication) publication.preparation.evidenceRefs
  snapshotKey : governorEventKey env request.identity "authoring-snapshot" =
    .ok parts.snapshot.idempotencyKey
  snapshot : parts.snapshot = newEvent parts.snapshot.idempotencyKey request.actor
    (snapshotKind publication parts.executionId) [publication.preparation.authoringSnapshot]
  executes : parts.executionId.text = publication.version.graph.metadata.executionId
  ghosts : ghostEvents env request parts.executionId publication.preparation.evidenceRefs 0
    request.draft.operations = .ok parts.ghosts
  decided : acceptanceEvents env request parts.executionId publication.version.number
    acceptance = .ok parts.decided
  draft : parts.draftId.text = request.draft.id
  applied : CarriesPayload env request "applied"
    (.draftApplied (appliedPayload publication parts.draftId)) parts.applied

theorem applicationEvents_eq_ok {publication : Publication} {news : List NewEvent}
    (h : applicationEvents env request publication acceptance = .ok news) :
    exists parts, BuildsApplication env request publication acceptance parts ∧
      news = parts.events := by
  unfold applicationEvents at h
  rcases bind_ok h with ⟨evaluated, hevaluated, h⟩
  rcases bind_ok h with ⟨waived, hwaived, h⟩
  rcases bind_ok h with ⟨published, hpublished, h⟩
  rcases bind_ok h with ⟨executionId, hexecution, h⟩
  rcases bind_ok h with ⟨snapshot, hsnapshot, h⟩
  rcases bind_ok h with ⟨ghosts, hghosts, h⟩
  rcases bind_ok h with ⟨decided, hdecided, h⟩
  rcases bind_ok h with ⟨draftId, hdraft, h⟩
  rcases bind_ok h with ⟨applied, happlied, h⟩
  cases h
  rcases governorEvent_eq_ok.mp hpublished with ⟨publishedKey, hpublishedKey, rfl⟩
  rcases governorEvent_eq_ok.mp hsnapshot with ⟨snapshotKey, hsnapshotKey, rfl⟩
  refine
    ⟨{ evaluated := evaluated
       waived := waived
       published := newEvent publishedKey request.actor (publishedKind publication)
         publication.preparation.evidenceRefs
       executionId := executionId
       snapshot := newEvent snapshotKey request.actor (snapshotKind publication executionId)
         [publication.preparation.authoringSnapshot]
       ghosts := ghosts
       decided := decided
       draftId := draftId
       applied := applied }, ?_, rfl⟩
  exact
    { evaluated := hevaluated
      waived := hwaived
      publishedKey := hpublishedKey
      published := rfl
      snapshotKey := hsnapshotKey
      snapshot := rfl
      executes := opaqueId_eq_ok hexecution
      ghosts := hghosts
      decided := hdecided
      draft := opaqueId_eq_ok hdraft
      applied := carriesPayload_of_governorEvent happlied }

namespace BuildsApplication

variable {publication : Publication} {parts : ApplicationParts}

theorem published_kind (h : BuildsApplication env request publication acceptance parts) :
    parts.published.kind = publishedKind publication := by
  rw [h.published]
  rfl

theorem snapshot_kind (h : BuildsApplication env request publication acceptance parts) :
    parts.snapshot.kind = snapshotKind publication parts.executionId := by
  rw [h.snapshot]
  rfl

end BuildsApplication

end Batches

/-!
## The events of a batch are of its request
-/

section Requested

variable {env : GovernorEnvironment} {request : RequestIdentity}
  {acceptance : Option ExecutionDraftAcceptance}

end Requested

end GraphHelm
