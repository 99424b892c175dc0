import GraphHelm.Execution.Transition
import GraphHelm.Governor.Policy

/-!
# The events of a governed draft

How `core/governor/src/apply.rs` identifies a request, derives a key for each of
its events, and builds the batch that rejects or applies the draft.
-/

namespace GraphHelm

open Std

/-!
## Errors
-/

inductive ApplyError where
  | staleVersion
  | staleHash
  | invalidOperation
  | structuralImpossible
  | overrideRequired
  | invalidWaiver
  | repository (error : EventRepositoryError)
  | governor (error : GovernorError)
  | graph (error : GraphError)
deriving DecidableEq

def EventRepositoryError.code : EventRepositoryError -> String
  | .sequenceConflict => "GHE001_SEQUENCE_CONFLICT"
  | .idempotencyConflict => "GHE003_IDEMPOTENCY_CONFLICT"
  | .integrity => "GHE005_INTEGRITY_FAILURE"
  | .corruptBatch => "GHE002_CORRUPT_BATCH"
  | .watermarkMismatch => "GHPROJ001_WATERMARK_MISMATCH"
  | .limitExceeded => "GHE006_LIMIT_EXCEEDED"
  | .unsupportedFormat => "GHE007_UNSUPPORTED_FORMAT"
  | .invalid => "GHE004_INVALID_EVENT"
  | .unsafePersistence => "GHE009_EXTERNALIZATION_FAILED"
  | .streamSelectionRequired => "GHE010_STREAM_SELECTION_REQUIRED"
  | .storage => "GHE008_STORAGE_FAILURE"
  | .readBudgetExceeded _ _ => "GHE013_READ_BUDGET_EXCEEDED"

def GovernorError.code : GovernorError -> String
  | .invalidAuthoring | .sealingFailed => "GHE009_EXTERNALIZATION_FAILED"
  | .invalidProjection => "GHE005_INTEGRITY_FAILURE"
  | .limitExceeded => "GHE006_LIMIT_EXCEEDED"

namespace ApplyError

def code : ApplyError -> String
  | .staleVersion => "GHD001_STALE_VERSION"
  | .staleHash => "GHD002_STALE_HASH"
  | .invalidOperation => "GHD003_OPERATION_INVALID"
  | .structuralImpossible | .invalidWaiver => "GHP001_STRUCTURAL_IMPOSSIBILITY"
  | .overrideRequired => "GHP002_OVERRIDE_REQUIRED"
  | .repository error => error.code
  | .governor error => error.code
  | .graph _ => "GHD003_OPERATION_INVALID"

def reasonCode : ApplyError -> SafeCode
  | .staleVersion => "stale_version"
  | .staleHash => "stale_hash"
  | .invalidOperation => "invalid_operation"
  | .structuralImpossible => "structural_impossible"
  | .overrideRequired => "override_required"
  | .invalidWaiver => "invalid_waiver"
  | .repository _ => "repository_failure"
  | .governor _ => "projection_failure"
  | .graph _ => "graph_failure"

end ApplyError

/-- `safe_diagnostic`; every code it is given passes the parser of codes. -/
def safeDiagnostic (code : String) : PersistedDiagnostic :=
  { code := code
    severity := .error
    path := ""
    component := .governor
    sourceContentSha256 := none
    detailEvidenceId := none }

/-!
## Services
-/

structure ProjectionPreparation where
  version : PersistedGraphVersion
  evidenceRefs : List EvidenceReference
  authoringSnapshot : EvidenceReference

/-- A `GraphExternalizer`, which names the snapshot it seals after the version it is of. -/
structure GraphExternalizer where
  prepareWithPredecessor : RepositoryScope -> GraphVersion -> PersistedPredecessor ->
    Except GovernorError ProjectionPreparation
  snapshotNamed : forall {scope version predecessor preparation},
    prepareWithPredecessor scope version predecessor = .ok preparation ->
    (authoringSnapshotPrefix version.number).isPrefixOf
      preparation.authoringSnapshot.evidenceId.text.toList = true

/-- Who applies a draft, and to which stream. -/
structure ApplyServices where
  scope : RepositoryScope
  streamId : OpaqueId
  actor : Actor

structure ApplyCall where
  /-- The instants the clock shows, one reading after the other. -/
  clock : Nat -> Int
  waiverId : Nat -> String
  externalizer : GraphExternalizer
  stamps : Stamps

/-- The owner's acceptance; its assignments are the entries of a map, in its order. -/
structure ExecutionDraftAcceptance where
  draftId : OpaqueId
  mode : ExecutionMode
  proposalSha256 : RawSha256
  assignments : List (OpaqueId × PersistedActor)
  decisionKey : Option OpaqueId
  decisionNode : Option OpaqueId
  distinct : (assignments.map Prod.fst).Nodup

/-!
## Identity and keys
-/

/-- The four bytes of a `u32`, most significant first. -/
def toBeBytes32 (value : Nat) : List UInt8 :=
  [24, 16, 8, 0].map fun shift => UInt8.ofNat (value >>> shift)

def pushIdentityPart (part : List UInt8) : Option (List UInt8) :=
  if part.length <= u32Max then some (toBeBytes32 part.length ++ part) else none

/-- The parts of a digest's input, one after the other. -/
def identityMaterial (parts : List (List UInt8)) : Option (List UInt8) :=
  (parts.mapM pushIdentityPart).map List.flatten

def actorTypeName : PersistedActorType -> String
  | .owner => "owner"
  | .human => "human"
  | .agent => "agent"
  | .system => "system"

def governorRequestIdentity (env : GovernorEnvironment) (services : ApplyServices)
    (base : GraphVersion) (draft : GraphDraft) : Except ApplyError WireHash := do
  let draftBytes <- orRefuse (env.draftJson draft) .invalidOperation
  let material <-
    orRefuse
      (identityMaterial
        [utf8 "graphhelm-governor-request-v1",
          utf8 services.scope.workspaceId.text,
          utf8 services.scope.projectId.text,
          utf8 ((services.scope.executionId.map OpaqueId.text).getD ""),
          utf8 services.streamId.text,
          utf8 base.contentHash,
          utf8 services.actor.id,
          utf8 (actorTypeName services.actor.actorType),
          draftBytes]) .invalidOperation
  let digest <-
    orRefuse (env.rawContentSha256 (material ++ toBeBytes base.number)) .invalidOperation
  orRefuse (parseWireHash s!"sha256:{digest}") .invalidOperation

def governorEventKey (env : GovernorEnvironment) (identity : WireHash) (purpose : String) :
    Except ApplyError OpaqueId := do
  let material <-
    orRefuse
      (identityMaterial
        [utf8 "graphhelm-governor-event-key-v1", utf8 identity, utf8 purpose]) .invalidOperation
  let digest <- orRefuse (env.rawContentSha256 material) .invalidOperation
  orRefuse (OpaqueId.parse s!"gov-{digest}") .invalidOperation

def opaqueId (value : String) : Except ApplyError OpaqueId :=
  orRefuse (OpaqueId.parse value) .invalidOperation

def persistedActor (actor : Actor) : Except ApplyError PersistedActor := do
  let id <- orRefuse (parseActorId actor.id) .invalidOperation
  .ok { actorType := actor.actorType, id := id }

def proposalDigest (env : GovernorEnvironment) (draft : GraphDraft) :
    Except ApplyError RawSha256 := do
  let draftBytes <- orRefuse (env.draftJson draft) .invalidOperation
  orRefuse (env.rawContentSha256 draftBytes) .invalidOperation

/-!
## Events
-/

def newEvent (key : OpaqueId) (actor : PersistedActor) (kind : EventKind)
    (evidenceRefs : List EvidenceReference) : NewEvent :=
  { idempotencyKey := key
    actor := actor
    sensitivity := .internal
    kind := kind
    evidenceRefs := evidenceRefs
    artifactRefs := [] }

/-- What every event of a request is made with. -/
structure RequestIdentity where
  identity : WireHash
  actor : PersistedActor
  draft : GraphDraft

section Events

variable (env : GovernorEnvironment) (request : RequestIdentity)

def governorEvent (purpose : String) (kind : EventKind)
    (evidenceRefs : List EvidenceReference) : Except ApplyError NewEvent := do
  let key <- governorEventKey env request.identity purpose
  .ok (newEvent key request.actor kind evidenceRefs)

def parseExpected (hash : Option String) : Except ApplyError (Option WireHash) :=
  match hash with
  | none => .ok none
  | some text => do
      let parsed <- orRefuse (parseWireHash text) .invalidOperation
      .ok (some parsed)

def u16Max : Nat := 65535

def proposed : Except ApplyError NewEvent := do
  let digest <- proposalDigest env request.draft
  let draftId <- opaqueId request.draft.id
  let expectedHash <- parseExpected request.draft.expectedHash
  let expectedSafeHash <- parseExpected request.draft.expectedSafeHash
  check (decide (request.draft.operations.length <= u16Max)) .invalidOperation
  governorEvent env request "proposed"
    (.draftProposed
      { draftId := draftId
        expectedVersion := request.draft.expectedVersion
        expectedHash := expectedHash
        expectedSafeHash := expectedSafeHash
        operationCount := request.draft.operations.length
        proposalSha256 := some digest }) []

def persistedStatus : ObligationStatus -> PersistedObligationStatus
  | .satisfied => .satisfied
  | .unsatisfied => .unsatisfied
  | .waived => .waived
  | .impossible => .impossible

def statusReason : PersistedObligationStatus -> SafeCode
  | .satisfied => "satisfied"
  | .unsatisfied => "unsatisfied"
  | .waived => "waived"
  | .impossible => "impossible"

def obligationPayload (obligation : PolicyObligation) :
    Except ApplyError PolicyObligationEvaluated := do
  let draftId <- opaqueId request.draft.id
  let requirementId <- opaqueId obligation.requirement
  .ok
    { draftId := draftId
      requirementId := requirementId
      status := persistedStatus obligation.status
      evidenceIds := []
      reasonCode := statusReason (persistedStatus obligation.status)
      overrideable := obligation.overrideable }

def obligationEvent (obligation : PolicyObligation) : Except ApplyError NewEvent := do
  let payload <- obligationPayload request obligation
  governorEvent env request s!"obligation:{obligation.requirement}"
    (.policyObligationEvaluated payload) []

def obligationEvents (obligations : List PolicyObligation) :
    Except ApplyError (List NewEvent) :=
  obligations.mapM (obligationEvent env request)

def rejectionEvents (obligations : List PolicyObligation) (error : ApplyError) :
    Except ApplyError (List NewEvent) := do
  let proposal <- proposed env request
  let evaluated <- obligationEvents env request obligations
  let draftId <- opaqueId request.draft.id
  let rejected <-
    governorEvent env request s!"rejected:{error.reasonCode}"
      (.draftRejected
        { draftId := draftId
          reasonCode := error.reasonCode
          diagnostics := [safeDiagnostic error.code]
          detailEvidenceId := none }) []
  .ok (proposal :: (evaluated ++ [rejected]))

def waiverEvent (waiver : PolicyWaiver) : Except ApplyError NewEvent :=
  governorEvent env request s!"waiver:{waiver.requirement}" (.policyWaiverCreated waiver) []

def ghostEvents (executionId : OpaqueId) (evidenceRefs : List EvidenceReference) :
    Nat -> List DraftOperation -> Except ApplyError (List NewEvent)
  | _, [] => .ok []
  | index, operation :: rest =>
      match operation.addedNode with
      | none => ghostEvents executionId evidenceRefs (index + 1) rest
      | some id => do
          let nodeId <- opaqueId id
          let draftId <- opaqueId request.draft.id
          let ghost <-
            governorEvent env request s!"ghost:{index}"
              (.ghostNodeProposed
                { executionId := executionId
                  nodeId := nodeId
                  draftId := draftId }) evidenceRefs
          let more <- ghostEvents executionId evidenceRefs (index + 1) rest
          .ok (ghost :: more)

def approvalKey (acceptance : Option ExecutionDraftAcceptance) (nodeId : OpaqueId) :
    Except ApplyError OpaqueId := do
  let derived <- governorEventKey env request.identity s!"approval:{nodeId.text}"
  let given : Option OpaqueId := do
    let value <- acceptance
    if value.decisionNode = some nodeId then value.decisionKey else none
  .ok (given.getD derived)

def decisionEvents (acceptance : ExecutionDraftAcceptance) (executionId : OpaqueId)
    (entry : OpaqueId × PersistedActor) : Except ApplyError (List NewEvent) := do
  let nextState <-
    orRefuse
      (applyTransition
        { current := .ghost, outcome := .approved, attempts := 0, identicalOutcomes := 0 })
      .invalidOperation
  let assigned <-
    governorEvent env request s!"assignment:{entry.1.text}"
      (.nodeAssigned
        { executionId := executionId
          nodeId := entry.1
          assignedActor := entry.2
          proposalSha256 := acceptance.proposalSha256 }) []
  let key <- approvalKey env request (some acceptance) entry.1
  .ok
    [assigned,
      newEvent key request.actor
        (.nodeOutcomeRecorded
          { executionId := executionId
            nodeId := entry.1
            outcome := .approved
            nextState := nextState
            cause := "" }) []]

def acceptanceEvents (executionId : OpaqueId) (graphVersion : Nat) :
    Option ExecutionDraftAcceptance -> Except ApplyError (List NewEvent)
  | none => .ok []
  | some acceptance => do
      let decisions <- acceptance.assignments.mapM (decisionEvents env request acceptance executionId)
      let draftId <- opaqueId request.draft.id
      let accepted <-
        governorEvent env request "accepted"
          (.mutationAccepted
            { executionId := executionId
              draftId := draftId
              mode := acceptance.mode
              graphVersion := graphVersion }) []
      .ok (decisions.flatten ++ [accepted])

/-- What is published when a draft is applied. -/
structure Publication where
  version : GraphVersion
  waivers : List PolicyWaiver
  policyReport : PolicyReport
  preparation : ProjectionPreparation

def applicationEvents (publication : Publication)
    (acceptance : Option ExecutionDraftAcceptance) : Except ApplyError (List NewEvent) := do
  let preparation := publication.preparation
  let number := publication.version.number
  let evaluated <- obligationEvents env request publication.policyReport.obligations
  let waived <- publication.waivers.mapM (waiverEvent env request)
  let published <-
    governorEvent env request "published" (.graphVersionPublished preparation.version)
      preparation.evidenceRefs
  let executionId <- opaqueId publication.version.graph.metadata.executionId
  let snapshot <-
    governorEvent env request "authoring-snapshot"
      (.graphAuthoringSnapshotStored
        { executionId := executionId
          graphVersion := number
          graphHash := preparation.version.semanticHash }) [preparation.authoringSnapshot]
  let ghosts <-
    ghostEvents env request executionId preparation.evidenceRefs 0 request.draft.operations
  let decided <- acceptanceEvents env request executionId number acceptance
  let draftId <- opaqueId request.draft.id
  let applied <-
    governorEvent env request "applied"
      (.draftApplied
        { draftId := draftId
          graphVersion := number
          graphHash := preparation.version.semanticHash }) []
  .ok (evaluated ++ waived ++ published :: snapshot :: (ghosts ++ decided ++ [applied]))

end Events

/-!
## Waivers
-/

def waiversFrom (env : GovernorEnvironment) (services : ApplyServices) (call : ApplyCall)
    (candidate : ExecutionGraph) (request : ManualOverride) :
    Nat -> List PolicyObligation -> Except ApplyError (List PolicyWaiver)
  | _, [] => .ok []
  | index, obligation :: rest => do
      let waiver : PolicyWaiver :=
        { id := call.waiverId index
          requirement := obligation.requirement
          executionId := candidate.metadata.executionId
          graphVersion := candidate.metadata.version
          actor := services.actor.id
          reason := some request.reason
          acknowledgedRisks := request.acknowledgedRisks
          scope := request.scope
          createdAt := call.clock index
          expiresAt := none }
      check (env.validateWaiver waiver) .invalidWaiver
      let more <- waiversFrom env services call candidate request (index + 1) rest
      .ok (waiver :: more)

def createWaivers (env : GovernorEnvironment) (services : ApplyServices) (call : ApplyCall)
    (candidate : ExecutionGraph) (manualOverride : Option ManualOverride)
    (report : PolicyReport) : Except ApplyError (List PolicyWaiver) :=
  match manualOverride with
  | none => .ok []
  | some request =>
      waiversFrom env services call candidate request 0 (report.obligations.filter isWaived)

end GraphHelm
