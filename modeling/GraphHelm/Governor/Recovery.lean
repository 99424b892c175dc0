import GraphHelm.Governor.Requests

/-!
# Recovering a committed draft

What `core/governor/src/apply.rs` makes of a batch that was committed under a
request it is asked to apply again: a grammar over the events of the batch, and
the answer of the first call derived anew from the base and the draft.
-/

namespace GraphHelm

open Std

inductive CommittedTerminal where
  | rejected (payload : DraftRejected)
  | applied (published : PersistedGraphVersion) (payload : DraftApplied)

structure CommittedOutcome where
  obligations : List PolicyObligationEvaluated
  waivers : List PolicyWaiver
  terminal : CommittedTerminal

structure ApplyResult where
  version : GraphVersion
  waivers : List PolicyWaiver
  events : List EventEnvelope
  policyReport : PolicyReport

def invalidCommittedOutcome : ApplyError := .governor .invalidProjection

/-!
## The grammar

An event is compared through the request fields of its envelope; the scope and
the stream of every envelope are compared apart.
-/

/-- The proposal as it was recorded before proposals carried their digest. -/
def legacyProposal (expected : NewEvent) : NewEvent :=
  match expected.kind with
  | .draftProposed payload =>
      { expected with kind := .draftProposed { payload with proposalSha256 := none } }
  | _ => expected

def isLegacyProposal (event : NewEvent) : Bool :=
  match event.kind with
  | .draftProposed payload => payload.proposalSha256.isNone
  | _ => false

def evaluatedObligation (event : NewEvent) : Option PolicyObligationEvaluated :=
  match event.kind with
  | .policyObligationEvaluated payload => some payload
  | _ => none

def createdWaiver (event : NewEvent) : Option PolicyWaiver :=
  match event.kind with
  | .policyWaiverCreated waiver => some waiver
  | _ => none

def isMutationAccepted (event : NewEvent) : Bool :=
  match event.kind with
  | .mutationAccepted _ => true
  | _ => false

section Grammar

variable (env : GovernorEnvironment) (request : RequestIdentity)

def afterProposal (expected : NewEvent) : List NewEvent -> Except ApplyError (List NewEvent)
  | [] => .error invalidCommittedOutcome
  | first :: rest =>
      if first = expected || (isLegacyProposal first && first = legacyProposal expected) then
        .ok rest
      else if (evaluatedObligation first).isSome then
        .ok (first :: rest)
      else
        .error invalidCommittedOutcome

def takeKeyed {α ι : Type} [DecidableEq ι] (payload : NewEvent -> Option α)
    (purpose : α -> String) (mark : α -> ι) (stands : α -> Bool) :
    List ι -> List NewEvent -> Except ApplyError (List α × List NewEvent)
  | _, [] => .ok ([], [])
  | seen, event :: rest =>
      match payload event with
      | some found => do
          let key <- governorEventKey env request.identity (purpose found)
          check
            (stands found && event.idempotencyKey = key && event.evidenceRefs.isEmpty &&
              event.artifactRefs.isEmpty && !seen.contains (mark found))
            invalidCommittedOutcome
          let (more, tail) <- takeKeyed payload purpose mark stands (mark found :: seen) rest
          .ok (found :: more, tail)
      | none => .ok ([], event :: rest)

def takeObligations :
    List NewEvent -> Except ApplyError (List PolicyObligationEvaluated × List NewEvent) :=
  takeKeyed env request evaluatedObligation
    (fun payload => s!"obligation:{payload.requirementId.text}")
    PolicyObligationEvaluated.requirementId
    (fun payload =>
      payload.draftId.text = request.draft.id &&
        payload.reasonCode = statusReason payload.status && payload.evidenceIds.isEmpty) []

def takeWaivers : List NewEvent -> Except ApplyError (List PolicyWaiver × List NewEvent) :=
  takeKeyed env request createdWaiver (fun waiver => s!"waiver:{waiver.requirement}")
    PolicyWaiver.requirement (fun _ => true) []

def ghostStands (index : Nat) (event : NewEvent) (payload : GhostNodeProposed) :
    Except ApplyError Unit := do
  let key <- governorEventKey env request.identity s!"ghost:{index}"
  check (event.idempotencyKey = key && payload.draftId.text = request.draft.id)
    invalidCommittedOutcome

/-- Ghosts before the publication, which the governor does not write. -/
def skipGhosts : Nat -> List NewEvent -> Except ApplyError (List NewEvent)
  | _, [] => .ok []
  | index, event :: rest =>
      match event.kind with
      | .ghostNodeProposed payload => do
          ghostStands env request index event payload
          skipGhosts (index + 1) rest
      | _ => .ok (event :: rest)

def atomicEvents : Nat -> List NewEvent -> Except ApplyError (List NewEvent)
  | _, [] => .ok []
  | index, event :: rest =>
      match event.kind with
      | .ghostNodeProposed payload => do
          ghostStands env request index event payload
          atomicEvents (index + 1) rest
      | _ => do
          let more <- atomicEvents (index + 1) rest
          .ok (event :: more)

/-- The nodes a committed acceptance has assigned and approved so far. -/
structure DecisionsSeen where
  assigned : List OpaqueId
  outcomes : List OpaqueId

def readDecision (acceptance : Option ExecutionDraftAcceptance) (digest : RawSha256)
    (applied : DraftApplied) (seen : DecisionsSeen) (event : NewEvent) :
    Except ApplyError DecisionsSeen :=
  match event.kind with
  | .nodeAssigned payload => do
      let key <- governorEventKey env request.identity s!"assignment:{payload.nodeId.text}"
      check
        (payload.proposalSha256 = digest && event.idempotencyKey = key &&
          payload.assignedActor.actorType = .agent &&
          request.draft.proposedNodes.contains payload.nodeId.text &&
          !seen.assigned.contains payload.nodeId) invalidCommittedOutcome
      .ok { seen with assigned := payload.nodeId :: seen.assigned }
  | .nodeOutcomeRecorded payload => do
      let key <- approvalKey env request acceptance payload.nodeId
      check
        (payload.outcome = .approved && payload.nextState = .ready &&
          !env.causeNamed payload.cause && event.idempotencyKey = key &&
          seen.assigned.contains payload.nodeId && !seen.outcomes.contains payload.nodeId)
        invalidCommittedOutcome
      .ok { seen with outcomes := payload.nodeId :: seen.outcomes }
  | .mutationAccepted payload => do
      let key <- governorEventKey env request.identity "accepted"
      check
        (payload.draftId.text = request.draft.id &&
          payload.graphVersion = applied.graphVersion && event.idempotencyKey = key)
        invalidCommittedOutcome
      .ok seen
  | _ => .error invalidCommittedOutcome

def readDecisions (acceptance : Option ExecutionDraftAcceptance) (applied : DraftApplied)
    (atomic : List NewEvent) : Except ApplyError Unit :=
  if atomic.isEmpty then
    .ok ()
  else do
    let digest <- proposalDigest env request.draft
    let seen <-
      atomic.foldlM (readDecision env request acceptance digest applied)
        { assigned := [], outcomes := [] }
    check
      (seen.assigned.length = seen.outcomes.length &&
        (atomic.filter isMutationAccepted).length = 1) invalidCommittedOutcome

/-- What follows the snapshot, which a batch with a legacy proposal may lack. -/
def afterSnapshot (legacy : Bool) (applied : DraftApplied) :
    List NewEvent -> Except ApplyError (List NewEvent)
  | [] => .error invalidCommittedOutcome
  | first :: rest =>
      match first.kind with
      | .graphAuthoringSnapshotStored payload => do
          let key <- governorEventKey env request.identity "authoring-snapshot"
          check
            (first.idempotencyKey = key && payload.graphVersion = applied.graphVersion &&
              first.evidenceRefs.length = 1) invalidCommittedOutcome
          .ok rest
      | .ghostNodeProposed _ =>
          if legacy then .ok (first :: rest) else .error invalidCommittedOutcome
      | _ => .error invalidCommittedOutcome

def readRejection (waivers : List PolicyWaiver) (rejected : NewEvent) :
    Except ApplyError CommittedTerminal :=
  match rejected.kind with
  | .draftRejected payload => do
      let key <- governorEventKey env request.identity s!"rejected:{payload.reasonCode}"
      check
        (rejected.idempotencyKey = key && rejected.evidenceRefs.isEmpty &&
          rejected.artifactRefs.isEmpty && waivers.isEmpty) invalidCommittedOutcome
      .ok (.rejected payload)
  | _ => .error invalidCommittedOutcome

def readApplication (acceptance : Option ExecutionDraftAcceptance) (legacy : Bool)
    (published : NewEvent) (middle : List NewEvent) (applied : NewEvent) :
    Except ApplyError CommittedTerminal :=
  match published.kind, applied.kind with
  | .graphVersionPublished version, .draftApplied payload => do
      let ghosts <- afterSnapshot env request legacy payload middle
      let atomic <- atomicEvents env request 0 ghosts
      readDecisions env request acceptance payload atomic
      let publishedKey <- governorEventKey env request.identity "published"
      let appliedKey <- governorEventKey env request.identity "applied"
      check
        (published.idempotencyKey = publishedKey && applied.idempotencyKey = appliedKey &&
          applied.evidenceRefs.isEmpty && published.artifactRefs.isEmpty &&
          applied.artifactRefs.isEmpty) invalidCommittedOutcome
      .ok (.applied version payload)
  | _, _ => .error invalidCommittedOutcome

def readTerminal (acceptance : Option ExecutionDraftAcceptance) (legacy : Bool)
    (waivers : List PolicyWaiver) : List NewEvent -> Except ApplyError CommittedTerminal
  | [] => .error invalidCommittedOutcome
  | [rejected] => readRejection env request waivers rejected
  | published :: second :: rest =>
      readApplication env request acceptance legacy published (second :: rest).dropLast
        ((second :: rest).getLast (List.cons_ne_nil second rest))

def readOutcome (acceptance : Option ExecutionDraftAcceptance) (events : List NewEvent) :
    Except ApplyError CommittedOutcome := do
  let expected <- proposed env request
  let evaluated <- afterProposal expected events
  let (obligations, waived) <- takeObligations env request evaluated
  let (waivers, ghosts) <- takeWaivers env request waived
  let remaining <- skipGhosts env request 0 ghosts
  let legacy := events.head?.any isLegacyProposal
  let terminal <- readTerminal env request acceptance legacy waivers remaining
  .ok
    { obligations := obligations
      waivers := waivers
      terminal := terminal }

end Grammar

def ownEnvelope (services : ApplyServices) (actor : PersistedActor) (event : EventEnvelope) :
    Bool :=
  event.scope = services.scope && event.streamId = services.streamId && event.actor = actor &&
    event.sensitivity = .internal

def validateCommittedOutcomeGrammar (env : GovernorEnvironment) (services : ApplyServices)
    (draft : GraphDraft) (identity : WireHash) (acceptance : Option ExecutionDraftAcceptance)
    (events : List EventEnvelope) : Except ApplyError CommittedOutcome := do
  let actor <- persistedActor services.actor
  check (events.all (ownEnvelope services actor)) invalidCommittedOutcome
  readOutcome env { identity := identity, actor := actor, draft := draft } acceptance
    (events.map EventEnvelope.toNewEvent)

/-!
## Deriving the answer again
-/

section Answers

variable (env : GovernorEnvironment) (services : ApplyServices) (base : GraphVersion)
  (draft : GraphDraft)

def blockingError (report : PolicyReport) : Option ApplyError :=
  if report.obligations.any isImpossible then
    some .structuralImpossible
  else if report.obligations.any isUnsatisfied then
    some .overrideRequired
  else
    none

def preflightCandidate (candidate : ExecutionGraph) : Except ApplyError Unit :=
  match env.preflightExecutionGraph candidate with
  | none => .ok ()
  | some .limitExceeded => .error (.governor .limitExceeded)
  | some .unsafeContent => .error .invalidOperation

def candidateReport (candidate : ExecutionGraph) : PolicyReport :=
  evaluateTransition env base candidate (authoritativeOverride draft services.actor)

/-- The obligations a draft that binds its base was rejected with, derived anew. -/
def expectedCandidateObligations (error : ApplyError) :
    Except ApplyError (List PolicyObligation) :=
  match applyOperations env base.graph draft.operations with
  | .error _ =>
      if error = .invalidOperation then .ok [] else .error invalidCommittedOutcome
  | .ok graph => do
      check (decide (error ≠ .invalidOperation)) invalidCommittedOutcome
      let number <- orRefuse (checkedSuccessor base.number) .structuralImpossible
      let candidate := candidateOf base number graph
      check (env.preflightExecutionGraph candidate).isNone invalidCommittedOutcome
      if env.validateGraphValue candidate then
        let report := candidateReport env services base draft candidate
        match blockingError report with
        | some expected => do
            check (decide (expected.code = error.code)) invalidCommittedOutcome
            .ok report.obligations
        | none => .error invalidCommittedOutcome
      else if error = .structuralImpossible then
        .ok []
      else
        .error invalidCommittedOutcome

def expectedRejectionObligations (error : ApplyError) :
    Except ApplyError (List PolicyObligation) :=
  if error = .staleVersion then do
    check (decide (draft.expectedVersion ≠ base.number)) invalidCommittedOutcome
    .ok []
  else do
    check (decide (draft.expectedVersion = base.number)) invalidCommittedOutcome
    let binds <- (draftBinds env services.scope base draft).mapError ApplyError.governor
    if error = .staleHash then do
      check (!binds) invalidCommittedOutcome
      .ok []
    else do
      check binds invalidCommittedOutcome
      expectedCandidateObligations env services base draft error

def rejectionError (reasonCode : SafeCode) : Option ApplyError :=
  [ApplyError.staleVersion, .staleHash, .invalidOperation, .structuralImpossible,
    .overrideRequired, .invalidWaiver].find? fun error => error.reasonCode = reasonCode

def recoverCommittedRejection (committed : List PolicyObligationEvaluated)
    (rejection : DraftRejected) : Except ApplyError ApplyError := do
  check (decide (rejection.draftId.text = draft.id)) invalidCommittedOutcome
  let error <- orRefuse (rejectionError rejection.reasonCode) invalidCommittedOutcome
  check
    (decide (rejection.diagnostics.map PersistedDiagnostic.code = [error.code]) &&
      rejection.detailEvidenceId.isNone) invalidCommittedOutcome
  let expected <- expectedRejectionObligations env services base draft error
  let identity <- governorRequestIdentity env services base draft
  let actor <- persistedActor services.actor
  let evaluated <-
    obligationEvents env { identity := identity, actor := actor, draft := draft } expected
  check (decide (committed = evaluated.filterMap evaluatedObligation)) invalidCommittedOutcome
  .ok error

def waiverStands (candidate : ExecutionGraph) (manualOverride : ManualOverride)
    (obligation : PolicyObligation) (waiver : PolicyWaiver) : Bool :=
  waiver.requirement = obligation.requirement &&
    waiver.executionId = candidate.metadata.executionId &&
    waiver.graphVersion = candidate.metadata.version && waiver.actor = services.actor.id &&
    waiver.reason = some manualOverride.reason &&
    waiver.acknowledgedRisks = manualOverride.acknowledgedRisks &&
    waiver.scope = manualOverride.scope && waiver.expiresAt.isNone

def validateCommittedWaivers (candidate : ExecutionGraph) (report : PolicyReport)
    (waivers : List PolicyWaiver) : Except ApplyError Unit :=
  let waived := report.obligations.filter isWaived
  match authoritativeOverride draft services.actor with
  | none => check (waived.isEmpty && waivers.isEmpty) invalidCommittedOutcome
  | some manualOverride =>
      check
        (waived.length = waivers.length &&
          (waived.zip waivers).all fun (obligation, waiver) =>
            waiverStands services candidate manualOverride obligation waiver)
        invalidCommittedOutcome

def recoverApplied (identity : WireHash) (outcome : CommittedOutcome)
    (published : PersistedGraphVersion) (applied : DraftApplied)
    (events : List EventEnvelope) : Except ApplyError ApplyResult := do
  let graph <-
    (applyOperations env base.graph draft.operations).mapError fun _ => ApplyError.invalidOperation
  let number <- orRefuse (checkedSuccessor base.number) .structuralImpossible
  let candidate := candidateOf base number graph
  preflightCandidate env candidate
  check (env.validateGraphValue candidate) .structuralImpossible
  let report := candidateReport env services base draft candidate
  check (blockingError report).isNone invalidCommittedOutcome
  let actor <- persistedActor services.actor
  let evaluated <-
    obligationEvents env { identity := identity, actor := actor, draft := draft }
      report.obligations
  check (decide (outcome.obligations = evaluated.filterMap evaluatedObligation))
    invalidCommittedOutcome
  validateCommittedWaivers services draft candidate report outcome.waivers
  let version <-
    (GraphVersion.publish env candidate
      (some { number := base.number, contentHash := base.contentHash }) services.actor
      published.createdAt).mapError ApplyError.graph
  let baseSafeHash <- (safeSemanticHashFor env services.scope base).mapError ApplyError.governor
  let expected <-
    (projectedVersionFor env services.scope version
      (some { number := base.number, semanticHash := baseSafeHash })).mapError ApplyError.governor
  check (decide (published = expected)) invalidCommittedOutcome
  check
    (applied.draftId.text = draft.id && applied.graphVersion = version.number &&
      applied.graphHash = published.semanticHash) invalidCommittedOutcome
  .ok
    { version := version
      waivers := outcome.waivers
      events := events
      policyReport := report }

def recoverCommittedApply (acceptance : Option ExecutionDraftAcceptance)
    (events : List EventEnvelope) : Except ApplyError ApplyResult := do
  let identity <- governorRequestIdentity env services base draft
  let outcome <-
    validateCommittedOutcomeGrammar env services draft identity acceptance events
  match outcome.terminal with
  | .rejected rejection => do
      let error <- recoverCommittedRejection env services base draft outcome.obligations rejection
      .error error
  | .applied published applied =>
      recoverApplied env services base draft identity outcome published applied events

end Answers

end GraphHelm
