import GraphHelm.Governor.Recovery
import GraphHelm.Projection.History
import GraphHelm.Store.Append
import GraphHelm.Store.Stream

/-!
# Applying a draft

`apply_draft_with_acceptance` of `core/governor/src/apply.rs` against the stream
of one execution: a request that was committed before is recovered; any other is
judged, and its one batch appended at the position read before it was judged.
-/

namespace GraphHelm

open Std

/-!
## The stream, as the governor meets it
-/

/-- A stream that knows which of its events were committed together. -/
structure GovernedStream (env : Environment) (scope : RepositoryScope) (streamId : OpaqueId)
    extends VerifiedStream env scope streamId.text where
  batches : List (List EventEnvelope)
  flattened : batches.flatten = events

def publishedIdentity (event : EventEnvelope) : Option (Nat × WireHash) :=
  match event.kind with
  | .graphVersionPublished version => some (version.number, version.semanticHash)
  | _ => none

def activeIdentity (events : List EventEnvelope) : Option (Nat × WireHash) :=
  (events.filterMap publishedIdentity).getLast?

namespace GovernedStream

section Stream

variable {env : Environment} {scope : RepositoryScope} {streamId : OpaqueId}

def committedEventsForIdempotency (stream : GovernedStream env scope streamId)
    (key : OpaqueId) : Option (List EventEnvelope) :=
  stream.batches.find? fun batch => batch.any fun event => event.idempotencyKey = key

def activeVersion (stream : GovernedStream env scope streamId) : Option (Nat × WireHash) :=
  activeIdentity stream.events

/-- The stream with the rest of `after` as one more batch. -/
def extended (stream : GovernedStream env scope streamId)
    (after : VerifiedStream env scope streamId.text) (added : List EventEnvelope)
    (h : after.events = stream.events ++ added) : GovernedStream env scope streamId :=
  { toVerifiedStream := after
    batches := stream.batches ++ [added]
    flattened := by rw [List.flatten_append, stream.flattened, h]; simp }

end Stream

section Append

variable {env : StoreEnvironment} {scope : RepositoryScope} {streamId : OpaqueId}

theorem events_of_append {stream : GovernedStream env.toEnvironment scope streamId}
    {after : VerifiedStream env.toEnvironment scope streamId.text} {stamps : Stamps}
    {position : Nat} {news : List NewEvent}
    (h : stream.toVerifiedStream.append stamps position news = .ok after) :
    after.events = stream.events ++ after.events.drop stream.events.length := by
  rcases VerifiedStream.append_eq_ok h with ⟨added, hadded⟩
  rw [hadded.extended, List.drop_left]

/--
`append_atomic`: beside what any append of the stream owes it, what its
publications owe the scope and the version that is active.
-/
def appendAtomic (stream : GovernedStream env.toEnvironment scope streamId) (stamps : Stamps)
    (position : Nat) (news : List NewEvent) :
    Except EventRepositoryError
      (GovernedStream env.toEnvironment scope streamId × List EventEnvelope) := do
  check (news.all (publicationPrepared env scope)) .invalid
  validateGraphLineage stream.activeVersion news
  match happend : stream.toVerifiedStream.append stamps position news with
  | .error error => .error error
  | .ok after =>
      let added := after.events.drop stream.events.length
      .ok (stream.extended after added (events_of_append happend), added)

end Append

end GovernedStream

/-!
## Judging a draft
-/

/-- What the governor makes of a draft whose base is the active version. -/
inductive Verdict where
  | rejected (error : ApplyError) (obligations : List PolicyObligation)
  | governed (candidate : ExecutionGraph) (report : PolicyReport)

section Judging

variable (env : GovernorEnvironment) (services : ApplyServices) (base : GraphVersion)
  (draft : GraphDraft)

def judgeCandidate (graph : ExecutionGraph) : Except ApplyError Verdict := do
  let number <- orRefuse (checkedSuccessor base.number) .structuralImpossible
  let candidate := candidateOf base number graph
  preflightCandidate env candidate
  if env.validateGraphValue candidate then
    let report := candidateReport env services base draft candidate
    match blockingError report with
    | some error => .ok (.rejected error report.obligations)
    | none => .ok (.governed candidate report)
  else
    .ok (.rejected .structuralImpossible [])

def judgeDraft : Except ApplyError Verdict :=
  if draft.expectedVersion ≠ base.number then
    .ok (.rejected .staleVersion [])
  else do
    let binds <- (draftBinds env services.scope base draft).mapError ApplyError.governor
    if binds then
      match applyOperations env base.graph draft.operations with
      | .error _ => .ok (.rejected .invalidOperation [])
      | .ok graph => judgeCandidate env services base draft graph
    else
      .ok (.rejected .staleHash [])

def preparePublication (call : ApplyCall) (baseSafeHash : WireHash)
    (candidate : ExecutionGraph) (report : PolicyReport) : Except ApplyError Publication := do
  let manualOverride := authoritativeOverride draft services.actor
  let waivers <- createWaivers env services call candidate manualOverride report
  let version <-
    (GraphVersion.publish env candidate
      (some { number := base.number, contentHash := base.contentHash }) services.actor
      (call.clock waivers.length)).mapError ApplyError.graph
  let predecessor : PersistedPredecessor :=
    { number := base.number, semanticHash := baseSafeHash }
  let preparation <-
    (call.externalizer.prepareWithPredecessor services.scope version predecessor).mapError
      ApplyError.governor
  let expected <-
    (projectedVersionFor env services.scope version (some predecessor)).mapError
      ApplyError.governor
  check (decide (preparation.version = expected)) (.governor .invalidProjection)
  .ok
    { version := version
      waivers := waivers
      policyReport := report
      preparation := preparation }

end Judging

/-!
## What an acceptance asks of the execution
-/

def proposesDraft (draftId : OpaqueId) (digest : RawSha256) (event : EventEnvelope) : Bool :=
  match event.kind with
  | .draftProposed payload =>
      payload.draftId = draftId && payload.proposalSha256 = some digest
  | _ => false

def isAdditive (projection : ExecutionProjection) (draft : GraphDraft) :
    DraftOperation -> Bool
  | .addNode _ _ => true
  | .addEdge edge =>
      if draft.proposedNodes.contains edge.to then
        true
      else
        match projection.nodeStates[edge.to]? with
        | some state => state = .draft || state = .ready
        | none =>
            projection.currentGraph.any fun graph =>
              (OpaqueId.parse edge.to).isSome && graph.topology.nodes.contains edge.to
  | _ => false

def assignmentsCover (draft : GraphDraft) (acceptance : ExecutionDraftAcceptance) : Bool :=
  (acceptance.assignments.all fun (nodeId, actor) =>
      actor.actorType = .agent && draft.proposedNodes.contains nodeId.text) &&
    draft.proposedNodes.dedup.length = acceptance.assignments.length

def checkAcceptance (env : GovernorEnvironment) (draft : GraphDraft)
    (acceptance : ExecutionDraftAcceptance) (history : List EventEnvelope)
    (projection : ExecutionProjection) : Except ApplyError Unit := do
  check (decide (projection.mode = some acceptance.mode)) .invalidOperation
  check (decide (acceptance.draftId.text = draft.id)) .invalidOperation
  let digest <- proposalDigest env draft
  check (decide (digest = acceptance.proposalSha256)) .invalidOperation
  check (history.any (proposesDraft acceptance.draftId acceptance.proposalSha256))
    .invalidOperation
  check
    (decide (projection.simulationStatus = some .paused) &&
      !projection.nodeStates.any fun _ state => state = .running) .invalidOperation
  check (draft.operations.all (isAdditive projection draft)) .invalidOperation
  check (assignmentsCover draft acceptance) .invalidOperation

/-!
## The call
-/

/-- What a call comes to before it appends anything. -/
inductive PreparedDraft where
  | recovered (result : ApplyResult)
  | rejecting (position : Nat) (news : List NewEvent) (error : ApplyError)
  | publishing (position : Nat) (news : List NewEvent) (publication : Publication)

section Applying

variable (env : GovernorEnvironment) (services : ApplyServices)
  (stream : GovernedStream env.toEnvironment services.scope services.streamId)

def acceptanceAllows (draft : GraphDraft) :
    Option ExecutionDraftAcceptance -> Except ApplyError Unit
  | none => .ok ()
  | some acceptance =>
      match replay env.toEnvironment services.scope services.streamId.text stream.events with
      | .error _ => .error (.governor .invalidProjection)
      | .ok projection => checkAcceptance env draft acceptance stream.events projection

def checkActive (base : GraphVersion) (baseSafeHash : WireHash) : Except ApplyError Unit :=
  match stream.activeVersion with
  | none => .error .staleVersion
  | some (number, semanticHash) => do
      check (decide (number = base.number)) .staleVersion
      check (decide (semanticHash = baseSafeHash)) .staleHash

def proposalUnlessRecorded (proposal : NewEvent) : List NewEvent :=
  let recorded :=
    match proposal.kind with
    | .draftProposed payload =>
        stream.events.any fun event =>
          match event.kind with
          | .draftProposed existing =>
              existing.draftId = payload.draftId &&
                existing.proposalSha256 = payload.proposalSha256
          | _ => false
    | _ => false
  if recorded then [] else [proposal]

/-- A draft that no batch was committed under: its verdict, and the batch it comes to. -/
def governDraft (call : ApplyCall) (base : GraphVersion) (draft : GraphDraft)
    (acceptance : Option ExecutionDraftAcceptance) (identity : WireHash) :
    Except ApplyError PreparedDraft := do
  let position := stream.nextSequence
  acceptanceAllows env services stream draft acceptance
  let baseSafeHash <- (safeSemanticHashFor env services.scope base).mapError ApplyError.governor
  checkActive env services stream base baseSafeHash
  let verdict <- judgeDraft env services base draft
  match verdict with
  | .rejected error obligations => do
      let actor <- persistedActor services.actor
      let news <-
        rejectionEvents env { identity := identity, actor := actor, draft := draft } obligations
          error
      .ok (.rejecting position news error)
  | .governed candidate report => do
      let publication <-
        preparePublication env services base draft call baseSafeHash candidate report
      let actor <- persistedActor services.actor
      let request : RequestIdentity := { identity := identity, actor := actor, draft := draft }
      let proposal <- proposed env request
      let news <- applicationEvents env request publication acceptance
      .ok
        (.publishing position (proposalUnlessRecorded env services stream proposal ++ news)
          publication)

def prepareDraft (call : ApplyCall) (base : GraphVersion) (draft : GraphDraft)
    (acceptance : Option ExecutionDraftAcceptance) : Except ApplyError PreparedDraft := do
  let _ <- orRefuse (checkedSuccessor base.number) .structuralImpossible
  (env.preflightPublicationInputs base draft services.actor).mapError ApplyError.governor
  let identity <- governorRequestIdentity env services base draft
  let proposedKey <- governorEventKey env identity "proposed"
  match stream.committedEventsForIdempotency proposedKey with
  | some events => do
      let result <- recoverCommittedApply env services base draft acceptance events
      .ok (.recovered result)
  | none => governDraft env services stream call base draft acceptance identity

structure Applied where
  answer : Except ApplyError ApplyResult
  stream : GovernedStream env.toEnvironment services.scope services.streamId

def applyDraftWithAcceptance (call : ApplyCall) (base : GraphVersion) (draft : GraphDraft)
    (acceptance : Option ExecutionDraftAcceptance) : Applied env services :=
  match prepareDraft env services stream call base draft acceptance with
  | .error error => { answer := .error error, stream := stream }
  | .ok (.recovered result) => { answer := .ok result, stream := stream }
  | .ok (.rejecting position news error) =>
      match stream.appendAtomic call.stamps position news with
      | .error refusal => { answer := .error (.repository refusal), stream := stream }
      | .ok (after, _) => { answer := .error error, stream := after }
  | .ok (.publishing position news publication) =>
      match stream.appendAtomic call.stamps position news with
      | .error refusal => { answer := .error (.repository refusal), stream := stream }
      | .ok (after, events) =>
          { answer :=
              .ok
                { version := publication.version
                  waivers := publication.waivers
                  events := events
                  policyReport := publication.policyReport }
            stream := after }

def applyDraft (call : ApplyCall) (base : GraphVersion) (draft : GraphDraft) :
    Applied env services :=
  applyDraftWithAcceptance env services stream call base draft none

end Applying

end GraphHelm
