import GraphHelm.Governor.Retrying

/-!
# A call among other appends

A call of the governor reads the stream several times before it appends, and every read may
see more of the stream than the one before.  The batch is appended at the position that was
read first, so what it is committed on is what every later read has seen.
-/

namespace GraphHelm

open Std

/-- The stream as each read of a call sees it, in their order. -/
structure Sightings (env : GovernorEnvironment) (services : ApplyServices) where
  committed : GovernedStream env.toEnvironment services.scope services.streamId
  position : GovernedStream env.toEnvironment services.scope services.streamId
  history : GovernedStream env.toEnvironment services.scope services.streamId
  active : GovernedStream env.toEnvironment services.scope services.streamId
  recorded : GovernedStream env.toEnvironment services.scope services.streamId

structure Sightings.Grow {env : GovernorEnvironment} {services : ApplyServices}
    (seen : Sightings env services)
    (stream : GovernedStream env.toEnvironment services.scope services.streamId) : Prop where
  position : seen.committed.events <+: seen.position.events
  history : seen.position.events <+: seen.history.events
  active : seen.history.events <+: seen.active.events
  recorded : seen.active.events <+: seen.recorded.events
  appended : seen.recorded.events <+: stream.events

section Overlapping

variable (env : GovernorEnvironment) (services : ApplyServices) (seen : Sightings env services)

/-- A draft that no batch was committed under, judged on what each read has seen. -/
def governDraftAmong (call : ApplyCall) (base : GraphVersion) (draft : GraphDraft)
    (acceptance : Option ExecutionDraftAcceptance) (identity : WireHash) :
    Except ApplyError PreparedDraft := do
  let position := seen.position.nextSequence
  acceptanceAllows env services seen.history draft acceptance
  let baseSafeHash <- (safeSemanticHashFor env services.scope base).mapError ApplyError.governor
  checkActive env services seen.active base baseSafeHash
  let verdict <- judgeDraft env services base draft
  match verdict with
  | .rejected error obligations => do
      let actor <- persistedActor services.actor
      let news <-
        rejectionEvents env { identity := identity, actor := actor, draft := draft } obligations
          error
      .ok (.rejecting position news error)
  | .governed candidate report => do
      let publication <-
        preparePublication env services base draft call baseSafeHash candidate report
      let actor <- persistedActor services.actor
      let request : RequestIdentity := { identity := identity, actor := actor, draft := draft }
      let proposal <- proposed env request
      let news <- applicationEvents env request publication acceptance
      .ok
        (.publishing position (proposalUnlessRecorded env services seen.recorded proposal ++ news)
          publication)

def prepareDraftAmong (call : ApplyCall) (base : GraphVersion) (draft : GraphDraft)
    (acceptance : Option ExecutionDraftAcceptance) : Except ApplyError PreparedDraft := do
  let _ <- orRefuse (checkedSuccessor base.number) .structuralImpossible
  (env.preflightPublicationInputs base draft services.actor).mapError ApplyError.governor
  let identity <- governorRequestIdentity env services base draft
  let proposedKey <- governorEventKey env identity "proposed"
  match seen.committed.committedEventsForIdempotency proposedKey with
  | some events => do
      let result <- recoverCommittedApply env services base draft acceptance events
      .ok (.recovered result)
  | none => governDraftAmong env services seen call base draft acceptance identity

/-- `apply_draft_with_acceptance`, whose append finds the stream as `stream`. -/
def applyDraftAmong (stream : GovernedStream env.toEnvironment services.scope services.streamId)
    (call : ApplyCall) (base : GraphVersion) (draft : GraphDraft)
    (acceptance : Option ExecutionDraftAcceptance) : Applied env services :=
  match prepareDraftAmong env services seen call base draft acceptance with
  | .error error => { answer := .error error, stream := stream }
  | .ok (.recovered result) => { answer := .ok result, stream := stream }
  | .ok (.rejecting position news error) =>
      match stream.appendAtomic call.stamps position news with
      | .error refusal => { answer := .error (.repository refusal), stream := stream }
      | .ok (after, _) => { answer := .error error, stream := after }
  | .ok (.publishing position news publication) =>
      match stream.appendAtomic call.stamps position news with
      | .error refusal => { answer := .error (.repository refusal), stream := stream }
      | .ok (after, events) =>
          { answer :=
              .ok
                { version := publication.version
                  waivers := publication.waivers
                  events := events
                  policyReport := publication.policyReport }
            stream := after }

end Overlapping

section Alone

variable {env : GovernorEnvironment} {services : ApplyServices}
  {stream : GovernedStream env.toEnvironment services.scope services.streamId}

/-- A call that nothing comes between sees one stream. -/
def Sightings.alone (stream : GovernedStream env.toEnvironment services.scope services.streamId) :
    Sightings env services :=
  { committed := stream
    position := stream
    history := stream
    active := stream
    recorded := stream }

theorem Sightings.alone_grow : (Sightings.alone stream).Grow stream :=
  { position := List.prefix_rfl
    history := List.prefix_rfl
    active := List.prefix_rfl
    recorded := List.prefix_rfl
    appended := List.prefix_rfl }

end Alone

/-!
## What a call among others leaves behind
-/

section Leaves

variable {env : GovernorEnvironment} {services : ApplyServices} {seen : Sightings env services}
  {stream : GovernedStream env.toEnvironment services.scope services.streamId}
  {call : ApplyCall} {base : GraphVersion} {draft : GraphDraft}
  {acceptance : Option ExecutionDraftAcceptance}

theorem appendAtomic_position {stamps : Stamps} {position : Nat} {news : List NewEvent}
    {after : GovernedStream env.toEnvironment services.scope services.streamId}
    {added : List EventEnvelope}
    (h : stream.appendAtomic stamps position news = .ok (after, added)) :
    position = stream.nextSequence ∧ news ≠ [] := by
  unfold GovernedStream.appendAtomic at h
  rcases check_ok h with ⟨_, h⟩
  rcases bind_ok h with ⟨_, _, h⟩
  split at h
  · cases h
  · rename_i extended happend
    rcases VerifiedStream.append_eq_ok happend with ⟨other, hadded⟩
    exact ⟨hadded.expected, hadded.nonempty⟩

theorem Sightings.Grow.events_eq (h : seen.Grow stream)
    (hposition : seen.position.nextSequence = stream.nextSequence) :
    seen.history.events = stream.events ∧ seen.active.events = stream.events ∧
      seen.recorded.events = stream.events := by
  have hlength : seen.position.events.length = stream.events.length :=
    Nat.succ.inj hposition
  have hhistory := h.history.length_le
  have hactive := h.active.length_le
  have hrecorded := h.recorded.length_le
  have happended := h.appended.length_le
  have hlast : seen.recorded.events = stream.events := h.appended.eq_of_length (by omega)
  have hmiddle : seen.active.events = seen.recorded.events := h.recorded.eq_of_length (by omega)
  have hfirst : seen.history.events = seen.active.events := h.active.eq_of_length (by omega)
  exact ⟨hfirst.trans (hmiddle.trans hlast), hmiddle.trans hlast, hlast⟩

/-- The request a call builds its events for. -/
def requestOf (draft : GraphDraft) (identity : WireHash) (actor : PersistedActor) :
    RequestIdentity :=
  { identity := identity, actor := actor, draft := draft }

def answerOf (publication : Publication) (events : List EventEnvelope) : ApplyResult :=
  { version := publication.version
    waivers := publication.waivers
    events := events
    policyReport := publication.policyReport }

theorem proposalUnlessRecorded_eq (proposal : NewEvent) :
    proposalUnlessRecorded env services stream proposal = [] ∨
      proposalUnlessRecorded env services stream proposal = [proposal] := by
  unfold proposalUnlessRecorded
  exact ite_eq_or_eq _ _ _

/-- How the publication of a draft and the events that record it came about. -/
structure PublishesAmong (env : GovernorEnvironment) (services : ApplyServices)
    (seen : Sightings env services) (base : GraphVersion) (draft : GraphDraft)
    (acceptance : Option ExecutionDraftAcceptance) (publication : Publication)
    (proposal : NewEvent) (news : List NewEvent) : Prop where
  allowed : acceptanceAllows env services seen.history draft acceptance = .ok ()
  prepared : exists baseSafeHash candidate,
    Judged env services base draft (.governed candidate publication.policyReport) ∧
      PreparesPublication env services base draft baseSafeHash candidate publication
  requested : exists identity actor,
    proposed env (requestOf draft identity actor) = .ok proposal ∧
      applicationEvents env (requestOf draft identity actor) publication acceptance = .ok news

/-- What a call has prepared before it appends. -/
inductive PreparesAmong (env : GovernorEnvironment) (services : ApplyServices)
    (seen : Sightings env services) (base : GraphVersion) (draft : GraphDraft)
    (acceptance : Option ExecutionDraftAcceptance) : PreparedDraft -> Prop where
  | recovered (events : List EventEnvelope) (result : ApplyResult)
      (hrecovered : recoverCommittedApply env services base draft acceptance events =
        .ok result) :
      PreparesAmong env services seen base draft acceptance (.recovered result)
  | rejecting (identity : WireHash) (actor : PersistedActor) (error : ApplyError)
      (obligations : List PolicyObligation) (news : List NewEvent)
      (hnews : rejectionEvents env (requestOf draft identity actor) obligations error =
        .ok news) :
      PreparesAmong env services seen base draft acceptance
        (.rejecting seen.position.nextSequence news error)
  | publishing (publication : Publication) (proposal : NewEvent) (news : List NewEvent)
      (hpublishes :
        PublishesAmong env services seen base draft acceptance publication proposal news) :
      PreparesAmong env services seen base draft acceptance
        (.publishing seen.position.nextSequence
          (proposalUnlessRecorded env services seen.recorded proposal ++ news) publication)

theorem preparesAmong_of_governDraft {identity : WireHash} {prepared : PreparedDraft}
    (h : governDraftAmong env services seen call base draft acceptance identity = .ok prepared) :
    PreparesAmong env services seen base draft acceptance prepared := by
  unfold governDraftAmong at h
  rcases bind_ok h with ⟨_, hallowed, h⟩
  rcases bind_ok h with ⟨baseSafeHash, _, h⟩
  rcases bind_ok h with ⟨_, _, h⟩
  rcases bind_ok h with ⟨verdict, hverdict, h⟩
  have hjudged := judgeDraft_eq_ok hverdict
  cases verdict with
  | rejected error obligations =>
      rcases bind_ok h with ⟨actor, _, h⟩
      rcases bind_ok h with ⟨news, hnews, h⟩
      cases h
      exact PreparesAmong.rejecting identity actor error obligations news hnews
  | governed candidate report =>
      rcases bind_ok h with ⟨publication, hpublication, h⟩
      rcases bind_ok h with ⟨actor, _, h⟩
      rcases bind_ok h with ⟨proposal, hproposal, h⟩
      rcases bind_ok h with ⟨news, hnews, h⟩
      cases h
      rcases preparePublication_eq_ok hpublication with ⟨hreport, hprepares⟩
      subst hreport
      exact PreparesAmong.publishing publication proposal news
        { allowed := hallowed
          prepared := ⟨baseSafeHash, candidate, hjudged, hprepares⟩
          requested := ⟨identity, actor, hproposal, hnews⟩ }

theorem preparesAmong_of_prepareDraft {prepared : PreparedDraft}
    (h : prepareDraftAmong env services seen call base draft acceptance = .ok prepared) :
    PreparesAmong env services seen base draft acceptance prepared := by
  unfold prepareDraftAmong at h
  rcases bind_ok h with ⟨_, _, h⟩
  rcases bind_ok h with ⟨_, _, h⟩
  rcases bind_ok h with ⟨identity, _, h⟩
  rcases bind_ok h with ⟨proposedKey, _, h⟩
  cases hcommitted : seen.committed.committedEventsForIdempotency proposedKey with
  | some events =>
      rw [hcommitted] at h
      rcases bind_ok h with ⟨result, hresult, h⟩
      cases h
      exact PreparesAmong.recovered events result hresult
  | none =>
      rw [hcommitted] at h
      exact preparesAmong_of_governDraft h

/-- What one call can leave behind, and what it was committed on. -/
inductive LeavesAmong (env : GovernorEnvironment) (services : ApplyServices)
    (seen : Sightings env services)
    (stream : GovernedStream env.toEnvironment services.scope services.streamId)
    (base : GraphVersion) (draft : GraphDraft) (acceptance : Option ExecutionDraftAcceptance) :
    Applied env services -> Prop where
  | refused (error : ApplyError) :
      LeavesAmong env services seen stream base draft acceptance
        { answer := .error error, stream := stream }
  | recovered (events : List EventEnvelope) (result : ApplyResult)
      (hrecovered : recoverCommittedApply env services base draft acceptance events =
        .ok result) :
      LeavesAmong env services seen stream base draft acceptance
        { answer := .ok result, stream := stream }
  | rejected (identity : WireHash) (actor : PersistedActor) (error : ApplyError)
      (obligations : List PolicyObligation) (news : List NewEvent) (added : List EventEnvelope)
      (after : GovernedStream env.toEnvironment services.scope services.streamId)
      (hnews : rejectionEvents env (requestOf draft identity actor) obligations error = .ok news)
      (hafter : AppendsBatch stream after news added) :
      LeavesAmong env services seen stream base draft acceptance
        { answer := .error error, stream := after }
  | published (publication : Publication) (proposal : NewEvent) (news : List NewEvent)
      (added : List EventEnvelope)
      (after : GovernedStream env.toEnvironment services.scope services.streamId)
      (hposition : seen.position.nextSequence = stream.nextSequence)
      (hpublishes :
        PublishesAmong env services seen base draft acceptance publication proposal news)
      (hafter : AppendsBatch stream after
        (proposalUnlessRecorded env services seen.recorded proposal ++ news) added) :
      LeavesAmong env services seen stream base draft acceptance
        { answer := .ok (answerOf publication added), stream := after }

theorem leavesAmong (call : ApplyCall) (base : GraphVersion) (draft : GraphDraft)
    (acceptance : Option ExecutionDraftAcceptance) :
    LeavesAmong env services seen stream base draft acceptance
      (applyDraftAmong env services seen stream call base draft acceptance) := by
  unfold applyDraftAmong
  cases hprepared : prepareDraftAmong env services seen call base draft acceptance with
  | error error => exact LeavesAmong.refused error
  | ok prepared =>
      cases preparesAmong_of_prepareDraft hprepared with
      | recovered events result hrecovered =>
          exact LeavesAmong.recovered events result hrecovered
      | rejecting identity actor error obligations news hnews =>
          dsimp only
          cases happend : stream.appendAtomic call.stamps seen.position.nextSequence news with
          | error refusal => exact LeavesAmong.refused _
          | ok outcome =>
              rcases outcome with ⟨after, added⟩
              exact LeavesAmong.rejected identity actor error obligations news added after hnews
                (appendAtomic_eq_ok happend)
      | publishing publication proposal news hpublishes =>
          dsimp only
          cases happend : stream.appendAtomic call.stamps seen.position.nextSequence
              (proposalUnlessRecorded env services seen.recorded proposal ++ news) with
          | error refusal => exact LeavesAmong.refused _
          | ok outcome =>
              rcases outcome with ⟨after, added⟩
              exact LeavesAmong.published publication proposal news added after
                (appendAtomic_position happend).left hpublishes (appendAtomic_eq_ok happend)

/-- A call that nothing comes between is the case of one stream. -/
theorem leavesAmong_alone (call : ApplyCall) (base : GraphVersion) (draft : GraphDraft)
    (acceptance : Option ExecutionDraftAcceptance) :
    LeavesAmong env services (Sightings.alone stream) stream base draft acceptance
      (applyDraftWithAcceptance env services stream call base draft acceptance) :=
  leavesAmong call base draft acceptance

end Leaves

end GraphHelm
