import GraphHelm.Governor.Overlapping

/-!
# What a call of the governor can do

One call of `apply_draft_with_acceptance` refuses before it appends, answers from
a batch that was committed before, or appends the one batch that rejects or
publishes its draft.
-/

namespace GraphHelm

open Std

section Calls

variable {env : GovernorEnvironment} {services : ApplyServices}
  {stream : GovernedStream env.toEnvironment services.scope services.streamId}
  {call : ApplyCall} {base : GraphVersion} {draft : GraphDraft}
  {acceptance : Option ExecutionDraftAcceptance}

theorem recovered_version {events : List EventEnvelope} {result : ApplyResult}
    (h : recoverCommittedApply env services base draft acceptance events = .ok result) :
    exists graph number,
      applyOperations env base.graph draft.operations = .ok graph ∧
        result.version.graph = candidateOf base number graph ∧
          blockingError (candidateReport env services base draft (candidateOf base number graph)) =
            none := by
  unfold recoverCommittedApply at h
  rcases bind_ok h with ⟨identity, _, h⟩
  rcases bind_ok h with ⟨outcome, _, h⟩
  cases hterminal : outcome.terminal with
  | rejected rejection =>
      rw [hterminal] at h
      rcases bind_ok h with ⟨_, _, h⟩
      cases h
  | applied published applied =>
      rw [hterminal] at h
      unfold recoverApplied at h
      rcases bind_ok h with ⟨graph, hgraph, h⟩
      rcases bind_ok h with ⟨number, _, h⟩
      rcases bind_ok h with ⟨_, _, h⟩
      rcases check_ok h with ⟨_, h⟩
      rcases check_ok h with ⟨hfree, h⟩
      rcases bind_ok h with ⟨_, _, h⟩
      rcases bind_ok h with ⟨_, _, h⟩
      rcases check_ok h with ⟨_, h⟩
      rcases bind_ok h with ⟨_, _, h⟩
      rcases bind_ok h with ⟨version, hversion, h⟩
      rcases bind_ok h with ⟨_, _, h⟩
      rcases bind_ok h with ⟨_, _, h⟩
      rcases check_ok h with ⟨_, h⟩
      rcases check_ok h with ⟨_, h⟩
      cases h
      exact ⟨graph, number, Except.mapError_eq_ok.mp hgraph,
        (GraphVersion.publish_eq_ok (Except.mapError_eq_ok.mp hversion)).left,
        Option.isNone_iff_eq_none.mp hfree⟩

theorem accepted_version {result : ApplyResult}
    (h : (applyDraftWithAcceptance env services stream call base draft acceptance).answer =
      .ok result) :
    exists graph number,
      applyOperations env base.graph draft.operations = .ok graph ∧
        result.version.graph = candidateOf base number graph ∧
          blockingError (candidateReport env services base draft (candidateOf base number graph)) =
            none := by
  have hleaves := @leavesAmong_alone env services stream call base draft acceptance
  generalize applyDraftWithAcceptance env services stream call base draft acceptance = applied
    at h hleaves
  cases hleaves with
  | refused error => cases h
  | rejected identity actor error obligations news added after hnews hafter => cases h
  | recovered events recovered hrecovered =>
      cases h
      exact recovered_version hrecovered
  | published publication proposal news added after hposition hpublishes hafter =>
      cases h
      rcases hpublishes.prepared with ⟨baseSafeHash, candidate, hjudged, hprepares⟩
      have hversion := (GraphVersion.publish_eq_ok hprepares.published).left
      generalize publication.policyReport = report at hjudged
      cases hjudged with
      | governed hnumber hbinds graph number hcandidate hvalid hfree =>
          exact ⟨graph, number, hcandidate.applied, hversion, hfree⟩

end Calls

/-!
## A small governor

Every check passes, a digest spells out the last bytes it was given, and a graph
is canonicalized to the digest of its version.
-/

namespace Sample

def spelledDigest (bytes : List UInt8) : RawSha256 :=
  let tail := (bytes.reverse.take 32).reverse
  let digits := tail.flatMap fun byte => [byte.toNat / 16, byte.toNat % 16].map Nat.digitChar
  String.ofList (List.replicate (64 - digits.length) '0' ++ digits)

def governorEnv : GovernorEnvironment :=
  { storeEnv.toStoreEnvironment with
    nodeError := fun _ => "no node"
    lint := fun _ _ => []
    rawContentSha256 := fun bytes => some (spelledDigest bytes)
    draftJson := fun draft => some (utf8 draft.id)
    canonicalize := fun graph =>
      .ok ("", s!"sha256:{spelledDigest (toBeBytes graph.metadata.version)}")
    preflightPublicationInputs := fun _ _ _ => .ok ()
    preflightExecutionGraph := fun _ => none
    validateGraphValue := fun _ => true
    validateWaiver := fun _ => true
    graphMaterial := fun _ version =>
      .ok
        { semanticHash := version.contentHash
          nodes := ∅
          contentSlots := []
          body := "" }
    causeNamed := fun cause => cause != ""
    bareCause := by decide }

def externalize (scope : RepositoryScope) (version : GraphVersion)
    (predecessor : PersistedPredecessor) : Except GovernorError ProjectionPreparation := do
  let projected <- projectedVersionFor governorEnv scope version (some predecessor)
  let named := authoringSnapshotPrefix version.number
  let snapshot <- orRefuse (OpaqueId.parse (String.ofList (named ++ ['0']))) .sealingFailed
  check (named.isPrefixOf snapshot.text.toList) .sealingFailed
  .ok
    { version := projected
      evidenceRefs := []
      authoringSnapshot :=
        { evidenceId := snapshot
          contentSha256 := spelledDigest (toBeBytes version.number)
          ciphertextSha256 := spelledDigest (toBeBytes version.number) } }

theorem externalize_named {scope : RepositoryScope} {version : GraphVersion}
    {predecessor : PersistedPredecessor} {preparation : ProjectionPreparation}
    (h : externalize scope version predecessor = .ok preparation) :
    (authoringSnapshotPrefix version.number).isPrefixOf
      preparation.authoringSnapshot.evidenceId.text.toList = true := by
  unfold externalize at h
  rcases bind_ok h with ⟨projected, _, h⟩
  rcases bind_ok h with ⟨snapshot, _, h⟩
  rcases check_ok h with ⟨hnamed, h⟩
  cases h
  exact hnamed

def owner : Actor := { actorType := .owner, id := "owner" }

def applyServices : ApplyServices :=
  { scope := scope
    streamId := streamId
    actor := owner }

/-- A call that finds the given number of events in its stream. -/
def applyCall (written : Nat) : ApplyCall :=
  { clock := fun _ => 1000000000
    waiverId := fun index => s!"waiver-{index}"
    externalizer :=
      { prepareWithPredecessor := externalize
        snapshotNamed := externalize_named }
    stamps := stamps written }

def planned : ExecutionGraph :=
  { metadata :=
      { id := "graph"
        executionId := "execution"
        version := 1
        basedOn := none
        body := "" }
    nodes :=
      (∅ : ExtTreeMap String AuthoredNode).insert "review"
        { nodeType := .agent
          name := "Review"
          objective := "Review the change"
          optionality := .required
          properties := ∅ }
    edges := []
    policies := []
    body := "" }

def plannedVersion : GraphVersion :=
  { graph := planned
    predecessor := none
    semantic := ""
    contentHash := s!"sha256:{spelledDigest (toBeBytes 1)}"
    createdBy := owner
    createdAt := 0 }

def draftOf (id : String) (operations : List DraftOperation)
    (manualOverride : Option ManualOverride) : GraphDraft :=
  { id := id
    expectedVersion := 1
    expectedHash := some plannedVersion.contentHash
    expectedSafeHash := none
    operations := operations
    manualOverride := manualOverride }

def plannedEvent : NewEvent :=
  event "planned"
    (.graphVersionPublished
      { number := 1
        semanticHash := plannedVersion.contentHash
        predecessor := none
        createdBy := { actorType := .owner, id := "owner" }
        createdAt := 0
        topology := { executionId := id "execution", nodes := ∅ }
        contentSlots := []
        body := "" })

def plannedStream :
    GovernedStream governorEnv.toEnvironment applyServices.scope applyServices.streamId :=
  { toVerifiedStream := verified [plannedEvent]
    batches := [history [plannedEvent]]
    flattened := List.append_nil _ }

end Sample

end GraphHelm
