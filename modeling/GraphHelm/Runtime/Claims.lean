import GraphHelm.Governor.Retrying
import GraphHelm.Store.Loading

/-!
# The claim and clear verbs

`core/events/src/customs.rs`: a verb replays the history it read, decides, and appends its
one event behind the last it read.  Whatever is appended between its read and its append
moves the head, and the append is refused.
-/

namespace GraphHelm
namespace Customs

open Std
open ErrorState

/-!
## The decision
-/

namespace Refusal

def notWaiting : SafeCode := "not_waiting"

def staleRendezvous : SafeCode := "stale_rendezvous"

def unknownWait : SafeCode := "unknown_wait"

def duplicateCompletion : SafeCode := "duplicate_completion"

def evidenceBudgetUnmet : SafeCode := "evidence_budget_unmet"

end Refusal

structure ClaimRequest where
  node : String
  completesWaitSeq : Option Nat
  evidence : List ClaimEvidence
  attestation : ClaimAttestation
  requiredProofKinds : List String

inductive ClaimOutcome where
  | claimed (claimSeq waitSeq : Nat)
  | refused (reasonCode : SafeCode) (waitSeq : Nat)
deriving DecidableEq

inductive ClaimError where
  | notStarted
  | repository (error : EventRepositoryError)
deriving DecidableEq

inductive ClearError where
  | notStarted
  | notAnOpenClaim (claimSeq : Nat)
  | repository (error : EventRepositoryError)
deriving DecidableEq

def nextAfter (history : List EventEnvelope) : Except EventRepositoryError Nat :=
  match history.getLast? with
  | none => .ok 1
  | some last => do
      check (decide (last.sequence < u64Max)) .limitExceeded
      .ok (last.sequence + 1)

def parkedThere (projection : ExecutionProjection) (node : String) (named : Nat) : Bool :=
  (projection.customsScans[node]?.getD []).any fun scan =>
    decide (scan.stage = .parked) && decide (scan.atSequence = named)

def answeredWait (projection : ExecutionProjection) (request : ClaimRequest) :
    Except (SafeCode × Option Nat) Nat :=
  match request.completesWaitSeq, projection.openWaits[request.node]?.map OpenWait.atSequence with
  | none, some opened => .ok opened
  | none, none => .error (Refusal.unknownWait, none)
  | some named, opened =>
      if opened = some named then .ok named
      else if parkedThere projection request.node named then
        .error (Refusal.staleRendezvous, some named)
      else .error (Refusal.unknownWait, some named)

/-- `decide_claim`, the first match wins. -/
def decideClaim (projection : ExecutionProjection) (request : ClaimRequest) :
    Except (SafeCode × Option Nat) Nat := do
  check (decide (projection.nodeStates[request.node]?.getD .draft = .waitingInput))
    (Refusal.notWaiting, request.completesWaitSeq)
  let waitSeq <- answeredWait projection request
  check (!projection.openClaims.toList.any fun entry => decide (entry.2.node = request.node))
    (Refusal.duplicateCompletion, some waitSeq)
  check
    (request.requiredProofKinds.all fun kind =>
      request.evidence.any fun item => decide (item.kind = kind))
    (Refusal.evidenceBudgetUnmet, some waitSeq)
  .ok waitSeq

/-- A refusal that resolved to no wait is recorded against its own position. -/
def recordedDecision (projection : ExecutionProjection) (request : ClaimRequest)
    (position : Nat) : Except (SafeCode × Nat) Nat :=
  (decideClaim projection request).mapError fun refused => (refused.1, refused.2.getD position)

/-- The event a decision is journaled as. -/
def claimKind (executionId node : OpaqueId) (request : ClaimRequest) :
    Except (SafeCode × Nat) Nat -> EventKind
  | .ok waitSeq =>
      .completionClaimed
        { executionId := executionId
          node := node
          completesWaitSeq := waitSeq
          evidence := request.evidence
          attestation := request.attestation }
  | .error (code, waitSeq) =>
      .completionRefused
        { executionId := executionId
          node := node
          claimedWaitSeq := waitSeq
          reasonCode := code }

def claimOutcome (claimSeq : Nat) : Except (SafeCode × Nat) Nat -> ClaimOutcome
  | .ok waitSeq => .claimed claimSeq waitSeq
  | .error (code, waitSeq) => .refused code waitSeq

def clearKind (executionId : OpaqueId) (claimSeq : Nat) (manifestHash : WireHash) : EventKind :=
  .completionCleared
    { executionId := executionId
      claimSeq := claimSeq
      verifier := .machineReplay manifestHash }

/-!
## The stream a verb appends to
-/

def mapReplayError : ReplayError -> EventRepositoryError
  | .limitExceeded => .limitExceeded
  | .corrupt => .integrity
  | .budgetExceeded walked limitMillis => .readBudgetExceeded walked limitMillis

section Stream

variable {env : StoreEnvironment} {scope : RepositoryScope} {streamId : OpaqueId}

/-- Whether a batch is the one a request was committed in; the digest of a request is told
by its position and its events. -/
def repeats (position : Nat) (news : List NewEvent) (batch : List EventEnvelope) : Bool :=
  decide (batch.map EventEnvelope.toNewEvent = news) &&
    decide (batch.head?.map EventEnvelope.sequence = some position)

def appendOrRetry (stream : GovernedStream env.toEnvironment scope streamId) (stamps : Stamps)
    (position : Nat) (news : List NewEvent) :
    Except EventRepositoryError
      (GovernedStream env.toEnvironment scope streamId × List EventEnvelope) :=
  match stream.batches.find? fun batch =>
      batch.any fun event => news.any fun new => event.idempotencyKey = new.idempotencyKey with
  | some batch => do
      check (repeats position news batch) .idempotencyConflict
      .ok (stream, batch)
  | none => stream.appendAtomic stamps position news

/-- An append of anybody's. -/
structure OtherAppend where
  stamps : Stamps
  position : Nat
  news : List NewEvent

def otherStep (stream : GovernedStream env.toEnvironment scope streamId) (other : OtherAppend) :
    Option (GovernedStream env.toEnvironment scope streamId) :=
  match appendOrRetry stream other.stamps other.position other.news with
  | .ok (after, _) => some after
  | .error _ => none

end Stream

/-!
## The verbs
-/

/-- Who calls, under which key, and what the clock and the identifiers are at the append. -/
structure Caller where
  actor : PersistedActor
  key : OpaqueId
  stamps : Stamps

def Caller.event (caller : Caller) (kind : EventKind) : NewEvent :=
  { idempotencyKey := caller.key
    actor := caller.actor
    sensitivity := .internal
    kind := kind
    evidenceRefs := []
    artifactRefs := [] }

section Verbs

variable (env : StoreEnvironment) (scope : RepositoryScope) (streamId : OpaqueId)

abbrev VerbM (ε : Type) := EStateM ε (GovernedStream env.toEnvironment scope streamId)

variable {env scope streamId}

def placeOne (caller : Caller) (position : Nat) (kind : EventKind)
    (stream : GovernedStream env.toEnvironment scope streamId) :
    Except EventRepositoryError
      (GovernedStream env.toEnvironment scope streamId × List EventEnvelope) := do
  check (newRequestAllowed position [caller.event kind] [] []) .limitExceeded
  appendOrRetry stream caller.stamps position [caller.event kind]

def appendOne (caller : Caller) (position : Nat) (kind : EventKind) :
    VerbM env scope streamId EventRepositoryError (List EventEnvelope) := fun stream =>
  match placeOne caller position kind stream with
  | .ok (after, appended) => .ok appended after
  | .error error => .error error stream

variable (env scope streamId)

/-- What a verb takes from the history it read: the fold, the execution and the position. -/
structure Standing where
  projection : ExecutionProjection
  executionId : OpaqueId

def standing {ε : Type} (notStarted : ε) (repository : EventRepositoryError -> ε)
    (history : List EventEnvelope) : Except ε Standing := do
  check (decide (history.length <= maxReadAll)) (repository .limitExceeded)
  let projection <- (replay env.toEnvironment scope streamId.text history).mapError fun error =>
    repository (mapReplayError error)
  let executionId <- orRefuse (projection.executionId.bind OpaqueId.parse) notStarted
  .ok { projection := projection, executionId := executionId }

/-- What `claim` has decided before it appends. -/
structure ClaimPlan where
  position : Nat
  decision : Except (SafeCode × Nat) Nat
  kind : EventKind

def planClaim (request : ClaimRequest) (history : List EventEnvelope) :
    Except ClaimError ClaimPlan := do
  let read <- standing env scope streamId .notStarted .repository history
  let node <- orRefuse (OpaqueId.parse request.node) (.repository .invalid)
  let position <- (nextAfter history).mapError ClaimError.repository
  let decision := recordedDecision read.projection request position
  .ok
    { position := position
      decision := decision
      kind := claimKind read.executionId node request decision }

def claim (caller : Caller) (request : ClaimRequest) (history : List EventEnvelope) :
    VerbM env scope streamId ClaimError (ClaimOutcome × List EventEnvelope) := fun stream =>
  match planClaim env scope streamId request history with
  | .error error => .error error stream
  | .ok plan =>
      match appendOne caller plan.position plan.kind stream with
      | .error error after => .error (.repository error) after
      | .ok [] after => .error (.repository .invalid) after
      | .ok (event :: rest) after =>
          .ok (claimOutcome event.sequence plan.decision, event :: rest) after

structure ClearPlan where
  position : Nat
  kind : EventKind

def planClear (claimSeq : Nat) (manifestHash : WireHash) (history : List EventEnvelope) :
    Except ClearError ClearPlan := do
  let read <- standing env scope streamId .notStarted .repository history
  check (read.projection.openClaims.contains claimSeq) (.notAnOpenClaim claimSeq)
  let position <- (nextAfter history).mapError ClearError.repository
  .ok
    { position := position
      kind := clearKind read.executionId claimSeq manifestHash }

def verdictOf (claimSeq : Nat) (full : List EventEnvelope) :
    Except ClearError ClearanceOutcome := do
  let after <- (replay env.toEnvironment scope streamId.text full).mapError fun error =>
    ClearError.repository (mapReplayError error)
  orRefuse after.clearances[claimSeq]? (.repository .invalid)

def clear (caller : Caller) (claimSeq : Nat) (manifestHash : WireHash)
    (history : List EventEnvelope) :
    VerbM env scope streamId ClearError (ClearanceOutcome × List EventEnvelope) := fun stream =>
  match planClear env scope streamId claimSeq manifestHash history with
  | .error error => .error error stream
  | .ok plan =>
      match appendOne caller plan.position plan.kind stream with
      | .error error after => .error (.repository error) after
      | .ok appended after =>
          match verdictOf env scope streamId claimSeq (history ++ appended) with
          | .error error => .error error after
          | .ok outcome => .ok (outcome, appended) after

end Verbs

/-!
## What a stream keeps
-/

section Grown

variable {env : StoreEnvironment} {scope : RepositoryScope} {streamId : OpaqueId}
  {read now after : GovernedStream env.toEnvironment scope streamId} {stamps : Stamps}
  {position : Nat} {news : List NewEvent} {batch : List EventEnvelope}

/-- What any number of appends make of a stream that was read. -/
structure Grown (read now : GovernedStream env.toEnvironment scope streamId) : Prop where
  longer : exists more, now.events = read.events ++ more ∧
    forall event, event ∈ more -> validateEnvelope env.toEnvironment event = .ok ()
  keys : (read.events.map EventEnvelope.idempotencyKey).Nodup ->
    (now.events.map EventEnvelope.idempotencyKey).Nodup

theorem Grown.refl (stream : GovernedStream env.toEnvironment scope streamId) :
    Grown stream stream :=
  ⟨⟨[], (List.append_nil _).symm, fun _ hmem => absurd hmem List.not_mem_nil⟩, id⟩

theorem Grown.trans (h : Grown read now) (hnext : Grown now after) : Grown read after := by
  rcases h.longer with ⟨first, hfirst, hvalid⟩
  rcases hnext.longer with ⟨second, hsecond, hvalid'⟩
  refine ⟨⟨first ++ second, ?_, fun event hmem => ?_⟩, hnext.keys ∘ h.keys⟩
  · rw [hsecond, hfirst, List.append_assoc]
  · exact (List.mem_append.mp hmem).elim (hvalid event) (hvalid' event)

theorem grown_of_append {after : VerifiedStream env.toEnvironment scope streamId.text}
    (h : now.toVerifiedStream.append stamps position news = .ok after) :
    position = now.events.length + 1 ∧ exists added, after.events = now.events ++ added ∧
      added.map EventEnvelope.toNewEvent = news ∧
      (forall event, event ∈ added -> validateEnvelope env.toEnvironment event = .ok ()) ∧
      ((now.events.map EventEnvelope.idempotencyKey).Nodup ->
        (after.events.map EventEnvelope.idempotencyKey).Nodup) := by
  rcases check_ok h with ⟨_, h⟩
  rcases check_ok h with ⟨hdistinct, h⟩
  rcases check_ok h with ⟨hunrecorded, h⟩
  rcases check_ok h with ⟨hexpected, h⟩
  refine And.intro (of_decide_eq_true hexpected) ?_
  unfold VerifiedStream.extend at h
  split at h
  · cases h
  · rename_i added hbuild
    cases h
    rcases buildEnvelopes_continuation hbuild with ⟨hcontinues, hvalid⟩
    refine ⟨added, rfl, hcontinues.carries, hvalid, fun hkeys => ?_⟩
    have hadded : added.map EventEnvelope.idempotencyKey = news.map NewEvent.idempotencyKey := by
      rw [← hcontinues.carries, List.map_map]
      rfl
    rw [List.map_append, hadded]
    refine List.nodup_append.mpr ⟨hkeys, of_decide_eq_true hdistinct, ?_⟩
    intro key hold other hnew heq
    rcases List.mem_map.mp hold with ⟨old, hmem, rfl⟩
    rcases List.mem_map.mp hnew with ⟨new, hin, rfl⟩
    have hdiffers := List.all_eq_true.mp (List.all_eq_true.mp hunrecorded new hin) old hmem
    rw [heq] at hdiffers
    simp at hdiffers

/-- The two ways a request is answered: with a batch it was committed in, or with its own. -/
inductive Answered (now : GovernedStream env.toEnvironment scope streamId) (position : Nat)
    (news : List NewEvent) (after : GovernedStream env.toEnvironment scope streamId)
    (batch : List EventEnvelope) : Prop where
  | retried (hafter : after = now) (hmem : batch ∈ now.batches)
      (hrepeats : repeats position news batch = true)
  | appended (hposition : position = now.events.length + 1)
      (hevents : after.events = now.events ++ batch)
      (hcarries : batch.map EventEnvelope.toNewEvent = news) (hgrown : Grown now after)

theorem answered_of_appendOrRetry
    (h : appendOrRetry now stamps position news = .ok (after, batch)) :
    Answered now position news after batch := by
  unfold appendOrRetry at h
  split at h
  · rename_i found hfound
    rcases check_ok h with ⟨hrepeats, h⟩
    cases h
    exact .retried rfl (List.mem_of_find?_eq_some hfound) hrepeats
  · unfold GovernedStream.appendAtomic at h
    rcases check_ok h with ⟨_, h⟩
    rcases bind_ok h with ⟨_, _, h⟩
    split at h
    · cases h
    · rename_i extended happend
      cases h
      rcases grown_of_append happend with ⟨hposition, added, hevents, hcarries, hvalid, hkeys⟩
      have hdrop : extended.events.drop now.events.length = added := by
        rw [hevents, List.drop_left]
      refine .appended hposition ?_ (hdrop ▸ hcarries) ⟨⟨added, hevents, hvalid⟩, hkeys⟩
      show extended.events = now.events ++ extended.events.drop now.events.length
      rw [hdrop]
      exact hevents

theorem Answered.grown (h : Answered now position news after batch) : Grown now after := by
  cases h with
  | retried hafter _ _ =>
      rw [hafter]
      exact Grown.refl now
  | appended _ _ _ hgrown => exact hgrown

theorem grown_of_run {others : List OtherAppend} (h : run otherStep read others = some now) :
    Grown read now := by
  have hkeep : forall {s : GovernedStream env.toEnvironment scope streamId} {other : OtherAppend}
      {s' : GovernedStream env.toEnvironment scope streamId},
      Grown read s -> otherStep s other = some s' -> Grown read s' := by
    intro s other s' hgrown hstep
    unfold otherStep at hstep
    split at hstep
    · rename_i after batch happend
      cases hstep
      exact hgrown.trans (answered_of_appendOrRetry happend).grown
    · cases hstep
  exact run_invariant hkeep (Grown.refl read) h

theorem Answered.stands (h : Answered now position news after batch) (hnonempty : news ≠ []) :
    batch.map EventEnvelope.toNewEvent = news ∧
      exists before behind, after.events = before ++ (batch ++ behind) ∧
        before.length + 1 = position := by
  cases h with
  | retried hafter hmem hrepeats =>
      rw [hafter]
      rcases Bool.and_eq_true_iff.mp hrepeats with ⟨hcarries, hposition⟩
      have hcarries := of_decide_eq_true hcarries
      rcases List.append_of_mem hmem with ⟨earlier, later, hbatches⟩
      have hevents : now.events = earlier.flatten ++ (batch ++ later.flatten) := by
        rw [← now.flattened, hbatches, List.flatten_append, List.flatten_cons]
      refine ⟨hcarries, earlier.flatten, later.flatten, hevents, ?_⟩
      -- The first event of the batch is numbered by what stands before it.
      cases batch with
      | nil => exact absurd hcarries.symm hnonempty
      | cons first rest =>
          have hsequence := Option.some.inj (of_decide_eq_true hposition)
          have hnumbered := now.verified.numbered
          rw [hevents, numbered_append, Nat.zero_add] at hnumbered
          rw [← hsequence]
          exact hnumbered.right.left.symm
  | appended hposition hevents hcarries _ =>
      refine ⟨hcarries, now.events, [], ?_, hposition.symm⟩
      rw [List.append_nil]
      exact hevents

theorem placed_behind (hgrown : Grown read now) {caller : Caller} {kind : EventKind}
    (h : appendOne caller (read.events.length + 1) kind now = .ok batch after) :
    exists event behind, batch = [event] ∧ after.events = read.events ++ event :: behind ∧
      event.toNewEvent = caller.event kind ∧ event.sequence = read.events.length + 1 ∧
      Grown read after := by
  unfold appendOne at h
  split at h
  · rename_i extended appended hplace
    cases h
    rcases check_ok hplace with ⟨_, happend⟩
    have hanswered := answered_of_appendOrRetry happend
    have hafter := hgrown.trans hanswered.grown
    rcases hanswered.stands (List.cons_ne_nil _ _) with
      ⟨hcarries, before, behind, hevents, hposition⟩
    rcases List.map_eq_singleton_iff.mp hcarries with ⟨event, rfl, hcarried⟩
    rcases hafter.longer with ⟨more, hmore, _⟩
    have hbefore : before = read.events := by
      rw [hevents] at hmore
      exact (List.append_inj hmore (Nat.succ.inj hposition)).left
    rw [hbefore] at hevents
    have hnumbered := after.verified.numbered
    rw [hevents, numbered_append, Nat.zero_add] at hnumbered
    exact ⟨event, behind, rfl, hevents, hcarried, hnumbered.right.left, hafter⟩
  · cases h

end Grown

/-!
## What the fold takes
-/

/-- Room for one more scan of a node: `record_scan` refuses without it. -/
structure ScanRoom (scans : ExtTreeMap String (List CustomsScan)) (node : String) : Prop where
  nodes : scans.size < maxProjectionNodes ∨ scans.contains node = true
  timeline : (scans[node]?.getD []).length < maxProjectionNodes

variable {manifestHash : WireHash}

section Fold

variable {env : Environment} {event : EventEnvelope} {st st' : FoldState} {node : String}
  {scan : CustomsScan}

theorem recordScan_eq_ok : recordScan node scan st = .ok () st' <->
    ScanRoom st.projection.customsScans node ∧
      { st with
        projection :=
          { st.projection with
            customsScans :=
              st.projection.customsScans.insert node
                (st.projection.customsScans[node]?.getD [] ++ [scan]) } } = st' := by
  unfold recordScan
  rw [getProjection_bind, requireRoom_bind_eq_ok, require_bind_eq_ok, modifyProjection_eq_ok,
    decide_eq_true_eq, ← and_assoc]
  exact and_congr_left' (Iff.intro (fun h => ⟨h.left, h.right⟩) fun h => ⟨h.nodes, h.timeline⟩)

theorem recordScan_of_room (h : ScanRoom st.projection.customsScans node) :
    exists st', recordScan node scan st = .ok () st' :=
  ⟨_, recordScan_eq_ok.mpr ⟨h, rfl⟩⟩

theorem foldCompletionRefused_of_room {payload : CompletionRefused}
    (hexecution : st.projection.executionId = some payload.executionId.text)
    (hroom : ScanRoom st.projection.customsScans payload.node.text) :
    exists st', foldCompletionRefused event payload st = .ok () st' := by
  unfold foldCompletionRefused
  simp only [requireExecution_bind_eq_ok, exists_and_left]
  exact And.intro hexecution (recordScan_of_room hroom)

theorem room_of_refused {payload : CompletionRefused}
    (hkind : event.kind = .completionRefused payload)
    (h : applyProjectionEvent env event st = .ok () st') :
    ScanRoom st.projection.customsScans payload.node.text := by
  unfold applyProjectionEvent nameStream foldKind at h
  simp only [modifyProjection_bind, hkind] at h
  unfold foldCompletionRefused at h
  exact (recordScan_eq_ok.mp (requireExecution_bind_eq_ok.mp h).right).left

theorem foldCompletionClaimed_of_room {payload : CompletionClaimed}
    (hexecution : st.projection.executionId = some payload.executionId.text)
    (hclaims : st.projection.openClaims.size < maxProjectionNodes)
    (hroom : ScanRoom st.projection.customsScans payload.node.text) :
    exists st', foldCompletionClaimed env event payload st = .ok () st' := by
  unfold foldCompletionClaimed
  simp only [requireExecution_bind_eq_ok, getProjection_bind, require_bind_eq_ok, exists_and_left]
  refine ⟨hexecution, decide_eq_true hclaims, ?_⟩
  split
  · simp only [modifyProjection_bind]
    exact recordScan_of_room hroom
  · exact ⟨st, rfl⟩

theorem foldCompletionCleared_of_room {payload : CompletionCleared} {claim : OpenClaim}
    (hexecution : st.projection.executionId = some payload.executionId.text)
    (hclaim : st.projection.openClaims[payload.claimSeq]? = some claim)
    (hroom : ScanRoom st.projection.customsScans claim.node) :
    exists st', foldCompletionCleared event payload st = .ok () st' ∧
      st'.projection.clearances[payload.claimSeq]? =
        some (clearanceVerdict st.projection.clearanceRegistry claim payload.verifier) := by
  unfold foldCompletionCleared
  simp only [requireExecution_bind_eq_ok, getProjection_bind, hclaim, modifyProjection_bind,
    and_assoc, exists_and_left]
  refine And.intro hexecution ?_
  cases hverdict : clearanceVerdict st.projection.clearanceRegistry claim payload.verifier with
  | refused reason =>
      refine ⟨_, recordScan_eq_ok.mpr ⟨hroom, rfl⟩, ?_⟩
      exact ExtTreeMap.getElem?_insert_self
  | cleared =>
      unfold closeWait setNodeState
      simp only [modifyProjection_bind]
      refine ⟨_, bind_eq_ok.mpr ⟨(), _, recordScan_eq_ok.mpr ⟨hroom, rfl⟩, rfl⟩, ?_⟩
      exact ExtTreeMap.getElem?_insert_self

theorem accepts_claimKind {executionId named : OpaqueId} {request : ClaimRequest}
    {decision : Except (SafeCode × Nat) Nat}
    (hkind : event.kind = claimKind executionId named request decision)
    (hexecution : st.projection.executionId = some executionId.text)
    (hroom : ScanRoom st.projection.customsScans named.text)
    (hclaims : decision.isOk = true -> st.projection.openClaims.size < maxProjectionNodes) :
    exists st', applyProjectionEvent env event st = .ok () st' := by
  unfold applyProjectionEvent nameStream foldKind
  simp only [modifyProjection_bind, hkind]
  cases decision with
  | ok waitSeq => exact foldCompletionClaimed_of_room hexecution (hclaims rfl) hroom
  | error refused => exact foldCompletionRefused_of_room hexecution hroom

theorem accepts_clearKind {executionId : OpaqueId} {claimSeq : Nat} {claim : OpenClaim}
    (hkind : event.kind = clearKind executionId claimSeq manifestHash)
    (hexecution : st.projection.executionId = some executionId.text)
    (hclaim : st.projection.openClaims[claimSeq]? = some claim)
    (hroom : ScanRoom st.projection.customsScans claim.node) :
    exists st', applyProjectionEvent env event st = .ok () st' ∧
      st'.projection.clearances[claimSeq]? =
        some (clearanceVerdict st.projection.clearanceRegistry claim
          (.machineReplay manifestHash)) := by
  unfold applyProjectionEvent nameStream foldKind
  simp only [modifyProjection_bind, hkind]
  exact foldCompletionCleared_of_room hexecution hclaim hroom

end Fold

/-!
## What the verbs promise
-/

section Promises

variable {env : StoreEnvironment} {scope : RepositoryScope} {streamId : OpaqueId}

structure Committed (appended : List EventEnvelope)
    (after : GovernedStream env.toEnvironment scope streamId) (event : EventEnvelope)
    (st st' : FoldState) : Prop where
  appended : appended = [event]
  accepted : exists before behind, after.events = before ++ event :: behind ∧
    foldHistory env.toEnvironment before = some st ∧
    applyProjectionEvent env.toEnvironment event st = .ok () st'

structure Records (request : ClaimRequest) (projection : ExecutionProjection)
    (event : EventEnvelope) (outcome : ClaimOutcome) : Prop where
  kind : exists executionId node, projection.executionId = some executionId.text ∧
    node.text = request.node ∧
    event.kind = claimKind executionId node request
      (recordedDecision projection request event.sequence)
  outcome : outcome = claimOutcome event.sequence (recordedDecision projection request event.sequence)

/-- What is asked of an answer of `claim` to a caller who met the stream as `now`. -/
def ClaimStands (request : ClaimRequest) (now : GovernedStream env.toEnvironment scope streamId) :
    EStateM.Result ClaimError (GovernedStream env.toEnvironment scope streamId)
      (ClaimOutcome × List EventEnvelope) -> Prop
  | .ok (outcome, appended) after =>
      exists event st st', Committed appended after event st st' ∧
        Records request st.projection event outcome
  | .error _ after => after = now

/-- What is asked of an answer of `clear`. -/
def ClearStands (claimSeq : Nat) (manifestHash : WireHash)
    (now : GovernedStream env.toEnvironment scope streamId) :
    EStateM.Result ClearError (GovernedStream env.toEnvironment scope streamId)
      (ClearanceOutcome × List EventEnvelope) -> Prop
  | .ok (outcome, appended) after =>
      exists event st st' executionId claim, Committed appended after event st st' ∧
        event.kind = clearKind executionId claimSeq manifestHash ∧
        st.projection.openClaims[claimSeq]? = some claim ∧
        outcome = clearanceVerdict st.projection.clearanceRegistry claim
          (.machineReplay manifestHash) ∧
        st'.projection.clearances[claimSeq]? = some outcome
  | .error _ after => after = now

variable (env scope streamId)

/-- The history that `claim` read has room for what it records. -/
structure ClaimRoom (request : ClaimRequest) (history : List EventEnvelope) : Prop where
  scans : forall projection,
    replay env.toEnvironment scope streamId.text history = .ok projection ->
    ScanRoom projection.customsScans request.node
  claims : forall projection,
    replay env.toEnvironment scope streamId.text history = .ok projection ->
    (decideClaim projection request).isOk = true ->
    projection.openClaims.size < maxProjectionNodes

structure ClearRoom (caller : Caller) (claimSeq : Nat) (manifestHash : WireHash)
    (history : List EventEnvelope) (now : GovernedStream env.toEnvironment scope streamId) :
    Prop where
  scans : forall projection claim,
    replay env.toEnvironment scope streamId.text history = .ok projection ->
    projection.openClaims[claimSeq]? = some claim ->
    ScanRoom projection.customsScans claim.node
  reread : forall executionId appended after,
    appendOne caller (history.length + 1) (clearKind executionId claimSeq manifestHash) now =
      .ok appended after ->
    (history ++ appended).length <= maxReadAll ∧
      ((history ++ appended).foldl (fun meter event => meter.read env.toEnvironment event)
        WalkMeter.zero).withinLimits = true

end Promises

/-!
## The verbs keep them
-/

section Kept

variable {env : StoreEnvironment} {scope : RepositoryScope} {streamId : OpaqueId}
  {read now : GovernedStream env.toEnvironment scope streamId}

theorem standing_eq_ok {ε : Type} {notStarted : ε} {repository : EventRepositoryError -> ε}
    {history : List EventEnvelope} {found : Standing}
    (h : standing env scope streamId notStarted repository history = .ok found) :
    replay env.toEnvironment scope streamId.text history = .ok found.projection ∧
      found.projection.executionId = some found.executionId.text := by
  rcases check_ok h with ⟨_, h⟩
  rcases bind_ok h with ⟨projection, hreplay, h⟩
  rcases bind_ok h with ⟨executionId, hexecution, h⟩
  cases h
  refine And.intro (Except.mapError_eq_ok.mp hreplay) ?_
  rcases Option.bind_eq_some_iff.mp (orRefuse_eq_ok.mp hexecution) with ⟨text, htext, hparse⟩
  rw [OpaqueId.text_of_parse hparse]
  exact htext

theorem nextAfter_eq : nextAfter read.events = (do
    check (decide (read.events.length < u64Max)) .limitExceeded
    .ok (read.events.length + 1)) := by
  have hlast := atSequence_eq_length read.toVerifiedStream
  unfold atSequence at hlast
  unfold nextAfter
  cases hread : read.events.getLast? with
  | none =>
      rw [hread] at hlast
      rw [← show 0 = read.events.length from hlast]
      rfl
  | some last =>
      rw [hread] at hlast
      rw [← show last.sequence = read.events.length from hlast]

theorem nextAfter_eq_ok {position : Nat} (h : nextAfter read.events = .ok position) :
    position = read.events.length + 1 := by
  rw [nextAfter_eq] at h
  rcases check_ok h with ⟨_, h⟩
  exact (Except.ok.inj h).symm

theorem appendOne_eq_error {caller : Caller} {position : Nat} {kind : EventKind}
    {error : EventRepositoryError} {after : GovernedStream env.toEnvironment scope streamId}
    (h : appendOne caller position kind now = .error error after) : after = now := by
  unfold appendOne at h
  split at h
  · cases h
  · cases h
    rfl

theorem planClaim_eq_ok {request : ClaimRequest} {plan : ClaimPlan}
    (h : planClaim env scope streamId request read.events = .ok plan) :
    exists projection executionId node,
      replay env.toEnvironment scope streamId.text read.events = .ok projection ∧
        projection.executionId = some executionId.text ∧ node.text = request.node ∧
        plan.position = read.events.length + 1 ∧
        plan.decision = recordedDecision projection request plan.position ∧
        plan.kind = claimKind executionId node request plan.decision := by
  rcases bind_ok h with ⟨found, hfound, h⟩
  rcases bind_ok h with ⟨node, hnode, h⟩
  rcases bind_ok h with ⟨position, hposition, h⟩
  cases h
  rcases standing_eq_ok hfound with ⟨hreplay, hexecution⟩
  exact ⟨found.projection, found.executionId, node, hreplay, hexecution,
    OpaqueId.text_of_parse (orRefuse_eq_ok.mp hnode),
    nextAfter_eq_ok (Except.mapError_eq_ok.mp hposition), rfl, rfl⟩

theorem recordedDecision_isOk {projection : ExecutionProjection} {request : ClaimRequest}
    {position : Nat} (h : (recordedDecision projection request position).isOk = true) :
    (decideClaim projection request).isOk = true := by
  unfold recordedDecision at h
  cases hdecision : decideClaim projection request with
  | ok _ => rfl
  | error _ =>
      rw [hdecision] at h
      cases h

theorem claim_stands (hgrown : Grown read now) {caller : Caller} {request : ClaimRequest}
    (hroom : ClaimRoom env scope streamId request read.events) :
    ClaimStands request now (claim env scope streamId caller request read.events now) := by
  unfold claim
  split
  · rfl
  · rename_i plan hplan
    rcases planClaim_eq_ok hplan with
      ⟨projection, executionId, node, hreplay, hexecution, hnode, hposition, hdecision, hkind⟩
    rw [hposition] at hdecision ⊢
    split
    · rename_i error after happend
      exact appendOne_eq_error happend
    · rename_i after happend
      rcases placed_behind hgrown happend with ⟨_, _, hempty, _⟩
      cases hempty
    · rename_i event rest after happend
      rcases placed_behind hgrown happend with
        ⟨_, behind, hsingle, hevents, hcarries, hsequence, _⟩
      cases hsingle
      rcases replay_eq_ok_iff.mp hreplay with ⟨_, st, hfold, hprojection⟩
      subst hprojection
      have hevent : event.kind = claimKind executionId node request plan.decision :=
        (congrArg NewEvent.kind hcarries).trans hkind
      rw [← hsequence] at hdecision
      rcases accepts_claimKind hevent hexecution (hnode ▸ hroom.scans _ hreplay) (fun haccepted =>
          hroom.claims _ hreplay (recordedDecision_isOk (hdecision ▸ haccepted))) with
        ⟨st', haccept⟩
      refine ⟨event, st, st', ⟨rfl, read.events, behind, hevents, hfold, haccept⟩,
        ⟨executionId, node, hexecution, hnode, ?_⟩, ?_⟩
      · rw [hevent, hdecision]
      · rw [hdecision]

theorem planClear_eq_ok {claimSeq : Nat} {plan : ClearPlan}
    (h : planClear env scope streamId claimSeq manifestHash read.events = .ok plan) :
    exists projection executionId claim,
      replay env.toEnvironment scope streamId.text read.events = .ok projection ∧
        projection.executionId = some executionId.text ∧
        projection.openClaims[claimSeq]? = some claim ∧
        plan.position = read.events.length + 1 ∧
        plan.kind = clearKind executionId claimSeq manifestHash := by
  rcases bind_ok h with ⟨found, hfound, h⟩
  rcases check_ok h with ⟨hopen, h⟩
  rcases bind_ok h with ⟨position, hposition, h⟩
  cases h
  rcases standing_eq_ok hfound with ⟨hreplay, hexecution⟩
  have hsome : (found.projection.openClaims[claimSeq]?).isSome = true := by
    rw [ExtTreeMap.isSome_getElem?_eq_contains]
    exact hopen
  rcases Option.isSome_iff_exists.mp hsome with ⟨claim, hclaim⟩
  exact ⟨found.projection, found.executionId, claim, hreplay, hexecution, hclaim,
    nextAfter_eq_ok (Except.mapError_eq_ok.mp hposition), rfl⟩

theorem readable_behind {after : GovernedStream env.toEnvironment scope streamId}
    {event : EventEnvelope} {behind : List EventEnvelope} (hgrown : Grown read after)
    (hevents : after.events = read.events ++ event :: behind)
    (hreadable : Readable env.toEnvironment scope streamId.text read.events)
    (hlength : (read.events ++ [event]).length <= maxReadAll)
    (hmeter : ((read.events ++ [event]).foldl
      (fun meter event => meter.read env.toEnvironment event) WalkMeter.zero).withinLimits = true) :
    Readable env.toEnvironment scope streamId.text (read.events ++ [event]) := by
  have hsplit : after.events = (read.events ++ [event]) ++ behind := by
    rw [List.append_assoc]
    exact hevents
  have hsubset : forall other, other ∈ read.events ++ [event] -> other ∈ after.events := by
    intro other hmem
    rw [hsplit]
    exact List.mem_append_left behind hmem
  refine
    { named := hreadable.named
      length := hlength
      presentable :=
        { owned := fun other hmem => after.verified.owned other (hsubset other hmem)
          valid := ?_
          numbered := ?_
          linked := ?_
          keys := ?_
          unseen := fun _ _ => ExtTreeSet.contains_empty
          metered := hmeter } }
  · rcases hgrown.longer with ⟨more, hmore, hvalid⟩
    have hsame : event :: behind = more := List.append_cancel_left (hevents.symm.trans hmore)
    intro other hmem
    rcases List.mem_append.mp hmem with hold | hnew
    · exact hreadable.presentable.valid other hold
    · rw [List.mem_singleton.mp hnew]
      exact hvalid event (hsame ▸ List.mem_cons_self)
  · have hnumbered := after.verified.numbered
    rw [hsplit, numbered_append] at hnumbered
    exact hnumbered.left
  · have hlinked := after.verified.linked
    rw [hsplit, HashChain.linked_append] at hlinked
    exact hlinked.left
  · have hread : (read.events.map EventEnvelope.idempotencyKey).Nodup := by
      apply List.Nodup.of_map OpaqueId.text
      rw [List.map_map]
      exact hreadable.presentable.keys
    have hkeys := hgrown.keys hread
    rw [hsplit, List.map_append] at hkeys
    have htexts := (hkeys.of_append_left).map (fun _ _ h => OpaqueId.text_injective h)
    rw [List.map_map] at htexts
    exact htexts

theorem clear_stands (hgrown : Grown read now) {caller : Caller} {claimSeq : Nat}
    (hroom : ClearRoom env scope streamId caller claimSeq manifestHash read.events now) :
    ClearStands claimSeq manifestHash now
      (clear env scope streamId caller claimSeq manifestHash read.events now) := by
  unfold clear
  split
  · rfl
  · rename_i plan hplan
    rcases planClear_eq_ok hplan with
      ⟨projection, executionId, claim, hreplay, hexecution, hclaim, hposition, hkind⟩
    rw [hposition, hkind]
    split
    · rename_i error after happend
      exact appendOne_eq_error happend
    · rename_i appended after happend
      rcases placed_behind hgrown happend with
        ⟨event, behind, rfl, hevents, hcarries, hsequence, hafter⟩
      rcases replay_eq_ok_iff.mp hreplay with ⟨hreadable, st, hfold, hprojection⟩
      subst hprojection
      have hevent : event.kind = clearKind executionId claimSeq manifestHash :=
        congrArg NewEvent.kind hcarries
      rcases accepts_clearKind hevent hexecution hclaim (hroom.scans _ claim hreplay hclaim) with
        ⟨st', haccept, hverdict⟩
      have hlimits := hroom.reread executionId [event] after happend
      have hagain : replay env.toEnvironment scope streamId.text (read.events ++ [event]) =
          .ok st'.projection :=
        replay_eq_ok_iff.mpr
          ⟨readable_behind hafter hevents hreadable hlimits.left hlimits.right, st',
            foldHistory_concat.mpr ⟨st, hfold, haccept⟩, rfl⟩
      have houtcome : verdictOf env scope streamId claimSeq (read.events ++ [event]) =
          .ok (clearanceVerdict st.projection.clearanceRegistry claim
            (.machineReplay manifestHash)) := by
        unfold verdictOf
        rw [hagain]
        exact orRefuse_eq_ok.mpr hverdict
      rw [houtcome]
      exact ⟨event, st, st', executionId, claim,
        ⟨rfl, read.events, behind, hevents, hfold, haccept⟩, hevent, hclaim, rfl, hverdict⟩

end Kept

/-- Whatever is appended between what a verb read and its append: an answer of `claim` or of
`clear` tells the event it committed, which the fold of exactly the history before it accepts and
on which the decision is the one recorded, and an error leaves nothing; as long as the history
that was read has room for the record. -/
theorem verbs_stand {env : StoreEnvironment} {scope : RepositoryScope} {streamId : OpaqueId}
    {read now : GovernedStream env.toEnvironment scope streamId} {others : List OtherAppend}
    (hrun : run otherStep read others = some now) :
    (forall caller request, ClaimRoom env scope streamId request read.events ->
      ClaimStands request now (claim env scope streamId caller request read.events now)) ∧
    (forall caller claimSeq manifestHash,
      ClearRoom env scope streamId caller claimSeq manifestHash read.events now ->
      ClearStands claimSeq manifestHash now
        (clear env scope streamId caller claimSeq manifestHash read.events now)) :=
  And.intro (fun _ _ hroom => claim_stands (grown_of_run hrun) hroom)
    fun _ _ _ hroom => clear_stands (grown_of_run hrun) hroom

/-!
## A timeline that is full
-/

namespace Sample

open GraphHelm.Sample (scope streamId storeEnv history numbered numbered_injective executionId
  started event parked)

def stream (news : List NewEvent) :
    GovernedStream storeEnv.toStoreEnvironment.toEnvironment scope streamId :=
  { toVerifiedStream := GraphHelm.Sample.verified news
    batches := [history news]
    flattened := List.append_nil _ }

def request : ClaimRequest :=
  { node := "node"
    completesWaitSeq := none
    evidence := []
    attestation := { asserter := GraphHelm.Sample.id "claimant", mode := .machineVerified }
    requiredProofKinds := [] }

def nextStamps : Stamps :=
  { occurredAt := some 2000000000
    eventId := fun _ => some (GraphHelm.Sample.id "next") }

/-- The caller whose event is the one after `written` others. -/
def caller (written : Nat) : Caller :=
  { actor := { actorType := .owner, id := "owner" }
    key := numbered written
    stamps := nextStamps }

def begun : NewEvent := { started with idempotencyKey := numbered 0 }

def refusedAt (n : Nat) : NewEvent :=
  { event "" (.completionRefused
      { executionId := executionId
        node := GraphHelm.Sample.id "node"
        claimedWaitSeq := n + 2
        reasonCode := Refusal.notWaiting }) with
    idempotencyKey := numbered (n + 1) }

/-- An execution on which a claim was refused `n` times. -/
def refusedOften (n : Nat) : List NewEvent :=
  begun :: (List.range n).map refusedAt

theorem keys_refusedOften (n : Nat) :
    (refusedOften n).map NewEvent.idempotencyKey = (List.range (n + 1)).map numbered := by
  rw [List.range_succ_eq_map]
  unfold refusedOften
  rw [List.map_cons, List.map_cons, List.map_map, List.map_map]
  rfl

theorem verbs_stand_while_parked :
    ClaimStands request (stream parked)
      (claim storeEnv.toStoreEnvironment scope streamId (caller 6) request (stream parked).events
        (stream parked)) := by
  have hfacts : (foldHistory GraphHelm.Sample.env (history parked)).any (fun st =>
      decide (st.projection.customsScans.size < maxProjectionNodes) &&
        decide ((st.projection.customsScans["node"]?.getD []).length < maxProjectionNodes) &&
        decide (st.projection.openClaims.size < maxProjectionNodes)) = true := by
    decide
  rcases (Option.any_eq_true _ _).mp hfacts with ⟨st, hfold, hroom⟩
  simp only [Bool.and_eq_true, decide_eq_true_eq] at hroom
  have hsame : forall projection,
      replay GraphHelm.Sample.env scope streamId.text (history parked) = .ok projection ->
        projection = st.projection := by
    intro projection hreplay
    rcases (replay_eq_ok_iff.mp hreplay).right with ⟨other, hother, hprojection⟩
    rw [← hprojection, Option.some.inj (hother.symm.trans hfold)]
  have hrun : run otherStep (stream parked) [] = some (stream parked) := rfl
  refine (verbs_stand hrun).left (caller 6) request
    { scans := fun projection hreplay => ?_
      claims := fun projection hreplay _ => ?_ }
  · rw [hsame projection hreplay]
    exact ⟨Or.inl hroom.left.left, hroom.left.right⟩
  · rw [hsame projection hreplay]
    exact hroom.right

def Plain (new : NewEvent) : Prop :=
  (new.evidenceRefs = [] ∧ new.artifactRefs = []) ∧
    ((exists payload, new.kind = .executionStarted payload) ∨
      exists payload, new.kind = .completionRefused payload)

variable {n : Nat}

theorem plain_of_mem {new : NewEvent} (h : new ∈ refusedOften n) : Plain new := by
  rcases List.mem_cons.mp h with rfl | hmem
  · exact ⟨⟨rfl, rfl⟩, Or.inl ⟨_, rfl⟩⟩
  · rcases List.mem_map.mp hmem with ⟨_, _, rfl⟩
    exact ⟨⟨rfl, rfl⟩, Or.inr ⟨_, rfl⟩⟩

theorem validateEnvelope_of_plain {envelope : EventEnvelope} (hscope : envelope.scope = scope)
    (h : Plain envelope.toNewEvent) :
    validateEnvelope GraphHelm.Sample.env envelope = .ok () := by
  have hsome : scope.executionId.isSome = true := rfl
  unfold validateEnvelope validateEnvelopeContent scopeLevelAgrees retentionScopeAgrees
    publicationAgrees
  rw [hscope, hsome]
  rcases h.right with ⟨payload, hkind⟩ | ⟨payload, hkind⟩
  · rw [show envelope.kind = .executionStarted payload from hkind]
    rfl
  · rw [show envelope.kind = .completionRefused payload from hkind]
    rfl

theorem meter_of_plain {events : List EventEnvelope} {meter : WalkMeter}
    (h : forall event, event ∈ events -> Plain event.toNewEvent) :
    events.foldl (fun meter event => meter.read GraphHelm.Sample.env event) meter =
      { meter with aggregateBytes := meter.aggregateBytes + 512 * events.length } := by
  induction events generalizing meter with
  | nil => rfl
  | cons event rest ih =>
      have hrefs := (h event List.mem_cons_self).left
      have hread : meter.read GraphHelm.Sample.env event =
          { meter with aggregateBytes := meter.aggregateBytes + 512 } := by
        unfold WalkMeter.read WalkMeter.addBytes WalkMeter.addReferences
        rw [show event.evidenceRefs = [] from hrefs.left, show event.artifactRefs = [] from hrefs.right]
        rfl
      rw [List.foldl_cons, ih fun other hmem => h other (List.mem_cons_of_mem event hmem), hread]
      simp only [WalkMeter.mk.injEq, and_true, List.length_cons]
      omega

theorem plain_of_history {envelope : EventEnvelope} (h : envelope ∈ history (refusedOften n)) :
    Plain envelope.toNewEvent := by
  apply plain_of_mem (n := n)
  rw [← (GraphHelm.Sample.history_continuation (refusedOften n)).carries]
  exact List.mem_map_of_mem h

theorem length_history (n : Nat) : (history (refusedOften n)).length = n + 1 := by
  have hlength := congrArg List.length
    (GraphHelm.Sample.history_continuation (refusedOften n)).carries
  rw [List.length_map] at hlength
  rw [hlength]
  unfold refusedOften
  rw [List.length_cons, List.length_map, List.length_range]

theorem refusedOften_readable (h : n <= maxProjectionNodes) :
    Readable GraphHelm.Sample.env scope streamId.text (history (refusedOften n)) := by
  have hbound : n <= 10000 := h
  apply GraphHelm.Sample.history_readable
  · have hlength := length_history n
    unfold refusedOften
    rw [List.length_cons, List.length_map, List.length_range]
    unfold maxReadAll
    omega
  · refine List.all_eq_true.mpr fun envelope hmem => ?_
    have howned := (GraphHelm.Sample.history_continuation (refusedOften n)).owned envelope hmem
    rw [validateEnvelope_of_plain howned.left (plain_of_history hmem)]
    rfl
  · have hkeys : (refusedOften n).map (fun event => event.idempotencyKey.text) =
        ((List.range (n + 1)).map numbered).map OpaqueId.text := by
      rw [← keys_refusedOften, List.map_map]
      rfl
    rw [hkeys, List.map_map]
    refine List.Nodup.map_on (fun a ha b hb heq => ?_) List.nodup_range
    rw [List.mem_range] at ha hb
    exact numbered_injective (by omega) (by omega) (OpaqueId.text_injective heq)
  · rw [meter_of_plain fun _ => plain_of_history, length_history]
    unfold WalkMeter.withinLimits WalkMeter.zero maxJournalBytes maxReadAll
    simp only [Bool.and_eq_true, decide_eq_true_eq]
    omega

structure Timeline (n : Nat) (st : FoldState) : Prop where
  execution : st.projection.executionId = some executionId.text
  undriven : st.projection.nodeStates["node"]? = none
  scans : (st.projection.customsScans["node"]?.getD []).length = n
  nodes : st.projection.customsScans.size < maxProjectionNodes ∨
    st.projection.customsScans.contains "node" = true

theorem length_scanned (scans : ExtTreeMap String (List CustomsScan)) (node : String)
    (scan : CustomsScan) :
    ((scans.insert node (scans[node]?.getD [] ++ [scan]))[node]?.getD []).length =
      (scans[node]?.getD []).length + 1 := by
  rw [ExtTreeMap.getElem?_insert_self]
  exact List.length_append

theorem Timeline.next {k : Nat} {st : FoldState} {event : EventEnvelope} (h : Timeline k st)
    (hkind : event.kind = (refusedAt n).kind) (hroom : k < maxProjectionNodes) :
    exists st', accept GraphHelm.Sample.env st event = some st' ∧ Timeline (k + 1) st' := by
  have hscan : ScanRoom st.projection.customsScans "node" :=
    ⟨h.nodes, by rw [h.scans]; exact hroom⟩
  simp only [accept_eq_some]
  unfold applyProjectionEvent nameStream foldKind
  simp only [modifyProjection_bind, hkind]
  refine ⟨_, requireExecution_bind_eq_ok.mpr
    (And.intro h.execution (recordScan_eq_ok.mpr ⟨hscan, rfl⟩)), ?_⟩
  refine
    { execution := h.execution
      undriven := h.undriven
      scans := (length_scanned _ _ _).trans (congrArg Nat.succ h.scans)
      nodes := Or.inr ExtTreeMap.contains_insert_self }

theorem timeline_of_refusals {k : Nat} {st : FoldState} {events : List EventEnvelope}
    (h : Timeline k st)
    (hkinds : forall event, event ∈ events -> exists n, event.kind = (refusedAt n).kind)
    (hroom : k + events.length <= maxProjectionNodes) :
    exists st', run (accept GraphHelm.Sample.env) st events = some st' ∧
      Timeline (k + events.length) st' := by
  induction events generalizing k st with
  | nil => exact ⟨st, rfl, h⟩
  | cons event rest ih =>
      rw [List.length_cons] at hroom ⊢
      rcases hkinds event List.mem_cons_self with ⟨n, hkind⟩
      rcases h.next hkind (by omega) with ⟨next, haccept, hnext⟩
      rcases ih hnext (fun other hmem => hkinds other (List.mem_cons_of_mem event hmem))
        (by omega) with ⟨st', hrun, hst'⟩
      refine ⟨st', run_cons_eq_some.mpr ⟨next, haccept, hrun⟩, ?_⟩
      rw [Nat.add_comm rest.length 1, ← Nat.add_assoc]
      exact hst'

theorem timeline_of_fold (h : n <= maxProjectionNodes) :
    exists st, foldHistory GraphHelm.Sample.env (history (refusedOften n)) = some st ∧
      Timeline n st := by
  have hcarries := (GraphHelm.Sample.history_continuation (refusedOften n)).carries
  rcases List.map_eq_cons_iff.mp hcarries with ⟨first, rest, hevents, hfirst, hrest⟩
  have hlength := length_history n
  rw [hevents, List.length_cons] at hlength
  have hkind : first.kind = .executionStarted
      { executionId := executionId
        graphVersion := 1
        graphHash := "sha256:graph"
        mode := .manual } := congrArg NewEvent.kind hfirst
  have hbegun : exists st, accept GraphHelm.Sample.env FoldState.initial first = some st ∧
      Timeline 0 st := by
    simp only [accept_eq_some]
    unfold applyProjectionEvent nameStream foldKind
    simp only [modifyProjection_bind, hkind]
    unfold foldExecutionStarted
    simp only [getProjection_bind]
    refine ⟨_, require_bind_eq_ok.mpr (And.intro rfl (modifyProjection_eq_ok.mpr rfl)), ?_⟩
    exact
      { execution := rfl
        undriven := ExtTreeMap.getElem?_empty
        scans := congrArg (fun scans => (Option.getD scans []).length) ExtTreeMap.getElem?_empty
        nodes := Or.inl (Nat.lt_of_le_of_lt (Nat.le_of_eq ExtTreeMap.size_empty) (by decide)) }
  rcases hbegun with ⟨st, haccept, hst⟩
  have hkinds : forall event, event ∈ rest -> exists n, event.kind = (refusedAt n).kind := by
    intro event hmem
    have hnew := List.mem_map_of_mem (f := EventEnvelope.toNewEvent) hmem
    rw [hrest] at hnew
    rcases List.mem_map.mp hnew with ⟨k, _, heq⟩
    exact ⟨k, congrArg NewEvent.kind heq.symm⟩
  have hcount : rest.length = n := Nat.succ.inj hlength
  rcases timeline_of_refusals hst hkinds (by omega) with ⟨st', hrun, hst'⟩
  rw [Nat.zero_add, hcount] at hst'
  refine ⟨st', ?_, hst'⟩
  unfold foldHistory
  rw [hevents]
  exact run_cons_eq_some.mpr ⟨st, haccept, hrun⟩

theorem unrecorded_key {n : Nat} (h : n <= maxProjectionNodes) {envelope : EventEnvelope}
    (hmem : envelope ∈ history (refusedOften n)) : envelope.idempotencyKey ≠ numbered (n + 1) := by
  have hbound : n <= 10000 := h
  have hkey := List.mem_map_of_mem (f := EventEnvelope.idempotencyKey) hmem
  have hkeys : (history (refusedOften n)).map EventEnvelope.idempotencyKey =
      (List.range (n + 1)).map numbered := by
    calc
      (history (refusedOften n)).map EventEnvelope.idempotencyKey
          = ((history (refusedOften n)).map EventEnvelope.toNewEvent).map
              NewEvent.idempotencyKey := by rw [List.map_map]; rfl
      _ = (refusedOften n).map NewEvent.idempotencyKey := by
        rw [(GraphHelm.Sample.history_continuation (refusedOften n)).carries]
      _ = (List.range (n + 1)).map numbered := keys_refusedOften n
  rw [hkeys] at hkey
  rcases List.mem_map.mp hkey with ⟨k, hk, heq⟩
  rw [List.mem_range] at hk
  intro hsame
  have := numbered_injective (by omega) (by omega) (heq.trans hsame)
  omega

theorem appendAtomic_of_append {env : StoreEnvironment} {scope : RepositoryScope}
    {streamId : OpaqueId} {stream : GovernedStream env.toEnvironment scope streamId}
    {stamps : Stamps} {position : Nat} {news : List NewEvent}
    {after : VerifiedStream env.toEnvironment scope streamId.text}
    (hprepared : news.all (publicationPrepared env scope) = true)
    (hlineage : validateGraphLineage stream.activeVersion news = .ok ())
    (happend : stream.toVerifiedStream.append stamps position news = .ok after) :
    exists answer, stream.appendAtomic stamps position news = .ok answer := by
  unfold GovernedStream.appendAtomic
  rw [hprepared, hlineage]
  simp only [check, if_true, Except.ok_bind]
  split
  · rename_i error hrefused
    rw [happend] at hrefused
    cases hrefused
  · exact ⟨_, rfl⟩

theorem extend_of_plain {stream : VerifiedStream storeEnv.toStoreEnvironment.toEnvironment scope
      streamId.text} {new : NewEvent} (hroom : stream.events.length + 1 <= maxSafeInteger)
    (hplain : Plain new) : exists after, stream.extend nextStamps [new] = .ok after := by
  have hbuild : exists added, buildEnvelopes storeEnv.toStoreEnvironment.toEnvironment scope
      streamId nextStamps (stream.events.length + 1) 0 stream.lastHash [new] = .ok added := by
    unfold buildEnvelopes
    refine ⟨_, Except.bind_eq_ok.mpr ⟨_, rfl, check_bind_eq_ok.mpr ⟨decide_eq_true hroom,
      Except.bind_eq_ok.mpr ⟨_, rfl, Except.bind_eq_ok.mpr ⟨(), rfl,
        Except.bind_eq_ok.mpr ⟨(), ?_, rfl⟩⟩⟩⟩⟩⟩
    exact validateEnvelope_of_plain rfl hplain
  rcases hbuild with ⟨added, hbuild⟩
  unfold VerifiedStream.extend
  split
  · rename_i error hrefused
    rw [hbuild] at hrefused
    cases hrefused
  · exact ⟨_, rfl⟩

theorem appendOne_takes (h : n <= maxProjectionNodes) {kind : EventKind}
    (hkind : exists payload, kind = .completionRefused payload) : exists appended after,
    appendOne (caller (n + 1)) (n + 2) kind (stream (refusedOften n)) = .ok appended after := by
  have hbound : n <= 10000 := h
  have hlength : (stream (refusedOften n)).events.length = n + 1 := length_history n
  rcases hkind with ⟨payload, hkind⟩
  have hunrecorded := fun envelope hmem => @unrecorded_key n h envelope hmem
  have happend : exists after, (stream (refusedOften n)).toVerifiedStream.append
      (caller (n + 1)).stamps (n + 2) [(caller (n + 1)).event kind] = .ok after := by
    have hroom : (stream (refusedOften n)).toVerifiedStream.events.length + 1 <=
        maxSafeInteger := by
      rw [hlength]
      exact Nat.le_trans (Nat.add_le_add_right hbound 2) (by decide)
    have hplain : Plain ((caller (n + 1)).event kind) := ⟨⟨rfl, rfl⟩, Or.inr ⟨payload, hkind⟩⟩
    rcases extend_of_plain hroom hplain with ⟨after, hextend⟩
    refine ⟨after, check_bind_eq_ok.mpr ⟨rfl, check_bind_eq_ok.mpr ⟨?_, check_bind_eq_ok.mpr
      ⟨?_, check_bind_eq_ok.mpr ⟨?_, hextend⟩⟩⟩⟩⟩
    · simp
    · unfold VerifiedStream.unrecorded
      simp only [List.all_cons, List.all_nil, Bool.and_true]
      refine List.all_eq_true.mpr fun envelope hmem => ?_
      rw [bne_iff_ne]
      exact fun hsame => hunrecorded envelope hmem (OpaqueId.text_injective hsame)
    · unfold VerifiedStream.nextSequence
      rw [hlength]
      exact decide_eq_true rfl
  have hatomic : exists answer, (stream (refusedOften n)).appendAtomic (caller (n + 1)).stamps (n + 2)
      [(caller (n + 1)).event kind] = .ok answer := by
    rcases happend with ⟨after, happend⟩
    subst hkind
    exact appendAtomic_of_append rfl rfl happend
  have hfind : (stream (refusedOften n)).batches.find? (fun batch => batch.any fun event =>
      [(caller (n + 1)).event kind].any fun new =>
        event.idempotencyKey = new.idempotencyKey) = none := by
    refine List.find?_eq_none.mpr fun batch hbatch hany => ?_
    rw [List.mem_singleton.mp hbatch] at hany
    rcases List.any_eq_true.mp hany with ⟨envelope, hmem, hsame⟩
    have hsame : envelope.idempotencyKey = ((caller (n + 1)).event kind).idempotencyKey := by
      simpa using hsame
    exact hunrecorded envelope hmem hsame
  rcases hatomic with ⟨answer, hatomic⟩
  have hplace : placeOne (caller (n + 1)) (n + 2) kind (stream (refusedOften n)) =
      .ok answer := by
    refine check_bind_eq_ok.mpr (And.intro ?_ ?_)
    · unfold newRequestAllowed maxSafeInteger
      simp [maxBatchEvents, maxEvidenceItems, maxArtifacts, maxEvidenceBatchBytes]
      omega
    · unfold appendOrRetry
      rw [hfind]
      exact hatomic
  unfold appendOne
  rw [hplace]
  exact ⟨_, _, rfl⟩

theorem planClaim_refused (h : n <= maxProjectionNodes) {st : FoldState}
    (hfold : foldHistory GraphHelm.Sample.env (history (refusedOften n)) = some st)
    (hst : Timeline n st) :
    planClaim storeEnv.toStoreEnvironment scope streamId request
        (stream (refusedOften n)).events =
      .ok
        { position := n + 2
          decision := .error (Refusal.notWaiting, n + 2)
          kind := (refusedAt n).kind } := by
  have hbound : n <= 10000 := h
  have hlength : (stream (refusedOften n)).events.length = n + 1 := length_history n
  have hreplay : replay GraphHelm.Sample.env scope streamId.text (history (refusedOften n)) =
      .ok st.projection :=
    replay_eq_ok_iff.mpr ⟨refusedOften_readable h, st, hfold, rfl⟩
  have hstanding : standing storeEnv.toStoreEnvironment scope streamId ClaimError.notStarted
      .repository (stream (refusedOften n)).events =
        .ok { projection := st.projection, executionId := executionId } := by
    refine check_bind_eq_ok.mpr ⟨decide_eq_true ?_, Except.bind_eq_ok.mpr
      ⟨st.projection, Except.mapError_eq_ok.mpr hreplay, Except.bind_eq_ok.mpr
        ⟨executionId, orRefuse_eq_ok.mpr ?_, rfl⟩⟩⟩
    · rw [hlength]
      exact Nat.le_trans (Nat.add_le_add_right hbound 1) (by decide)
    · rw [hst.execution]
      exact OpaqueId.parse_text executionId
  have hposition : nextAfter (stream (refusedOften n)).events = .ok (n + 2) := by
    rw [nextAfter_eq, hlength]
    refine check_bind_eq_ok.mpr ⟨decide_eq_true ?_, rfl⟩
    exact Nat.lt_of_le_of_lt (Nat.add_le_add_right hbound 1) (by decide)
  have hdecision : recordedDecision st.projection request (n + 2) =
      .error (Refusal.notWaiting, n + 2) := by
    have hrefused : decideClaim st.projection request = .error (Refusal.notWaiting, none) := by
      unfold decideClaim
      rw [show st.projection.nodeStates[request.node]? = none from hst.undriven]
      rfl
    unfold recordedDecision
    rw [hrefused]
    rfl
  refine Except.bind_eq_ok.mpr ⟨_, hstanding, Except.bind_eq_ok.mpr
    ⟨GraphHelm.Sample.id "node", by decide, Except.bind_eq_ok.mpr
      ⟨n + 2, Except.mapError_eq_ok.mpr hposition, ?_⟩⟩⟩
  rw [hdecision]
  rfl

/-- One refusal more is committed in any case, but folded only where there is room for it. -/
theorem room_of_stands (h : n <= maxProjectionNodes)
    (hstands : ClaimStands request (stream (refusedOften n))
      (claim storeEnv.toStoreEnvironment scope streamId (caller (n + 1)) request
        (stream (refusedOften n)).events (stream (refusedOften n)))) :
    n < maxProjectionNodes := by
  rcases timeline_of_fold h with ⟨st, hfold, hst⟩
  have hlength : (stream (refusedOften n)).events.length = n + 1 := length_history n
  have hrefusal : exists payload, (refusedAt n).kind = .completionRefused payload ∧
      payload.node.text = "node" :=
    ⟨_, rfl, show (GraphHelm.Sample.id "node").text = "node" from by decide⟩
  rcases hrefusal with ⟨payload, hkind, hnode⟩
  rcases appendOne_takes h ⟨payload, hkind⟩ with ⟨appended, after, happend⟩
  have hposition : appendOne (caller (n + 1)) ((stream (refusedOften n)).events.length + 1)
      (refusedAt n).kind (stream (refusedOften n)) = .ok appended after := by
    rw [hlength]
    exact happend
  rcases placed_behind (Grown.refl (stream (refusedOften n))) hposition with
    ⟨event, behind, rfl, hevents, hcarries, hsequence, _⟩
  unfold claim at hstands
  rw [planClaim_refused h hfold hst] at hstands
  simp only [happend] at hstands
  rcases hstands with ⟨other, folded, st', hcommitted, _⟩
  cases hcommitted.appended
  rcases hcommitted.accepted with ⟨before, rest, hsplit, hbefore, haccept⟩
  -- The event stands behind the whole history, so that is the one the fold is taken of.
  have hnumbered := after.verified.numbered
  rw [hsplit, numbered_append, Nat.zero_add] at hnumbered
  have hcount : before.length = (stream (refusedOften n)).events.length :=
    Nat.succ.inj (hnumbered.right.left.symm.trans hsequence)
  have hsame : before = history (refusedOften n) :=
    (List.append_inj (hsplit.symm.trans hevents) hcount).left
  rw [hsame] at hbefore
  cases Option.some.inj (hbefore.symm.trans hfold)
  have hroom := room_of_refused ((congrArg NewEvent.kind hcarries).trans hkind) haccept
  have htimeline := hroom.timeline
  rw [hnode, hst.scans] at htimeline
  exact htimeline

end Sample

/-- On a node whose timeline is full a refusal is committed, and no fold accepts it. -/
theorem verbs_fail_on_a_full_timeline :
    ¬ (forall (env : StoreEnvironment) (scope : RepositoryScope) (streamId : OpaqueId)
        (read now : GovernedStream env.toEnvironment scope streamId) (others : List OtherAppend),
        run otherStep read others = some now -> forall caller request,
          ClaimStands request now
            (claim env scope streamId caller request read.events now)) := by
  intro hclaim
  have hroom : forall n, n <= maxProjectionNodes -> n < maxProjectionNodes := fun n hn =>
    Sample.room_of_stands hn (hclaim _ _ _ _ _ [] rfl (Sample.caller (n + 1)) Sample.request)
  exact absurd (hroom maxProjectionNodes (Nat.le_refl _)) (Nat.lt_irrefl maxProjectionNodes)

end Customs
end GraphHelm
