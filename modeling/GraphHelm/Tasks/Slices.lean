import GraphHelm.Tasks.State

/-!
# The slices of the fold

What one record does to the slice it lands in, and what the merge or close of another
slice does to it (`tasks.rs`).
-/

namespace GraphHelm
namespace Tasks

open Std

/-- The gap after which a claim, a plan or a new head starts the clock anew. -/
def activeGapMs : Int :=
  30 * 60000

/-!
## The clock
-/

def timedStep (step : String) : Bool :=
  step == "plan" || step == "critic" || step == "implement" || step == "review" || step == "merge"

/-- Milliseconds of an instant since the epoch. -/
def timestampMillis (instant : PersistedTimestamp) : Int :=
  instant / 1000000

def StepClock.book (clock : StepClock) (step : String) (millis : Int) : StepClock :=
  { clock with spent := clock.spent.insert step (clock.spent[step]?.getD 0 + millis) }

def resumesFrom (clock : StepClock) («at» : Option PersistedTimestamp) :
    Option (PersistedTimestamp × PersistedTimestamp) :=
  match clock.since, clock.lastAt.or clock.since, «at» with
  | some since, some last, some now =>
      if timestampMillis last <= timestampMillis now &&
          activeGapMs <= timestampMillis now - timestampMillis last then
        some (since, last)
      else
        none
  | _, _, _ => none

/-- Moves the clock when a record changes the slice's step. -/
def clockStep (clock : StepClock) (before after : String) («at» : Option PersistedTimestamp)
    (resumeAfterGap : Bool) : StepClock :=
  match if resumeAfterGap then resumesFrom clock «at» else none with
  | some (since, last) =>
      let booked :=
        if timestampMillis since < timestampMillis last && timedStep before then
          clock.book before (timestampMillis last - timestampMillis since)
        else
          clock
      { booked with since := «at», lastAt := «at» }
  | none =>
      if before = after then
        { clock with since := clock.since.or «at», lastAt := «at».or clock.lastAt }
      else
        let booked :=
          match clock.since, «at» with
          | some since, some now =>
              if timestampMillis since <= timestampMillis now && timedStep before then
                clock.book before (timestampMillis now - timestampMillis since)
              else
                clock
          | _, _ => clock
        { booked with since := «at», lastAt := «at» }

def timed (planMissing : Bool) (step : TaskStep) : String :=
  if (step = .plan ∨ step = .critic) ∧ planMissing = true then "implement" else step.asStr

/-!
## Verdicts
-/

structure BlockerAt where
  reviewer : String
  headSha : String
  commentUrl : String
  sequence : Nat

/-- The unanswered BLOCKs of a slice by their reviewers. -/
abbrev Blockers := ExtTreeMap String BlockerAt

def resetReviewContext (state : TaskState) (sequence : Nat) : TaskState :=
  { state with
      reviewContextSequence := some sequence
      reviewActivityRevision := some 0
      reviewActivity := none }

def pushUnique (list : List String) (value : String) : List String :=
  if list.contains value then list else list ++ [value]

def segmentOk (segment : List Char) : Bool :=
  !segment.isEmpty &&
    segment.all fun c => c.isAlphanum || c == '_' || c == '.' || c == '-'

/-- `https://github.com/<owner>/<repo>` read off a verdict's comment URL. -/
def repoUrlOf (commentUrl : String) : Option String :=
  match "https://github.com/".toList.isPrefixOf? commentUrl.toList with
  | none => none
  | some rest =>
      let owner := rest.takeWhile fun c => c ≠ '/'
      match rest.dropWhile fun c => c ≠ '/' with
      | [] => none
      | _ :: more =>
          let repo := more.takeWhile fun c => c ≠ '/'
          -- the pattern needs a slash after the repository
          if (more.dropWhile fun c => c ≠ '/').isEmpty then
            none
          else if segmentOk owner && segmentOk repo then
            some ("https://github.com/" ++ String.ofList owner ++ "/" ++ String.ofList repo)
          else
            none

def sameRound (state : TaskState) (event : TaskEventRecord) : Bool :=
  state.rounds.getLast?.any fun last =>
    last.fixHead.isNone && event.headSha.any fun head => sameHead last.headSha head

/-- The oldest unanswered BLOCK. -/
def oldestBlocker (blockers : Blockers) : Option BlockerAt :=
  minByKey (fun blocker => (blocker.sequence : Int)) (blockers.toList.map Prod.snd)

def showBlockers (state : TaskState) (blockers : Blockers) : TaskState :=
  let oldest := oldestBlocker blockers
  { state with
      blockedBy := oldest.map fun blocker =>
        { reviewer := blocker.reviewer, headSha := blocker.headSha
          commentUrl := blocker.commentUrl }
      blockedSequence := oldest.map BlockerAt.sequence
      step := if oldest.isNone then .merge else .review }

/-- What a BLOCK adds to the unanswered ones. -/
def blockerOf (event : TaskEventRecord) : BlockerAt where
  reviewer := event.reviewer.getD ""
  headSha := event.headSha.getD ""
  commentUrl := event.commentUrl.getD ""
  sequence := event.sequence

def noteReviewer (state : TaskState) (event : TaskEventRecord) : TaskState :=
  { state with
      reviewers :=
        match event.reviewer with
        | some reviewer => pushUnique state.reviewers reviewer
        | none => state.reviewers
      repoUrl := state.repoUrl.or (event.commentUrl.bind repoUrlOf) }

def applyVerdict (state : TaskState) (event : TaskEventRecord) (blockers : Blockers) :
    TaskState × Blockers :=
  let state := noteReviewer state event
  if event.verdict = some .block then
    let blocker := blockerOf event
    let blockers := blockers.insert blocker.reviewer blocker
    let state :=
      if sameRound state event then
        state
      else
        { state with
            rounds := state.rounds ++
              [{ reviewer := blocker.reviewer, headSha := blocker.headSha
                 commentUrl := blocker.commentUrl, fixHead := none
                 blockedAt := event.occurredAt, fixedAt := none }] }
    (showBlockers state blockers, blockers)
  else
    let state :=
      if event.verdict = some .approveWithRisk then
        { state with
            approvedWithRisk :=
              some { reviewer := event.reviewer.getD "", commentUrl := event.commentUrl.getD "" } }
      else
        state
    let blockers :=
      match event.reviewer with
      | some reviewer => blockers.erase reviewer
      | none => blockers
    (showBlockers state blockers, blockers)

/-!
## What a record does to its slice, by its kind
-/

def githubUrl (repo : String) : String :=
  "https://github.com/" ++ repo

def journeysOf (state : TaskState) (event : TaskEventRecord) : List String :=
  match event.journeys with
  | some journeys => if journeys.isEmpty then state.journeys else journeys
  | none => state.journeys

def claimed (state : TaskState) (event : TaskEventRecord) : TaskState :=
  let state :=
    { state with
        assignedBy := event.assignedBy
        branch := event.branch.or state.branch
        parent := event.parent.or state.parent
        title := event.title.or state.title
        summary := event.summary.or state.summary
        repoUrl := (event.repo.map githubUrl).or state.repoUrl
        issue := event.issue.or state.issue
        lane := event.lane.or state.lane
        journeys := journeysOf state event }
  if state.claimSequence.isNone then
    { state with
        claimSequence := some event.sequence
        claimedAt := event.occurredAt
        leaseSeconds := event.leaseSeconds }
  else
    state

def planned (state : TaskState) (event : TaskEventRecord) : TaskState :=
  let state :=
    { state with
        lane := event.lane.or state.lane
        plan := event.plan.or state.plan
        paths := event.paths.getD state.paths }
  -- a plan recorded late does not move the slice back
  if state.step = .plan ∨ state.step = .critic then
    { state with
        step :=
          if state.plan.any fun plan => plan.critic.mode == "design" then
            .critic
          else
            .implement }
  else
    state

/-- The opening names the head the slice already has. -/
def sameHeadRepeat (state : TaskState) (event : TaskEventRecord) : Bool :=
  sameOptHead event.headSha state.headSha

def pendingOpened (state : TaskState) (event : TaskEventRecord) : Bool :=
  state.pendingReviewer.any fun pending =>
    event.headSha.any fun head => sameHead pending.headSha head

def openHead (state : TaskState) (event : TaskEventRecord) (blockers : Blockers) :
    TaskState × Blockers :=
  let isRepeat := sameHeadRepeat state event
  let pending := pendingOpened state event
  let state :=
    if !isRepeat || pending then resetReviewContext state event.sequence else state
  let state :=
    { state with
        repoUrl := (event.repo.map githubUrl).or state.repoUrl
        pr := event.pr.or state.pr
        lane := event.lane.or state.lane
        prTitle := event.title.or state.prTitle
        prSummary := event.summary.or state.prSummary }
  let (state, blockers) :=
    if isRepeat then
      (state, blockers)
    else
      ({ state with
          currentReviewer := none
          approvedWithRisk := none
          blockedBy := none
          blockedSequence := none },
        ∅)
  let state := { state with headSha := event.headSha.or state.headSha }
  let state :=
    if pending then
      { state with
          currentReviewer := state.pendingReviewer.map PendingReviewer.reviewer
          pendingReviewer := none }
    else
      state
  let state := { state with journeys := journeysOf state event }
  (if isRepeat then state else { state with step := .review }, blockers)

/-- A newer head after a BLOCK is the author's fix. -/
def fixRound (state : TaskState) (event : TaskEventRecord) : TaskState :=
  match state.rounds.getLast?, event.headSha with
  | some round, some head =>
      if sameHead head round.headSha then
        state
      else
        { state with
            rounds := state.rounds.dropLast ++
              [{ round with fixHead := some head, fixedAt := event.occurredAt }] }
  | _, _ => state

def answerBlock (state : TaskState) (event : TaskEventRecord) : TaskState :=
  match state.blockedBy, event.headSha with
  | some blocked, some head =>
      if sameHead head blocked.headSha then
        state
      else
        { state with blockedBy := none, blockedSequence := none }
  | _, _ => state

def recordHead (state : TaskState) (event : TaskEventRecord) : TaskState :=
  match event.headSha with
  | some head => { state with recordedHeads := pushUnique state.recordedHeads head }
  | none => state

/-- A verdict that arrived before its head was opened, once that head is current. -/
def speaksNow (state : TaskState) : StrayVerdict -> Option TaskEventRecord
  | .unrecorded _ _ headSha record =>
      if state.headSha.any fun head => sameHead headSha head then some record else none
  | .superseded _ _ _ _ => none

def applyStrays (state : TaskState) (blockers : Blockers) : TaskState × Blockers :=
  let apply := state.strayVerdicts.filterMap (speaksNow state)
  let state :=
    { state with
        strayVerdicts := state.strayVerdicts.filter fun stray => (speaksNow state stray).isNone }
  apply.foldl (fun (state, blockers) record => applyVerdict state record blockers) (state, blockers)

def prOpened (state : TaskState) (event : TaskEventRecord) (blockers : Blockers) :
    TaskState × Blockers :=
  let (state, blockers) := openHead state event blockers
  let state := fixRound state event
  let state := answerBlock state event
  let state := recordHead state event
  applyStrays state blockers

def reviewAssigned (state : TaskState) (event : TaskEventRecord) : TaskState :=
  let state : TaskState :=
    match event.reviewer with
    | some reviewer =>
        { state with
            assignedReviewers := pushUnique state.assignedReviewers reviewer
            reviewers := pushUnique state.reviewers reviewer }
    | none => state
  let state : TaskState := { state with headSha := state.headSha.or event.headSha }
  let state : TaskState :=
    if sameOptHead event.headSha state.headSha then
      { resetReviewContext state event.sequence with currentReviewer := event.reviewer }
    else
      match event.headSha, event.reviewer with
      | some head, some reviewer =>
          if state.recordedHeads.any fun recorded => sameHead recorded head then
            state
          else
            { state with pendingReviewer := some { headSha := head, reviewer := reviewer } }
      | _, _ => state
  if state.step = .implement ∨ state.step = .plan then { state with step := .review } else state

def strayVerdict (state : TaskState) (event : TaskEventRecord) : StrayVerdict :=
  let reviewer := event.reviewer.getD ""
  let verdict := (event.verdict.map Verdict.asStr).getD ""
  let headSha := event.headSha.getD ""
  let superseded := event.headSha.any fun head =>
    state.recordedHeads.any fun recorded => sameHead recorded head
  if superseded then
    .superseded reviewer verdict headSha (state.headSha.getD "")
  else
    .unrecorded reviewer verdict headSha event

def reviewVerdict (state : TaskState) (event : TaskEventRecord) (blockers : Blockers) :
    TaskState × Blockers :=
  if sameOptHead event.headSha state.headSha then
    applyVerdict (resetReviewContext state event.sequence) event blockers
  else
    ({ state with strayVerdicts := state.strayVerdicts ++ [strayVerdict state event] }, blockers)

def criticVerdict (state : TaskState) (event : TaskEventRecord) : TaskState :=
  let state :=
    { state with
        critic := event.critic.or state.critic
        lane := state.lane.or event.lane }
  if state.step = .critic ∧ state.critic.any fun round => round.verdict = .pass then
    { state with step := .implement }
  else
    state

def merged (state : TaskState) (event : TaskEventRecord) : TaskState :=
  { resetReviewContext state event.sequence with
      pr := event.pr.or state.pr
      mergeSha := event.mergeSha
      completionRecorded := true
      blockedBy := none
      blockedSequence := none
      step := .merged }

def applyKind (state : TaskState) (event : TaskEventRecord) (blockers : Blockers) :
    TaskState × Blockers :=
  match event.kind with
  | .claimed => (claimed state event, blockers)
  | .planned => (planned state event, blockers)
  | .prOpened => prOpened state event blockers
  | .reviewAssigned => (reviewAssigned state event, blockers)
  | .reviewVerdict => reviewVerdict state event blockers
  | .criticVerdict => (criticVerdict state event, blockers)
  | .merged => (merged state event, blockers)
  | .closed => (resetReviewContext state event.sequence, blockers)
  -- the other kinds are handled before a record lands
  | _ => (state, blockers)

/-!
## Slices
-/

structure Slice where
  id : Nat
  state : TaskState
  ended : Bool := false
  firstPrOpening : Option Nat := none
  blockers : Option Blockers := none

def noteAuthor (state : TaskState) (event : TaskEventRecord) : TaskState :=
  { state with
      lastSequence := event.sequence
      authorLastSequence :=
        if state.lane = some event.actorId then some event.sequence
        else state.authorLastSequence }

/-- The record starts the slice's clock anew after a gap. -/
def resumesAfterGap (event : TaskEventRecord) (before after : TaskState) : Bool :=
  (event.kind = .claimed || event.kind = .planned ||
    event.kind = .prOpened && !sameHeadRepeat before event && before.step = after.step) &&
      event.lane = after.lane

def Slice.apply (event : TaskEventRecord) (slice : Slice) : Slice :=
  let before := noteAuthor slice.state event
  let (after, blockers) := applyKind before event (slice.blockers.getD ∅)
  let planMissing := after.plan.isNone
  { slice with
      state :=
        { after with
            clock :=
              clockStep after.clock (timed planMissing before.step) (timed planMissing after.step)
                event.occurredAt (resumesAfterGap event before after) }
      ended := slice.ended || event.kind = .closed
      blockers := some blockers }

def Slice.openBlockers (slice : Slice) : Slice :=
  if slice.blockers.isSome then
    slice
  else
    { slice with
        blockers :=
          some
            (match slice.state.blockedBy with
            | some blocked =>
                (∅ : Blockers).insert blocked.reviewer
                  { reviewer := blocked.reviewer, headSha := blocked.headSha
                    commentUrl := blocked.commentUrl
                    sequence := slice.state.blockedSequence.getD 0 }
            | none => ∅) }

def Slice.markOpening (event : TaskEventRecord) (slice : Slice) : Slice :=
  if event.kind = .prOpened && slice.firstPrOpening.isNone then
    { slice with firstPrOpening := some event.sequence }
  else
    slice

def Slice.revive (event : TaskEventRecord) (slice : Slice) : Slice :=
  if event.kind = .prOpened && slice.ended && slice.state.step ≠ .merged &&
      slice.state.pr = event.pr && slice.state.taskId = event.taskId &&
        slice.state.lane = event.lane && event.lane = some event.actorId then
    { slice with ended := false }
  else
    slice

def Slice.endWith (event : TaskEventRecord) (planMissing : Bool) (slice : Slice) : Slice :=
  let state := { resetReviewContext slice.state event.sequence with lastSequence := event.sequence }
  let after :=
    if event.kind = .closed then
      state
    else
      { state with step := .merged, mergeSha := event.mergeSha, blockedBy := none }
  { slice with
      ended := slice.ended || event.kind = .closed
      state :=
        { after with
            clock :=
              clockStep after.clock (timed planMissing state.step) (timed planMissing after.step)
                event.occurredAt false } }

def Slice.closeIssue (event : TaskEventRecord) (planMissing : Bool) (slice : Slice) : Slice :=
  let state := resetReviewContext slice.state event.sequence
  { slice with
      state :=
        { state with
            step := .merged
            mergeSha := event.mergeSha
            blockedBy := none
            lastSequence := event.sequence
            clock :=
              clockStep state.clock (timed planMissing state.step) "merged" event.occurredAt
                false } }

/-- The slice's lane is retired while the slice is open. -/
def Slice.orphan (event : TaskEventRecord) (slice : Slice) : Slice :=
  { slice with
      state :=
        resetReviewContext
          { slice.state with releasedBy := some event.actorId, orphaned := true } event.sequence }

def Slice.resetReview (event : TaskEventRecord) (slice : Slice) : Slice :=
  { slice with state := resetReviewContext slice.state event.sequence }

def Slice.releaseTo (event : TaskEventRecord) (slice : Slice) : Slice :=
  { slice with
      state :=
        resetReviewContext
          { slice.state with
              releasedBy := event.releasedBy, reassignedTo := event.reassignedTo }
          event.sequence }

def Slice.release (event : TaskEventRecord) (slice : Slice) : Slice :=
  { slice with
      state :=
        { resetReviewContext slice.state event.sequence with
            releasedBy := event.releasedBy.or event.lane } }

def Slice.beat (event : TaskEventRecord) (slice : Slice) : Slice :=
  { slice with state := { slice.state with lastHeartbeatAt := event.occurredAt } }

/-- A reviewer's statement is shown on the slice. -/
def Slice.act (event : TaskEventRecord) (activity : ReviewActivity) (slice : Slice) : Slice :=
  { slice with
      state :=
        { slice.state with
            reviewActivityRevision := some activity.revision
            lastSequence := event.sequence
            reviewActivity := some activity } }

def Slice.joinPr (event : TaskEventRecord) (slice : Slice) : Slice :=
  { slice with state := { slice.state with pr := event.pr.or slice.state.pr } }

end Tasks
end GraphHelm
