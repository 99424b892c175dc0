import GraphHelm.Tasks.Slices

/-!
# The fold of task records

Folds records in sequence order into one state per slice of a task (`tasks.rs`): where a
record lands, which slices it absorbs, and which others it ends with it.
-/

namespace GraphHelm
namespace Tasks

open Std

/-- Where one record landed. -/
structure Route where
  sequence : Nat
  slice : Nat
deriving DecidableEq

/-!
## Where a record lands
-/

/-- The slices as a record is put among them, and the index of the one it belongs to. -/
structure Landing where
  slices : List Slice
  nextId : Nat
  index : Nat

/-- A design critic round whose task nobody has claimed. -/
def isUnclaimedCritic (state : TaskState) : Bool :=
  state.critic.isSome && state.issue.isNone && state.pr.isNone && state.branch.isNone

def byPr (slices : List Slice) (event : TaskEventRecord) : Option Nat :=
  event.pr.bind fun pr =>
    let holds := slices.findIdx? fun slice => slice.state.pr = some pr
    if event.headSha.isSome && (event.kind = .reviewVerdict || event.kind = .reviewAssigned) then
      (slices.findIdx? fun slice =>
        slice.state.pr = some pr && sameOptHead slice.state.headSha event.headSha).or holds
    else
      holds

def takesPr (slices : List Slice) (event : TaskEventRecord) (index : Nat) : Bool :=
  event.kind ≠ .prOpened ||
    slices[index]?.any fun held =>
      held.state.lane = event.lane && held.state.taskId = event.taskId

def group (slices : List Slice) (event : TaskEventRecord) : List (Slice × Nat) :=
  slices.zipIdx.filter fun entry => entry.1.state.taskId = event.taskId

def addSlice (slices : List Slice) (nextId : Nat) (event : TaskEventRecord) : Landing where
  slices := slices ++ [{ id := nextId, state := newState event }]
  nextId := nextId + 1
  index := slices.length

def adopted (slices : List Slice) (event : TaskEventRecord) : Option Nat :=
  (((group slices event).find? fun entry =>
    entry.1.state.lane = event.lane && entry.1.state.plan.isSome &&
      entry.1.state.claimSequence.isNone && entry.1.state.pr.isNone &&
        entry.1.state.lastSequence + 1 = event.sequence).or
    ((group slices event).find? fun entry => isUnclaimedCritic entry.1.state)).map Prod.snd

def ownSlices (slices : List Slice) (event : TaskEventRecord) : List (Slice × Nat) :=
  (group slices event).filter fun entry => entry.1.state.lane = event.lane

/-- The newest claim of the lane that a plan or a critic round belongs to. -/
def mineIndex (slices : List Slice) (event : TaskEventRecord) : Option Nat :=
  (((ownSlices slices event).reverse.find? fun entry =>
    entry.1.state.pr.isNone && entry.1.state.step ≠ .merged).or
    ((ownSlices slices event).reverse.find? fun entry =>
      entry.1.state.step ≠ .merged)).map Prod.snd

def joinedClaim (slices : List Slice) (event : TaskEventRecord) : Option Nat :=
  (if event.kind = .prOpened then
    (group slices event).reverse.find? fun entry =>
      entry.1.state.pr.isNone && entry.1.state.step ≠ .merged &&
        entry.1.state.releasedBy.isNone &&
          (entry.1.state.lane.isNone || event.lane.isNone || entry.1.state.lane = event.lane)
  else
    (group slices event).find? fun entry =>
      entry.1.state.pr.isNone && entry.1.state.step ≠ .merged &&
        entry.1.state.releasedBy.isNone).map Prod.snd

def joinClaim (slices : List Slice) (nextId : Nat) (event : TaskEventRecord) : Landing :=
  match joinedClaim slices event with
  | some index =>
      { slices := slices.modify index (Slice.joinPr event), nextId := nextId, index := index }
  | none =>
      match byPr slices event with
      | some index => { slices := slices, nextId := nextId, index := index }
      | none =>
          match event.pr, (group slices event).getLast? with
          | none, some last => { slices := slices, nextId := nextId, index := last.2 }
          | _, _ => addSlice slices nextId event

def placeOwn (slices : List Slice) (nextId : Nat) (event : TaskEventRecord) : Landing :=
  match mineIndex slices event with
  | some index => { slices := slices, nextId := nextId, index := index }
  | none =>
      -- a plan after the merge starts a fresh slice for the lane
      if event.kind = .planned && ((ownSlices slices event).isEmpty ||
          (ownSlices slices event).getLast?.any fun entry => entry.1.state.step = .merged) then
        addSlice slices nextId event
      else
        joinClaim slices nextId event

def sliceFor (slices : List Slice) (nextId : Nat) (event : TaskEventRecord) : Landing :=
  match (byPr slices event).filter (takesPr slices event) with
  | some index => { slices := slices, nextId := nextId, index := index }
  | none =>
      if event.kind = .claimed then
        match adopted slices event with
        | some index => { slices := slices, nextId := nextId, index := index }
        | none => addSlice slices nextId event
      else if (event.kind = .planned || event.kind = .criticVerdict) && event.lane.isSome then
        placeOwn slices nextId event
      else
        joinClaim slices nextId event

/-!
## Absorbing slices
-/

/-- The slices while some are absorbed into the one at `index`. -/
structure Absorbing where
  slices : List Slice
  absorbed : List Slice
  index : Nat

/-- The loop that goes down the slices and takes out those to absorb. -/
def absorb (p : Slice -> Bool) : Nat -> Absorbing -> Absorbing
  | 0, absorbing => absorbing
  | «at» + 1, absorbing =>
      match absorbing.slices[«at»]? with
      | none => absorb p «at» absorbing
      | some held =>
          if «at» ≠ absorbing.index && p held then
            absorb p «at»
              { slices := absorbing.slices.eraseIdx «at»
                absorbed := absorbing.absorbed ++ [held]
                index := if «at» < absorbing.index then absorbing.index - 1 else absorbing.index }
          else
            absorb p «at» absorbing

def Absorbing.absorb (absorbing : Absorbing) (p : Slice -> Bool) : Absorbing :=
  Tasks.absorb p absorbing.slices.length absorbing

def openClaim (event : TaskEventRecord) (slice : Slice) : Bool :=
  slice.state.taskId = event.taskId && slice.state.lane = event.lane && slice.state.pr.isNone &&
    slice.state.releasedBy.isNone && slice.state.step ≠ .merged

def absorbLater (slices : List Slice) (event : TaskEventRecord) : Absorbing :=
  let found := slices.findIdx? fun slice =>
    slice.state.pr = event.pr && slice.state.taskId = event.taskId &&
      slice.state.lane = event.lane
  match found with
  | none => { slices := slices, absorbed := [], index := 0 }
  | some existing =>
      match slices[existing]?.bind Slice.firstPrOpening with
      | none => { slices := slices, absorbed := [], index := 0 }
      | some openedAt =>
          { slices := slices, absorbed := [], index := existing : Absorbing }.absorb fun claim =>
            openClaim event claim && claim.state.claimSequence.any fun sequence =>
              openedAt < sequence && sequence < event.sequence

def absorbEarlier (absorbing : Absorbing) (event : TaskEventRecord) : Absorbing :=
  match absorbing.slices[absorbing.index]? with
  | none => absorbing
  | some slice =>
      match slice.firstPrOpening, slice.state.claimSequence with
      | none, some claimSequence =>
          absorbing.absorb fun claim =>
            openClaim event claim && claim.state.claimSequence.any fun sequence =>
              sequence < claimSequence
      | _, _ => absorbing

def absorbTaken (absorbing : Absorbing) (event : TaskEventRecord) : Absorbing :=
  if event.pr.isSome then
    absorbing.absorb fun held =>
      !held.ended && held.state.step ≠ .merged && held.state.pr = event.pr &&
        held.state.taskId = event.taskId && held.state.lane ≠ event.lane
  else
    absorbing

/-- The slices with the record's slice found and prepared, before the record is applied. -/
structure Landed where
  slices : List Slice
  absorbed : List Slice
  nextId : Nat
  index : Nat

def land (slices absorbed : List Slice) (nextId : Nat) (event : TaskEventRecord) : Landed :=
  let later :=
    if event.kind = .prOpened then
      absorbLater slices event
    else
      { slices := slices, absorbed := [], index := 0 }
  let landing := sliceFor later.slices nextId event
  let absorbing : Absorbing :=
    { slices := landing.slices.modify landing.index Slice.openBlockers
      absorbed := later.absorbed
      index := landing.index }
  let absorbing :=
    if event.kind = .prOpened then
      absorbTaken (absorbEarlier absorbing event) event
    else
      absorbing
  { slices :=
      (absorbing.slices.modify absorbing.index (Slice.markOpening event)).modify absorbing.index
        (Slice.revive event)
    absorbed := absorbed ++ absorbing.absorbed
    nextId := landing.nextId
    index := absorbing.index }

/-!
## Ending other slices
-/

def sharesPr (event : TaskEventRecord) (claim : Slice) : Bool :=
  claim.state.pr = event.pr && claim.state.step ≠ .merged && !claim.ended

def issueFromTaskId (taskId : String) : Option Nat :=
  match "issue-".toList.isPrefixOf? taskId.toList with
  | none => none
  | some digits =>
      if digits.isEmpty || !digits.all Char.isDigit then
        none
      else
        let n := Nat.ofDigitChars 10 digits 0
        if 0 < n && n <= 9007199254740991 then some n else none

def closedBy (event : TaskEventRecord) (closes : List Nat) (claim : Slice) : Bool :=
  claim.state.step ≠ .merged && claim.state.pr ≠ event.pr &&
    (claim.state.issue.or (issueFromTaskId claim.state.taskId)).any fun issue =>
      closes.contains issue

def endSiblings (slices : List Slice) (event : TaskEventRecord) (index : Nat)
    (planMissing : Bool) : List Slice :=
  if event.kind = .merged || event.kind = .closed then
    slices.mapIdx fun «at» claim =>
      if «at» ≠ index && sharesPr event claim then claim.endWith event planMissing else claim
  else
    slices

def endIssues (slices : List Slice) (event : TaskEventRecord) (index : Nat)
    (planMissing : Bool) : List Slice :=
  match event.closes with
  | some closes =>
      if event.kind = .merged then
        slices.mapIdx fun «at» claim =>
          if «at» ≠ index && closedBy event closes claim then
            claim.closeIssue event planMissing
          else
            claim
      else
        slices
  | none => slices

def applyRecord (slices : List Slice) (event : TaskEventRecord) (index : Nat) : List Slice :=
  let slices := slices.modify index (Slice.apply event)
  let planMissing := slices[index]?.any fun slice => slice.state.plan.isNone
  endIssues (endSiblings slices event index planMissing) event index planMissing

/-!
## Review activity
-/

structure ReviewBinding where
  taskId : String
  pr : Nat
  repoUrl : String
  head : String
  reviewer : String
  context : Nat
deriving DecidableEq

def reviewBinding (state : TaskState) : Option ReviewBinding := do
  let pr ← state.pr
  let repoUrl ← state.repoUrl
  let head ← state.headSha
  let reviewer ← state.currentReviewer
  let context ← state.reviewContextSequence
  pure
    { taskId := state.taskId, pr := pr, repoUrl := repoUrl, head := head, reviewer := reviewer
      context := context }

def namedBinding (event : TaskEventRecord) : Option ReviewBinding := do
  let pr ← event.pr
  let repo ← event.repo
  let head ← event.headSha
  let reviewer ← event.reviewer
  let context ← event.reviewContextSequence
  pure
    { taskId := event.taskId, pr := pr, repoUrl := githubUrl repo, head := head
      reviewer := reviewer, context := context }

/-- The slices by their bindings; a binding that two slices share finds none. -/
abbrev ReviewIndex := List (ReviewBinding × Option Nat)

def reviewable (slice : Slice) : Bool :=
  !slice.ended && slice.state.releasedBy.isNone && !slice.state.orphaned &&
    (slice.state.step = .review || slice.state.step = .merge) && slice.state.blockedBy.isNone

def enterBinding (index : ReviewIndex) (binding : ReviewBinding) (place : Nat) : ReviewIndex :=
  if index.any fun entry => entry.1 = binding then
    index.map fun entry => if entry.1 = binding then (entry.1, none) else entry
  else
    index ++ [(binding, some place)]

def buildIndex (slices : List Slice) : ReviewIndex :=
  slices.zipIdx.foldl (fun index entry =>
    match (if reviewable entry.1 then reviewBinding entry.1.state else none) with
    | some binding => enterBinding index binding entry.2
    | none => index) []

/-!
## The fold
-/

structure Fold where
  slices : List Slice := []
  absorbed : List Slice := []
  routes : List Route := []
  nextId : Nat := 0
  retired : ExtTreeSet String := ∅
  reviewIndex : ReviewIndex := []
  reviewIndexDirty : Bool := true

def Fold.touch (fold : Fold) (event : TaskEventRecord) (index : Nat) (change : Slice -> Slice) :
    Fold :=
  match fold.slices[index]? with
  | none => fold
  | some slice =>
      { fold with
          slices := fold.slices.modify index change
          routes := fold.routes ++ [{ sequence := event.sequence, slice := slice.id }] }

def Fold.retireLanes (fold : Fold) (event : TaskEventRecord) : Fold :=
  let lanes := event.lanes.getD []
  if event.retired = some true then
    let orphaned := fold.slices.map fun slice =>
      if !slice.ended && slice.state.step ≠ .merged && slice.state.releasedBy.isNone &&
          slice.state.lane.any fun lane => lanes.contains lane then
        slice.orphan event
      else
        slice
    let reset := orphaned.map fun slice =>
      if slice.state.currentReviewer.any fun reviewer => lanes.contains reviewer then
        slice.resetReview event
      else
        slice
    { fold with slices := reset, retired := lanes.foldl ExtTreeSet.insert fold.retired }
  else
    { fold with retired := lanes.foldl ExtTreeSet.erase fold.retired }

def sliceKey (state : TaskState) (index : Nat) : String :=
  match state.pr with
  | some pr => s!"{state.taskId}#pr-{pr}"
  | none => s!"{state.taskId}#claim-{index}"

def Fold.releaseByKey (fold : Fold) (event : TaskEventRecord) (key : String) : Fold :=
  let found := fold.slices.zipIdx.find? fun entry =>
    !entry.1.ended && entry.1.state.step ≠ .merged && entry.1.state.releasedBy.isNone &&
      entry.1.state.lane = event.lane && sliceKey entry.1.state entry.2 = key
  match found with
  | none => fold
  | some (_, index) => fold.touch event index (Slice.releaseTo event)

def activityOf (event : TaskEventRecord) : Option ReviewActivity := do
  let occurredAt ← event.occurredAt
  let context ← event.reviewContextSequence
  let revision ← event.revision
  let activity ← event.activity
  let head ← event.headSha
  pure
    { activity := activity, reviewer := event.actorId, headSha := head
      reviewContextSequence := context, revision := revision, sequence := event.sequence
      occurredAt := occurredAt, reason := event.reason }

/-- The index is built again after any other record. -/
def Fold.refresh (fold : Fold) : Fold :=
  if fold.reviewIndexDirty then
    { fold with reviewIndex := buildIndex fold.slices, reviewIndexDirty := false }
  else
    fold

def Fold.boundSlice (fold : Fold) (event : TaskEventRecord) : Option Nat :=
  match ((namedBinding event).bind fun binding => fold.reviewIndex.lookup binding).join with
  | none => none
  | some index =>
      if event.reviewer = some event.actorId && event.revision.any fun revision =>
          fold.slices[index]?.any fun slice =>
            slice.state.reviewActivityRevision.getD 0 < revision then
        some index
      else
        none

def Fold.reviewActivity (fold : Fold) (event : TaskEventRecord) : Fold :=
  let fold := fold.refresh
  match fold.boundSlice event, activityOf event with
  | some index, some activity => fold.touch event index (Slice.act event activity)
  | _, _ => fold

def Fold.heartbeat (fold : Fold) (event : TaskEventRecord) : Fold :=
  let claim := fold.slices.zipIdx.reverse.find? fun entry =>
    entry.1.state.taskId = event.taskId && entry.1.state.lane = event.lane &&
      entry.1.state.releasedBy.isNone &&
        (entry.1.state.claimSequence.any fun sequence => sequence < event.sequence) &&
          !entry.1.ended
  match claim with
  | none => fold
  | some (claim, index) =>
      if claim.state.lane = some event.actorId then
        fold.touch event index (Slice.beat event)
      else
        fold

def Fold.release (fold : Fold) (event : TaskEventRecord) : Fold :=
  let isOpen : Slice × Nat -> Bool := fun entry =>
    entry.1.state.taskId = event.taskId && entry.1.state.lane = event.lane &&
      entry.1.state.pr.isNone && entry.1.state.releasedBy.isNone &&
        entry.1.state.claimSequence.any fun sequence => sequence < event.sequence
  let latest :=
    if event.releasedBy = some "graphhelm" then
      fold.slices.zipIdx.find? fun entry =>
        isOpen entry && entry.1.state.claimSequence = event.claimSequence
    else
      fold.slices.zipIdx.reverse.find? isOpen
  match latest with
  | none => fold
  | some (latest, index) =>
      if latest.state.claimSequence = event.claimSequence then
        fold.touch event index (Slice.release event)
      else
        fold

def Slice.stopped (slice : Slice) : Bool :=
  slice.ended || slice.state.step = .merged

def Fold.lifecycle (fold : Fold) (event : TaskEventRecord) : Fold :=
  let landed := land fold.slices fold.absorbed fold.nextId event
  let fold :=
    { fold with slices := landed.slices, absorbed := landed.absorbed, nextId := landed.nextId }
  match landed.slices[landed.index]? with
  | none => fold
  | some slice =>
      { fold with
          slices :=
            if slice.stopped then landed.slices
            else applyRecord landed.slices event landed.index
          routes := fold.routes ++ [{ sequence := event.sequence, slice := slice.id }] }

/-- One turn of the loop over the records. -/
def Fold.record (fold : Fold) (event : TaskEventRecord) : Fold :=
  let fold :=
    if event.kind = .reviewActivity then fold else { fold with reviewIndexDirty := true }
  match event.kind with
  | .queued | .requestRecorded | .requestLinked | .journeyFrames => fold
  | .laneRetired => fold.retireLanes event
  | kind =>
      if event.actorId ∈ fold.retired then
        fold
      else
        match kind, event.sliceKey with
        | .released, some key => fold.releaseByKey event key
        | .released, none => fold.release event
        | .reviewActivity, _ => fold.reviewActivity event
        | .heartbeat, _ => fold.heartbeat event
        | _, _ => fold.lifecycle event

/-!
## The result
-/

/-- The whole fold: the live slices, every slice, and where each record landed. -/
structure TaskFold where
  tasks : List TaskState
  slices : List FoldSlice
  routes : List Route
  retiredLanes : List String

/-- A slice that no claim was seen of still belongs to its issue; its key is served. -/
def settle (slices : List Slice) (index : Nat) : List Slice :=
  slices.modify index fun slice =>
    let known :=
      (slices.find? fun other =>
        other.state.taskId = slice.state.taskId && other.state.issue.isSome).bind fun other =>
          other.state.issue
    let state := { slice.state with issue := slice.state.issue.or known }
    let state :=
      if state.issue.isNone && !isUnclaimedCritic state then
        { state with issue := issueFromTaskId state.taskId }
      else
        state
    { slice with state := { state with key := sliceKey state index } }

def settled (slices : List Slice) : List Slice :=
  (List.range slices.length).foldl settle slices

def Slice.fold (absorbed : Bool) (slice : Slice) : FoldSlice where
  id := slice.id
  ended := slice.ended
  absorbed := absorbed
  state := slice.state

def Fold.finish (fold : Fold) : TaskFold :=
  let slices := settled fold.slices
  { tasks :=
      ((slices.filter fun slice => !slice.ended).map Slice.state).insertionSort
        fun first second => first.lastSequence <= second.lastSequence
    slices :=
      (slices.map (Slice.fold false) ++ fold.absorbed.map (Slice.fold true)).insertionSort
        fun first second => first.id <= second.id
    routes := fold.routes
    retiredLanes := fold.retired.toList }

/-- The fold of a log before it is finished. -/
def foldRecords (records : List TaskEventRecord) : Fold :=
  (bySequence records).foldl Fold.record {}

def foldTaskEventsWithRoutes (records : List TaskEventRecord) : TaskFold :=
  (foldRecords records).finish

end Tasks
end GraphHelm
