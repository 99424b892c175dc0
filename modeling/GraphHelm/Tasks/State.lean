import GraphHelm.Tasks.Records
import Std.Data.ExtTreeMap

/-!
# The state of a task

What the fold keeps of one slice of a task (`tasks.rs`).
-/

namespace GraphHelm
namespace Tasks

open Std

/-- A claimed task is planning until its plan; a design plan then waits on its critic. -/
inductive TaskStep where
  | plan
  | critic
  | implement
  | review
  | merge
  | merged
deriving DecidableEq

def TaskStep.asStr : TaskStep -> String
  | .plan => "plan"
  | .critic => "critic"
  | .implement => "implement"
  | .review => "review"
  | .merge => "merge"
  | .merged => "merged"

/-- When a slice entered its step, and the milliseconds it spent in the steps it left. -/
structure StepClock where
  since : Option PersistedTimestamp := none
  lastAt : Option PersistedTimestamp := none
  spent : ExtTreeMap String Int := ∅

structure ReviewRound where
  reviewer : String
  headSha : String
  commentUrl : String
  fixHead : Option String
  blockedAt : Option PersistedTimestamp
  fixedAt : Option PersistedTimestamp

/-- A BLOCK on the current head that no newer head or verdict has answered. -/
structure Blocker where
  reviewer : String
  headSha : String
  commentUrl : String
deriving DecidableEq

structure RiskApproval where
  reviewer : String
  commentUrl : String

/-- An assignment for a head that is not opened yet. -/
structure PendingReviewer where
  headSha : String
  reviewer : String

inductive StrayVerdict where
  | unrecorded (reviewer verdict headSha : String) (record : TaskEventRecord)
  | superseded (reviewer verdict headSha supersededBy : String)

/-- A reviewer's statement about one review generation. -/
structure ReviewActivity where
  activity : String
  reviewer : String
  headSha : String
  reviewContextSequence : Nat
  revision : Nat
  sequence : Nat
  occurredAt : PersistedTimestamp
  reason : Option String

structure TaskState where
  key : String := ""
  taskId : String
  branch : Option String := none
  issue : Option Nat := none
  pr : Option Nat
  lane : Option String := none
  assignedBy : Option String := none
  assignedReviewers : List String := []
  currentReviewer : Option String := none
  reviewContextSequence : Option Nat := none
  reviewActivityRevision : Option Nat := none
  reviewActivity : Option ReviewActivity := none
  pendingReviewer : Option PendingReviewer := none
  headSha : Option String := none
  journeys : List String := []
  plan : Option TaskPlan := none
  step : TaskStep
  blockedBy : Option Blocker := none
  approvedWithRisk : Option RiskApproval := none
  blockedSequence : Option Nat := none
  authorLastSequence : Option Nat := none
  lastHeartbeatAt : Option PersistedTimestamp := none
  reviewers : List String := []
  mergeSha : Option String := none
  completionRecorded : Bool := false
  repoUrl : Option String := none
  strayVerdicts : List StrayVerdict := []
  title : Option String := none
  summary : Option String := none
  prTitle : Option String := none
  prSummary : Option String := none
  critic : Option CriticRound := none
  recordedHeads : List String := []
  parent : Option Nat := none
  rounds : List ReviewRound := []
  clock : StepClock := {}
  lastSequence : Nat := 0
  claimSequence : Option Nat := none
  releasedBy : Option String := none
  orphaned : Bool := false
  reassignedTo : Option String := none
  claimedAt : Option PersistedTimestamp := none
  leaseSeconds : Option Nat := none
  paths : List String := []

def newState (event : TaskEventRecord) : TaskState where
  taskId := event.taskId
  pr := if event.kind = .claimed then none else event.pr
  step := if event.kind = .claimed ∨ event.kind = .planned then .plan else .implement

/-- One slice the fold created: `ended` by a close, `absorbed` into the slice of its PR. -/
structure FoldSlice where
  id : Nat
  ended : Bool
  absorbed : Bool
  state : TaskState

end Tasks
end GraphHelm
