import GraphHelm.Protocol.Vocabulary
import Mathlib.Data.List.Sort

/-!
# Task records

The verified `task.*` records a lane writes (`tasks.rs`), and what its readers compare
of them.
-/

namespace GraphHelm
namespace Tasks

/-!
## The words of a record
-/

inductive TaskEventKind where
  | claimed
  | planned
  | released
  | heartbeat
  | prOpened
  | reviewAssigned
  | reviewVerdict
  | reviewActivity
  | merged
  | closed
  | criticVerdict
  | queued
  | laneRetired
  | requestRecorded
  | requestLinked
  | journeyFrames
deriving DecidableEq

inductive Verdict where
  | approve
  | approveWithRisk
  | block
deriving DecidableEq

def Verdict.asStr : Verdict -> String
  | .approve => "APPROVE"
  | .approveWithRisk => "APPROVE-WITH-RISK"
  | .block => "BLOCK"

/-- What one round of the design critic decided. -/
inductive CriticOutcome where
  | pass
  | revise
  | exhausted
deriving DecidableEq

structure CriticRound where
  round : Nat
  score : Nat
  passScore : Nat
  maxRounds : Nat
  verdict : CriticOutcome
deriving DecidableEq

structure CriticConfig where
  mode : String
  passScore : Nat
  maxRounds : Nat
deriving DecidableEq

structure TaskPlan where
  classes : List String
  reviews : Nat
  proof : String
  critic : CriticConfig
  summary : String
deriving DecidableEq

/-- A character of a task identity. -/
def isIdentityChar (c : Char) : Bool :=
  c.isAlphanum || c == '.' || c == '_' || c == ':' || c == '-'

/-- `^[A-Za-z0-9][A-Za-z0-9._:-]{0,127}$`. -/
def isTaskIdentity (text : String) : Bool :=
  text.toList.length <= 128 && text.toList.head?.any Char.isAlphanum &&
    text.toList.all isIdentityChar

/-- An identity, as `task_identity` reads it off a record. -/
structure TaskIdentity where
  text : String
  valid : isTaskIdentity text = true
deriving DecidableEq

/-- One verified record: the fields its kind carries, its actor, its sequence and the
Runtime's own append time. -/
structure TaskEventRecord where
  kind : TaskEventKind
  actorId : String
  sequence : Nat
  taskId : String
  issue : Option Nat := none
  pr : Option Nat := none
  lane : Option String := none
  assignedBy : Option String := none
  branch : Option String := none
  headSha : Option String := none
  journeys : Option (List String) := none
  reviewer : Option String := none
  activity : Option String := none
  reviewContextSequence : Option Nat := none
  revision : Option Nat := none
  verdict : Option Verdict := none
  commentUrl : Option String := none
  repo : Option String := none
  mergeSha : Option String := none
  closes : Option (List Nat) := none
  title : Option String := none
  summary : Option String := none
  parent : Option Nat := none
  claimSequence : Option Nat := none
  reason : Option String := none
  leaseSeconds : Option Nat := none
  releasedBy : Option String := none
  sliceKey : Option String := none
  reassignedTo : Option String := none
  lanes : Option (List String) := none
  retired : Option Bool := none
  occurredAt : Option PersistedTimestamp := none
  critic : Option CriticRound := none
  plan : Option TaskPlan := none
  paths : Option (List String) := none
  requestId : Option TaskIdentity := none
  requestExecutionId : Option TaskIdentity := none
  ask : Option String := none

def bySequence (records : List TaskEventRecord) : List TaskEventRecord :=
  records.insertionSort fun first second => first.sequence <= second.sequence

@[simp] theorem mem_bySequence {records : List TaskEventRecord} {record : TaskEventRecord} :
    record ∈ bySequence records <-> record ∈ records :=
  List.mem_insertionSort _

/-!
## Heads
-/

/-- Two spellings of one commit: one is a beginning of the other. -/
def sameHead (a b : String) : Bool :=
  7 <= a.utf8ByteSize && 7 <= b.utf8ByteSize &&
    (b.toList.isPrefixOf a.toList || a.toList.isPrefixOf b.toList)

/-- Two absent heads are equal. -/
def sameOptHead : Option String -> Option String -> Bool
  | some a, some b => sameHead a b
  | none, none => true
  | _, _ => false

theorem sameHead_comm {a b : String} : sameHead a b = sameHead b a := by
  unfold sameHead
  rw [Bool.or_comm, Bool.and_comm (decide (7 <= a.utf8ByteSize))]

/-!
## The least and the greatest
-/

def minByKey {α : Type} (key : α -> Int) : List α -> Option α
  | [] => none
  | first :: rest =>
      some (rest.foldl (fun least value => if key value < key least then value else least) first)

def maxByKey {α : Type} (key : α -> Int) : List α -> Option α
  | [] => none
  | first :: rest =>
      some
        (rest.foldl (fun greatest value => if key value < key greatest then greatest else value)
          first)

end Tasks
end GraphHelm
