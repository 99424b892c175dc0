import GraphHelm.Protocol.Vocabulary

/-!
# The node transition function

`core/execution/src/transition.rs`: one outcome applied to one node.  The
function is total and consults no clock; every bound it applies is a counter
handed to it by the caller.
-/

namespace GraphHelm

def maxNodeAttempts : Nat := 8

def maxIdenticalOutcomes : Nat := 3

/-- One transition request, with the counters the caller folded. -/
structure TransitionRequest where
  current : NodeState
  outcome : NodeOutcome
  attempts : Nat
  identicalOutcomes : Nat
deriving DecidableEq

def isTerminal : NodeState -> Bool
  | .succeeded | .failed | .waived | .skipped | .cancelled => true
  | _ => false

/-- `apply_transition`; `none` is `ExecutionError::IllegalTransition`. -/
def applyTransition (request : TransitionRequest) : Option NodeState :=
  if isTerminal request.current then
    match request.current, request.outcome with
    | .succeeded, .invalidated => some .invalidated
    | _, _ => none
  else if request.outcome = .cancelled then
    some .cancelled
  else
    match request.current, request.outcome with
    | .ghost, .approved => some .ready
    | .ghost, _ => none
    | .draft, .approved => some .ready
    | .linting, .approved => some .ready
    | .blocked, .approved => some .ready
    | .ready, .started => some .queued
    | .queued, .started => some .running
    | .ready, .paused => some .paused
    | .queued, .paused => some .paused
    | .running, .succeeded => some .succeeded
    | .running, .terminalFailure => some .failed
    | .running, .needsInput => some .waitingInput
    | .running, .needsCapacity => some .waitingCapacity
    | .running, .interrupted => some .blocked
    | .running, .retryableFailure =>
        if maxNodeAttempts <= request.attempts ||
            maxIdenticalOutcomes <= request.identicalOutcomes then
          some .blocked
        else
          some .queued
    | .waitingInput, .needsInput => some .waitingInput
    | .waitingCapacity, .needsCapacity => some .waitingCapacity
    | .waitingInput, .started => some .queued
    | .waitingCapacity, .started => some .queued
    | .paused, .started => some .queued
    | _, .waived => some .waived
    | _, .skipped => some .skipped
    | .invalidated, .approved => some .ready
    | _, _ => none

/-!
## Terminal states
-/

/-- A terminal node is immutable, but for the invalidation of a success. -/
theorem applyTransition_terminal {request : TransitionRequest}
    (hterminal : isTerminal request.current = true) :
    applyTransition request =
      if request.current = .succeeded ∧ request.outcome = .invalidated then
        some .invalidated
      else
        none := by
  unfold applyTransition
  rw [if_pos hterminal]
  rcases request with ⟨current, outcome, attempts, identical⟩
  cases current <;> cases outcome <;> rfl

theorem applyTransition_cancelled {request : TransitionRequest}
    (hlive : isTerminal request.current = false)
    (houtcome : request.outcome = .cancelled) :
    applyTransition request = some .cancelled := by
  unfold applyTransition
  rw [hlive, if_neg (by decide), if_pos houtcome]

end GraphHelm
