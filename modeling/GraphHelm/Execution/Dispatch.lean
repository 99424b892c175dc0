import GraphHelm.Execution.Transition
import GraphHelm.Library.Checks
import GraphHelm.Projection.State
import Mathlib.Data.List.Sort

/-!
# What may be dispatched, and what is dispatched now

`core/execution/src/ready.rs` and `dispatch.rs`: the ready set with its edge
rule, the candidates of a pass and the plan that fits the parallelism left.
-/

namespace GraphHelm

open Std

/-!
## Graphs
-/

inductive EdgeType where
  | control
  | data
  | evidence
  | event
  | failure
  | compensation
  | humanApproval
deriving DecidableEq

inductive EdgeCondition where
  | literal (value : Bool)
  | other (expression : LedgerData)
deriving DecidableEq

structure GraphEdge where
  source : String
  target : String
  edgeType : EdgeType
  condition : Option EdgeCondition
deriving DecidableEq

/-- What `customs()` makes of a node's `completion.customs` block. -/
inductive CustomsDeclaration where
  | absent
  | unreadable
  | declared (proofKinds : List String)
deriving DecidableEq

structure GraphNode where
  customs : CustomsDeclaration
deriving DecidableEq

structure GraphSpec where
  nodes : ExtTreeMap String GraphNode
  edges : List GraphEdge
  maxParallelModelCalls : Option Nat
deriving DecidableEq

/-- Whether a node's completion must clear customs; an unreadable block gates it too. -/
def completionIsGated (node : GraphNode) : Bool :=
  match node.customs with
  | .declared proofKinds => !proofKinds.isEmpty
  | .absent => false
  | .unreadable => true

def completionIsGatedIn (spec : GraphSpec) (node : String) : Bool :=
  spec.nodes[node]?.any completionIsGated

/-!
## Readiness
-/

def maxReadySet : Nat := 1024

inductive ScheduleError where
  | readySetTooLarge
deriving DecidableEq

def satisfiesDependents : NodeState -> Bool
  | .succeeded | .waived | .skipped => true
  | _ => false

def isDispatchable (state : NodeState) : Bool :=
  state = .ready

def edgeGates (edge : GraphEdge) (predecessor : NodeState) : Bool :=
  if edge.condition = some (.literal false) then
    false
  else
    match edge.edgeType with
    | .failure => predecessor != .failed
    | _ => !satisfiesDependents predecessor

/-- Whether the incoming edges of `node` release it, whatever its own state. -/
def edgesSatisfied (spec : GraphSpec) (states : ExtTreeMap String NodeState)
    (node : String) : Bool :=
  spec.edges.all fun edge =>
    edge.target != node || !edgeGates edge (states[edge.source]?.getD .draft)

def readySet (spec : GraphSpec) (states : ExtTreeMap String NodeState) :
    Except ScheduleError (List String) :=
  let ready := spec.nodes.keys.filter fun node =>
    isDispatchable (states[node]?.getD .draft) && edgesSatisfied spec states node
  if maxReadySet < ready.length then .error .readySetTooLarge else .ok ready

/-- The retry-pending nodes, held to the same edge rule. -/
def queuedSet (spec : GraphSpec) (states : ExtTreeMap String NodeState) : List String :=
  (states.toList.filter fun entry =>
    entry.2 = .queued && edgesSatisfied spec states entry.1).map Prod.fst

/-- The two halves share no node, and the plan puts their union in order. -/
def dispatchCandidates (spec : GraphSpec) (states : ExtTreeMap String NodeState) :
    Except ScheduleError (List String) := do
  let ready <- readySet spec states
  .ok (ready ++ queuedSet spec states)

/-!
## The plan
-/

inductive DispatchError where
  | zeroParallelism
deriving DecidableEq

/-- The order nodes are dispatched in: fewer attempts first, then by name. -/
def DispatchedBefore (attempts : ExtTreeMap String Nat) (first second : String) : Prop :=
  attempts[first]?.getD 0 < attempts[second]?.getD 0 ∨
    attempts[first]?.getD 0 = attempts[second]?.getD 0 ∧ first <= second

instance (attempts : ExtTreeMap String Nat) : DecidableRel (DispatchedBefore attempts) :=
  fun _ _ => inferInstanceAs (Decidable (_ ∨ _ ∧ _))

def dispatchPlan (candidates : List String) (attempts : ExtTreeMap String Nat)
    (inFlight maxParallel : Nat) : Except DispatchError (List String) :=
  if maxParallel = 0 then
    .error .zeroParallelism
  else
    .ok ((candidates.insertionSort (DispatchedBefore attempts)).take (maxParallel - inFlight))

/-- No declared budget means one node at a time. -/
def parallelLimit (spec : GraphSpec) : Nat :=
  spec.maxParallelModelCalls.getD 1

/-!
## What is dispatched
-/

section Dispatch

variable {spec : GraphSpec} {states : ExtTreeMap String NodeState}
  {candidates plan : List String} {node : String}

theorem mem_queuedSet : node ∈ queuedSet spec states <->
    states[node]? = some .queued ∧ edgesSatisfied spec states node = true := by
  unfold queuedSet
  simp only [List.mem_map, List.mem_filter, Bool.and_eq_true, decide_eq_true_eq, Prod.exists,
    exists_and_right, exists_eq_right]
  constructor
  · rintro ⟨state, hmem, rfl, hedges⟩
    exact And.intro (ExtTreeMap.mem_toList_iff_getElem?_eq_some.mp hmem) hedges
  · rintro ⟨hstate, hedges⟩
    exact ⟨.queued, ExtTreeMap.mem_toList_iff_getElem?_eq_some.mpr hstate, rfl, hedges⟩

theorem state_of_candidate (h : dispatchCandidates spec states = .ok candidates)
    (hmem : node ∈ candidates) :
    (states[node]? = some .ready ∨ states[node]? = some .queued) ∧
      edgesSatisfied spec states node = true := by
  unfold dispatchCandidates at h
  rcases bind_ok h with ⟨ready, hready, hunion⟩
  cases hunion
  rcases List.mem_append.mp hmem with hin | hin
  · unfold readySet at hready
    dsimp only at hready
    split at hready
    · cases hready
    · cases hready
      have hfilter := (List.mem_filter.mp hin).right
      rw [Bool.and_eq_true] at hfilter
      refine And.intro (Or.inl ?_) hfilter.right
      have hstate := of_decide_eq_true hfilter.left
      cases hnode : states[node]? with
      | none =>
          rw [hnode] at hstate
          cases hstate
      | some state =>
          rw [hnode] at hstate
          exact congrArg some hstate
  · have hqueued := mem_queuedSet.mp hin
    exact And.intro (Or.inr hqueued.left) hqueued.right

theorem dispatchPlan_eq_ok {attempts : ExtTreeMap String Nat} {inFlight maxParallel : Nat}
    (h : dispatchPlan candidates attempts inFlight maxParallel = .ok plan) :
    plan ⊆ candidates ∧ plan.length <= maxParallel - inFlight := by
  unfold dispatchPlan at h
  split at h
  · cases h
  · cases h
    refine And.intro ?_ (List.length_take_le _ _)
    intro node hmem
    exact (List.mem_insertionSort _).mp (List.mem_of_mem_take hmem)

end Dispatch

end GraphHelm
