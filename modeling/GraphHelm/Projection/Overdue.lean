import Mathlib.Data.List.Sort
import GraphHelm.Projection.History

/-!
# Overdue stages

`overdue_at` of `core/events/src/projection.rs`: the customs stages whose
patience has run out at an instant, one per episode that no exception has marked
yet.  The marks a fold carries are the exceptions of the history it folded.
-/

namespace GraphHelm

open Std

structure OverdueStage where
  node : String
  episodeSeq : Nat
  deadline : PersistedTimestamp
  claimSeq : Option Nat
deriving DecidableEq

/-- A stage without a deadline is never overdue; one with it is, from its deadline on. -/
def lapsed (deadline : Option PersistedTimestamp) (asOf : PersistedTimestamp) :
    Option PersistedTimestamp :=
  deadline.filter fun deadline => deadline <= asOf

def claimedWaits (projection : ExecutionProjection) : List Nat :=
  projection.openClaims.toList.map fun entry => entry.2.completesWaitSeq

def overdueWait (projection : ExecutionProjection) (asOf : PersistedTimestamp)
    (entry : String × OpenWait) : Option OverdueStage :=
  if (claimedWaits projection).contains entry.2.atSequence ||
      projection.exceptionMarked.contains entry.2.atSequence then
    none
  else
    (lapsed entry.2.deadline asOf).map fun deadline =>
      { node := entry.1
        episodeSeq := entry.2.atSequence
        deadline := deadline
        claimSeq := none }

def overdueClaim (projection : ExecutionProjection) (asOf : PersistedTimestamp)
    (entry : Nat × OpenClaim) : Option OverdueStage :=
  if projection.exceptionMarked.contains entry.2.stageEnteredAt then
    none
  else
    (lapsed entry.2.deadline asOf).map fun deadline =>
      { node := entry.2.node
        episodeSeq := entry.2.stageEnteredAt
        deadline := deadline
        claimSeq := some entry.1 }

def overdueAt (projection : ExecutionProjection) (asOf : PersistedTimestamp) :
    List OverdueStage :=
  List.insertionSort (fun a b => a.episodeSeq <= b.episodeSeq)
    (projection.openWaits.toList.filterMap (overdueWait projection asOf) ++
      projection.openClaims.toList.filterMap (overdueClaim projection asOf))

theorem overdueAt_unmarked {projection : ExecutionProjection} {asOf : PersistedTimestamp}
    {stage : OverdueStage} (h : stage ∈ overdueAt projection asOf) :
    ¬ stage.episodeSeq ∈ projection.exceptionMarked := by
  unfold overdueAt at h
  rw [List.mem_insertionSort, List.mem_append, List.mem_filterMap, List.mem_filterMap] at h
  rcases h with ⟨entry, _, hwait⟩ | ⟨entry, _, hclaim⟩
  · unfold overdueWait at hwait
    split at hwait
    · cases hwait
    · rename_i hopen
      rcases Option.map_eq_some_iff.mp hwait with ⟨deadline, _, heq⟩
      rw [← heq]
      simp only [Bool.or_eq_true, not_or, ExtTreeSet.contains_iff_mem] at hopen
      exact hopen.right
  · unfold overdueClaim at hclaim
    split at hclaim
    · cases hclaim
    · rename_i hopen
      rcases Option.map_eq_some_iff.mp hclaim with ⟨deadline, _, heq⟩
      rw [← heq]
      simpa using hopen

/-!
## Marks and exceptions
-/

def raisedEpisode : EventKind -> Option Nat
  | .overdueException payload => some payload.episodeSequence
  | _ => none

/-- The episodes the exceptions of a history are about, one entry for each exception. -/
def raisedEpisodes (events : List EventEnvelope) : List Nat :=
  events.filterMap fun event => raisedEpisode event.kind

theorem raisedEpisodes_append (before added : List EventEnvelope) :
    raisedEpisodes (before ++ added) = raisedEpisodes before ++ raisedEpisodes added := by
  unfold raisedEpisodes
  exact List.filterMap_append

theorem exceptionMarked_of_accepted {env : Environment} {event : EventEnvelope}
    {st st' : FoldState} (h : applyProjectionEvent env event st = .ok () st') :
    st'.projection.exceptionMarked =
      match raisedEpisode event.kind with
      | some episode => st.projection.exceptionMarked.insert episode
      | none => st.projection.exceptionMarked := by
  have heffect := congrArg Lifecycle.exceptionMarked (lifecycle_of_accepted h).right
  refine heffect.trans ?_
  show (lifecycleAfter env event st.projection).exceptionMarked = _
  unfold lifecycleAfter raisedEpisode
  cases event.kind with
  | completionClaimed payload =>
      exact congrArg Lifecycle.exceptionMarked claimEffect_spares
  | completionCleared payload =>
      exact congrArg Lifecycle.exceptionMarked clearanceEffect_spares
  | gateVerdict payload =>
      exact congrArg Lifecycle.exceptionMarked verdictEffect_spares
  | _ =>
      rfl

theorem exceptionMarked_iff_raised {env : Environment} {events : List EventEnvelope}
    {st : FoldState} (h : foldHistory env events = some st) {episode : Nat} :
    episode ∈ st.projection.exceptionMarked <-> episode ∈ raisedEpisodes events := by
  induction events using List.reverseRecOn generalizing st with
  | nil =>
      cases h
      exact iff_of_false ExtTreeSet.not_mem_empty List.not_mem_nil
  | append_singleton before event ih =>
      rcases foldHistory_concat.mp h with ⟨earlier, hearlier, haccepted⟩
      rw [exceptionMarked_of_accepted haccepted, raisedEpisodes_append, List.mem_append,
        ← ih hearlier]
      cases hraised : raisedEpisode event.kind with
      | none =>
          simp [raisedEpisodes, hraised]
      | some raised =>
          rw [ExtTreeSet.mem_insert, LawfulEqOrd.compare_eq_iff_eq]
          simp [raisedEpisodes, hraised, or_comm, eq_comm]

end GraphHelm
