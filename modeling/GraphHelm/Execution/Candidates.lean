import GraphHelm.Execution.Dispatch
import GraphHelm.Library.Ranks

/-!
# Which nodes the candidates are

The two halves of the candidates walk different maps: the ready half the nodes of
the spec, the retry-pending half the folded states, which keep what a later
publication took out of the spec.
-/

namespace GraphHelm

open Std

/-!
## The edge rule in words
-/

def stateOf (states : ExtTreeMap String NodeState) (node : String) : NodeState :=
  states[node]?.getD .draft

/-- What makes an edge let its dependent go. -/
inductive EdgeReleases (states : ExtTreeMap String NodeState) (edge : GraphEdge) : Prop where
  | dead (hdead : edge.condition = some (.literal false))
  | failed (hfailure : edge.edgeType = .failure) (hfailed : stateOf states edge.source = .failed)
  | satisfied (hordinary : edge.edgeType ≠ .failure)
      (hsatisfied : stateOf states edge.source = .succeeded ∨
        stateOf states edge.source = .waived ∨ stateOf states edge.source = .skipped)

/-- Every incoming edge of `node` lets it go. -/
def Released (spec : GraphSpec) (states : ExtTreeMap String NodeState) (node : String) : Prop :=
  forall edge, edge ∈ spec.edges -> edge.target = node -> EdgeReleases states edge

def qualifying (spec : GraphSpec) (states : ExtTreeMap String NodeState) (state : NodeState) :
    Set String :=
  { node | node ∈ spec.nodes ∧ states[node]? = some state ∧ Released spec states node }

structure CandidatesExact (spec : GraphSpec) (states : ExtTreeMap String NodeState) : Prop where
  answers : forall {candidates : List String}, dispatchCandidates spec states = .ok candidates ->
    candidates.Nodup ∧
      forall node, node ∈ candidates <->
        node ∈ qualifying spec states .ready ∪ qualifying spec states .queued
  errs : dispatchCandidates spec states = .error .readySetTooLarge <->
    maxReadySet < (qualifying spec states .ready).ncard

section Edges

variable {spec : GraphSpec} {states : ExtTreeMap String NodeState} {edge : GraphEdge}
  {node : String}

theorem satisfiesDependents_iff {state : NodeState} : satisfiesDependents state = true <->
    state = .succeeded ∨ state = .waived ∨ state = .skipped := by
  cases state <;> decide

theorem edgeGates_of_failure {predecessor : NodeState}
    (hlive : edge.condition ≠ some (.literal false)) (hfailure : edge.edgeType = .failure) :
    edgeGates edge predecessor = (predecessor != .failed) := by
  unfold edgeGates
  rw [if_neg hlive, hfailure]

theorem edgeGates_of_ordinary {predecessor : NodeState}
    (hlive : edge.condition ≠ some (.literal false)) (hordinary : edge.edgeType ≠ .failure) :
    edgeGates edge predecessor = !satisfiesDependents predecessor := by
  unfold edgeGates
  rw [if_neg hlive]
  cases htype : edge.edgeType <;> first
    | rfl
    | exact absurd htype hordinary

theorem edgeGates_eq_false_iff :
    edgeGates edge (stateOf states edge.source) = false <-> EdgeReleases states edge := by
  rcases Decidable.em (edge.condition = some (.literal false)) with hdead | hlive
  · exact iff_of_true (if_pos hdead) (.dead hdead)
  · rcases Decidable.em (edge.edgeType = .failure) with hfailure | hordinary
    · rw [edgeGates_of_failure hlive hfailure, bne_eq_false_iff_eq]
      constructor
      · exact EdgeReleases.failed hfailure
      · intro h
        cases h with
        | dead hdead => exact absurd hdead hlive
        | failed _ hfailed => exact hfailed
        | satisfied hordinary _ => exact absurd hfailure hordinary
    · rw [edgeGates_of_ordinary hlive hordinary, Bool.not_eq_false', satisfiesDependents_iff]
      constructor
      · exact EdgeReleases.satisfied hordinary
      · intro h
        cases h with
        | dead hdead => exact absurd hdead hlive
        | failed hfailure _ => exact absurd hfailure hordinary
        | satisfied _ hsatisfied => exact hsatisfied

theorem edgesSatisfied_iff_released :
    edgesSatisfied spec states node = true <-> Released spec states node := by
  unfold edgesSatisfied Released
  rw [List.all_eq_true]
  refine forall_congr' fun edge => imp_congr_right fun _ => ?_
  rw [← edgeGates_eq_false_iff, Bool.or_eq_true, bne_iff_ne, Bool.not_eq_true']
  exact or_iff_not_imp_left.trans (imp_congr_left not_not)

theorem stateOf_eq_iff {state : NodeState} (h : state ≠ .draft) :
    stateOf states node = state <-> states[node]? = some state := by
  unfold stateOf
  cases states[node]? with
  | none =>
      exact iff_of_false (Ne.symm h) (Option.some_ne_none state).symm
  | some recorded =>
      exact Option.some_inj.symm

end Edges

/-!
## The two halves
-/

section Halves

variable {spec : GraphSpec} {states : ExtTreeMap String NodeState} {node : String}
  {ready candidates : List String}

/-- The nodes the ready half collects, before they are counted. -/
def readyNodes (spec : GraphSpec) (states : ExtTreeMap String NodeState) : List String :=
  spec.nodes.keys.filter fun node =>
    isDispatchable (states[node]?.getD .draft) && edgesSatisfied spec states node

theorem mem_readyNodes : node ∈ readyNodes spec states <->
    node ∈ qualifying spec states .ready := by
  unfold readyNodes
  rw [List.mem_filter, ExtTreeMap.mem_keys, Bool.and_eq_true, edgesSatisfied_iff_released]
  refine and_congr_right fun _ => and_congr_left fun _ => ?_
  exact decide_eq_true_iff.trans (stateOf_eq_iff (by decide))

theorem nodup_readyNodes : (readyNodes spec states).Nodup :=
  List.Nodup.filter _ ExtTreeMap.nodup_keys

theorem length_readyNodes :
    (readyNodes spec states).length = (qualifying spec states .ready).ncard := by
  rw [Ranks.length_eq_ncard nodup_readyNodes]
  congr 1
  ext node
  exact mem_readyNodes

theorem readySet_eq_ok : readySet spec states = .ok ready <->
    (qualifying spec states .ready).ncard <= maxReadySet ∧ readyNodes spec states = ready := by
  rw [← length_readyNodes, ← Nat.not_lt]
  show (if maxReadySet < (readyNodes spec states).length then
      Except.error ScheduleError.readySetTooLarge
    else .ok (readyNodes spec states)) = .ok ready <-> _
  split
  · rename_i hlarge
    exact iff_of_false (fun h => nomatch h) fun h => h.left hlarge
  · rename_i hfits
    rw [Except.ok.injEq, and_iff_right hfits]

theorem dispatchCandidates_eq_ok : dispatchCandidates spec states = .ok candidates <->
    (qualifying spec states .ready).ncard <= maxReadySet ∧
      readyNodes spec states ++ queuedSet spec states = candidates := by
  unfold dispatchCandidates
  rw [Except.bind_eq_ok]
  constructor
  · intro h
    rcases h with ⟨ready, hready, hunion⟩
    rcases readySet_eq_ok.mp hready with ⟨hfits, rfl⟩
    exact And.intro hfits (Except.ok.inj hunion)
  · intro h
    exact ⟨readyNodes spec states, readySet_eq_ok.mpr (And.intro h.left rfl),
      congrArg Except.ok h.right⟩

theorem dispatchCandidates_eq_error :
    dispatchCandidates spec states = .error .readySetTooLarge <->
      maxReadySet < (qualifying spec states .ready).ncard := by
  rw [← Nat.not_le]
  cases hanswer : dispatchCandidates spec states with
  | error failure =>
      cases failure
      refine iff_of_true rfl fun hfits => ?_
      rw [dispatchCandidates_eq_ok.mpr (And.intro hfits rfl)] at hanswer
      cases hanswer
  | ok candidates =>
      exact iff_of_false (fun h => nomatch h)
        (not_not_intro (dispatchCandidates_eq_ok.mp hanswer).left)

theorem nodup_queuedSet : (queuedSet spec states).Nodup := by
  have hsub : (queuedSet spec states).Sublist states.keys := by
    unfold queuedSet
    rw [← ExtTreeMap.map_fst_toList_eq_keys]
    exact List.filter_sublist.map Prod.fst
  exact hsub.nodup ExtTreeMap.nodup_keys

theorem nodup_candidates : (readyNodes spec states ++ queuedSet spec states).Nodup := by
  refine List.nodup_append.mpr (And.intro nodup_readyNodes (And.intro nodup_queuedSet ?_))
  rintro node hready _ hqueued rfl
  have hstate := (mem_readyNodes.mp hready).right.left
  rw [(mem_queuedSet.mp hqueued).left] at hstate
  cases hstate

end Halves

/-!
## When the candidates are exact
-/

def RetriesInSpec (spec : GraphSpec) (states : ExtTreeMap String NodeState) : Prop :=
  maxReadySet < (qualifying spec states .ready).ncard ∨
    forall node, states[node]? = some .queued -> Released spec states node -> node ∈ spec.nodes

/-- The candidates are the qualifying nodes unless a removed node still waits for a retry. -/
theorem dispatch_candidates_exact_iff (spec : GraphSpec)
    (states : ExtTreeMap String NodeState) :
    CandidatesExact spec states <-> RetriesInSpec spec states := by
  constructor
  · intro h
    refine or_iff_not_imp_left.mpr fun hfits node hqueued hreleased => ?_
    have hanswer : dispatchCandidates spec states =
        .ok (readyNodes spec states ++ queuedSet spec states) :=
      dispatchCandidates_eq_ok.mpr (And.intro (Nat.not_lt.mp hfits) rfl)
    have hmem : node ∈ readyNodes spec states ++ queuedSet spec states :=
      List.mem_append_right _
        (mem_queuedSet.mpr (And.intro hqueued (edgesSatisfied_iff_released.mpr hreleased)))
    rcases ((h.answers hanswer).right node).mp hmem with hin | hin
    · exact hin.left
    · exact hin.left
  · intro h
    refine { answers := ?_, errs := dispatchCandidates_eq_error }
    intro candidates hanswer
    rcases dispatchCandidates_eq_ok.mp hanswer with ⟨hfits, rfl⟩
    have hkept := h.resolve_left (Nat.not_lt.mpr hfits)
    refine And.intro nodup_candidates fun node => ?_
    rw [List.mem_append, mem_readyNodes, mem_queuedSet, edgesSatisfied_iff_released]
    refine or_congr_right ?_
    exact (and_iff_right_of_imp fun hin => hkept node hin.left hin.right).symm

namespace Removed

def spec : GraphSpec :=
  { nodes := ExtTreeMap.ofList [("kept", GraphNode.mk .absent)]
    edges := []
    maxParallelModelCalls := none }

/-- The folded states still hold the node the publication took out. -/
def states : ExtTreeMap String NodeState :=
  ExtTreeMap.ofList [("gone", NodeState.queued), ("kept", NodeState.ready)]

theorem released (node : String) : Released spec states node :=
  fun _ hmem => absurd hmem List.not_mem_nil

end Removed

/-- A node that was queued when it was taken out of the spec is still a candidate. -/
theorem dispatch_candidates_keep_a_removed_node :
    ¬ CandidatesExact Removed.spec Removed.states := by
  intro h
  rcases (dispatch_candidates_exact_iff Removed.spec Removed.states).mp h with hlarge | hkept
  · rw [← length_readyNodes] at hlarge
    exact absurd hlarge (by decide)
  · exact absurd (hkept "gone" (by decide) (Removed.released "gone")) (by decide)

end GraphHelm
