import GraphHelm.Execution.Candidates
import GraphHelm.Library.OrderedMap

/-!
# The dispatch view

`core/execution/src/ready.rs`: what an operator is told of the next plan.  The view
spends the capacity as a driver does and reports the ready half of the answer.
-/

namespace GraphHelm

open Std

/-- Why a view could not be derived. -/
inductive DispatchUnavailable where
  | noGraph
  | paused
  | readySetTooLarge
deriving DecidableEq

def DispatchUnavailable.reason : DispatchUnavailable -> String
  | .noGraph =>
      "this command did not have the graph; `execution status --file <graph>` derives it"
  | .paused => "the execution is paused; the driver dispatches nothing until resume"
  | .readySetTooLarge =>
      "the ready set exceeds the dispatch bound; the driver blocks for an owner decision " ++
        "before any of it moves"

structure DispatchView where
  ready : Nat
  gated : List String
  waitingCapacity : List String
deriving DecidableEq

def plannedNow (candidates : List String) (attempts : ExtTreeMap String Nat)
    (inFlight maxParallel : Nat) : List String :=
  match dispatchPlan candidates attempts inFlight maxParallel with
  | .ok plan => plan
  | .error .zeroParallelism => []

def statesAt (states : ExtTreeMap String NodeState) (state : NodeState) : List String :=
  (states.toList.filter fun entry => entry.2 = state).map Prod.fst

def unavailable : ScheduleError -> DispatchUnavailable
  | .readySetTooLarge => .readySetTooLarge

def dispatchView (spec : Option GraphSpec) (states : ExtTreeMap String NodeState)
    (attempts : ExtTreeMap String Nat) (status : Option SimulationStatus) :
    Except DispatchUnavailable DispatchView :=
  if status = some .paused then
    .error .paused
  else
    match spec with
    | none => .error .noGraph
    | some spec => do
        let dispatchable <- (readySet spec states).mapError unavailable
        let candidates <- (dispatchCandidates spec states).mapError unavailable
        let gated := (statesAt states .ready).filter fun node =>
          spec.nodes.contains node && !dispatchable.contains node
        let inFlight := (statesAt states .running).length
        let planned := plannedNow candidates attempts inFlight (parallelLimit spec)
        .ok
          { ready := (planned.filter fun node => dispatchable.contains node).length
            gated := gated
            waitingCapacity := dispatchable.filter fun node => !planned.contains node }

def driverStarts (spec : GraphSpec) (states : ExtTreeMap String NodeState)
    (attempts : ExtTreeMap String Nat) (candidates : List String) : List String :=
  let inSpec := candidates.filter fun node => spec.nodes.contains node
  let inFlight := ((statesAt states .running).filter fun node => spec.nodes.contains node).length
  (plannedNow inSpec attempts inFlight (parallelLimit spec)).filter fun node =>
    states[node]? = some .ready

/-- What is asked of a view that answers. -/
structure ViewAgrees (spec : GraphSpec) (states : ExtTreeMap String NodeState)
    (attempts : ExtTreeMap String Nat) (view : DispatchView) (ready candidates : List String) :
    Prop where
  /-- The ready set is made of the planned nodes that are counted and the ones that wait. -/
  splits : exists started,
    started.length = view.ready ∧ (started ++ view.waitingCapacity).Nodup ∧
      List.Perm (started ++ view.waitingCapacity) ready ∧
      forall node, node ∈ started -> node ∈ plannedNow candidates attempts
        (statesAt states .running).length (parallelLimit spec)
  gated : view.gated.Nodup ∧
    forall node, node ∈ view.gated <->
      node ∈ spec.nodes ∧ states[node]? = some .ready ∧ node ∉ ready
  plan : view.ready = (driverStarts spec states attempts candidates).length

/-- What a view says is so of the ready set and of the driver's next plan. -/
def ViewHolds (spec : GraphSpec) (states : ExtTreeMap String NodeState)
    (attempts : ExtTreeMap String Nat) (view : DispatchView) : Prop :=
  exists ready candidates,
    readySet spec states = .ok ready ∧ dispatchCandidates spec states = .ok candidates ∧
      ViewAgrees spec states attempts view ready candidates

/-!
## The pieces of the view
-/

section Pieces

variable {states : ExtTreeMap String NodeState} {attempts : ExtTreeMap String Nat}
  {state : NodeState} {node : String} {candidates : List String} {inFlight maxParallel : Nat}

theorem mem_statesAt : node ∈ statesAt states state <-> states[node]? = some state := by
  unfold statesAt
  simp only [List.mem_map, List.mem_filter, decide_eq_true_eq, Prod.exists, exists_and_right,
    exists_eq_right]
  exact ExtTreeMap.mem_toList_iff_getElem?_eq_some

theorem nodup_statesAt : (statesAt states state).Nodup := by
  have hsub : (statesAt states state).Sublist states.keys := by
    unfold statesAt
    rw [← ExtTreeMap.map_fst_toList_eq_keys]
    exact List.filter_sublist.map Prod.fst
  exact hsub.nodup ExtTreeMap.nodup_keys

instance : Std.Antisymm (DispatchedBefore attempts) where
  antisymm first second hforth hback := by
    rcases hforth with hless | ⟨hsame, hnames⟩
    · rcases hback with hmore | ⟨hsame, _⟩
      · exact absurd hmore (Nat.lt_asymm hless)
      · exact absurd hsame (Nat.ne_of_gt hless)
    · rcases hback with hless | ⟨_, hnames'⟩
      · exact absurd hsame.symm (Nat.ne_of_lt hless)
      · exact String.le_antisymm hnames hnames'

instance : Std.Total (DispatchedBefore attempts) where
  total first second := by
    rcases Nat.lt_trichotomy (attempts[first]?.getD 0) (attempts[second]?.getD 0) with
      hless | hsame | hmore
    · exact Or.inl (Or.inl hless)
    · rcases String.le_total first second with hnames | hnames
      · exact Or.inl (Or.inr (And.intro hsame hnames))
      · exact Or.inr (Or.inr (And.intro hsame.symm hnames))
    · exact Or.inr (Or.inl hmore)

instance : IsTrans String (DispatchedBefore attempts) where
  trans first second third hforth hon := by
    rcases hforth with hless | ⟨hsame, hnames⟩
    · rcases hon with hless' | ⟨hsame', _⟩
      · exact Or.inl (Nat.lt_trans hless hless')
      · exact Or.inl (hsame' ▸ hless)
    · rcases hon with hless' | ⟨hsame', hnames'⟩
      · exact Or.inl (hsame ▸ hless')
      · exact Or.inr (And.intro (hsame.trans hsame') (String.le_trans hnames hnames'))

theorem mem_plannedNow (hnodup : candidates.Nodup) :
    node ∈ plannedNow candidates attempts inFlight maxParallel <->
      node ∈ candidates ∧
        Ranks.rank (DispatchedBefore attempts) candidates node + inFlight < maxParallel := by
  unfold plannedNow dispatchPlan
  rcases Nat.eq_zero_or_pos maxParallel with rfl | hpos
  · rw [if_pos rfl]
    exact iff_of_false List.not_mem_nil fun h => Nat.not_lt_zero _ h.right
  · rw [if_neg (Nat.ne_of_gt hpos)]
    dsimp only
    rw [Ranks.mem_take_insertionSort hnodup, Nat.lt_sub_iff_add_lt]

theorem nodup_plannedNow (hnodup : candidates.Nodup) :
    (plannedNow candidates attempts inFlight maxParallel).Nodup := by
  unfold plannedNow dispatchPlan
  split
  · rename_i hplan
    split at hplan
    · cases hplan
    · cases hplan
      have hsorted := (List.perm_insertionSort (DispatchedBefore attempts) candidates).nodup_iff
      exact (List.take_sublist _ _).nodup (hsorted.mpr hnodup)
  · exact List.nodup_nil

end Pieces

/-!
## What fits
-/

def Fits (attempts : ExtTreeMap String Nat) (limit : Nat) (running candidates : Set String)
    (node : String) : Prop :=
  { other | other ∈ candidates ∧ other ≠ node ∧ DispatchedBefore attempts other node }.ncard +
      running.ncard < limit

def foldedReleased (spec : GraphSpec) (states : ExtTreeMap String NodeState) (state : NodeState) :
    Set String :=
  { node | states[node]? = some state ∧ Released spec states node }

def foldedIn (states : ExtTreeMap String NodeState) (state : NodeState) : Set String :=
  { node | states[node]? = some state }

def RemovedTakeNoRoom (spec : GraphSpec) (states : ExtTreeMap String NodeState)
    (attempts : ExtTreeMap String Nat) : Prop :=
  forall node, node ∈ qualifying spec states .ready ->
    Fits attempts (parallelLimit spec) { running ∈ foldedIn states .running | running ∈ spec.nodes }
        (qualifying spec states .ready ∪ qualifying spec states .queued) node ->
      Fits attempts (parallelLimit spec) (foldedIn states .running)
        (qualifying spec states .ready ∪ foldedReleased spec states .queued) node

section Fitting

variable {spec : GraphSpec} {states : ExtTreeMap String NodeState}
  {attempts : ExtTreeMap String Nat} {node : String}

theorem mem_candidates : node ∈ readyNodes spec states ++ queuedSet spec states <->
    node ∈ qualifying spec states .ready ∪ foldedReleased spec states .queued := by
  rw [List.mem_append, mem_readyNodes, mem_queuedSet, edgesSatisfied_iff_released]
  exact Iff.rfl

theorem mem_candidates_inSpec :
    node ∈ (readyNodes spec states ++ queuedSet spec states).filter
        (fun node => spec.nodes.contains node) <->
      node ∈ qualifying spec states .ready ∪ qualifying spec states .queued := by
  rw [List.mem_filter, mem_candidates, ExtTreeMap.contains_iff_mem]
  constructor
  · intro h
    rcases h with ⟨hready | hqueued, hin⟩
    · exact Or.inl hready
    · exact Or.inr (And.intro hin hqueued)
  · intro h
    rcases h with hready | hqueued
    · exact And.intro (Or.inl hready) hready.left
    · exact And.intro (Or.inr hqueued.right) hqueued.left

theorem fits_iff {running candidates : List String} {runningSet candidateSet : Set String}
    (hrunning : forall node, node ∈ running <-> node ∈ runningSet)
    (hcandidates : forall node, node ∈ candidates <-> node ∈ candidateSet)
    (hnodup : running.Nodup) (hdistinct : candidates.Nodup) :
    Ranks.rank (DispatchedBefore attempts) candidates node + running.length <
        parallelLimit spec <->
      Fits attempts (parallelLimit spec) runningSet candidateSet node := by
  unfold Fits
  rw [Ranks.rank_eq_ncard hdistinct, Ranks.length_eq_ncard hnodup]
  simp only [hrunning, hcandidates]
  exact Iff.rfl

theorem finite_of_list {nodes : List String} {set : Set String}
    (h : forall node, node ∈ nodes <-> node ∈ set) : set.Finite :=
  (List.finite_toSet nodes).subset fun node hmem => (h node).mpr hmem

theorem Fits.mono {limit : Nat} {running running' candidates candidates' : Set String}
    (h : Fits attempts limit running' candidates' node)
    (hrunning : running ⊆ running') (hcandidates : candidates ⊆ candidates')
    (hfinite : running'.Finite) (hfinite' : candidates'.Finite) :
    Fits attempts limit running candidates node := by
  refine Nat.lt_of_le_of_lt (Nat.add_le_add ?_ (Set.ncard_le_ncard hrunning hfinite)) h
  refine Set.ncard_le_ncard ?_ (hfinite'.subset fun other hother => hother.left)
  intro other hother
  exact And.intro (hcandidates hother.left) hother.right

theorem mem_plannedNow_iff_fits :
    node ∈ plannedNow (readyNodes spec states ++ queuedSet spec states) attempts
        (statesAt states .running).length (parallelLimit spec) <->
      node ∈ qualifying spec states .ready ∪ foldedReleased spec states .queued ∧
        Fits attempts (parallelLimit spec) (foldedIn states .running)
          (qualifying spec states .ready ∪ foldedReleased spec states .queued) node := by
  rw [mem_plannedNow nodup_candidates, mem_candidates,
    fits_iff (fun _ => mem_statesAt) (fun _ => mem_candidates) nodup_statesAt nodup_candidates]
  exact Iff.rfl

theorem mem_driverStarts :
    node ∈ driverStarts spec states attempts (readyNodes spec states ++ queuedSet spec states) <->
      node ∈ qualifying spec states .ready ∧
        Fits attempts (parallelLimit spec)
          { running ∈ foldedIn states .running | running ∈ spec.nodes }
          (qualifying spec states .ready ∪ qualifying spec states .queued) node := by
  have hrunning : forall node,
      node ∈ (statesAt states .running).filter (fun node => spec.nodes.contains node) <->
        node ∈ { running ∈ foldedIn states .running | running ∈ spec.nodes } := by
    intro node
    rw [List.mem_filter, mem_statesAt, ExtTreeMap.contains_iff_mem]
    exact Iff.rfl
  unfold driverStarts
  dsimp only
  rw [List.mem_filter, mem_plannedNow (nodup_candidates.filter _), mem_candidates_inSpec,
    fits_iff hrunning (fun _ => mem_candidates_inSpec) (nodup_statesAt.filter _)
      (nodup_candidates.filter _), decide_eq_true_iff]
  constructor
  · intro h
    rcases h with ⟨⟨hready | hqueued, hfits⟩, hstate⟩
    · exact And.intro hready hfits
    · have hother := hqueued.right.left
      rw [hstate] at hother
      cases hother
  · intro h
    exact And.intro (And.intro (Or.inl h.left) h.right) h.left.right.left

theorem nodup_driverStarts :
    (driverStarts spec states attempts
      (readyNodes spec states ++ queuedSet spec states)).Nodup :=
  (nodup_plannedNow (nodup_candidates.filter _)).filter _

end Fitting

/-!
## What the view says
-/

section View

variable {spec : GraphSpec} {states : ExtTreeMap String NodeState}
  {attempts : ExtTreeMap String Nat} {status : Option SimulationStatus} {view : DispatchView}

def viewPlan (spec : GraphSpec) (states : ExtTreeMap String NodeState)
    (attempts : ExtTreeMap String Nat) : List String :=
  plannedNow (readyNodes spec states ++ queuedSet spec states) attempts
    (statesAt states .running).length (parallelLimit spec)

theorem dispatchView_eq_ok : dispatchView (some spec) states attempts status = .ok view <->
    status ≠ some .paused ∧ (qualifying spec states .ready).ncard <= maxReadySet ∧
      { ready := ((viewPlan spec states attempts).filter fun node =>
          (readyNodes spec states).contains node).length
        gated := (statesAt states .ready).filter fun node =>
          spec.nodes.contains node && !(readyNodes spec states).contains node
        waitingCapacity := (readyNodes spec states).filter fun node =>
          !(viewPlan spec states attempts).contains node } = view := by
  unfold dispatchView
  split
  · rename_i hpaused
    exact iff_of_false (fun h => nomatch h) fun h => h.left hpaused
  · rename_i hpaused
    rw [and_iff_right hpaused]
    dsimp only
    rcases Nat.lt_or_ge maxReadySet (qualifying spec states .ready).ncard with hlarge | hfits
    · have herror : readySet spec states = .error .readySetTooLarge := by
        cases hset : readySet spec states with
        | error failure =>
            cases failure
            rfl
        | ok ready =>
            exact absurd (readySet_eq_ok.mp hset).left (Nat.not_le.mpr hlarge)
      rw [herror]
      exact iff_of_false (fun h => nomatch h) fun h => Nat.not_le.mpr hlarge h.left
    · rw [readySet_eq_ok.mpr (And.intro hfits rfl),
        dispatchCandidates_eq_ok.mpr (And.intro hfits rfl), and_iff_right hfits]
      exact Iff.intro Except.ok.inj (congrArg Except.ok)

theorem planned_and_waiting :
    List.Perm
      ((readyNodes spec states).filter
          (fun node => (viewPlan spec states attempts).contains node) ++
        (readyNodes spec states).filter fun node =>
          !(viewPlan spec states attempts).contains node)
      (readyNodes spec states) :=
  List.filter_append_perm _ _

theorem length_planned_ready :
    ((viewPlan spec states attempts).filter fun node =>
        (readyNodes spec states).contains node).length =
      ((readyNodes spec states).filter fun node =>
        (viewPlan spec states attempts).contains node).length := by
  refine List.Perm.length_eq ?_
  have hnodup : (viewPlan spec states attempts).Nodup := nodup_plannedNow nodup_candidates
  rw [List.perm_ext_iff_of_nodup (hnodup.filter _) (nodup_readyNodes.filter _)]
  intro node
  rw [List.mem_filter, List.mem_filter, List.contains_iff_mem, List.contains_iff_mem]
  exact And.comm

open Classical in
theorem length_planned_eq_iff :
    ((readyNodes spec states).filter fun node =>
        (viewPlan spec states attempts).contains node).length =
      (driverStarts spec states attempts
        (readyNodes spec states ++ queuedSet spec states)).length <->
      RemovedTakeNoRoom spec states attempts := by
  have hstarts : (driverStarts spec states attempts
      (readyNodes spec states ++ queuedSet spec states)).length =
      ((readyNodes spec states).filter fun node =>
        Fits attempts (parallelLimit spec)
          { running ∈ foldedIn states .running | running ∈ spec.nodes }
          (qualifying spec states .ready ∪ qualifying spec states .queued) node).length := by
    refine List.Perm.length_eq ?_
    rw [List.perm_ext_iff_of_nodup nodup_driverStarts (nodup_readyNodes.filter _)]
    intro node
    rw [mem_driverStarts, List.mem_filter, mem_readyNodes, decide_eq_true_iff]
  rw [hstarts, Ranks.length_filter_eq_iff]
  · unfold RemovedTakeNoRoom
    refine forall_congr' fun node => ?_
    rw [mem_readyNodes]
    refine imp_congr_right fun hready => ?_
    rw [decide_eq_true_iff, List.contains_iff_mem]
    refine imp_congr_right fun _ => ?_
    exact mem_plannedNow_iff_fits.trans (and_iff_right (Or.inl hready))
  · intro node hmem hplanned
    rw [List.contains_iff_mem] at hplanned
    refine decide_eq_true ((mem_plannedNow_iff_fits.mp hplanned).right.mono ?_ ?_ ?_ ?_)
    · exact fun running hrunning => hrunning.left
    · exact Set.union_subset_union_right _ fun other hother => hother.right
    · exact finite_of_list fun _ => mem_statesAt
    · exact finite_of_list fun _ => mem_candidates

theorem view_splits (h : dispatchView (some spec) states attempts status = .ok view) :
    (exists started,
      started.length = view.ready ∧ (started ++ view.waitingCapacity).Nodup ∧
        List.Perm (started ++ view.waitingCapacity) (readyNodes spec states) ∧
        forall node, node ∈ started -> node ∈ viewPlan spec states attempts) ∧
      view.gated.Nodup ∧
        forall node, node ∈ view.gated <->
          node ∈ spec.nodes ∧ states[node]? = some .ready ∧ node ∉ readyNodes spec states := by
  rcases dispatchView_eq_ok.mp h with ⟨_, _, rfl⟩
  dsimp only
  constructor
  · refine ⟨_, length_planned_ready.symm, ?_, planned_and_waiting, ?_⟩
    · exact planned_and_waiting.nodup_iff.mpr nodup_readyNodes
    · intro node hmem
      exact List.contains_iff_mem.mp (List.mem_filter.mp hmem).right
  · refine And.intro (nodup_statesAt.filter _) fun node => ?_
    rw [List.mem_filter, mem_statesAt, Bool.and_eq_true, ExtTreeMap.contains_iff_mem,
      Bool.not_eq_true', Bool.eq_false_iff, Ne, List.contains_iff_mem]
    exact and_left_comm

/-- The view agrees with the driver where the nodes the spec has lost take no room. -/
theorem dispatch_view_agrees_iff
    (h : dispatchView (some spec) states attempts status = .ok view) :
    ViewHolds spec states attempts view <-> RemovedTakeNoRoom spec states attempts := by
  rcases dispatchView_eq_ok.mp h with ⟨_, hfits, hview⟩
  have hready : view.ready = ((readyNodes spec states).filter fun node =>
      (viewPlan spec states attempts).contains node).length := by
    rw [← hview]
    exact length_planned_ready
  constructor
  · intro hagrees
    rcases hagrees with ⟨ready, candidates, _, hcandidates, hagrees⟩
    rcases dispatchCandidates_eq_ok.mp hcandidates with ⟨_, rfl⟩
    exact length_planned_eq_iff.mp (hready.symm.trans hagrees.plan)
  · intro hroom
    rcases view_splits h with ⟨hsplits, hgated⟩
    exact ⟨readyNodes spec states, readyNodes spec states ++ queuedSet spec states,
      readySet_eq_ok.mpr (And.intro hfits rfl), dispatchCandidates_eq_ok.mpr (And.intro hfits rfl),
      { splits := hsplits
        gated := hgated
        plan := hready.trans (length_planned_eq_iff.mpr hroom) }⟩

end View

/-- With one slot and a removed node queued before it, the one ready node is said to wait. -/
theorem dispatch_view_agrees_iff_removed :
    ViewHolds Removed.spec Removed.states ∅
        { ready := 0, gated := [], waitingCapacity := ["kept"] } <->
      RemovedTakeNoRoom Removed.spec Removed.states ∅ :=
  have hview : dispatchView (some Removed.spec) Removed.states ∅ (some .running) =
      .ok { ready := 0, gated := [], waitingCapacity := ["kept"] } := rfl
  dispatch_view_agrees_iff hview

/-- The driver that plans over the spec starts the node the view leaves waiting. -/
theorem dispatch_view_spends_a_slot_on_a_removed_node :
    dispatchView (some Removed.spec) Removed.states ∅ (some .running) =
        .ok { ready := 0, gated := [], waitingCapacity := ["kept"] } ∧
      ¬ ViewHolds Removed.spec Removed.states ∅
        { ready := 0, gated := [], waitingCapacity := ["kept"] } := by
  refine And.intro rfl fun hholds => ?_
  rcases hholds with ⟨ready, candidates, _, hcandidates, hagrees⟩
  have hplan := hagrees.plan
  rcases dispatchCandidates_eq_ok.mp hcandidates with ⟨_, rfl⟩
  exact absurd hplan (by decide)

end GraphHelm
