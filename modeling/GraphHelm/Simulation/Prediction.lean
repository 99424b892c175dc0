import GraphHelm.Library.Runs
import GraphHelm.Simulation.Routing

/-!
# What a simulation predicts

An execution of the same graph, driven by `dispatch_candidates` alone: every node that is
dispatched succeeds, until no candidate is left.  What it dispatches is the least set that
the edge rule of the runtime is closed under, and so the two agree where the rules do.
-/

namespace GraphHelm
namespace Externalize
namespace Simulation

open Std Relation
open Components Lint

/-!
## The execution of a graph
-/

section Execution

variable (customs : GraphNode -> CustomsDeclaration) (expression : Json -> LedgerData)

/-- A condition, as the runtime reads it. -/
def routed : Json -> EdgeCondition
  | .bool value => .literal value
  | other => .other (expression other)

def dispatchEdge (edge : GraphEdge) : GraphHelm.GraphEdge :=
  { source := edge.source
    target := edge.target
    edgeType := edge.edgeType
    condition := edge.condition.map (routed expression) }

/-- The graph, as the runtime reads it. -/
def dispatchSpec (graph : ExecutionGraph) : GraphHelm.GraphSpec :=
  { nodes := ExtTreeMap.ofList
      (graph.spec.nodes.map fun entry => (entry.1, GraphHelm.GraphNode.mk (customs entry.2)))
    edges := graph.spec.edges.map (dispatchEdge expression)
    maxParallelModelCalls := graph.spec.budgets.maxParallelModelCalls }

def recordAll (state : NodeState) (states : ExtTreeMap String NodeState) (nodes : List String) :
    ExtTreeMap String NodeState :=
  nodes.foldl (fun states node => states.insert node state) states

def allReady (graph : ExecutionGraph) : ExtTreeMap String NodeState :=
  recordAll .ready ∅ (nodeIds graph)

def dispatchBatch (spec : GraphHelm.GraphSpec) (states : ExtTreeMap String NodeState)
    (batch : List String) : Option (ExtTreeMap String NodeState) :=
  match dispatchCandidates spec states with
  | .ok candidates => if batch ⊆ candidates then some (recordAll .succeeded states batch) else none
  | .error _ => none

/-- An execution from the start until no candidate is left. -/
def RunsToTheEnd (spec : GraphHelm.GraphSpec) (states : ExtTreeMap String NodeState)
    (batches : List (List String)) : Prop :=
  exists final, run (dispatchBatch spec) states batches = some final ∧
    dispatchCandidates spec final = .ok []

end Execution

/-!
## The rule of the runtime
-/

section Rule

variable (graph : ExecutionGraph)

def RuntimeReleases (done : Set String) (id : String) : Prop :=
  forall edge, edge ∈ graph.spec.edges -> edge.target = id ->
    IsFalse edge ∨ edge.edgeType ≠ .failure ∧ edge.source ∈ done

def runtimeRule : Set String →o Set String where
  toFun done := { id | id ∈ nodeIds graph ∧ RuntimeReleases graph done id }
  monotone' := by
    rintro first second hle id ⟨hid, hall⟩
    exact ⟨hid, fun edge hedge htarget =>
      (hall edge hedge htarget).imp_right fun hpassed => ⟨hpassed.left, hle hpassed.right⟩⟩

def dispatchedNodes : Set String := (runtimeRule graph).lfp

end Rule

/-!
## Candidates
-/

variable {id : String}

section Candidates

variable {customs : GraphNode -> CustomsDeclaration} {expression : Json -> LedgerData}
  {graph : ExecutionGraph} {states : ExtTreeMap String NodeState}

theorem routed_eq_false {edge : GraphEdge} :
    (dispatchEdge expression edge).condition = some (.literal false) <-> IsFalse edge := by
  unfold IsFalse dispatchEdge
  cases hcondition : edge.condition with
  | none => simp
  | some value => cases value <;> simp [routed]

theorem getElem?_recordAll {state : NodeState} {nodes : List String} :
    (recordAll state states nodes)[id]? = if id ∈ nodes then some state else states[id]? := by
  unfold recordAll
  induction nodes generalizing states with
  | nil => rfl
  | cons node rest ih =>
      rw [List.foldl_cons, ih]
      rcases Decidable.em (id ∈ rest) with hrest | hrest
      · rw [if_pos hrest, if_pos (List.mem_cons_of_mem node hrest)]
      · rw [if_neg hrest]
        rcases Decidable.em (node = id) with rfl | hne
        · rw [if_pos List.mem_cons_self, ExtTreeMap.getElem?_insert_self]
        · rw [OrderedMap.getElem?_insert_of_ne hne, if_neg]
          rintro (_ | ⟨_, hmem⟩)
          · exact hne rfl
          · exact hrest hmem

theorem mem_keys_dispatchSpec :
    id ∈ (dispatchSpec customs expression graph).nodes.keys <-> id ∈ nodeIds graph := by
  unfold dispatchSpec nodeIds
  rw [ExtTreeMap.mem_keys, ExtTreeMap.mem_ofList, List.contains_iff_mem, List.map_map]
  rfl

structure Underway (graph : ExecutionGraph) (states : ExtTreeMap String NodeState) : Prop where
  known : forall id, id ∈ nodeIds graph ->
    states[id]? = some .ready ∨ states[id]? = some .succeeded
  unknown : forall id, ¬ id ∈ nodeIds graph -> states[id]? = none

theorem Underway.node (h : Underway graph states) {state : NodeState}
    (hstate : states[id]? = some state) : id ∈ nodeIds graph := by
  rcases Decidable.em (id ∈ nodeIds graph) with hin | hout
  · exact hin
  · rw [h.unknown id hout] at hstate
    cases hstate

theorem underway_allReady : Underway graph (allReady graph) := by
  unfold allReady
  constructor
  · intro id hid
    rw [getElem?_recordAll, if_pos hid]
    exact Or.inl rfl
  · intro id hid
    rw [getElem?_recordAll, if_neg hid, ExtTreeMap.getElem?_empty]

theorem Underway.gates (h : Underway graph states) {edge : GraphHelm.GraphEdge} :
    edgeGates edge (states[edge.source]?.getD .draft) = false <->
      edge.condition = some (.literal false) ∨
        edge.edgeType ≠ .failure ∧ edge.source ∈ succeededIn states := by
  have hstate : states[edge.source]? = some .ready ∨ states[edge.source]? = some .succeeded ∨
      states[edge.source]? = none := by
    rcases Decidable.em (edge.source ∈ nodeIds graph) with hin | hout
    · exact (h.known _ hin).imp_right Or.inl
    · exact Or.inr (Or.inr (h.unknown _ hout))
  have hmem : edge.source ∈ succeededIn states <-> states[edge.source]? = some .succeeded := Iff.rfl
  unfold edgeGates
  rw [hmem]
  rcases Decidable.em (edge.condition = some (.literal false)) with hfalse | htrue
  · rw [if_pos hfalse]
    exact iff_of_true rfl (Or.inl hfalse)
  · rw [if_neg htrue, or_iff_right htrue]
    rcases hstate with hready | hdone | hnone
    · rw [hready]
      cases edge.edgeType <;> simp [satisfiesDependents]
    · rw [hdone]
      cases edge.edgeType <;> simp [satisfiesDependents]
    · rw [hnone]
      cases edge.edgeType <;> simp [satisfiesDependents]

theorem Underway.edgesSatisfied_iff (h : Underway graph states) :
    edgesSatisfied (dispatchSpec customs expression graph) states id = true <->
      RuntimeReleases graph (succeededIn states) id := by
  unfold edgesSatisfied dispatchSpec RuntimeReleases
  rw [List.all_map, List.all_eq_true]
  apply forall_congr'
  intro edge
  apply imp_congr_right
  intro _
  have hgates := @Underway.gates graph states h (dispatchEdge expression edge)
  rw [routed_eq_false] at hgates
  rw [Function.comp_apply, Bool.or_eq_true, bne_iff_ne, Bool.not_eq_true', hgates]
  exact or_iff_not_imp_left.trans (imp_congr_left not_not)

theorem Underway.mem_candidates (h : Underway graph states) {candidates : List String}
    (hcandidates :
      dispatchCandidates (dispatchSpec customs expression graph) states = .ok candidates) :
    id ∈ candidates <-> states[id]? = some .ready ∧ RuntimeReleases graph (succeededIn states) id := by
  constructor
  · intro hmem
    rcases state_of_candidate hcandidates hmem with ⟨hready | hqueued, hedges⟩
    · exact ⟨hready, h.edgesSatisfied_iff.mp hedges⟩
    · rcases h.known id (h.node hqueued) with hother | hother
      · rw [hqueued] at hother
        cases hother
      · rw [hqueued] at hother
        cases hother
  · rintro ⟨hready, hreleased⟩
    have hid := h.node hready
    unfold dispatchCandidates at hcandidates
    rcases bind_ok hcandidates with ⟨ready, hset, hunion⟩
    cases hunion
    apply List.mem_append_left
    unfold readySet at hset
    dsimp only at hset
    split at hset
    · cases hset
    · cases hset
      rw [List.mem_filter]
      refine ⟨mem_keys_dispatchSpec.mpr hid, ?_⟩
      rw [hready, h.edgesSatisfied_iff.mpr hreleased]
      rfl

end Candidates

/-!
## What an execution dispatches
-/

section Dispatched

variable {customs : GraphNode -> CustomsDeclaration} {expression : Json -> LedgerData}
  {graph : ExecutionGraph} {states final : ExtTreeMap String NodeState}
  {batch : List String} {batches : List (List String)}

theorem succeededIn_recordAll :
    succeededIn (recordAll .succeeded states batch) = succeededIn states ∪ { id | id ∈ batch } := by
  ext id
  show (recordAll .succeeded states batch)[id]? = some .succeeded <->
    states[id]? = some .succeeded ∨ id ∈ batch
  rw [getElem?_recordAll]
  rcases Decidable.em (id ∈ batch) with hin | hout
  · rw [if_pos hin]
    exact iff_of_true rfl (Or.inr hin)
  · rw [if_neg hout]
    exact (or_iff_left hout).symm

/-- An execution on its way: what has succeeded was released. -/
structure Executes (graph : ExecutionGraph) (states : ExtTreeMap String NodeState) : Prop
    extends Underway graph states where
  sound : succeededIn states <= dispatchedNodes graph

theorem dispatchBatch_eq_some {spec : GraphHelm.GraphSpec}
    (h : dispatchBatch spec states batch = some final) :
    (exists candidates, dispatchCandidates spec states = .ok candidates ∧ batch ⊆ candidates) ∧
      final = recordAll .succeeded states batch := by
  unfold dispatchBatch at h
  cases hcandidates : dispatchCandidates spec states with
  | error => simp [hcandidates] at h
  | ok candidates =>
      simp only [hcandidates] at h
      split at h
      · rename_i hsubset
        exact ⟨⟨candidates, rfl, hsubset⟩, (Option.some.inj h).symm⟩
      · cases h

theorem Executes.dispatch (h : Executes graph states)
    (hstep : dispatchBatch (dispatchSpec customs expression graph) states batch = some final) :
    Executes graph final := by
  rcases dispatchBatch_eq_some hstep with ⟨⟨candidates, hcandidates, hsubset⟩, rfl⟩
  have hmem : forall id, id ∈ batch ->
      states[id]? = some .ready ∧ RuntimeReleases graph (succeededIn states) id :=
    fun id hid => (h.mem_candidates hcandidates).mp (hsubset hid)
  have hnode : forall id, id ∈ batch -> id ∈ nodeIds graph :=
    fun id hid => h.node (hmem id hid).left
  refine { known := ?_, unknown := ?_, sound := ?_ }
  · intro id hid
    rw [getElem?_recordAll]
    split
    · exact Or.inr rfl
    · exact h.known id hid
  · intro id hid
    rw [getElem?_recordAll, if_neg fun hin => hid (hnode id hin)]
    exact h.unknown id hid
  · rw [succeededIn_recordAll]
    rintro id (hold | hnew)
    · exact h.sound hold
    · exact @mem_lfp_of_released _ (runtimeRule graph) _ h.sound id
        ⟨hnode id hnew, (hmem id hnew).right⟩

theorem succeededIn_allReady : succeededIn (allReady graph) = ∅ := by
  apply Set.eq_empty_of_forall_notMem
  intro id hid
  have hdone : (allReady graph)[id]? = some .succeeded := hid
  unfold allReady at hdone
  rw [getElem?_recordAll, ExtTreeMap.getElem?_empty] at hdone
  split at hdone
  · cases hdone
  · cases hdone

theorem executes_allReady : Executes graph (allReady graph) :=
  { underway_allReady with
    sound := by
      rw [succeededIn_allReady]
      exact Set.empty_subset _ }

theorem succeededIn_run {spec : GraphHelm.GraphSpec}
    (hrun : run (dispatchBatch spec) states batches = some final) :
    succeededIn final = succeededIn states ∪ { id | id ∈ batches.flatten } := by
  induction batches generalizing states with
  | nil =>
      cases hrun
      simp
  | cons batch rest ih =>
      rcases run_cons_eq_some.mp hrun with ⟨next, hstep, hrest⟩
      rw [ih hrest, (dispatchBatch_eq_some hstep).right, succeededIn_recordAll, Set.union_assoc]
      congr 1
      ext id
      simp

theorem dispatched_of_run
    (h : RunsToTheEnd (dispatchSpec customs expression graph) (allReady graph) batches) :
    { id | id ∈ batches.flatten } = dispatchedNodes graph := by
  rcases h with ⟨final, hrun, hend⟩
  have hexecutes : Executes graph final :=
    run_invariant (fun hinv hstep => hinv.dispatch hstep) executes_allReady hrun
  have hran := succeededIn_run hrun
  rw [succeededIn_allReady, Set.empty_union] at hran
  rw [← hran]
  apply eq_lfp_of_closed
  · exact hexecutes.sound
  · rintro id ⟨hid, hreleased⟩
    rcases hexecutes.known id hid with hready | hdone
    · exact absurd ((hexecutes.mem_candidates hend).mpr ⟨hready, hreleased⟩) List.not_mem_nil
    · exact hdone

end Dispatched

/-!
## Where the two rules agree
-/

section Agreement

variable {graph : ExecutionGraph} {source : String}

theorem mem_simulatedNodes {id : String} :
    id ∈ simulatedNodes graph <->
      id ∈ nodeIds graph ∧ SimulatorReleases graph (simulatedNodes graph) id := by
  conv_lhs => rw [simulatedNodes, ← (simulatorRule graph).map_lfp]
  rfl

theorem mem_dispatchedNodes {id : String} :
    id ∈ dispatchedNodes graph <->
      id ∈ nodeIds graph ∧ RuntimeReleases graph (dispatchedNodes graph) id := by
  conv_lhs => rw [dispatchedNodes, ← (runtimeRule graph).map_lfp]
  rfl

theorem runtimeRule_looksBack (hclean : Clean graph source) :
    LooksBack (digraph graph).Edge (runtimeRule graph) := by
  intro first second id hagree
  apply and_congr_right
  intro _
  apply forall_congr'
  intro edge
  apply imp_congr_right
  intro hedge
  apply imp_congr_right
  rintro rfl
  rw [hagree edge.source (edge_of_graphEdge hclean hedge)]

theorem edge_wellFounded (hacyclic : IsAcyclic graph) : WellFounded (digraph graph).Edge :=
  wellFounded_of_acyclic (nodeIds graph).finite_toSet
    (fun h => (edge_iff.mp h).left) hacyclic.acyclic

theorem simulated_eq_dispatched_iff (hclean : Clean graph source) (hacyclic : IsAcyclic graph) :
    simulatedNodes graph = dispatchedNodes graph <->
      forall id, id ∈ nodeIds graph ->
        (SimulatorReleases graph (simulatedNodes graph) id <->
          RuntimeReleases graph (simulatedNodes graph) id) := by
  constructor
  · intro heq id hid
    have hsimulated := @mem_simulatedNodes graph id
    have hdispatched := @mem_dispatchedNodes graph id
    rw [← heq] at hdispatched
    exact (and_congr_right_iff.mp (hsimulated.symm.trans hdispatched)) hid
  · intro hagree
    apply fixed_unique (edge_wellFounded hacyclic) (runtimeRule_looksBack hclean)
    · ext id
      rw [mem_simulatedNodes]
      exact and_congr_right fun hid => (hagree id hid).symm
    · exact (runtimeRule graph).map_lfp

theorem exists_dispatched (hclean : Clean graph source) (hacyclic : IsAcyclic graph)
    (hnodes : graph.spec.nodes ≠ []) : exists id, id ∈ dispatchedNodes graph := by
  rcases List.exists_mem_of_ne_nil _ hnodes with ⟨entry, hentry⟩
  have hsome : { id | id ∈ nodeIds graph }.Nonempty := ⟨entry.1, List.mem_map_of_mem hentry⟩
  rcases (edge_wellFounded hacyclic).has_min _ hsome with ⟨id, hid, hfirst⟩
  refine ⟨id, mem_dispatchedNodes.mpr ⟨hid, ?_⟩⟩
  rintro edge hedge rfl
  exact absurd (edge_of_graphEdge hclean hedge)
    (hfirst edge.source (hclean.endpoints hedge).left)

structure Plain (graph : ExecutionGraph) : Prop where
  success : forall edge, edge ∈ graph.spec.edges -> edge.edgeType ≠ .failure ∧ ¬ IsFalse edge
  starts : forall id, id ∈ nodeIds graph ->
    (id ∈ graph.spec.entrypoints <-> forall edge, edge ∈ graph.spec.edges -> edge.target ≠ id)

theorem Plain.agree (h : Plain graph) {done : Set String} (hid : id ∈ nodeIds graph) :
    SimulatorReleases graph done id <-> RuntimeReleases graph done id := by
  constructor
  · rintro (hentry | ⟨_, hall⟩) edge hedge htarget
    · exact absurd htarget ((h.starts id hid).mp hentry edge hedge)
    · exact Or.inr ⟨(h.success edge hedge).left, (hall edge hedge htarget).left⟩
  · intro hall
    rcases Classical.em (exists edge, edge ∈ graph.spec.edges ∧ edge.target = id) with hsome | hnone
    · refine Or.inr ⟨hsome, fun edge hedge htarget => ?_⟩
      have hpassed := (hall edge hedge htarget).resolve_left (h.success edge hedge).right
      exact ⟨hpassed.right, (h.success edge hedge).right⟩
    · exact Or.inl ((h.starts id hid).mpr fun edge hedge htarget => hnone ⟨edge, hedge, htarget⟩)

end Agreement

/-!
## The prediction
-/

section Prediction

variable {version : GraphVersion} {fixtures : SimulationFixtures} {services : SimulationServices}
  {result : SimulationResult} {source : String}

theorem simulate_eq_ok (h : simulate version fixtures services = .ok result) :
    exists simulationId event s, simulated version fixtures services simulationId event = .ok s ∧
      result.nodeStates = s.states := by
  unfold simulate at h
  rcases bind_ok h with ⟨simulationId, _, h⟩
  rcases bind_ok h with ⟨graphHash, _, h⟩
  rcases bind_ok h with ⟨startedKey, _, h⟩
  rcases bind_ok h with ⟨s, hsimulated, h⟩
  rcases bind_ok h with ⟨completedKey, _, h⟩
  rcases bind_ok h with ⟨next, _, h⟩
  rcases bind_ok h with ⟨events, _, h⟩
  cases h
  exact ⟨simulationId, _, s, hsimulated, rfl⟩

/-- A simulation that fits its limit drives what its rule releases, and another one nothing. -/
theorem succeeded_of_simulate (hclean : Clean version.graph source)
    (hacyclic : IsAcyclic version.graph) (hliteral : LiteralConditions version.graph)
    (hsucceed : AllSucceed fixtures) (h : simulate version fixtures services = .ok result) :
    (3 * version.graph.spec.nodes.length <= maxSimulationTransitions ->
        succeededIn result.nodeStates = simulatedNodes version.graph) ∧
      (maxSimulationTransitions < 3 * version.graph.spec.nodes.length ->
        succeededIn result.nodeStates = ∅) := by
  rcases simulate_eq_ok h with ⟨simulationId, event, s, hsimulated, hstates⟩
  rw [hstates]
  constructor
  · intro hfits
    exact succeeded_of_simulated hclean hacyclic hliteral hsucceed hfits hsimulated
  · intro hover
    exact none_succeeded_of_blocked hclean hacyclic hover hsimulated

/--
A simulation predicts what an execution dispatches exactly if it fits its limit and the two
rules agree at every node on the nodes that the simulator is done with; so it does where no
edge is a failure route or literally false and the entrypoints are the nodes without edges.
-/
theorem simulation_predicts_iff (hlint : (lint version.graph source).errors = [])
    (hacyclic : IsAcyclic version.graph) (hliteral : LiteralConditions version.graph)
    (hsucceed : AllSucceed fixtures) (hsimulate : simulate version fixtures services = .ok result)
    {customs : GraphNode -> CustomsDeclaration} {expression : Json -> LedgerData}
    {batches : List (List String)}
    (hrun : RunsToTheEnd (dispatchSpec customs expression version.graph) (allReady version.graph)
      batches) :
    ((forall id, result.nodeStates[id]? = some .succeeded <-> id ∈ batches.flatten) <->
        3 * version.graph.spec.nodes.length <= maxSimulationTransitions ∧
          forall id, id ∈ nodeIds version.graph ->
            (SimulatorReleases version.graph (simulatedNodes version.graph) id <->
              RuntimeReleases version.graph (simulatedNodes version.graph) id)) ∧
      (Plain version.graph -> 3 * version.graph.spec.nodes.length <= maxSimulationTransitions ->
        forall id, result.nodeStates[id]? = some .succeeded <-> id ∈ batches.flatten) := by
  have hclean := clean_of_no_errors hlint
  rcases succeeded_of_simulate hclean hacyclic hliteral hsucceed hsimulate with ⟨hfits, hover⟩
  have hdispatched := dispatched_of_run hrun
  have hsets : (forall id, result.nodeStates[id]? = some .succeeded <-> id ∈ batches.flatten) <->
      succeededIn result.nodeStates = dispatchedNodes version.graph := by
    rw [← hdispatched, Set.ext_iff]
    rfl
  have hagree := simulated_eq_dispatched_iff hclean hacyclic
  rw [hsets]
  rcases Nat.lt_or_ge maxSimulationTransitions (3 * version.graph.spec.nodes.length) with
    hmany | hfew
  · have hnodes : version.graph.spec.nodes ≠ [] := by
      intro hnil
      rw [hnil] at hmany
      exact absurd hmany (Nat.not_lt_zero _)
    rcases exists_dispatched hclean hacyclic hnodes with ⟨id, hid⟩
    constructor
    · refine iff_of_false (fun heq => ?_) fun hboth => absurd hboth.left (Nat.not_le.mpr hmany)
      rw [← heq, hover hmany] at hid
      exact hid
    · exact fun _ hboth => absurd hboth (Nat.not_le.mpr hmany)
  · rw [hfits hfew, hagree, and_iff_right hfew]
    exact ⟨Iff.rfl, fun hplain _ id hid => hplain.agree hid⟩

end Prediction

/-!
## A graph with a branch that is switched off
-/

namespace Sample

open Lint.Sample (leading unbudgeted)

def forking : GraphNode :=
  { nodeType := .fork
    name := "Fork"
    objective := "Fork"
    optionality := .optional
    properties := [] }

/-- Two nodes, and an edge from the first to the second with a condition. -/
def conditional (condition : Option Json) : GraphVersion :=
  { number := 1
    contentHash := "sha256:0000000000000000000000000000000000000000000000000000000000000000"
    graph :=
      { metadata :=
          { id := "graph", name := "Graph", executionId := "execution", version := 1, labels := []
            properties := [] }
        spec :=
          { entrypoints := ["a"]
            nodes := [("a", forking), ("b", forking)]
            edges := [{ leading "a" "b" with condition := condition }]
            budgets := { unbudgeted with maxNodes := some 10, maxDepth := some 10 }
            policies := []
            completion := .object [("terminalNodes", .array [.string "b"])] } } }

def services : SimulationServices :=
  { nextId := "simulation"
    now := 0
    actor := { actorType := .owner, id := "owner" }
    rawContentSha256 := fun _ => some (String.ofList (List.replicate 64 '0'))
    nextSequence := .ok 1
    appendAtomic := fun _ _ => .ok [] }

def fixtures : SimulationFixtures := { nodeOutcomes := ∅, conditions := ∅ }

theorem conditional_isAcyclic (condition : Option Json) :
    IsAcyclic (conditional condition).graph := by
  have hacyclic : Acyclic (digraph (conditional condition).graph).Edge := by
    apply acyclic_of_rank fun id => if id = "a" then 0 else 1
    intro x y h
    rcases edge_iff.mp h with ⟨_, _, edge, hedge, rfl, rfl⟩
    rw [List.mem_singleton.mp hedge]
    show (if "a" = "a" then 0 else 1) < if "b" = "a" then 0 else 1
    decide
  intro cycle hcycle
  rcases exists_cycle_iff.mp ⟨cycle, hcycle⟩ with ⟨id, hback⟩
  exact hacyclic id hback

theorem conditional_literal {condition : Option Json}
    (h : condition = none ∨ exists value, condition = some (.bool value)) :
    LiteralConditions (conditional condition).graph := by
  intro edge hedge
  rw [List.mem_singleton.mp hedge]
  exact h

theorem fixtures_allSucceed : AllSucceed fixtures := by
  intro node outcome h
  rw [show fixtures.nodeOutcomes = ∅ from rfl, ExtTreeMap.getElem?_empty] at h
  cases h

/-- What the runtime reads of the graph, where no node declares customs. -/
def spec (condition : Option Json) : GraphHelm.GraphSpec :=
  dispatchSpec (fun _ => .absent) (fun _ => "") (conditional condition).graph

def simulatedStates (condition : Option Json) : Option (List (String × NodeState)) :=
  match simulate (conditional condition) fixtures services with
  | .ok result => some result.nodeStates.toList
  | .error _ => none

theorem exists_result {condition : Option Json} {states : List (String × NodeState)}
    (h : simulatedStates condition = some states) :
    exists result, simulate (conditional condition) fixtures services = .ok result ∧
      result.nodeStates.toList = states := by
  unfold simulatedStates at h
  split at h
  · rename_i result hresult
    exact ⟨result, hresult, Option.some.inj h⟩
  · cases h

end Sample

/-- The simulator stops at the branch that is switched off, and the runtime passes it. -/
theorem simulation_misses_a_branch :
    (lint (Sample.conditional (some (.bool false))).graph "").errors = [] ∧
      (lint (Sample.conditional (some (.bool false))).graph "").warnings = [] ∧
      IsAcyclic (Sample.conditional (some (.bool false))).graph ∧
      LiteralConditions (Sample.conditional (some (.bool false))).graph ∧
      AllSucceed Sample.fixtures ∧
      RunsToTheEnd (Sample.spec (some (.bool false)))
        (allReady (Sample.conditional (some (.bool false))).graph) [["a", "b"]] ∧
      exists result, simulate (Sample.conditional (some (.bool false))) Sample.fixtures
          Sample.services = .ok result ∧
        result.nodeStates["a"]? = some .succeeded ∧ result.nodeStates["b"]? = none := by
  refine ⟨by decide +kernel, by decide +kernel, Sample.conditional_isAcyclic _,
    Sample.conditional_literal (Or.inr ⟨false, rfl⟩), Sample.fixtures_allSucceed, ?_, ?_⟩
  · refine ⟨recordAll .succeeded (allReady (Sample.conditional (some (.bool false))).graph)
      ["a", "b"], ?_, ?_⟩
    · decide +kernel
    · decide +kernel
  · have hstates : Sample.simulatedStates (some (.bool false)) = some [("a", .succeeded)] := by
      decide +kernel
    rcases Sample.exists_result hstates with ⟨result, hresult, hlist⟩
    refine ⟨result, hresult, ?_, ?_⟩
    · apply ExtTreeMap.mem_toList_iff_getElem?_eq_some.mp
      rw [hlist]
      exact List.mem_singleton.mpr rfl
    · apply Option.eq_none_iff_forall_ne_some.mpr
      intro state hstate
      have hmem := ExtTreeMap.mem_toList_iff_getElem?_eq_some.mpr hstate
      rw [hlist] at hmem
      exact absurd (congrArg Prod.fst (List.mem_singleton.mp hmem))
        (show ¬ "b" = "a" by decide)

theorem simulation_predicts_the_branch :
    exists result, simulate (Sample.conditional none) Sample.fixtures Sample.services =
        .ok result ∧
      forall id, result.nodeStates[id]? = some .succeeded <-> id ∈ [["a"], ["b"]].flatten := by
  have hstates : Sample.simulatedStates none = some [("a", .succeeded), ("b", .succeeded)] := by
    decide +kernel
  rcases Sample.exists_result hstates with ⟨result, hresult, _⟩
  have hrun : RunsToTheEnd (Sample.spec none) (allReady (Sample.conditional none).graph)
      [["a"], ["b"]] := by
    refine ⟨recordAll .succeeded (allReady (Sample.conditional none).graph) ["a", "b"], ?_, ?_⟩
    · decide +kernel
    · decide +kernel
  have hplain : Plain (Sample.conditional none).graph := by
    constructor
    · decide
    · decide
  refine ⟨result, hresult, ?_⟩
  exact (simulation_predicts_iff (show (lint (Sample.conditional none).graph "").errors = [] by
    decide +kernel) (Sample.conditional_isAcyclic none) (Sample.conditional_literal (Or.inl rfl))
    Sample.fixtures_allSucceed hresult hrun).right hplain (by decide)

end Simulation
end Externalize
end GraphHelm
