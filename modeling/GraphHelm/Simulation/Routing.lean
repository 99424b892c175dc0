import GraphHelm.Library.Rules
import GraphHelm.Simulation.Ending

/-!
# Where a simulation goes

The nodes that a simulation drives to success, where every fixture is a success and every
condition a literal: the least set that the simulator's rule for a node is closed under.
-/

namespace GraphHelm
namespace Externalize
namespace Simulation

open Std Relation
open Components Lint

/-!
## The two rules
-/

section Rules

variable (graph : ExecutionGraph)

/-- No condition needs an evaluation. -/
def LiteralConditions : Prop :=
  forall edge, edge ∈ graph.spec.edges ->
    edge.condition = none ∨ exists value, edge.condition = some (.bool value)

def IsFalse (edge : GraphEdge) : Prop := edge.condition = some (.bool false)

instance (edge : GraphEdge) : Decidable (IsFalse edge) :=
  inferInstanceAs (Decidable (edge.condition = some (.bool false)))

def SimulatorReleases (done : Set String) (id : String) : Prop :=
  id ∈ graph.spec.entrypoints ∨
    (exists edge, edge ∈ graph.spec.edges ∧ edge.target = id) ∧
      forall edge, edge ∈ graph.spec.edges -> edge.target = id ->
        edge.source ∈ done ∧ ¬ IsFalse edge

def simulatorRule : Set String →o Set String where
  toFun done := { id | id ∈ nodeIds graph ∧ SimulatorReleases graph done id }
  monotone' := by
    rintro first second hle id ⟨hid, hentry | ⟨hsome, hall⟩⟩
    · exact ⟨hid, Or.inl hentry⟩
    · exact ⟨hid, Or.inr ⟨hsome, fun edge hedge htarget =>
        ⟨hle (hall edge hedge htarget).left, (hall edge hedge htarget).right⟩⟩⟩

/-- The nodes that a simulation drives to success. -/
def simulatedNodes : Set String := (simulatorRule graph).lfp

end Rules

/-!
## Graphs without loops
-/

variable {id : String} {edge : GraphEdge}

section Acyclicity

variable {graph : ExecutionGraph}

def IsAcyclic (graph : ExecutionGraph) : Prop :=
  forall cycle, ¬ (digraph graph).IsCycle cycle

theorem IsAcyclic.acyclic (h : IsAcyclic graph) : Acyclic (digraph graph).Edge := by
  intro id hback
  rcases exists_cycle_iff.mpr ⟨id, hback⟩ with ⟨cycle, hcycle⟩
  exact h cycle hcycle

theorem mem_step {reverse : Bool} {a b : String} :
    b ∈ step graph reverse a <->
      exists edge, edge ∈ graph.spec.edges ∧
        (if reverse then edge.target = a ∧ edge.source = b
          else edge.source = a ∧ edge.target = b) := by
  unfold step
  rw [List.mem_filterMap]
  apply exists_congr
  intro edge
  apply and_congr_right
  intro _
  cases reverse with
  | true => simp
  | false => simp

variable {start : String}

theorem mem_names_of_step {a b : String} {reverse : Bool} (h : b ∈ step graph reverse a) :
    b ∈ names graph start := by
  rcases mem_step.mp h with ⟨edge, hedge, hends⟩
  unfold names
  refine List.mem_cons_of_mem _ (List.mem_flatMap.mpr ⟨edge, hedge, ?_⟩)
  cases reverse with
  | true => simp [hends.right]
  | false => simp [hends.right]

theorem mem_reachable {reverse : Bool} :
    id ∈ reachable graph start reverse <->
      ReflTransGen (fun a b => b ∈ step graph reverse a) start id := by
  unfold reachable
  rw [Search.mem_search Search.puts_top]
  · simp
  · intro id hid
    rw [List.mem_singleton.mp hid]
    exact List.mem_cons_self
  · intro a b _ hstep
    exact mem_names_of_step hstep

variable {source : String}

theorem edge_of_graphEdge (hclean : Clean graph source) (hedge : edge ∈ graph.spec.edges) :
    (digraph graph).Edge edge.source edge.target := by
  have hends := hclean.endpoints hedge
  exact edge_iff.mpr ⟨hends.left, hends.right, edge, hedge, rfl, rfl⟩

theorem edge_of_step (hclean : Clean graph source) {a b : String} :
    (b ∈ step graph false a -> (digraph graph).Edge a b) ∧
      (b ∈ step graph true a -> (digraph graph).Edge b a) := by
  constructor
  · intro hstep
    rcases mem_step.mp hstep with ⟨edge, hedge, rfl, rfl⟩
    exact edge_of_graphEdge hclean hedge
  · intro hstep
    rcases mem_step.mp hstep with ⟨edge, hedge, rfl, rfl⟩
    exact edge_of_graphEdge hclean hedge

theorem reaches_of_reachable (hclean : Clean graph source)
    (h : id ∈ reachable graph start false) : (digraph graph).Reaches start id :=
  ReflTransGen.mono (fun _ _ => (edge_of_step hclean).left) _ _ (mem_reachable.mp h)

theorem reaches_back_of_reachable (hclean : Clean graph source)
    (h : id ∈ reachable graph start true) : (digraph graph).Reaches id start := by
  have hback := ReflTransGen.mono (fun _ _ => (edge_of_step hclean).right) _ _ (mem_reachable.mp h)
  exact reflTransGen_swap.mp hback

theorem reachable_nodup (start : String) (reverse : Bool) :
    (reachable graph start reverse).Nodup := by
  apply Search.search_nodup Search.puts_top
  · intro id hid
    rw [List.mem_singleton.mp hid]
    exact List.mem_cons_self
  · intro a b _ hstep
    exact mem_names_of_step hstep

theorem loopNodes_of_acyclic (hclean : Clean graph source) (hacyclic : IsAcyclic graph)
    (controller : String) : (loopNodes graph controller).length = 1 := by
  have halone : ((reachable graph controller false).filter fun id =>
      decide (id ∈ reachable graph controller true)).Perm [controller] := by
    rw [List.perm_ext_iff_of_nodup ((reachable_nodup controller false).filter _)
      (List.nodup_singleton controller)]
    intro id
    rw [List.mem_filter, decide_eq_true_eq, List.mem_singleton]
    constructor
    · rintro ⟨hforward, hreverse⟩
      have hthere := reaches_of_reachable hclean hforward
      have hback := reaches_back_of_reachable hclean hreverse
      rcases reflTransGen_iff_eq_or_transGen.mp hthere with heq | hchain
      · exact heq
      · exact absurd (hchain.trans_left hback) (hacyclic.acyclic controller)
    · rintro rfl
      exact ⟨mem_reachable.mpr .refl, mem_reachable.mpr .refl⟩
  unfold loopNodes
  rw [(sorted_perm _).length_eq, halone.length_eq, List.length_singleton]

theorem selfLoop_of_acyclic (hclean : Clean graph source) (hacyclic : IsAcyclic graph)
    (controller : String) : selfLoop graph controller = false := by
  cases hloop : selfLoop graph controller with
  | false => rfl
  | true =>
      rcases List.any_eq_true.mp hloop with ⟨edge, hedge, hends⟩
      rw [Bool.and_eq_true, decide_eq_true_eq, decide_eq_true_eq] at hends
      have hback := edge_of_graphEdge hclean hedge
      rw [hends.left, hends.right] at hback
      exact absurd (.single hback) (hacyclic.acyclic controller)

theorem controlledLoops_of_acyclic (hclean : Clean graph source) (hacyclic : IsAcyclic graph) :
    controlledLoops graph = [] := by
  have hadd : forall (components : List ControlledLoop) (entry : String × GraphNode),
      addLoop graph components entry = components := by
    intro components entry
    unfold addLoop
    cases loopLimit entry.2 with
    | none => rfl
    | some limit =>
        exact if_pos ⟨loopNodes_of_acyclic hclean hacyclic entry.1,
          selfLoop_of_acyclic hclean hacyclic entry.1⟩
  have hfold : forall entries : List (String × GraphNode),
      entries.foldl (addLoop graph) [] = [] := by
    intro entries
    induction entries with
    | nil => rfl
    | cons entry rest ih =>
        rw [List.foldl_cons, hadd]
        exact ih
  unfold controlledLoops
  rw [hfold]
  rfl

end Acyclicity

/-!
## Readiness
-/

section Readiness

variable {graph : ExecutionGraph} {fixtures : SimulationFixtures}
  {states : ExtTreeMap String NodeState}

def succeededIn (states : ExtTreeMap String NodeState) : Set String :=
  { id | states[id]? = some .succeeded }

theorem evaluateCondition_of_false (hfalse : IsFalse edge) :
    evaluateCondition states fixtures edge = some false := by
  unfold evaluateCondition
  rw [show edge.condition = some (.bool false) from hfalse]

theorem evaluateCondition_of_true
    (hliteral : edge.condition = none ∨ exists value, edge.condition = some (.bool value))
    (htrue : ¬ IsFalse edge) : evaluateCondition states fixtures edge = some true := by
  unfold evaluateCondition
  rcases hliteral with hnone | ⟨value, hvalue⟩
  · rw [hnone]
  · rw [hvalue]
    cases value with
    | false => exact absurd hvalue htrue
    | true => rfl

theorem edgesReadiness_literal {edges : List (GraphEdge × Nat)}
    (hliteral : forall entry, entry ∈ edges ->
      entry.1.condition = none ∨ exists value, entry.1.condition = some (.bool value)) :
    edgesReadiness states fixtures edges = .ready ∧
        (forall entry, entry ∈ edges ->
          entry.1.source ∈ succeededIn states ∧ ¬ IsFalse entry.1) ∨
      edgesReadiness states fixtures edges = .waiting ∧
        exists entry, entry ∈ edges ∧
          ¬ (entry.1.source ∈ succeededIn states ∧ ¬ IsFalse entry.1) := by
  induction edges with
  | nil => exact Or.inl ⟨rfl, nofun⟩
  | cons entry rest ih =>
      rcases entry with ⟨edge, index⟩
      have hrest := ih fun entry hmem => hliteral entry (List.mem_cons_of_mem _ hmem)
      have hstop : ¬ (edge.source ∈ succeededIn states ∧ ¬ IsFalse edge) ->
          exists entry, entry ∈ (edge, index) :: rest ∧
            ¬ (entry.1.source ∈ succeededIn states ∧ ¬ IsFalse entry.1) :=
        fun h => ⟨(edge, index), List.mem_cons_self, h⟩
      unfold edgesReadiness
      rcases Decidable.em (states[edge.source]? = some .succeeded) with hdone | hundone
      · rw [if_neg (not_not_intro hdone)]
        rcases Decidable.em (IsFalse edge) with hfalse | htrue
        · rw [evaluateCondition_of_false hfalse]
          exact Or.inr ⟨rfl, hstop fun h => h.right hfalse⟩
        · rw [evaluateCondition_of_true (hliteral (edge, index) List.mem_cons_self) htrue]
          rcases hrest with ⟨hready, hall⟩ | ⟨hwaits, other, hmem, hfails⟩
          · refine Or.inl ⟨hready, ?_⟩
            intro entry hmem
            rcases List.mem_cons.mp hmem with rfl | hmem
            · exact ⟨hdone, htrue⟩
            · exact hall entry hmem
          · exact Or.inr ⟨hwaits, other, List.mem_cons_of_mem _ hmem, hfails⟩
      · rw [if_pos hundone]
        exact Or.inr ⟨rfl, hstop fun h => hundone h.left⟩

theorem mem_incomingEdges {entry : GraphEdge × Nat} :
    entry ∈ incomingEdges graph id <->
      entry ∈ graph.spec.edges.zipIdx ∧ entry.1.target = id := by
  unfold incomingEdges
  rw [List.mem_filter, decide_eq_true_eq]

theorem exists_place (hedge : edge ∈ graph.spec.edges) :
    exists index, (edge, index) ∈ graph.spec.edges.zipIdx := by
  rcases List.mem_iff_getElem?.mp hedge with ⟨index, hindex⟩
  exact ⟨index, List.mk_mem_zipIdx_iff_getElem?.mpr hindex⟩

theorem mem_edges_of_zipIdx {entry : GraphEdge × Nat} (h : entry ∈ graph.spec.edges.zipIdx) :
    entry.1 ∈ graph.spec.edges :=
  List.mem_of_getElem? (List.mem_zipIdx_iff_getElem?.mp h)

theorem readiness_literal (hliteral : LiteralConditions graph) (id : String) :
    readiness graph states fixtures id = .ready ∧
        ((exists edge, edge ∈ graph.spec.edges ∧ edge.target = id) ∧
          forall edge, edge ∈ graph.spec.edges -> edge.target = id ->
            edge.source ∈ succeededIn states ∧ ¬ IsFalse edge) ∨
      readiness graph states fixtures id = .waiting ∧
        ¬ ((exists edge, edge ∈ graph.spec.edges ∧ edge.target = id) ∧
          forall edge, edge ∈ graph.spec.edges -> edge.target = id ->
            edge.source ∈ succeededIn states ∧ ¬ IsFalse edge) := by
  have hedges := @edgesReadiness_literal fixtures states (incomingEdges graph id) fun entry hmem =>
    hliteral entry.1 (mem_edges_of_zipIdx (mem_incomingEdges.mp hmem).left)
  unfold readiness
  cases hincoming : incomingEdges graph id with
  | nil =>
      refine Or.inr ⟨rfl, ?_⟩
      rintro ⟨⟨edge, hedge, htarget⟩, _⟩
      rcases exists_place hedge with ⟨index, hplace⟩
      have hmem := mem_incomingEdges.mpr ⟨hplace, htarget⟩
      rw [hincoming] at hmem
      cases hmem
  | cons first rest =>
      rw [hincoming] at hedges
      dsimp only
      rcases hedges with ⟨hready, hall⟩ | ⟨hwaits, entry, hmem, hfails⟩
      · refine Or.inl ⟨hready, ?_, ?_⟩
        · have hfirst : first ∈ incomingEdges graph id := hincoming ▸ List.mem_cons_self
          have hsplit := mem_incomingEdges.mp hfirst
          exact ⟨first.1, mem_edges_of_zipIdx hsplit.left, hsplit.right⟩
        · intro edge hedge htarget
          rcases exists_place hedge with ⟨index, hplace⟩
          have hmem : (edge, index) ∈ incomingEdges graph id :=
            mem_incomingEdges.mpr ⟨hplace, htarget⟩
          rw [hincoming] at hmem
          exact hall (edge, index) hmem
      · refine Or.inr ⟨hwaits, ?_⟩
        rintro ⟨_, hall⟩
        have hsplit : entry ∈ incomingEdges graph id := hincoming ▸ hmem
        have hsplit := mem_incomingEdges.mp hsplit
        exact hfails (hall entry.1 (mem_edges_of_zipIdx hsplit.left) hsplit.right)

end Readiness

/-!
## The simulation of a graph without loops
-/

section Following

variable {graph : ExecutionGraph} {fixtures : SimulationFixtures} {services : SimulationServices}
  {simulationId : OpaqueId} {s s' : SimulationState}

def AllSucceed (fixtures : SimulationFixtures) : Prop :=
  forall (node : String) (outcome : FixtureOutcome),
    fixtures.nodeOutcomes[node]? = some outcome -> outcome = .success

theorem AllSucceed.outcomeOf (h : AllSucceed fixtures) (node : String) :
    outcomeOf fixtures node = .success := by
  unfold Simulation.outcomeOf
  cases hfixture : fixtures.nodeOutcomes[node]? with
  | none => rfl
  | some outcome => exact h node outcome hfixture

/--
A simulation, `waiting` being what is left of its queue: the nodes it has driven have
succeeded and are released, and so are those that wait to be driven.
-/
structure Follows (graph : ExecutionGraph) (waiting : List String) (s : SimulationState) :
    Prop where
  loops : s.loops = []
  known : forall id, id ∈ s.pending -> id ∈ nodeIds graph
  states : forall id, id ∈ succeededIn s.states <-> id ∈ nodeIds graph ∧ ¬ id ∈ s.pending
  sound : forall id, id ∈ succeededIn s.states -> id ∈ simulatedNodes graph
  queued : forall id, id ∈ waiting -> id ∈ s.pending -> id ∈ simulatedNodes graph
  entries : forall id, id ∈ graph.spec.entrypoints -> id ∈ waiting ∨ ¬ id ∈ s.pending
  transitions : s.transitions.length + 3 * s.pending.size <= 3 * graph.spec.nodes.length

theorem Follows.congr {waiting : List String} (h : Follows graph waiting s)
    (hpending : s'.pending = s.pending) (hstates : s'.states = s.states)
    (htransitions : s'.transitions = s.transitions) (hloops : s'.loops = s.loops) :
    Follows graph waiting s' := by
  rcases h with ⟨hnone, hknown, hiff, hsound, hqueued, hentries, hcount⟩
  rw [← hpending, ← hstates] at hiff
  rw [← hpending] at hknown hqueued hentries hcount
  rw [← hstates] at hsound
  rw [← htransitions] at hcount
  exact ⟨hloops.trans hnone, hknown, hiff, hsound, hqueued, hentries, hcount⟩

theorem Follows.skip {node : String} {rest : List String} (h : Follows graph (node :: rest) s)
    (hpending : ¬ node ∈ s.pending) : Follows graph rest s :=
  { h with
    queued := fun id hmem => h.queued id (List.mem_cons_of_mem node hmem)
    entries := by
      intro id hentry
      rcases h.entries id hentry with hmem | hdone
      · rcases List.mem_cons.mp hmem with rfl | hmem
        · exact Or.inr hpending
        · exact Or.inl hmem
      · exact Or.inr hdone }

theorem mem_erase_iff {set : ExtTreeSet String} {key other : String} :
    other ∈ set.erase key <-> other ≠ key ∧ other ∈ set := by
  rw [ExtTreeSet.mem_erase]
  apply and_congr_left
  intro _
  constructor
  · intro hcompare heq
    exact hcompare (heq ▸ ReflCmp.compare_self)
  · intro hne hcompare
    exact hne (LawfulEqOrd.eq_of_compare hcompare).symm

theorem Follows.drive {node : String} {rest : List String} (h : Follows graph (node :: rest) s)
    (hpending : node ∈ s.pending) (hto : DrivenTo node .succeeded s s') :
    Follows graph rest s' := by
  have hstates : forall id, id ∈ succeededIn s'.states <-> id = node ∨ id ∈ succeededIn s.states := by
    intro id
    show s'.states[id]? = some .succeeded <-> id = node ∨ s.states[id]? = some .succeeded
    rw [hto.states]
    rcases Decidable.em (node = id) with rfl | hne
    · simp
    · rw [OrderedMap.getElem?_insert_of_ne hne]
      exact (or_iff_right (Ne.symm hne)).symm
  have hpendings : forall id, id ∈ s'.pending <-> id ≠ node ∧ id ∈ s.pending := by
    intro id
    rw [hto.pending]
    exact mem_erase_iff
  constructor
  · exact hto.loops.trans h.loops
  · exact fun id hid => h.known id ((hpendings id).mp hid).right
  · intro id
    rw [hstates, h.states, hpendings]
    rcases Decidable.em (id = node) with rfl | hne
    · simp [h.known id hpending]
    · simp [hne]
  · intro id hid
    rcases (hstates id).mp hid with rfl | hold
    · exact h.queued id List.mem_cons_self hpending
    · exact h.sound id hold
  · exact fun id hmem hid => h.queued id (List.mem_cons_of_mem node hmem) ((hpendings id).mp hid).right
  · intro id hentry
    rcases h.entries id hentry with hmem | hdone
    · rcases List.mem_cons.mp hmem with rfl | hmem
      · exact Or.inr fun hid => ((hpendings id).mp hid).left rfl
      · exact Or.inl hmem
    · exact Or.inr fun hid => hdone ((hpendings id).mp hid).right
  · have hsize : s'.pending.size + 1 <= s.pending.size := by
      rw [hto.pending]
      exact size_erase_lt (ExtTreeSet.contains_iff_mem.mpr hpending)
    have hcount := h.transitions
    rw [hto.transitions, List.length_append]
    simp only [List.length_cons, List.length_nil]
    omega

theorem follows_drain (hsucceed : AllSucceed fixtures) {limit : Nat} {waiting : List String}
    (hlimit : 3 * graph.spec.nodes.length <= limit) (h : Follows graph waiting s)
    (hrunning : s.status = .running)
    (hdrain : drain graph fixtures services simulationId limit waiting s = .ok s') :
    Follows graph [] s' ∧ s'.status = .running := by
  induction waiting generalizing s with
  | nil =>
      cases hdrain
      exact ⟨⟨h.loops, h.known, h.states, h.sound, h.queued, h.entries, h.transitions⟩, hrunning⟩
  | cons node rest ih =>
      unfold drain at hdrain
      cases hpending : s.pending.contains node with
      | false =>
          rw [hpending, if_neg Bool.false_ne_true] at hdrain
          refine ih (h.skip fun hmem => ?_) hrunning hdrain
          rw [ExtTreeSet.contains_iff_mem.mpr hmem] at hpending
          cases hpending
      | true =>
          rw [hpending, if_pos rfl] at hdrain
          rcases bind_ok hdrain with ⟨driven, hdrive, hdrain⟩
          rcases drive_eq_ok hdrive with ⟨hto, hstatus, _⟩
          rw [hsucceed.outcomeOf node] at hto
          have hgoes : driven.status = .running :=
            (hstatus (hsucceed.outcomeOf node)).trans hrunning
          have hfollows := h.drive (ExtTreeSet.contains_iff_mem.mp hpending) hto
          rw [if_neg (not_not_intro hgoes)] at hdrain
          rcases limitTransitions_cases graph limit driven with ⟨hsame, _⟩ | ⟨_, _, _, hover⟩
          · dsimp only at hdrain
            rw [hsame, if_neg (not_not_intro hgoes)] at hdrain
            exact ih hfollows hgoes hdrain
          · have hcount := hfollows.transitions
            omega

def Closed (graph : ExecutionGraph) (s : SimulationState) : Prop :=
  forall id, id ∈ s.pending -> ¬ SimulatorReleases graph (succeededIn s.states) id

theorem discover_literal (hliteral : LiteralConditions graph) (nodes found : List String) :
    discover graph fixtures s nodes found =
      (found ++ nodes.filter fun id => decide (readiness graph s.states fixtures id = .ready), s) := by
  induction nodes generalizing found with
  | nil => simp [discover]
  | cons node rest ih =>
      unfold discover
      rcases @readiness_literal graph fixtures s.states hliteral node with
        ⟨hready, _⟩ | ⟨hwaits, _⟩
      · rw [hready]
        dsimp only
        rw [ih, List.filter_cons, hready]
        simp
      · rw [hwaits]
        dsimp only
        rw [ih, List.filter_cons, hwaits]
        simp

theorem iterate_without_loops (hloops : s.loops = []) :
    (iterate graph s).status ≠ .running ∧ (iterate graph s).pending = s.pending ∧
      (iterate graph s).queue = s.queue ∧ (iterate graph s).states = s.states ∧
      (iterate graph s).transitions = s.transitions ∧ (iterate graph s).loops = [] := by
  unfold iterate
  rw [hloops]
  dsimp only [List.findIdx?_nil, List.map_nil]
  split
  · exact ⟨nofun, rfl, rfl, rfl, rfl, rfl⟩
  · exact ⟨nofun, rfl, rfl, rfl, rfl, rfl⟩

/-- What a simulation is like between its turns, and at its end. -/
structure FollowsOn (graph : ExecutionGraph) (s : SimulationState) : Prop where
  follows : Follows graph s.queue s
  closed : s.status ≠ .running -> Closed graph s

theorem followsOn_turn (hliteral : LiteralConditions graph) (hsucceed : AllSucceed fixtures)
    {limit : Nat} (hlimit : 3 * graph.spec.nodes.length <= limit) (h : FollowsOn graph s)
    (hrunning : s.status = .running)
    (hturn : turn graph fixtures services simulationId limit s = .ok s') : FollowsOn graph s' := by
  unfold turn at hturn
  rcases bind_ok hturn with ⟨drained, hdrain, hturn⟩
  rcases follows_drain hsucceed hlimit h.follows hrunning hdrain with ⟨hfollows, hgoes⟩
  have hqueue := (drains_of_drain hdrain).queue hgoes
  rw [if_neg (not_not_intro hgoes), discover_literal hliteral] at hturn
  dsimp only at hturn
  rw [if_neg (not_not_intro hgoes), List.nil_append] at hturn
  have hready : forall id, id ∈ drained.pending.toList.filter (fun id =>
      decide (readiness graph drained.states fixtures id = .ready)) <->
        id ∈ drained.pending ∧ readiness graph drained.states fixtures id = .ready := by
    intro id
    rw [List.mem_filter, ExtTreeSet.mem_toList, decide_eq_true_eq]
  cases hfound : drained.pending.toList.filter fun id =>
      decide (readiness graph drained.states fixtures id = .ready) with
  | nil =>
      -- Nothing is ready: the simulation ends, and nothing that is pending is released.
      rw [hfound] at hturn hready
      cases hturn
      rcases @iterate_without_loops graph drained hfollows.loops with
        ⟨_, hpending, hstill, hstates, htransitions, hloops⟩
      constructor
      · rw [hstill, hqueue]
        exact hfollows.congr hpending hstates htransitions (hloops.trans hfollows.loops.symm)
      · intro _ id hid hreleased
        rw [hpending] at hid
        rw [hstates] at hreleased
        rcases hreleased with hentry | hpassed
        · rcases hfollows.entries id hentry with hmem | hdone
          · cases hmem
          · exact hdone hid
        · rcases @readiness_literal graph fixtures drained.states hliteral id with
            ⟨hgo, _⟩ | ⟨_, hfails⟩
          · exact List.not_mem_nil ((hready id).mpr ⟨hid, hgo⟩)
          · exact hfails hpassed
  | cons first rest =>
      rw [hfound] at hturn hready
      cases hturn
      refine ⟨?_, fun hstops => absurd hgoes hstops⟩
      rw [show ({ drained with queue := drained.queue ++ first :: rest } : SimulationState).queue =
        first :: rest by rw [hqueue]; rfl]
      have hstill : Follows graph [] { drained with queue := drained.queue ++ first :: rest } :=
        hfollows.congr rfl rfl rfl rfl
      refine { hstill with queued := ?_, entries := ?_ }
      · intro id hmem _
        rcases (hready id).mp hmem with ⟨hid, hgo⟩
        rcases @readiness_literal graph fixtures drained.states hliteral id with
          ⟨_, hpassed⟩ | ⟨hwaits, _⟩
        · exact @mem_lfp_of_released _ (simulatorRule graph) _ hfollows.sound id
            ⟨hfollows.known id hid, Or.inr hpassed⟩
        · rw [hwaits] at hgo
          cases hgo
      · intro id hentry
        exact (hfollows.entries id hentry).imp (fun hnone => absurd hnone List.not_mem_nil)
          fun hdone => hdone

theorem estimated_of_acyclic {source : String} (hclean : Clean graph source)
    (hacyclic : IsAcyclic graph) : estimated graph = 3 * graph.spec.nodes.length := by
  unfold estimated
  rw [controlledLoops_of_acyclic hclean hacyclic]
  exact Nat.mul_comm _ _

end Following

section Simulated

variable {version : GraphVersion} {fixtures : SimulationFixtures} {services : SimulationServices}
  {simulationId : OpaqueId} {event : NewEvent} {s : SimulationState} {source : String}

theorem started_status (hclean : Clean version.graph source) (hacyclic : IsAcyclic version.graph) :
    (started version event).status = .running <->
      3 * version.graph.spec.nodes.length <= maxSimulationTransitions := by
  unfold started
  dsimp only
  rw [controlledLoops_of_acyclic hclean hacyclic, estimated_of_acyclic hclean hacyclic]
  split
  · rename_i hover
    exact iff_of_false nofun (by simpa using hover)
  · rename_i hfits
    exact iff_of_true rfl (by simpa using hfits)

theorem started_fields (version : GraphVersion) (event : NewEvent) :
    (started version event).pending =
        ExtTreeSet.ofList (version.graph.spec.nodes.map Prod.fst) ∧
      (started version event).queue = version.graph.spec.entrypoints ∧
      (started version event).states = ∅ ∧ (started version event).transitions = [] := by
  unfold started
  dsimp only
  split
  · exact ⟨rfl, rfl, rfl, rfl⟩
  · exact ⟨rfl, rfl, rfl, rfl⟩

theorem follows_started (hclean : Clean version.graph source) (hacyclic : IsAcyclic version.graph) :
    Follows version.graph (started version event).queue (started version event) := by
  rcases started_fields version event with ⟨hpending, hqueue, hstates, htransitions⟩
  have hmem : forall id, id ∈ (started version event).pending <-> id ∈ nodeIds version.graph := by
    intro id
    rw [hpending, ExtTreeSet.mem_ofList, List.contains_iff_mem]
    rfl
  have hnone : forall id, ¬ id ∈ succeededIn (started version event).states := by
    intro id
    show ¬ (started version event).states[id]? = some .succeeded
    rw [hstates, ExtTreeMap.getElem?_empty]
    exact nofun
  constructor
  · exact (started_loops version event).trans (controlledLoops_of_acyclic hclean hacyclic)
  · exact fun id hid => (hmem id).mp hid
  · exact fun id => iff_of_false (hnone id) fun h => h.right ((hmem id).mpr h.left)
  · exact fun id hid => absurd hid (hnone id)
  · intro id hid hpend
    rw [hqueue] at hid
    exact @mem_lfp_of_released _ (simulatorRule version.graph) ∅ (Set.empty_subset _) id
      ⟨(hmem id).mp hpend, Or.inl hid⟩
  · intro id hentry
    rw [hqueue]
    exact Or.inl hentry
  · rw [htransitions, hpending]
    have hsize : (ExtTreeSet.ofList (version.graph.spec.nodes.map Prod.fst)).size <=
        (version.graph.spec.nodes.map Prod.fst).length := ExtTreeSet.size_ofList_le
    rw [List.length_map] at hsize
    simp only [List.length_nil]
    omega

/-- A simulation that is not blocked from the start drives what its rule releases. -/
theorem succeeded_of_simulated (hclean : Clean version.graph source)
    (hacyclic : IsAcyclic version.graph) (hliteral : LiteralConditions version.graph)
    (hsucceed : AllSucceed fixtures)
    (hfits : 3 * version.graph.spec.nodes.length <= maxSimulationTransitions)
    (h : simulated version fixtures services simulationId event = .ok s) :
    succeededIn s.states = simulatedNodes version.graph := by
  have hlimit : 3 * version.graph.spec.nodes.length <= transitionLimit version := by
    unfold transitionLimit
    rw [estimated_of_acyclic hclean hacyclic]
    exact Nat.le_min.mpr ⟨Nat.le_refl _, hfits⟩
  have hopen : FollowsOn version.graph (started version event) :=
    { follows := follows_started hclean hacyclic
      closed := fun hstops => absurd ((started_status hclean hacyclic).mpr hfits) hstops }
  rcases simulated_rule hopen (fun hon hrunning hturn =>
    followsOn_turn hliteral hsucceed hlimit hon hrunning hturn) h with ⟨hon, hstops⟩
  apply eq_lfp_of_closed
  · exact hon.follows.sound
  · rintro id ⟨hid, hreleased⟩
    rw [hon.follows.states]
    exact ⟨hid, fun hpending => hon.closed hstops id hpending hreleased⟩

theorem none_succeeded_of_blocked (hclean : Clean version.graph source)
    (hacyclic : IsAcyclic version.graph)
    (hover : maxSimulationTransitions < 3 * version.graph.spec.nodes.length)
    (h : simulated version fixtures services simulationId event = .ok s) :
    succeededIn s.states = ∅ := by
  have hblocked : (started version event).status ≠ .running := by
    intro hrunning
    exact Nat.not_le.mpr hover ((started_status hclean hacyclic).mp hrunning)
  have hopen : (started version event).status ≠ .running ∧
      succeededIn (started version event).states = ∅ := by
    constructor
    · exact hblocked
    · apply Set.eq_empty_of_forall_notMem
      intro id
      show ¬ (started version event).states[id]? = some .succeeded
      rw [(started_fields version event).right.right.left, ExtTreeMap.getElem?_empty]
      exact nofun
  have hstays : forall {s s' : SimulationState},
      s.status ≠ .running ∧ succeededIn s.states = ∅ -> s.status = .running ->
        turn version.graph fixtures services simulationId (transitionLimit version) s = .ok s' ->
          s'.status ≠ .running ∧ succeededIn s'.states = ∅ :=
    fun hon hrunning _ => absurd hrunning hon.left
  exact (simulated_rule hopen hstays h).left.right

end Simulated

end Simulation
end Externalize
end GraphHelm
