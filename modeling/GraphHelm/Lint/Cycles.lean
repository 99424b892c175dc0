import GraphHelm.Externalize.Topology
import GraphHelm.Library.Components

/-!
# Cycles

The components of a graph and of a persisted topology, and what the two cycle checks make of
them (`lint/cycle.rs` and `validate_persisted_topology` of `core/graph`).  A component is let
through for one limited node, so a cycle that avoids that node goes unlimited.
-/

namespace GraphHelm
namespace Externalize
namespace Lint

open Std
open Components

/-- `sort_unstable`, of the identifiers of a component. -/
def sorted (component : List String) : List String :=
  component.insertionSort fun a b => a <= b

theorem sorted_perm (component : List String) : (sorted component).Perm component :=
  List.perm_insertionSort _ component

theorem lookup_filter_key {B : Type} {keep : String -> Bool} {entries : List (String × B)}
    {id : String} :
    (entries.filter fun entry => keep entry.1).lookup id =
      if keep id then entries.lookup id else none := by
  induction entries with
  | nil => simp
  | cons entry rest ih =>
      rcases entry with ⟨name, value⟩
      rw [List.filter_cons]
      rcases Decidable.em (id = name) with heq | hne
      · subst heq
        cases hkeep : keep id with
        | true => simp
        | false =>
            rw [hkeep] at ih
            simpa using ih
      · have hkey : (id == name) = false := beq_false_of_ne hne
        cases hkeep : keep name with
        | true => simp [List.lookup_cons, hkey, ih]
        | false => simp [List.lookup_cons, hkey, ih]

/-!
## Authored graphs
-/

section Authored

variable (graph : ExecutionGraph)

def nodeIds : List String := graph.spec.nodes.map Prod.fst

def knownEdges : List GraphEdge :=
  graph.spec.edges.filter fun edge =>
    decide (edge.source ∈ nodeIds graph) && decide (edge.target ∈ nodeIds graph)

def outgoing (node : String) : List String :=
  ((knownEdges graph).filter fun edge => decide (edge.source = node)).map GraphEdge.target

def incoming (node : String) : List String :=
  ((knownEdges graph).filter fun edge => decide (edge.target = node)).map GraphEdge.source

variable {graph}

theorem mem_outgoing {x y : String} :
    y ∈ outgoing graph x <->
      exists edge, edge ∈ knownEdges graph ∧ edge.source = x ∧ edge.target = y := by
  simp [outgoing, and_assoc]

theorem mem_incoming {x y : String} :
    x ∈ incoming graph y <->
      exists edge, edge ∈ knownEdges graph ∧ edge.source = x ∧ edge.target = y := by
  simp only [incoming, List.mem_map, List.mem_filter, decide_eq_true_eq, and_assoc]
  exact exists_congr fun edge => and_congr_right fun _ => and_comm

theorem mem_knownEdges {edge : GraphEdge} :
    edge ∈ knownEdges graph <-> edge ∈ graph.spec.edges ∧ edge.source ∈ nodeIds graph ∧
      edge.target ∈ nodeIds graph := by
  simp [knownEdges]

variable (graph)

def digraph : Components.Digraph String :=
  { nodes := nodeIds graph
    outgoing := outgoing graph
    incoming := incoming graph
    converse := fun {_ _} => mem_outgoing.trans mem_incoming.symm
    source := fun {_ _} h => by
      rcases mem_outgoing.mp h with ⟨edge, hedge, hsource, _⟩
      exact hsource ▸ (mem_knownEdges.mp hedge).right.left
    target := fun {_ _} h => by
      rcases mem_outgoing.mp h with ⟨edge, hedge, _, htarget⟩
      exact htarget ▸ (mem_knownEdges.mp hedge).right.right }

/-- `components` of `lint/cycle.rs`. -/
def components : List (List String) :=
  ((Components.components (digraph graph)).map sorted).insertionSort fun left right =>
    left.headD "" <= right.headD ""

/-- Whether a node has a positive `loop.maxIterations`. -/
def isLimited (id : String) : Bool :=
  ((graph.spec.nodes.lookup id).bind fun node =>
    ((node.property "loop").bind fun value => value.get "maxIterations").bind
      Json.asNatural).any fun limit => decide (0 < limit)

def isCyclic (component : List String) : Bool :=
  decide (1 < component.length) ||
    component.head?.any fun node => graph.spec.edges.any fun edge =>
      decide (edge.source = node) && decide (edge.target = node)

/-- A segment of a JSON pointer. -/
def escape (segment : String) : String :=
  String.ofList (segment.toList.flatMap fun c =>
    if c = '~' then ['~', '0'] else if c = '/' then ['~', '1'] else [c])

def uncontrolledCycle (source : String) (id : String) : Diagnostic :=
  Diagnostic.error "GHG006_UNCONTROLLED_CYCLE"
    "cyclic component requires a positive loop.maxIterations" s!"/spec/nodes/{escape id}/loop" source

/-- `check` of `lint/cycle.rs`. -/
def checkCycles (source : String) : List Diagnostic :=
  (components graph).flatMap fun component =>
    if isCyclic graph component && !component.any (isLimited graph) then
      component.map (uncontrolledCycle source)
    else
      []

def CyclesLimited : Prop :=
  forall cycle, (digraph graph).IsCycle cycle ->
    exists id, id ∈ cycle ∧ isLimited graph id = true

def unlimited : ExecutionGraph :=
  { graph with
    spec :=
      { graph.spec with
        nodes := graph.spec.nodes.filter fun entry => !isLimited graph entry.1 } }

variable {graph}

theorem components_spec : Classes (digraph graph) (components graph) :=
  (components_classes.map_perm sorted_perm).perm (List.perm_insertionSort _ _)

theorem edge_iff {x y : String} :
    (digraph graph).Edge x y <-> x ∈ nodeIds graph ∧ y ∈ nodeIds graph ∧
      exists edge, edge ∈ graph.spec.edges ∧ edge.source = x ∧ edge.target = y := by
  rw [show (digraph graph).Edge x y <-> y ∈ outgoing graph x from Iff.rfl, mem_outgoing]
  constructor
  · rintro ⟨edge, hedge, hsource, htarget⟩
    rcases mem_knownEdges.mp hedge with ⟨hmem, hx, hy⟩
    exact ⟨hsource ▸ hx, htarget ▸ hy, edge, hmem, hsource, htarget⟩
  · rintro ⟨hx, hy, edge, hedge, hsource, htarget⟩
    exact ⟨edge, mem_knownEdges.mpr ⟨hedge, hsource ▸ hx, htarget ▸ hy⟩, hsource, htarget⟩

theorem isCyclic_iff {component : List String} (h : component ∈ components graph) :
    isCyclic graph component = true <->
      1 < component.length ∨ exists v, v ∈ component.head? ∧ (digraph graph).Edge v v := by
  unfold isCyclic
  rw [Bool.or_eq_true, decide_eq_true_eq, Option.any_eq_true]
  apply or_congr Iff.rfl
  apply exists_congr
  intro v
  apply and_congr_right
  intro hv
  have hnode := components_spec.inside component h v (List.mem_of_mem_head? hv)
  rw [edge_iff, List.any_eq_true]
  simp only [Bool.and_eq_true, decide_eq_true_eq]
  constructor
  · exact fun hloop => ⟨hnode, hnode, hloop⟩
  · exact fun hloop => hloop.right.right

theorem checkCycles_eq_nil {source : String} :
    checkCycles graph source = [] <->
      forall component, component ∈ components graph -> isCyclic graph component = true ->
        exists id, id ∈ component ∧ isLimited graph id = true := by
  unfold checkCycles
  rw [List.flatMap_eq_nil_iff]
  apply forall_congr'
  intro component
  apply forall_congr'
  intro hcomponent
  have hnonempty := components_spec.nonempty component hcomponent
  cases hcyclic : isCyclic graph component with
  | false => simp
  | true =>
      cases hlimited : component.any (isLimited graph) with
      | false =>
          have hnone : ¬ exists id, id ∈ component ∧ isLimited graph id = true := by
            rintro ⟨id, hid, hlimit⟩
            exact List.any_eq_false.mp hlimited id hid hlimit
          simp [hnone, hnonempty]
      | true =>
          have hsome := List.any_eq_true.mp hlimited
          simpa using hsome

theorem mem_nodeIds_unlimited {id : String} :
    id ∈ nodeIds (unlimited graph) <-> id ∈ nodeIds graph ∧ isLimited graph id = false := by
  simp only [nodeIds, unlimited, List.mem_map, List.mem_filter]
  constructor
  · rintro ⟨entry, ⟨hentry, hlimit⟩, heq⟩
    rw [heq] at hlimit
    exact And.intro ⟨entry, hentry, heq⟩ (by simpa using hlimit)
  · rintro ⟨⟨entry, hentry, heq⟩, hlimit⟩
    exact ⟨entry, And.intro hentry (by rw [heq, hlimit]; rfl), heq⟩

theorem isLimited_unlimited (id : String) : isLimited (unlimited graph) id = false := by
  have hnodes : (unlimited graph).spec.nodes.lookup id =
      if !isLimited graph id then graph.spec.nodes.lookup id else none :=
    @lookup_filter_key _ (fun id => !isLimited graph id) _ _
  cases hlimit : isLimited graph id with
  | false =>
      have hsame : isLimited (unlimited graph) id = isLimited graph id := by
        unfold isLimited
        rw [hnodes, hlimit]
        rfl
      rw [hsame, hlimit]
  | true =>
      unfold isLimited
      rw [hnodes, hlimit]
      rfl

theorem edge_unlimited {x y : String} :
    (digraph (unlimited graph)).Edge x y <->
      (digraph graph).Edge x y ∧ isLimited graph x = false ∧ isLimited graph y = false := by
  rw [edge_iff, edge_iff, mem_nodeIds_unlimited, mem_nodeIds_unlimited]
  constructor
  · rintro ⟨⟨hx, hfreex⟩, ⟨hy, hfreey⟩, hlisted⟩
    exact ⟨⟨hx, hy, hlisted⟩, hfreex, hfreey⟩
  · rintro ⟨⟨hx, hy, hlisted⟩, hfreex, hfreey⟩
    exact ⟨⟨hx, hfreex⟩, ⟨hy, hfreey⟩, hlisted⟩

theorem checkCycles_unlimited {source : String} :
    checkCycles (unlimited graph) source = [] <->
      forall component, component ∈ components (unlimited graph) ->
        ¬ (1 < component.length ∨
          exists v, v ∈ component.head? ∧ (digraph (unlimited graph)).Edge v v) := by
  rw [checkCycles_eq_nil]
  apply forall_congr'
  intro component
  apply forall_congr'
  intro hcomponent
  rw [isCyclic_iff hcomponent]
  apply imp_congr Iff.rfl
  simp [isLimited_unlimited]

end Authored

/-!
## Persisted topologies
-/

structure ValidatedTopology where
  topology : PersistedTopology
  distinct : (topology.edges.map PersistedEdge.id).Nodup
  endpoints : forall edge, edge ∈ topology.edges ->
    edge.source.text ∈ topology.nodes ∧ edge.target.text ∈ topology.nodes

def validateEdgeIdentityAndEndpoints (topology : PersistedTopology) : Option ValidatedTopology :=
  if h : (topology.edges.map PersistedEdge.id).Nodup ∧
      forall edge, edge ∈ topology.edges ->
        edge.source.text ∈ topology.nodes ∧ edge.target.text ∈ topology.nodes then
    some { topology := topology, distinct := h.left, endpoints := h.right }
  else
    none

namespace ValidatedTopology

section Persisted

variable (validated : ValidatedTopology)

def nodeIds : List String := validated.topology.nodes.keys

def outgoing (node : String) : List String :=
  sorted ((validated.topology.edges.filter fun edge => decide (edge.source.text = node)).map
    fun edge => edge.target.text)

def incoming (node : String) : List String :=
  sorted ((validated.topology.edges.filter fun edge => decide (edge.target.text = node)).map
    fun edge => edge.source.text)

variable {validated}

theorem mem_outgoing {x y : String} :
    y ∈ validated.outgoing x <->
      exists edge, edge ∈ validated.topology.edges ∧ edge.source.text = x ∧
        edge.target.text = y := by
  rw [outgoing, (sorted_perm _).mem_iff]
  simp [and_assoc]

theorem mem_incoming {x y : String} :
    x ∈ validated.incoming y <->
      exists edge, edge ∈ validated.topology.edges ∧ edge.source.text = x ∧
        edge.target.text = y := by
  rw [incoming, (sorted_perm _).mem_iff]
  simp only [List.mem_map, List.mem_filter, decide_eq_true_eq, and_assoc]
  exact exists_congr fun edge => and_congr_right fun _ => and_comm

theorem mem_nodeIds {id : String} : id ∈ validated.nodeIds <-> id ∈ validated.topology.nodes :=
  ExtTreeMap.mem_keys

variable (validated)

def digraph : Components.Digraph String :=
  { nodes := validated.nodeIds
    outgoing := validated.outgoing
    incoming := validated.incoming
    converse := fun {_ _} => mem_outgoing.trans mem_incoming.symm
    source := fun {_ _} h => by
      rcases mem_outgoing.mp h with ⟨edge, hedge, hsource, _⟩
      exact mem_nodeIds.mpr (hsource ▸ (validated.endpoints edge hedge).left)
    target := fun {_ _} h => by
      rcases mem_outgoing.mp h with ⟨edge, hedge, _, htarget⟩
      exact mem_nodeIds.mpr (htarget ▸ (validated.endpoints edge hedge).right) }

def persistedComponents : List (List String) :=
  (Components.components validated.digraph).map sorted

/-- Whether a node has a loop control with a positive `maxIterations`. -/
def isLimited (id : String) : Bool :=
  (validated.topology.nodes[id]?).any fun node =>
    node.controls.any fun control =>
      decide (control.controlType = "node_loop") &&
        (control.integers["maxIterations"]?).any fun limit => decide (0 < limit)

def isCyclic (component : List String) : Bool :=
  decide (1 < component.length) ||
    component.head?.any fun start => decide (start ∈ validated.outgoing start)

def cyclesAccepted : Bool :=
  validated.persistedComponents.all fun component =>
    !validated.isCyclic component || component.any validated.isLimited

/-- Every cycle of the topology passes through a limited node. -/
def CyclesLimited : Prop :=
  forall cycle, validated.digraph.IsCycle cycle ->
    exists id, id ∈ cycle ∧ validated.isLimited id = true

def unlimited : ValidatedTopology :=
  { topology :=
      { validated.topology with
        nodes := validated.topology.nodes.filter fun id _ => !validated.isLimited id
        edges := validated.topology.edges.filter fun edge =>
          !validated.isLimited edge.source.text && !validated.isLimited edge.target.text }
    distinct := validated.distinct.sublist (List.filter_sublist.map _)
    endpoints := by
      intro edge hedge
      rcases List.mem_filter.mp hedge with ⟨hmem, hfree⟩
      rw [Bool.and_eq_true] at hfree
      rcases validated.endpoints edge hmem with ⟨hsource, htarget⟩
      exact And.intro (ExtTreeMap.mem_filter.mpr ⟨hsource, by simpa using hfree.left⟩)
        (ExtTreeMap.mem_filter.mpr ⟨htarget, by simpa using hfree.right⟩) }

variable {validated}

theorem persistedComponents_spec : Classes validated.digraph validated.persistedComponents :=
  components_classes.map_perm sorted_perm

theorem edge_iff {x y : String} :
    validated.digraph.Edge x y <->
      exists edge, edge ∈ validated.topology.edges ∧ edge.source.text = x ∧
        edge.target.text = y :=
  mem_outgoing

theorem isCyclic_iff {component : List String} :
    validated.isCyclic component = true <->
      1 < component.length ∨ exists v, v ∈ component.head? ∧ validated.digraph.Edge v v := by
  unfold isCyclic
  rw [Bool.or_eq_true, decide_eq_true_eq, Option.any_eq_true]
  simp only [decide_eq_true_eq]
  exact Iff.rfl

theorem cyclesAccepted_iff :
    validated.cyclesAccepted = true <->
      forall component, component ∈ validated.persistedComponents ->
        validated.isCyclic component = true ->
          exists id, id ∈ component ∧ validated.isLimited id = true := by
  unfold cyclesAccepted
  rw [List.all_eq_true]
  apply forall_congr'
  intro component
  apply forall_congr'
  intro _
  cases hcyclic : validated.isCyclic component with
  | false => simp
  | true => simp

theorem isLimited_unlimited (id : String) : validated.unlimited.isLimited id = false := by
  have hnodes : validated.unlimited.topology.nodes[id]? =
      (validated.topology.nodes[id]?).filter fun _ => !validated.isLimited id :=
    ExtTreeMap.getElem?_filter'
  unfold isLimited
  rw [hnodes]
  cases hlimit : validated.isLimited id with
  | true => simp
  | false =>
      unfold isLimited at hlimit
      simpa using hlimit

theorem edge_unlimited {x y : String} :
    validated.unlimited.digraph.Edge x y <->
      validated.digraph.Edge x y ∧ validated.isLimited x = false ∧
        validated.isLimited y = false := by
  rw [edge_iff, edge_iff]
  constructor
  · rintro ⟨edge, hedge, hsource, htarget⟩
    rcases List.mem_filter.mp hedge with ⟨hmem, hfree⟩
    rw [hsource, htarget] at hfree
    exact ⟨⟨edge, hmem, hsource, htarget⟩, by simpa using hfree⟩
  · rintro ⟨⟨edge, hmem, hsource, htarget⟩, hfreex, hfreey⟩
    refine ⟨edge, List.mem_filter.mpr ⟨hmem, ?_⟩, hsource, htarget⟩
    rw [hsource, htarget, hfreex, hfreey]
    rfl

theorem cyclesAccepted_unlimited :
    validated.unlimited.cyclesAccepted = true <->
      forall component, component ∈ validated.unlimited.persistedComponents ->
        ¬ (1 < component.length ∨
          exists v, v ∈ component.head? ∧ validated.unlimited.digraph.Edge v v) := by
  rw [cyclesAccepted_iff]
  apply forall_congr'
  intro component
  apply forall_congr'
  intro _
  rw [isCyclic_iff]
  apply imp_congr Iff.rfl
  simp [isLimited_unlimited]

end Persisted

end ValidatedTopology

namespace Sample

def looping (limit : Option Nat) : GraphNode :=
  { nodeType := .agent
    name := "Work"
    objective := "Work"
    optionality := .optional
    properties := limit.toList.map fun limit =>
      ("loop", .object [("maxIterations", .number (.integer (.ofNat limit)))]) }

def leading (source target : String) : GraphEdge :=
  { id := source ++ target
    source := source
    target := target
    edgeType := .control
    payloadSchema := none
    condition := none
    onFalse := none
    onUnknown := none
    bindings := []
    priority := none }

def unbudgeted : GraphBudgets :=
  { maxNodes := none
    maxDepth := none
    maxMutations := none
    maxRetriesPerNode := none
    maxWallClockSeconds := none
    maxApiCostUsd := none
    maxParallelModelCalls := none }

/-- Two cycles that share a node; the first has a limited node of its own. -/
def sharing : ExecutionGraph :=
  { metadata :=
      { id := "graph", name := "Graph", executionId := "execution", version := 1, labels := []
        properties := [] }
    spec :=
      { entrypoints := ["a"]
        nodes := [("a", looping (some 3)), ("b", looping none), ("c", looping none),
          ("d", looping none)]
        edges := [leading "a" "b", leading "b" "a", leading "b" "c", leading "c" "b",
          leading "b" "d"]
        budgets := unbudgeted
        policies := []
        completion := .object [("terminalNodes", .array [.string "d"])] } }

def control (controlType : String) (integers : ExtTreeMap String Int) : PersistedControl :=
  { controlType := controlType
    identifiers := ∅
    digests := ∅
    integers := integers
    flags := ∅ }

def persistedLooping (limit : Option Int) : PersistedNode :=
  { nodeType := .agent
    optionality := .optional
    controls := limit.toList.map fun limit =>
      control "node_loop" ((∅ : ExtTreeMap String Int).insert "maxIterations" limit)
    contentSlotIds := []
    timeoutSeconds := none
    customs := none }

def persistedLeading (source target : String) : PersistedEdge :=
  { id := GraphHelm.Sample.id (source ++ target)
    source := GraphHelm.Sample.id source
    target := GraphHelm.Sample.id target
    edgeType := .control
    priority := none
    bindings := ∅
    condition := none }

def persistedSharing : PersistedTopology :=
  { graphId := GraphHelm.Sample.id "graph"
    executionId := GraphHelm.Sample.id "execution"
    labels := ∅
    entrypoints := [GraphHelm.Sample.id "a"]
    nodes := ExtTreeMap.ofList
      [("a", persistedLooping (some 3)), ("b", persistedLooping none),
        ("c", persistedLooping none), ("d", persistedLooping none)]
    edges := [persistedLeading "a" "b", persistedLeading "b" "a", persistedLeading "b" "c",
      persistedLeading "c" "b", persistedLeading "b" "d"]
    budgets := unbudgeted
    policies := []
    completion :=
      { control "graph_completion" ∅ with
        identifiers := (∅ : ExtTreeMap String String).insert "terminal.000" "d" } }

def validatedSharing : ValidatedTopology :=
  { topology := persistedSharing
    distinct := by decide +kernel
    endpoints := by
      have hnodes : persistedSharing.edges.all (fun edge =>
          persistedSharing.nodes.contains edge.source.text &&
            persistedSharing.nodes.contains edge.target.text) = true := by decide +kernel
      intro edge hedge
      have hedge := List.all_eq_true.mp hnodes edge hedge
      rw [Bool.and_eq_true] at hedge
      exact And.intro (ExtTreeMap.contains_iff_mem.mp hedge.left)
        (ExtTreeMap.contains_iff_mem.mp hedge.right) }

end Sample

end Lint
end Externalize
end GraphHelm
