import GraphHelm.Externalize.Disclosure
import GraphHelm.Externalize.Retries
import GraphHelm.Library.Condensation
import GraphHelm.Lint.Cycles

/-!
# Budgets

The depth of a graph and of a persisted topology, and the two checks of the budgets
(`lint/budget.rs` and `validate_persisted_budgets` of `core/graph`).  On a topology that was
built from a graph both find the same components, the same depth and the same excess.
-/

namespace GraphHelm
namespace Externalize
namespace Lint

open Std
open Components

/-!
## The components by node
-/

def componentByNode (components : List (List String)) : ExtTreeMap String Nat :=
  components.zipIdx.foldl
    (fun places entry => entry.1.foldl (fun places node => places.insert node entry.2) places) ∅

def placeIn (components : List (List String)) (node : String) : Option Nat :=
  (componentByNode components)[node]?

theorem getElem?_foldl_place {nodes : List String} {index : Nat} {places : ExtTreeMap String Nat}
    {node : String} :
    (nodes.foldl (fun places node => places.insert node index) places)[node]? =
      if node ∈ nodes then some index else places[node]? := by
  induction nodes generalizing places with
  | nil => simp
  | cons first rest ih =>
      rw [List.foldl_cons, ih]
      rcases Decidable.em (first = node) with heq | hne
      · subst heq
        simp
      · rw [OrderedMap.getElem?_insert_of_ne hne]
        simp [Ne.symm hne]

theorem getElem?_foldl_places {components : List (List String)} {start : Nat}
    {places : ExtTreeMap String Nat} (hnodup : components.flatten.Nodup) {node : String} {i : Nat} :
    ((components.zipIdx start).foldl
        (fun places entry => entry.1.foldl (fun places node => places.insert node entry.2) places)
        places)[node]? = some i <->
      (exists component, (component, i) ∈ components.zipIdx start ∧ node ∈ component) ∨
        (node ∉ components.flatten ∧ places[node]? = some i) := by
  induction components generalizing start places with
  | nil => simp
  | cons component rest ih =>
      rw [List.flatten_cons, List.nodup_append] at hnodup
      rcases hnodup with ⟨_, hrest, hapart⟩
      rw [List.zipIdx_cons, List.foldl_cons, ih hrest, getElem?_foldl_place]
      constructor
      · rintro (⟨other, hother, hmem⟩ | ⟨hout, hplace⟩)
        · exact Or.inl ⟨other, List.mem_cons_of_mem _ hother, hmem⟩
        · split at hplace
          · rename_i hmem
            cases hplace
            exact Or.inl ⟨component, List.mem_cons_self, hmem⟩
          · rename_i hmem
            refine Or.inr (And.intro ?_ hplace)
            rw [List.flatten_cons, List.mem_append, not_or]
            exact And.intro hmem hout
      · rintro (⟨other, hother, hmem⟩ | ⟨hout, hplace⟩)
        · rcases List.mem_cons.mp hother with heq | hother
          · cases heq
            refine Or.inr (And.intro ?_ (if_pos hmem))
            exact fun hlater => hapart node hmem node hlater rfl
          · exact Or.inl ⟨other, hother, hmem⟩
        · rw [List.flatten_cons, List.mem_append, not_or] at hout
          exact Or.inr (And.intro hout.right (by rw [if_neg hout.left]; exact hplace))

theorem placeIn_places {components : List (List String)} (hnodup : components.flatten.Nodup) :
    Places components (placeIn components) := by
  intro node i
  rw [placeIn, componentByNode, getElem?_foldl_places hnodup]
  simp only [List.mem_zipIdx_iff_getElem?, ExtTreeMap.getElem?_empty, reduceCtorEq, and_false,
    or_false]

/-!
## Depths
-/

def drainedDepths (components : List (List String)) (edges : List (String × String))
    (least : Nat) : Depths.Drain :=
  Depths.drained (condensation components (placeIn components) edges)
    (condense (placeIn components) edges).indegree least

/-- The components in the order they leave the queue. -/
def takenComponents (components : List (List String)) (edges : List (String × String))
    (least : Nat) : List Nat :=
  Depths.taken (condensation components (placeIn components) edges)
    (condense (placeIn components) edges).indegree least

section Authored

variable (graph : ExecutionGraph)

def edgePairs : List (String × String) :=
  graph.spec.edges.map fun edge => (edge.source, edge.target)

/-- The maximum before the queue is drained. -/
def leastDepth : Nat := if graph.spec.nodes.isEmpty then 0 else 1

def longestAcyclicDepth : Nat :=
  (drainedDepths (components graph) (edgePairs graph) (leastDepth graph)).maximum

def nodeBudgetExceeded (source : String) : Diagnostic :=
  Diagnostic.error "GHG011_NODE_BUDGET_EXCEEDED" "graph node count exceeds maxNodes"
    "/spec/budgets/maxNodes" source

def depthBudgetExceeded (source : String) : Diagnostic :=
  Diagnostic.error "GHG012_DEPTH_BUDGET_EXCEEDED" "graph depth exceeds maxDepth"
    "/spec/budgets/maxDepth" source

def retryBudgetExceeded (source : String) (id : String) : Diagnostic :=
  Diagnostic.error "GHG013_RETRY_BUDGET_EXCEEDED" "node attempts exceed the graph retry budget"
    s!"/spec/nodes/{escape id}/retry/maxAttempts" source

/-- `retries + 1`, which a release build wraps. -/
def attemptLimit (retries : Nat) : Nat := (retries + 1) % 2 ^ 64

/-- `check` of `lint/budget.rs`. -/
def checkBudgets (source : String) : List Diagnostic :=
  let budgets := graph.spec.budgets
  (if budgets.maxNodes.any fun limit => decide (limit < graph.spec.nodes.length) then
    [nodeBudgetExceeded source]
  else
    []) ++
  (if budgets.maxDepth.any fun limit => decide (limit < longestAcyclicDepth graph) then
    [depthBudgetExceeded source]
  else
    []) ++
  match budgets.maxRetriesPerNode with
  | some retries =>
      (graph.spec.nodes.filter fun entry =>
        entry.2.maxAttempts.any fun attempts => decide (attemptLimit retries < attempts)).map
        fun entry => retryBudgetExceeded source entry.1
  | none => []

end Authored

namespace ValidatedTopology

variable (validated : ValidatedTopology)

def edgePairs : List (String × String) :=
  validated.topology.edges.map fun edge => (edge.source.text, edge.target.text)

def leastDepth : Nat := if validated.persistedComponents.isEmpty then 0 else 1

def persistedDepth : Option Nat :=
  let components := validated.persistedComponents
  if validated.edgePairs.all fun edge =>
      (placeIn components edge.1).isSome && (placeIn components edge.2).isSome then
    some (drainedDepths components validated.edgePairs validated.leastDepth).maximum
  else
    none

def validatePersistedBudgets : Bool :=
  let budgets := validated.topology.budgets
  (budgets.maxNodes.all fun limit => decide (validated.topology.nodes.size <= limit)) &&
    (budgets.maxDepth.all fun limit =>
      validated.persistedDepth.any fun depth => decide (depth <= limit)) &&
    budgets.maxRetriesPerNode.all fun retries =>
      decide (retries + 1 < 2 ^ 64) &&
        validated.topology.nodes.toList.all fun entry =>
          (persistedAttempts entry.2.controls).all fun attempts =>
            decide (0 <= attempts) && decide (attempts <= ((retries + 1 : Nat) : Int))

end ValidatedTopology

/-!
## The depth is that of the condensation
-/

theorem drained_longest {g : Components.Digraph String} {parts : List (List String)}
    (h : Classes g parts) {edges : List (String × String)} {least : Nat}
    (hedges : forall x y, x ∈ g.nodes -> y ∈ g.nodes -> (g.Edge x y <-> (x, y) ∈ edges))
    (hleast : least = if parts.length = 0 then 0 else 1) :
    (takenComponents parts edges least).Perm (List.range parts.length) ∧
      LongestCondensation g parts (drainedDepths parts edges least).maximum := by
  have hinside : forall x, x ∈ parts.flatten -> x ∈ g.nodes := by
    intro x hx
    rcases List.mem_flatten.mp hx with ⟨part, hpart, hmem⟩
    exact h.inside part hpart x hmem
  rcases h.drained_spec (placeIn_places h.nodup)
    (fun x y hx hy => hedges x y (hinside x hx) (hinside y hy)) hleast with ⟨htaken, _, hlongest⟩
  exact And.intro htaken hlongest

theorem Classes.parts_isEmpty {g : Components.Digraph String} {parts : List (List String)}
    (h : Classes g parts) : parts = [] <-> g.nodes = [] := by
  constructor
  · intro hempty
    apply List.eq_nil_iff_forall_not_mem.mpr
    intro v hv
    rcases h.covers v hv with ⟨part, hpart, _⟩
    rw [hempty] at hpart
    cases hpart
  · intro hempty
    apply List.eq_nil_iff_forall_not_mem.mpr
    intro part hpart
    rcases List.exists_mem_of_ne_nil part (h.nonempty part hpart) with ⟨v, hv⟩
    have hnode := h.inside part hpart v hv
    rw [hempty] at hnode
    cases hnode

section Depth

variable {graph : ExecutionGraph}

theorem edge_iff_pair {x y : String} (hx : x ∈ nodeIds graph) (hy : y ∈ nodeIds graph) :
    (digraph graph).Edge x y <-> (x, y) ∈ edgePairs graph := by
  rw [edge_iff, edgePairs, List.mem_map]
  constructor
  · rintro ⟨_, _, edge, hedge, hsource, htarget⟩
    exact ⟨edge, hedge, by rw [hsource, htarget]⟩
  · rintro ⟨edge, hedge, heq⟩
    cases heq
    exact ⟨hx, hy, edge, hedge, rfl, rfl⟩

theorem longestAcyclicDepth_spec :
    (takenComponents (components graph) (edgePairs graph) (leastDepth graph)).Perm
        (List.range (components graph).length) ∧
      LongestCondensation (digraph graph) (components graph) (longestAcyclicDepth graph) := by
  apply drained_longest components_spec fun x y hx hy => edge_iff_pair hx hy
  have hempty : (components graph).length = 0 <-> graph.spec.nodes = [] := by
    rw [List.length_eq_zero_iff, Classes.parts_isEmpty components_spec]
    exact List.map_eq_nil_iff
  unfold leastDepth
  cases hnodes : graph.spec.nodes with
  | nil => rw [if_pos (hempty.mpr hnodes), if_pos List.isEmpty_nil]
  | cons entry rest =>
      rw [if_neg (by simp), if_neg]
      intro hzero
      rw [hempty.mp hzero] at hnodes
      cases hnodes

end Depth

namespace ValidatedTopology

variable {validated : ValidatedTopology}

theorem edge_iff_pair {x y : String} :
    validated.digraph.Edge x y <-> (x, y) ∈ validated.edgePairs := by
  rw [edge_iff, edgePairs, List.mem_map]
  constructor
  · rintro ⟨edge, hedge, hsource, htarget⟩
    exact ⟨edge, hedge, by rw [hsource, htarget]⟩
  · rintro ⟨edge, hedge, heq⟩
    cases heq
    exact ⟨edge, hedge, rfl, rfl⟩

theorem persistedDepth_spec :
    exists depth, validated.persistedDepth = some depth ∧
      LongestCondensation validated.digraph validated.persistedComponents depth := by
  have hclasses := @persistedComponents_spec validated
  have hplaced : forall id, id ∈ validated.nodeIds ->
      (placeIn validated.persistedComponents id).isSome = true := by
    intro id hid
    rcases hclasses.covers id hid with ⟨part, hpart, hmem⟩
    rcases List.mem_iff_getElem?.mp hpart with ⟨i, hi⟩
    rw [(placeIn_places hclasses.nodup id i).mpr ⟨part, hi, hmem⟩]
    rfl
  have hall : (validated.edgePairs.all fun edge =>
      (placeIn validated.persistedComponents edge.1).isSome &&
        (placeIn validated.persistedComponents edge.2).isSome) = true := by
    apply List.all_eq_true.mpr
    intro pair hpair
    have hedge := edge_iff_pair.mpr hpair
    rw [hplaced pair.1 (validated.digraph.source hedge),
      hplaced pair.2 (validated.digraph.target hedge)]
    rfl
  refine ⟨_, if_pos hall, ?_⟩
  refine (drained_longest hclasses (fun x y _ _ => edge_iff_pair) ?_).right
  unfold leastDepth
  simp only [List.isEmpty_iff_length_eq_zero]

end ValidatedTopology

/-!
## Topologies that were built from a graph
-/

structure KeysOnce (graph : ExecutionGraph) : Prop where
  nodes : (nodeIds graph).Nodup
  retries : forall entry, entry ∈ graph.spec.nodes -> forall members,
    entry.2.property "retry" = some (.object members) -> (members.map Prod.fst).Nodup

/-- What the checks read of a topology, in terms of the graph it was built from. -/
structure BuiltFrom (graph : ExecutionGraph) (topology : PersistedTopology)
    (listed : List (String × PersistedNode)) : Prop where
  nodes : topology.nodes = ExtTreeMap.ofList listed
  linked : List.Forall₂
    (fun (entry : String × GraphNode) (built : String × PersistedNode) => built.1 = entry.1 ∧
      persistedAttempts built.2.controls = entry.2.maxAttempts.map Int.ofNat)
    graph.spec.nodes listed
  edges : topology.edges.map (fun edge => (edge.source.text, edge.target.text)) = edgePairs graph
  budgets : topology.budgets = graph.spec.budgets
  retriesBounded : forall retries, retries ∈ graph.spec.budgets.maxRetriesPerNode ->
    retries <= 100000

section Linked

variable {A B : Type} {xs : List A} {ys : List B}

theorem map_eq_of_linked {C : Type} {f : A -> C} {g : B -> C}
    (h : List.Forall₂ (fun a b => g b = f a) xs ys) : ys.map g = xs.map f := by
  induction h with
  | nil => rfl
  | cons hfirst _ ih => rw [List.map_cons, List.map_cons, hfirst, ih]

theorem forall_iff_of_linked {P : A -> Prop} {Q : B -> Prop}
    (h : List.Forall₂ (fun a b => Q b <-> P a) xs ys) :
    (forall b, b ∈ ys -> Q b) <-> forall a, a ∈ xs -> P a := by
  induction h with
  | nil => simp
  | cons hfirst _ ih => rw [List.forall_mem_cons, List.forall_mem_cons, hfirst, ih]

end Linked

section Building

variable {env : Surroundings} {graph : ExecutionGraph} {slots : List ContentSlot}

theorem buildNode_attempts {nodeId : String} {node : GraphNode}
    (hdistinct : forall members, node.property "retry" = some (.object members) ->
      (members.map Prod.fst).Nodup) {built : String × PersistedNode}
    (h : buildNode env slots nodeId node = .ok built) :
    built.1 = nodeId ∧
      persistedAttempts built.2.controls = node.maxAttempts.map Int.ofNat := by
  unfold buildNode at h
  rcases bind_ok h with ⟨id, hid, h⟩
  rcases bind_ok h with ⟨controls, hcontrols, h⟩
  rcases bind_ok h with ⟨_, _, h⟩
  rcases bind_ok h with ⟨_, _, h⟩
  cases h
  exact And.intro (OpaqueId.text_of_parse (orRefuse_eq_ok.mp hid))
    (buildNodeControls_attempts hdistinct hcontrols)

theorem buildEdge_ends {edge : GraphEdge} {built : PersistedEdge}
    (h : buildEdge env slots edge = .ok built) :
    (built.source.text, built.target.text) = (edge.source, edge.target) := by
  unfold buildEdge at h
  rcases bind_ok h with ⟨_, _, h⟩
  rcases bind_ok h with ⟨_, _, h⟩
  rcases bind_ok h with ⟨_, _, h⟩
  rcases bind_ok h with ⟨_, _, h⟩
  rcases bind_ok h with ⟨_, _, h⟩
  rcases bind_ok h with ⟨source, hsource, h⟩
  rcases bind_ok h with ⟨target, htarget, h⟩
  rcases bind_ok h with ⟨_, _, h⟩
  cases h
  rw [OpaqueId.text_of_parse (orRefuse_eq_ok.mp hsource),
    OpaqueId.text_of_parse (orRefuse_eq_ok.mp htarget)]

theorem buildBudgets_eq_ok {budgets built : GraphBudgets}
    (h : buildBudgets budgets = .ok built) :
    built = budgets ∧ forall retries, retries ∈ budgets.maxRetriesPerNode -> retries <= 100000 := by
  unfold buildBudgets at h
  rcases bind_ok h with ⟨_, hchecked, h⟩
  cases h
  refine And.intro rfl ?_
  intro retries hretries
  have hbounds := check_eq_ok.mp hchecked
  simp only [Bool.and_eq_true] at hbounds
  have hbound := hbounds.left.left.left.right
  rw [Option.mem_def] at hretries
  rw [hretries] at hbound
  simpa using hbound

theorem builtFrom {topology : PersistedTopology} (hkeys : KeysOnce graph)
    (h : buildTopology env graph slots = .ok topology) :
    exists listed, BuiltFrom graph topology listed := by
  unfold buildTopology at h
  rcases bind_ok h with ⟨_, _, h⟩
  rcases bind_ok h with ⟨_, _, h⟩
  rcases bind_ok h with ⟨_, _, h⟩
  rcases bind_ok h with ⟨_, _, h⟩
  rcases bind_ok h with ⟨nodes, hnodes, h⟩
  rcases bind_ok h with ⟨edges, hedges, h⟩
  rcases bind_ok h with ⟨budgets, hbudgets, h⟩
  rcases bind_ok h with ⟨_, _, h⟩
  rcases bind_ok h with ⟨_, _, h⟩
  rcases bind_ok h with ⟨_, _, h⟩
  cases h
  rcases buildBudgets_eq_ok hbudgets with ⟨hsame, hbounded⟩
  refine ⟨nodes, ?_⟩
  constructor
  · rfl
  · rcases List.forall₂_iff_get.mp (Except.mapM_eq_ok.mp hnodes) with ⟨hlength, hat⟩
    refine List.forall₂_iff_get.mpr (And.intro hlength ?_)
    intro i hi hi'
    exact buildNode_attempts (hkeys.retries _ (List.get_mem _ _)) (hat i hi hi')
  · have hends : List.Forall₂ (fun (edge : GraphEdge) (built : PersistedEdge) =>
        (built.source.text, built.target.text) = (edge.source, edge.target))
          graph.spec.edges edges :=
      (Except.mapM_eq_ok.mp hedges).imp fun _ _ => buildEdge_ends
    exact map_eq_of_linked hends
  · exact hsame
  · exact hbounded

end Building

section Agreement

variable {graph : ExecutionGraph} {validated : ValidatedTopology}
  {listed : List (String × PersistedNode)}

theorem BuiltFrom.ids (h : BuiltFrom graph validated.topology listed) :
    listed.map Prod.fst = nodeIds graph :=
  map_eq_of_linked (h.linked.imp fun _ _ hentry => hentry.left)

theorem BuiltFrom.distinct (h : BuiltFrom graph validated.topology listed)
    (hkeys : KeysOnce graph) : listed.Pairwise fun a b => ¬ compare a.1 b.1 = .eq := by
  have hnodup := hkeys.nodes
  rw [<- h.ids, List.nodup_iff_pairwise_ne, List.pairwise_map] at hnodup
  exact hnodup.imp fun hne hcompare => hne (LawfulEqOrd.eq_of_compare hcompare)

theorem BuiltFrom.mem_nodeIds (h : BuiltFrom graph validated.topology listed) {id : String} :
    id ∈ validated.nodeIds <-> id ∈ nodeIds graph := by
  rw [ValidatedTopology.mem_nodeIds, h.nodes, ExtTreeMap.mem_ofList, List.contains_iff_mem, h.ids]

theorem BuiltFrom.mem_toList (h : BuiltFrom graph validated.topology listed)
    (hkeys : KeysOnce graph) {entry : String × PersistedNode} :
    entry ∈ validated.topology.nodes.toList <-> entry ∈ listed := by
  have hget : forall {id node}, (id, node) ∈ listed ->
      validated.topology.nodes[id]? = some node := by
    intro id node hmem
    rw [h.nodes]
    exact ExtTreeMap.getElem?_ofList_of_mem ReflOrd.compare_self (h.distinct hkeys) hmem
  rw [ExtTreeMap.mem_toList_iff_getElem?_eq_some]
  constructor
  · intro hfound
    have hid : entry.1 ∈ validated.topology.nodes := by
      rw [<- ExtTreeMap.isSome_getElem?_iff_mem, hfound]
      rfl
    rw [h.nodes, ExtTreeMap.mem_ofList, List.contains_iff_mem] at hid
    rcases List.mem_map.mp hid with ⟨other, hother, heq⟩
    have hsame := hget hother
    rw [heq, hfound] at hsame
    rw [show entry = other from Prod.ext heq.symm (Option.some.inj hsame)]
    exact hother
  · exact hget

theorem BuiltFrom.edge_iff (h : BuiltFrom graph validated.topology listed) {x y : String} :
    (digraph graph).Edge x y <-> validated.digraph.Edge x y := by
  rw [ValidatedTopology.edge_iff_pair, show validated.edgePairs = edgePairs graph from h.edges]
  constructor
  · intro hedge
    exact (edge_iff_pair ((digraph graph).source hedge) ((digraph graph).target hedge)).mp hedge
  · intro hpair
    have hedge : validated.digraph.Edge x y := by
      rw [ValidatedTopology.edge_iff_pair, show validated.edgePairs = edgePairs graph from h.edges]
      exact hpair
    exact (edge_iff_pair (h.mem_nodeIds.mp (validated.digraph.source hedge))
      (h.mem_nodeIds.mp (validated.digraph.target hedge))).mpr hpair

theorem sorted_of_mem {component : List String}
    (h : exists part, component = sorted part) : component.Pairwise fun a b => a <= b := by
  rcases h with ⟨part, heq⟩
  rw [heq]
  exact List.pairwise_insertionSort _ _

theorem BuiltFrom.components_perm (h : BuiltFrom graph validated.topology listed) :
    validated.persistedComponents.Perm (components graph) := by
  apply (@components_spec graph).listed_once validated.persistedComponents_spec
  · intro v
    exact h.mem_nodeIds.symm
  · intro x y
    exact h.edge_iff
  · intro a b ha hb hperm
    have hsorted : a.Pairwise (fun a b => a <= b) ∧ b.Pairwise fun a b => a <= b := by
      constructor
      · unfold components at ha
        rcases List.mem_map.mp ((List.perm_insertionSort _ _).mem_iff.mp ha) with ⟨part, _, heq⟩
        exact sorted_of_mem ⟨part, heq.symm⟩
      · rcases List.mem_map.mp hb with ⟨part, _, heq⟩
        exact sorted_of_mem ⟨part, heq.symm⟩
    exact hperm.eq_of_pairwise (fun _ _ _ _ hle hge => String.le_antisymm hle hge) hsorted.left
      hsorted.right

theorem BuiltFrom.depth_eq (h : BuiltFrom graph validated.topology listed) :
    validated.persistedDepth = some (longestAcyclicDepth graph) := by
  rcases @ValidatedTopology.persistedDepth_spec validated with ⟨depth, hdepth, hlongest⟩
  have hsame : LongestCondensation (digraph graph) (components graph) depth :=
    hlongest.transfer (fun x y => h.edge_iff.symm) fun part => h.components_perm.mem_iff
  rw [hdepth, hsame.unique longestAcyclicDepth_spec.right]

/-- Both find the same excess. -/
theorem BuiltFrom.budgets_iff (h : BuiltFrom graph validated.topology listed)
    (hkeys : KeysOnce graph) {source : String} :
    validated.validatePersistedBudgets = true <-> checkBudgets graph source = [] := by
  have hsize : validated.topology.nodes.size = graph.spec.nodes.length := by
    rw [h.nodes, ExtTreeMap.size_ofList (h.distinct hkeys), h.linked.length_eq]
  unfold ValidatedTopology.validatePersistedBudgets checkBudgets
  simp only [h.budgets, hsize, h.depth_eq, Option.any_some, Bool.and_eq_true,
    List.append_eq_nil_iff]
  apply and_congr
  · apply and_congr
    · cases graph.spec.budgets.maxNodes with
      | none => simp
      | some limit => simp
    · cases graph.spec.budgets.maxDepth with
      | none => simp
      | some limit => simp
  · cases hretries : graph.spec.budgets.maxRetriesPerNode with
    | none => simp
    | some retries =>
        have hbound := h.retriesBounded retries hretries
        have hlimit : attemptLimit retries = retries + 1 := by
          unfold attemptLimit
          omega
        have hroom : retries + 1 < 2 ^ 64 := by omega
        simp only [Option.all_some, hlimit, hroom, decide_true, Bool.true_and,
          List.map_eq_nil_iff, List.filter_eq_nil_iff, List.all_eq_true, h.mem_toList hkeys]
        apply forall_iff_of_linked
        refine h.linked.imp ?_
        rintro entry built ⟨_, hattempts⟩
        rw [hattempts]
        cases entry.2.maxAttempts with
        | none => simp
        | some attempts =>
            simp only [Option.map_some, Option.all_some, Option.any_some, Bool.and_eq_true,
              decide_eq_true_eq, Int.ofNat_eq_natCast]
            omega

end Agreement

/-- The components are the classes of mutual reachability over the edges between nodes, the depth
is the length of a longest path of components, whose queue every component leaves once, and a
topology that was built from the graph has the same components, depth and excess. -/
theorem components_and_depths :
    (forall graph : ExecutionGraph,
        (forall x y, (digraph graph).Edge x y <->
          x ∈ nodeIds graph ∧ y ∈ nodeIds graph ∧
            exists edge, edge ∈ graph.spec.edges ∧ edge.source = x ∧ edge.target = y) ∧
          Classes (digraph graph) (components graph) ∧
          LongestCondensation (digraph graph) (components graph) (longestAcyclicDepth graph) ∧
          (takenComponents (components graph) (edgePairs graph) (leastDepth graph)).Perm
            (List.range (components graph).length)) ∧
      forall (env : Surroundings) (graph : ExecutionGraph) (slots : List ContentSlot)
          (topology : PersistedTopology) (validated : ValidatedTopology),
        KeysOnce graph -> buildTopology env graph slots = .ok topology ->
          validateEdgeIdentityAndEndpoints topology = some validated ->
            validated.persistedComponents.Perm (components graph) ∧
              validated.persistedDepth = some (longestAcyclicDepth graph) ∧
              forall source,
                validated.validatePersistedBudgets = true <-> checkBudgets graph source = [] := by
  constructor
  · intro graph
    exact ⟨fun x y => edge_iff, components_spec, longestAcyclicDepth_spec.right,
      longestAcyclicDepth_spec.left⟩
  · intro env graph slots topology validated hkeys hbuilt hvalid
    rcases builtFrom hkeys hbuilt with ⟨listed, h⟩
    have hsame : validated.topology = topology := by
      unfold validateEdgeIdentityAndEndpoints at hvalid
      split at hvalid
      · cases hvalid
        rfl
      · cases hvalid
    subst hsame
    exact ⟨h.components_perm, h.depth_eq, fun source => h.budgets_iff hkeys⟩

theorem Sample.sharing_keysOnce : KeysOnce Sample.sharing := by
  constructor
  · decide
  · intro entry hentry members hretry
    have hnone : Sample.sharing.spec.nodes.all
        (fun entry => (entry.2.property "retry").isNone) = true := by decide
    have hnone := List.all_eq_true.mp hnone entry hentry
    rw [hretry] at hnone
    cases hnone

/-- The graph whose cycles share a node has two components in a row, and so has its topology. -/
theorem components_and_depths_of_sharing :
    exists topology validated,
      buildTopology sampleSurroundings Sample.sharing [] = .ok topology ∧
        validateEdgeIdentityAndEndpoints topology = some validated ∧
        validated.persistedComponents.Perm (components Sample.sharing) ∧
        validated.persistedDepth = some 2 := by
  have hbuilt : (match buildTopology sampleSurroundings Sample.sharing [] with
      | .ok topology => (validateEdgeIdentityAndEndpoints topology).isSome
      | .error _ => false) = true := by decide +kernel
  cases htopology : buildTopology sampleSurroundings Sample.sharing [] with
  | error e =>
      rw [htopology] at hbuilt
      cases hbuilt
  | ok topology =>
      rw [htopology] at hbuilt
      rcases Option.isSome_iff_exists.mp hbuilt with ⟨validated, hvalid⟩
      rcases components_and_depths.right sampleSurroundings Sample.sharing [] topology validated
        Sample.sharing_keysOnce htopology hvalid with ⟨hcomponents, hdepth, _⟩
      have htwo : longestAcyclicDepth Sample.sharing = 2 := by decide +kernel
      exact ⟨topology, validated, rfl, hvalid, hcomponents, htwo ▸ hdepth⟩

end Lint
end Externalize
end GraphHelm
