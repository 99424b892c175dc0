import GraphHelm.Externalize.Collecting
import GraphHelm.Externalize.Topology
import GraphHelm.Library.Positions

/-!
# Where the content of a graph stands

The positions of content in an authored graph, stated without a collector: what
stands at them, and the graph with something else in its place. The collector is
then shown to register exactly what stands there.
-/

namespace GraphHelm
namespace Externalize

open Positions

abbrev ContentPositions := Positions Json SlotPosition Json

def ContentFieldKind.isPath : ContentFieldKind -> Bool
  | .contextPath => true
  | .permissionPath => true
  | .isolationPath => true
  | _ => false

/-!
## Inside a value
-/

def pathContent (nodeId : String) (fieldKind : ContentFieldKind) (ordinal : Nat -> Nat) :
    ContentPositions :=
  array (listed fun index =>
    here { ownerKind := .node, ownerId := nodeId, fieldKind, ordinal := ordinal index })

def expressionContent (ownerKind : ContentOwnerKind) (ownerId : String) (base : Nat) :
    ContentPositions :=
  array (listed fun index => object (field "expression"
    (here { ownerKind, ownerId, fieldKind := .completionContract, ordinal := base + index })))

/-- The expressions of both groups of a completion; `forbids` is numbered after `requires`. -/
def completionGroups (ownerKind : ContentOwnerKind) (ownerId : String) (base : Nat) :
    Positions (List (String × Json)) SlotPosition Json :=
  both (field "requires" (expressionContent ownerKind ownerId 0))
    (field "forbids" (expressionContent ownerKind ownerId base))
    (field_apart (by decide) _ _)

theorem asArray_array_put {p : Nat -> ContentPositions} (f : SlotPosition -> Json -> Json)
    (value : Json) :
    ((array (listed p)).put f value).asArray = value.asArray.map ((listed p).put f) := by
  cases value <;> rfl

theorem requirementCount_put (ownerKind : ContentOwnerKind) (ownerId : String) (base : Nat)
    (f : SlotPosition -> Json -> Json) (members : List (String × Json)) :
    requirementCount ((completionGroups ownerKind ownerId base).put f members) =
      requirementCount members := by
  have hforbids : ((completionGroups ownerKind ownerId base).put f members).lookup "requires" =
      (members.lookup "requires").map ((expressionContent ownerKind ownerId 0).put f) := by
    show (alter "forbids" _ (alter "requires" _ members)).lookup "requires" = _
    rw [lookup_alter_of_ne (by decide), lookup_alter]
  unfold requirementCount
  rw [hforbids]
  cases members.lookup "requires" with
  | none => rfl
  | some value =>
      show (Option.map List.length (((expressionContent ownerKind ownerId 0).put f
        value).asArray)).getD 0 = _
      rw [expressionContent, asArray_array_put, Option.map_map]
      cases value with
      | array items =>
          exact overFrom_length _ f 0 items
      | _ => rfl

def completionContent (ownerKind : ContentOwnerKind) (ownerId : String) : ContentPositions :=
  object (shaped requirementCount (completionGroups ownerKind ownerId)
    (requirementCount_put ownerKind ownerId))

def policyTextPosition (graphId : String) (ordinal offset : Nat) : SlotPosition :=
  { ownerKind := .policy, ownerId := graphId, fieldKind := .policyText,
    ordinal := ordinal * 2 + offset }

def constraintContent (graphId : String) (ordinal : Nat) (key : String) : ContentPositions :=
  match key with
  | "ruleText" => here (policyTextPosition graphId ordinal 0)
  | "explanation" => here (policyTextPosition graphId ordinal 1)
  | _ => nowhere

def policyContent (graphId : String) (ordinal : Nat) : ContentPositions :=
  object (field "inlineConstraint" (object (keyed (constraintContent graphId ordinal))))

def ephemeralContent (nodeId : String) (key : String) : ContentPositions :=
  match key with
  | "purpose" =>
      here { ownerKind := .agent, ownerId := nodeId, fieldKind := .purpose, ordinal := 0 }
  | "instructions" =>
      here { ownerKind := .agent, ownerId := nodeId, fieldKind := .instructions, ordinal := 0 }
  | "completionContract" =>
      here { ownerKind := .agent, ownerId := nodeId, fieldKind := .completionContract, ordinal := 0 }
  | _ => nowhere

def agentContent (nodeId : String) : ContentPositions :=
  object (field "ephemeral" (object (keyed (ephemeralContent nodeId))))

theorem isSourceScope_alter (change : Json -> Json) (members : List (String × Json)) :
    isSourceScope (alter "paths" change members) = isSourceScope members := by
  unfold isSourceScope
  rw [lookup_alter_of_ne (by decide)]

def scopePaths (nodeId : String) (index : Nat) (isScope : Bool) :
    Positions (List (String × Json)) SlotPosition Json :=
  if isScope then field "paths" (pathContent nodeId .contextPath fun path => index * 64 + path)
  else nowhere

theorem isSourceScope_put (nodeId : String) (index : Nat) (isScope : Bool)
    (f : SlotPosition -> Json -> Json) (members : List (String × Json)) :
    isSourceScope ((scopePaths nodeId index isScope).put f members) = isSourceScope members := by
  cases isScope with
  | true => exact isSourceScope_alter _ members
  | false => rfl

def includeContent (nodeId : String) (index : Nat) : ContentPositions :=
  object (shaped isSourceScope (scopePaths nodeId index) (isSourceScope_put nodeId index))

def contextContent (nodeId : String) : ContentPositions :=
  object (field "include" (array (listed (includeContent nodeId))))

def permissionContent (nodeId : String) (index : Nat) : ContentPositions :=
  object (field "scope" (object (field "paths"
    (pathContent nodeId .permissionPath fun path => index * 64 + path))))

def permissionsContent (nodeId : String) : ContentPositions :=
  array (listed (permissionContent nodeId))

def isolationContent (nodeId : String) : ContentPositions :=
  object (field "filesystem" (object (field "writablePaths"
    (pathContent nodeId .isolationPath id))))

/-!
## Inside a graph
-/

def nodeContent (nodeId : String) (key : String) : ContentPositions :=
  match key with
  | "description" =>
      here { ownerKind := .node, ownerId := nodeId, fieldKind := .description, ordinal := 0 }
  | "completion" => completionContent .node nodeId
  | "agent" => agentContent nodeId
  | "prompt" =>
      here { ownerKind := .node, ownerId := nodeId, fieldKind := .instructions, ordinal := 0 }
  | "context" => contextContent nodeId
  | "permissions" => permissionsContent nodeId
  | "isolation" => isolationContent nodeId
  | _ => nowhere

def metadataContent (graphId : String) (key : String) : ContentPositions :=
  match key with
  | "description" =>
      here { ownerKind := .graph, ownerId := graphId, fieldKind := .description, ordinal := 0 }
  | _ => nowhere

def nodeEntries (entry : String × GraphNode) : List (SlotPosition × Json) :=
  ({ ownerKind := .node, ownerId := entry.1, fieldKind := .displayName, ordinal := 0 },
    .string entry.2.name) ::
  ({ ownerKind := .node, ownerId := entry.1, fieldKind := .objective, ordinal := 0 },
    .string entry.2.objective) ::
  (keyed (nodeContent entry.1)).entries entry.2.properties

def edgePosition (edgeId : String) (ordinal : Nat) : SlotPosition :=
  { ownerKind := .edge, ownerId := edgeId, fieldKind := .policyText, ordinal }

def edgeEntries (edge : GraphEdge) : List (SlotPosition × Json) :=
  (edge.condition.map fun value => (edgePosition edge.id 0, value)).toList ++
    (edge.onFalse.map fun value => (edgePosition edge.id 1, value)).toList

def authoredContent (graph : ExecutionGraph) : List (SlotPosition × Json) :=
  ({ ownerKind := .graph, ownerId := graph.metadata.id, fieldKind := .displayName, ordinal := 0 },
    .string graph.metadata.name) ::
  (keyed (metadataContent graph.metadata.id)).entries graph.metadata.properties ++
  (completionContent .graph graph.metadata.id).entries graph.spec.completion ++
  (listed (policyContent graph.metadata.id)).entries graph.spec.policies ++
  graph.spec.nodes.flatMap nodeEntries ++
  graph.spec.edges.flatMap edgeEntries

def maskedNode (f : SlotPosition -> Json -> Json) (entry : String × GraphNode) :
    String × GraphNode :=
  (entry.1, { entry.2 with
    name := ""
    objective := ""
    properties := (keyed (nodeContent entry.1)).put f entry.2.properties })

def maskedEdge (f : SlotPosition -> Json -> Json) (edge : GraphEdge) : GraphEdge :=
  { edge with
    condition := edge.condition.map (f (edgePosition edge.id 0))
    onFalse := edge.onFalse.map (f (edgePosition edge.id 1)) }

def masked (f : SlotPosition -> Json -> Json) (graph : ExecutionGraph) : ExecutionGraph :=
  { metadata := { graph.metadata with
      name := ""
      properties := (keyed (metadataContent graph.metadata.id)).put f graph.metadata.properties }
    spec := { graph.spec with
      completion := (completionContent .graph graph.metadata.id).put f graph.spec.completion
      policies := (listed (policyContent graph.metadata.id)).put f graph.spec.policies
      nodes := graph.spec.nodes.map (maskedNode f)
      edges := graph.spec.edges.map (maskedEdge f) } }

/-- The graph with all its content left out. -/
def redacted (graph : ExecutionGraph) : ExecutionGraph :=
  masked (fun _ _ => .null) graph

/-!
## What masking keeps and changes
-/

theorem nodeEntries_maskedNode (f : SlotPosition -> Json -> Json) (entry : String × GraphNode) :
    (nodeEntries (maskedNode f entry)).map Prod.fst = (nodeEntries entry).map Prod.fst := by
  have h := (keyed (nodeContent entry.1)).names_put f entry.2.properties
  exact congrArg (fun names => _ :: _ :: names) h

theorem edgeEntries_maskedEdge (f : SlotPosition -> Json -> Json) (edge : GraphEdge) :
    (edgeEntries (maskedEdge f edge)).map Prod.fst = (edgeEntries edge).map Prod.fst := by
  rcases edge with ⟨_, _, _, _, _, _ | _, _ | _, _, _, _⟩ <;> rfl

theorem positions_masked (f : SlotPosition -> Json -> Json) (graph : ExecutionGraph) :
    (authoredContent (masked f graph)).map Prod.fst = (authoredContent graph).map Prod.fst := by
  have hnodes : ((graph.spec.nodes.map (maskedNode f)).flatMap nodeEntries).map Prod.fst =
      (graph.spec.nodes.flatMap nodeEntries).map Prod.fst := by
    rw [List.flatMap_map, List.map_flatMap, List.map_flatMap]
    simp only [nodeEntries_maskedNode]
  have hedges : ((graph.spec.edges.map (maskedEdge f)).flatMap edgeEntries).map Prod.fst =
      (graph.spec.edges.flatMap edgeEntries).map Prod.fst := by
    rw [List.flatMap_map, List.map_flatMap, List.map_flatMap]
    simp only [edgeEntries_maskedEdge]
  simp only [authoredContent, masked, List.map_append, List.map_cons, Positions.names_put, hnodes,
    hedges]

theorem masked_masked (f g : SlotPosition -> Json -> Json) (graph : ExecutionGraph) :
    masked f (masked g graph) = masked (fun i value => f i (g i value)) graph := by
  have hnode : (maskedNode f) ∘ (maskedNode g) = maskedNode fun i value => f i (g i value) := by
    funext entry
    simp only [Function.comp_apply, maskedNode, Positions.put_put]
  have hedge : (maskedEdge f) ∘ (maskedEdge g) = maskedEdge fun i value => f i (g i value) := by
    funext edge
    simp only [Function.comp_apply, maskedEdge, Option.map_map, Function.comp_def]
  simp only [masked, Positions.put_put, List.map_map, hnode, hedge]

theorem masked_congr {f g : SlotPosition -> Json -> Json} {graph : ExecutionGraph}
    (h : forall e, e ∈ authoredContent graph -> f e.1 e.2 = g e.1 e.2) :
    masked f graph = masked g graph := by
  simp only [authoredContent, List.mem_append, List.mem_cons, List.mem_flatMap] at h
  have hmetadata := (keyed (metadataContent graph.metadata.id)).put_congr f g
    graph.metadata.properties fun e he => h e (Or.inl (Or.inl (Or.inl (Or.inl (Or.inr he)))))
  have hcompletion := (completionContent .graph graph.metadata.id).put_congr f g
    graph.spec.completion fun e he => h e (Or.inl (Or.inl (Or.inl (Or.inr he))))
  have hpolicies := (listed (policyContent graph.metadata.id)).put_congr f g
    graph.spec.policies fun e he => h e (Or.inl (Or.inl (Or.inr he)))
  have hnodes : graph.spec.nodes.map (maskedNode f) = graph.spec.nodes.map (maskedNode g) := by
    apply List.map_congr_left
    intro entry hentry
    have hproperties := (keyed (nodeContent entry.1)).put_congr f g entry.2.properties
      fun e he => h e (Or.inl (Or.inr ⟨entry, hentry, by simp [nodeEntries, he]⟩))
    simp only [maskedNode, hproperties]
  have hedges : graph.spec.edges.map (maskedEdge f) = graph.spec.edges.map (maskedEdge g) := by
    apply List.map_congr_left
    intro edge hedge
    have hcondition : edge.condition.map (f (edgePosition edge.id 0)) =
        edge.condition.map (g (edgePosition edge.id 0)) := by
      apply Option.map_congr
      intro value hvalue
      exact h (edgePosition edge.id 0, value)
        (Or.inr ⟨edge, hedge, List.mem_append_left _ (by simp [hvalue])⟩)
    have honFalse : edge.onFalse.map (f (edgePosition edge.id 1)) =
        edge.onFalse.map (g (edgePosition edge.id 1)) := by
      apply Option.map_congr
      intro value hvalue
      exact h (edgePosition edge.id 1, value)
        (Or.inr ⟨edge, hedge, List.mem_append_right _ (by simp [hvalue])⟩)
    simp only [maskedEdge, hcondition, honFalse]
  simp only [masked, hmetadata, hcompletion, hpolicies, hnodes, hedges]

end Externalize
end GraphHelm
