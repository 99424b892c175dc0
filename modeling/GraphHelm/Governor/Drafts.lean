import GraphHelm.Library.Json
import GraphHelm.Projection.Fold
import GraphHelm.Store.Batches

/-!
# Graphs, versions and drafts

The authoring side of graph governance: the graphs an execution is planned as,
their published versions, the drafts that ask for a successor version, and what
`core/governor` makes of them without any store (`candidate.rs`,
`externalize.rs` and `core/graph/src/version.rs`).
-/

namespace GraphHelm

open Std

/-!
## Actors
-/

/-- An actor as the authoring side names it; its identifier has not been validated. -/
structure Actor where
  actorType : PersistedActorType
  id : String
deriving DecidableEq

def Actor.isOwner (actor : Actor) : Bool := actor.actorType = .owner

def isActorIdChar (c : Char) : Bool :=
  c.isAlphanum || c = '.' || c = '_' || c = '-'

def isActorId (value : String) : Bool :=
  match value.toList with
  | [] => false
  | first :: rest =>
      first.isAlphanum && rest.all isActorIdChar && decide (value.utf8ByteSize <= 256)

def parseActorId (value : String) : Option ActorId :=
  if isActorId value then some value else none

def isLowerHex (c : Char) : Bool :=
  c.isDigit || (decide ('a' <= c) && decide (c <= 'f'))

/-- `is_wire_hash`: `sha256:` and 64 lowercase hexadecimal digits. -/
def isWireHash (value : String) : Bool :=
  match value.toList with
  | 's' :: 'h' :: 'a' :: '2' :: '5' :: '6' :: ':' :: digits =>
      decide (digits.length = 64) && digits.all isLowerHex
  | _ => false

def parseWireHash (value : String) : Option WireHash :=
  if isWireHash value then some value else none

def fromDatetime (instant : Int) : Option PersistedTimestamp :=
  if minTimestampNanos <= instant && instant <= maxTimestampNanos then some instant else none

theorem fromDatetime_eq_some {instant : Int} {timestamp : PersistedTimestamp}
    (h : fromDatetime instant = some timestamp) : timestamp = instant := by
  unfold fromDatetime at h
  split at h
  · cases h
    rfl
  · cases h

/-!
## Graphs
-/

inductive NodeType where
  | agent
  | tool
  | classifier
  | planner
  | gate
  | evaluator
  | fork
  | join
  | humanDecision
  | timer
  | trigger
  | subgraph
  | materializer
  | deploy
  | rollback
  | artifactTransform
  | deadLetter
deriving DecidableEq

namespace NodeType

def asStr : NodeType -> String
  | .agent => "agent"
  | .tool => "tool"
  | .classifier => "classifier"
  | .planner => "planner"
  | .gate => "gate"
  | .evaluator => "evaluator"
  | .fork => "fork"
  | .join => "join"
  | .humanDecision => "human_decision"
  | .timer => "timer"
  | .trigger => "trigger"
  | .subgraph => "subgraph"
  | .materializer => "materializer"
  | .deploy => "deploy"
  | .rollback => "rollback"
  | .artifactTransform => "artifact_transform"
  | .deadLetter => "dead_letter"

def everyVariant : List NodeType :=
  [.agent, .tool, .classifier, .planner, .gate, .evaluator, .fork, .join, .humanDecision, .timer,
    .trigger, .subgraph, .materializer, .deploy, .rollback, .artifactTransform, .deadLetter]

end NodeType

inductive Optionality where
  | required
  | recommended
  | optional
deriving DecidableEq

namespace Optionality

def asStr : Optionality -> String
  | .required => "required"
  | .recommended => "recommended"
  | .optional => "optional"

def everyVariant : List Optionality := [.required, .recommended, .optional]

end Optionality

/-- A `GraphNode`; every member without a field of its own is among its properties. -/
structure AuthoredNode where
  nodeType : NodeType
  name : String
  objective : String
  optionality : Optionality
  properties : ExtTreeMap String Json
deriving DecidableEq

/-- A `GraphEdge` with the fields that drafts read. -/
structure AuthoredEdge where
  id : String
  «to» : String
  body : LedgerData
deriving DecidableEq

structure GraphMetadata where
  id : String
  executionId : String
  version : Nat
  basedOn : Option String
  body : LedgerData
deriving DecidableEq

structure ExecutionGraph where
  metadata : GraphMetadata
  nodes : ExtTreeMap String AuthoredNode
  edges : List AuthoredEdge
  policies : List Json
  /-- The entrypoints, budgets and completion of the specification. -/
  body : LedgerData
deriving DecidableEq

structure GraphVersionRef where
  number : Nat
  contentHash : String
deriving DecidableEq

structure GraphVersion where
  graph : ExecutionGraph
  predecessor : Option GraphVersionRef
  semantic : LedgerData
  contentHash : String
  createdBy : Actor
  createdAt : Int
deriving DecidableEq

def GraphVersion.number (version : GraphVersion) : Nat := version.graph.metadata.version

/-!
## Drafts
-/

inductive DraftOperation where
  | addNode (id : String) (node : AuthoredNode)
  | removeNode (id : String)
  | patchNode (id : String) (patch : Json)
  | addEdge (edge : AuthoredEdge)
  | removeEdge (id : String)
deriving DecidableEq

structure ManualOverride where
  actor : Actor
  reason : String
  waivedRequirements : List String
  acknowledgedRisks : List String
  scope : WaiverScope
deriving DecidableEq

structure GraphDraft where
  id : String
  expectedVersion : Nat
  expectedHash : Option String
  expectedSafeHash : Option String
  operations : List DraftOperation
  manualOverride : Option ManualOverride
deriving DecidableEq

namespace DraftOperation

def addedNode : DraftOperation -> Option String
  | .addNode id _ => some id
  | _ => none

def isAddNode (operation : DraftOperation) : Bool := operation.addedNode.isSome

end DraftOperation

def GraphDraft.proposedNodes (draft : GraphDraft) : List String :=
  draft.operations.filterMap DraftOperation.addedNode

/-!
## Policy
-/

inductive ObligationStatus where
  | satisfied
  | unsatisfied
  | waived
  | impossible
deriving DecidableEq

structure PolicyObligation where
  requirement : String
  status : ObligationStatus
  evidence : List String
  reason : String
  overrideable : Bool
deriving DecidableEq

structure Diagnostic where
  code : String
  severity : Severity
  message : String
  path : String
  source : String
deriving DecidableEq

def Diagnostic.error (code message path source : String) : Diagnostic :=
  { code := code
    severity := .error
    message := message
    path := path
    source := source }

structure PolicyReport where
  obligations : List PolicyObligation
  diagnostics : List Diagnostic
  resultStatus : String
deriving DecidableEq

/-!
## Errors
-/

inductive GovernorError where
  | invalidAuthoring
  | invalidProjection
  | limitExceeded
  | sealingFailed
deriving DecidableEq

inductive GraphError where
  | invalidVersion
  | invalidPredecessor
  | serialization (message : String)
deriving DecidableEq

/-!
## What the governor takes from outside
-/

/-- What the projection of a graph puts into the version that is persisted of it. -/
structure GraphMaterial where
  semanticHash : WireHash
  nodes : ExtTreeMap String PersistedNode
  contentSlots : List ContentSlot
  body : LedgerData

structure GovernorEnvironment extends StoreEnvironment where
  /-- What the deserializer says of members that are no node. -/
  nodeError : ExtTreeMap String Json -> String
  /-- The errors `lint` finds in a graph, under the given source name. -/
  lint : ExecutionGraph -> String -> List Diagnostic
  rawContentSha256 : List UInt8 -> Option RawSha256
  /-- The JSON bytes of a draft. -/
  draftJson : GraphDraft -> Option (List UInt8)
  /-- `canonicalize` and `semantic_hash`. -/
  canonicalize : ExecutionGraph -> Except GraphError (LedgerData × String)
  preflightPublicationInputs : GraphVersion -> GraphDraft -> Actor -> Except GovernorError Unit
  preflightExecutionGraph : ExecutionGraph -> Option DurableContentError
  validateGraphValue : ExecutionGraph -> Bool
  validateWaiver : PolicyWaiver -> Bool
  /-- The topology, the content and their hashes, for a scope. -/
  graphMaterial : RepositoryScope -> GraphVersion -> Except GovernorError GraphMaterial
  /-- Whether the cause of an outcome names an executor or a reason. -/
  causeNamed : LedgerData -> Bool
  bareCause : causeNamed "" = false

/-!
## Patching a node
-/

def variantName : Json -> Option String
  | .string name => some name
  | .object [(name, .null)] => some name
  | _ => none

def readNodeType (value : Json) : Option NodeType := do
  let name <- variantName value
  NodeType.everyVariant.find? fun nodeType => nodeType.asStr = name

def readOptionality (value : Json) : Option Optionality := do
  let name <- variantName value
  Optionality.everyVariant.find? fun optionality => optionality.asStr = name

def writtenOver (first : ExtTreeMap String Json) (second : List (String × Json)) :
    ExtTreeMap String Json :=
  second.foldl (fun members (key, value) => members.insert key value) first

namespace AuthoredNode

def toMembers (node : AuthoredNode) : ExtTreeMap String Json :=
  writtenOver ∅
    ([("type", .string node.nodeType.asStr), ("name", .string node.name),
        ("objective", .string node.objective),
        ("optionality", .string node.optionality.asStr)] ++
      node.properties.toList)

def fromMembers (members : ExtTreeMap String Json) : Option AuthoredNode := do
  let nodeType <- members["type"]?.bind readNodeType
  let name <- members["name"]?.bind Json.asString
  let objective <- members["objective"]?.bind Json.asString
  let optionality <- members["optionality"]?.bind readOptionality
  some
    { nodeType := nodeType
      name := name
      objective := objective
      optionality := optionality
      properties :=
        (((members.erase "type").erase "name").erase "objective").erase "optionality" }

end AuthoredNode

def patchNode (env : GovernorEnvironment) (node : AuthoredNode) (patch : Json) :
    Except String AuthoredNode := do
  let written <- orRefuse patch.asObject "node patch must be an object"
  let members := writtenOver node.toMembers written
  orRefuse (AuthoredNode.fromMembers members) s!"invalid node patch: {env.nodeError members}"

/-!
## Applying operations
-/

def applyOperation (env : GovernorEnvironment) (graph : ExecutionGraph) :
    DraftOperation -> Except String ExecutionGraph
  | .addNode id node => do
      check (!graph.nodes.contains id) s!"node {id} already exists"
      .ok { graph with nodes := graph.nodes.insert id node }
  | .removeNode id => do
      check (graph.nodes.contains id) s!"node {id} does not exist"
      .ok { graph with nodes := graph.nodes.erase id }
  | .patchNode id patch => do
      let node <- orRefuse graph.nodes[id]? s!"node {id} does not exist"
      let patched <- patchNode env node patch
      .ok { graph with nodes := graph.nodes.insert id patched }
  | .addEdge edge => do
      check (graph.edges.all fun item => item.id != edge.id) s!"edge {edge.id} already exists"
      .ok { graph with edges := graph.edges ++ [edge] }
  | .removeEdge id => do
      let kept := graph.edges.filter fun edge => edge.id != id
      check (decide (kept.length ≠ graph.edges.length)) s!"edge {id} does not exist"
      .ok { graph with edges := kept }

def applyOperations (env : GovernorEnvironment) (graph : ExecutionGraph)
    (operations : List DraftOperation) : Except String ExecutionGraph :=
  operations.foldlM (applyOperation env) graph

/-- `checked_add(1)` on a `u64`. -/
def checkedSuccessor (number : Nat) : Option Nat :=
  if number < u64Max then some (number + 1) else none

def candidateOf (base : GraphVersion) (number : Nat) (graph : ExecutionGraph) :
    ExecutionGraph :=
  { graph with
    metadata :=
      { graph.metadata with
        version := number
        basedOn := some base.graph.metadata.id } }

/-- `authoritative_override`: an override counts when its owner is who applies the draft. -/
def authoritativeOverride (draft : GraphDraft) (actor : Actor) : Option ManualOverride :=
  draft.manualOverride.filter fun request => actor.isOwner && request.actor = actor

/-!
## Versions
-/

def GraphVersion.publish (env : GovernorEnvironment) (graph : ExecutionGraph)
    (predecessor : Option GraphVersionRef) (actor : Actor) (createdAt : Int) :
    Except GraphError GraphVersion := do
  check (decide (graph.metadata.version ≠ 0)) .invalidVersion
  check
    (predecessor.all fun previous =>
      checkedSuccessor previous.number = some graph.metadata.version) .invalidPredecessor
  let (semantic, contentHash) <- env.canonicalize graph
  .ok
    { graph := graph
      predecessor := predecessor
      semantic := semantic
      contentHash := contentHash
      createdBy := actor
      createdAt := createdAt }

variable {env : GovernorEnvironment} {version : GraphVersion}

theorem GraphVersion.publish_eq_ok {graph : ExecutionGraph} {predecessor : Option GraphVersionRef}
    {actor : Actor} {createdAt : Int}
    (h : GraphVersion.publish env graph predecessor actor createdAt = .ok version) :
    version.graph = graph ∧ version.predecessor = predecessor ∧ version.createdBy = actor ∧
      version.createdAt = createdAt := by
  unfold GraphVersion.publish at h
  rcases check_ok h with ⟨_, h⟩
  rcases check_ok h with ⟨_, h⟩
  rcases bind_ok h with ⟨canonical, _, h⟩
  cases h
  exact ⟨rfl, rfl, rfl, rfl⟩

/-- `ProjectionMaterial`. -/
structure ProjectionMaterial where
  number : Nat
  topology : PersistedTopology
  semanticHash : WireHash
  contentSlots : List ContentSlot
  createdBy : PersistedActor
  createdAt : PersistedTimestamp
  body : LedgerData

def prepareProjectionMaterial (env : GovernorEnvironment) (scope : RepositoryScope)
    (version : GraphVersion) : Except GovernorError ProjectionMaterial := do
  check
    (decide (scope.executionId.map OpaqueId.text = some version.graph.metadata.executionId))
    .invalidAuthoring
  let executionId <-
    orRefuse (OpaqueId.parse version.graph.metadata.executionId) .invalidAuthoring
  let material <- env.graphMaterial scope version
  let actorId <- orRefuse (parseActorId version.createdBy.id) .invalidAuthoring
  let createdAt <- orRefuse (fromDatetime version.createdAt) .invalidAuthoring
  .ok
    { number := version.number
      topology := { executionId := executionId, nodes := material.nodes }
      semanticHash := material.semanticHash
      contentSlots := material.contentSlots
      createdBy := { actorType := version.createdBy.actorType, id := actorId }
      createdAt := createdAt
      body := material.body }

def safeSemanticHashFor (env : GovernorEnvironment) (scope : RepositoryScope)
    (version : GraphVersion) : Except GovernorError WireHash := do
  let material <- prepareProjectionMaterial env scope version
  .ok material.semanticHash

def projectionLineageHolds (version : GraphVersion) (predecessor : Option PersistedPredecessor) :
    Bool :=
  match version.predecessor, predecessor with
  | none, none => version.number = 1
  | some authoring, some safe =>
      authoring.number = safe.number && checkedSuccessor safe.number = some version.number
  | _, _ => false

def projectedVersionFor (env : GovernorEnvironment) (scope : RepositoryScope)
    (version : GraphVersion) (predecessor : Option PersistedPredecessor) :
    Except GovernorError PersistedGraphVersion := do
  check (projectionLineageHolds version predecessor) .invalidProjection
  let material <- prepareProjectionMaterial env scope version
  let persisted : PersistedGraphVersion :=
    { number := material.number
      semanticHash := material.semanticHash
      predecessor := predecessor
      createdBy := material.createdBy
      createdAt := material.createdAt
      topology := material.topology
      contentSlots := material.contentSlots
      body := material.body }
  check (env.validatePersistedProjection persisted) .invalidProjection
  .ok persisted

theorem prepareProjectionMaterial_eq_ok {scope : RepositoryScope} {material : ProjectionMaterial}
    (h : prepareProjectionMaterial env scope version = .ok material) :
    material.number = version.number ∧ material.createdAt = version.createdAt ∧
      material.topology.executionId.text = version.graph.metadata.executionId := by
  unfold prepareProjectionMaterial at h
  rcases check_ok h with ⟨_, h⟩
  rcases bind_ok h with ⟨executionId, hparse, h⟩
  rcases bind_ok h with ⟨content, _, h⟩
  rcases bind_ok h with ⟨actorId, _, h⟩
  rcases bind_ok h with ⟨createdAt, hcreated, h⟩
  cases h
  refine ⟨rfl, ?_, ?_⟩
  · exact fromDatetime_eq_some (orRefuse_eq_ok.mp hcreated)
  · exact OpaqueId.text_of_parse (orRefuse_eq_ok.mp hparse)

theorem projectedVersionFor_eq_ok {scope : RepositoryScope}
    {predecessor : Option PersistedPredecessor} {persisted : PersistedGraphVersion}
    (h : projectedVersionFor env scope version predecessor = .ok persisted) :
    persisted.number = version.number ∧ persisted.createdAt = version.createdAt ∧
      persisted.topology.executionId.text = version.graph.metadata.executionId := by
  unfold projectedVersionFor at h
  rcases check_ok h with ⟨_, h⟩
  rcases bind_ok h with ⟨material, hmaterial, h⟩
  rcases check_ok h with ⟨_, h⟩
  cases h
  exact prepareProjectionMaterial_eq_ok hmaterial

/-- `draft_binds`: a draft names its predecessor by exactly one of two hashes. -/
def draftBinds (env : GovernorEnvironment) (scope : RepositoryScope) (base : GraphVersion)
    (draft : GraphDraft) : Except GovernorError Bool :=
  match draft.expectedHash, draft.expectedSafeHash with
  | some content, none => .ok (content = base.contentHash)
  | none, some safe => do
      let published <- safeSemanticHashFor env scope base
      .ok (decide (safe = published))
  | _, _ => .ok false

end GraphHelm
