import GraphHelm.Governor.Drafts
import GraphHelm.Execution.Dispatch

/-!
# Authored graphs and their safe projection

What the externalizer reads and what it writes: an authored graph with all its
content, and the persisted topology, controls and content slots that stand for
it (`core/protocols`: `graph.rs`, `projection.rs`, `persistence.rs`). A map of the
source is the list of its entries in the order of their keys, each key once; the
maps of a persisted value are looked up and are maps here too.
-/

namespace GraphHelm
namespace Externalize

open Std

/-!
## Authored graphs
-/

structure GraphMetadata where
  id : String
  name : String
  executionId : String
  version : Nat
  labels : List (String × String)
  properties : List (String × Json)

structure GraphNode where
  nodeType : NodeType
  name : String
  objective : String
  optionality : Optionality
  properties : List (String × Json)

/-- `GraphNode::properties.get`. -/
def GraphNode.property (node : GraphNode) (key : String) : Option Json :=
  node.properties.lookup key

inductive UnknownConditionBehavior where
  | pause
  | fail
  | skip
  | route
deriving DecidableEq

/-- The text a behaviour is serialized as. -/
def UnknownConditionBehavior.asStr : UnknownConditionBehavior -> String
  | .pause => "pause"
  | .fail => "fail"
  | .skip => "skip"
  | .route => "route"

structure GraphEdge where
  id : String
  source : String
  target : String
  edgeType : EdgeType
  payloadSchema : Option String
  condition : Option Json
  onFalse : Option Json
  onUnknown : Option UnknownConditionBehavior
  bindings : List (String × String)
  priority : Option Int

structure GraphBudgets where
  maxNodes : Option Nat
  maxDepth : Option Nat
  maxMutations : Option Nat
  maxRetriesPerNode : Option Nat
  maxWallClockSeconds : Option Nat
  maxApiCostUsd : Option Rat
  maxParallelModelCalls : Option Nat

structure GraphSpec where
  entrypoints : List String
  nodes : List (String × GraphNode)
  edges : List GraphEdge
  budgets : GraphBudgets
  policies : List Json
  completion : Json

structure ExecutionGraph where
  metadata : GraphMetadata
  spec : GraphSpec

/-!
## Content slots
-/

inductive ContentOwnerKind where
  | graph
  | node
  | agent
  | edge
  | policy
  | diagnostic
deriving DecidableEq

namespace ContentOwnerKind

/-- The place of a kind among its siblings. -/
def rank : ContentOwnerKind -> Nat
  | .graph => 0
  | .node => 1
  | .agent => 2
  | .edge => 3
  | .policy => 4
  | .diagnostic => 5

def asStr : ContentOwnerKind -> String
  | .graph => "graph"
  | .node => "node"
  | .agent => "agent"
  | .edge => "edge"
  | .policy => "policy"
  | .diagnostic => "diagnostic"

end ContentOwnerKind

inductive ContentFieldKind where
  | displayName
  | description
  | objective
  | purpose
  | instructions
  | completionContract
  | policyText
  | diagnosticDetail
  | contextPath
  | permissionPath
  | isolationPath
deriving DecidableEq

namespace ContentFieldKind

def rank : ContentFieldKind -> Nat
  | .displayName => 0
  | .description => 1
  | .objective => 2
  | .purpose => 3
  | .instructions => 4
  | .completionContract => 5
  | .policyText => 6
  | .diagnosticDetail => 7
  | .contextPath => 8
  | .permissionPath => 9
  | .isolationPath => 10

def asStr : ContentFieldKind -> String
  | .displayName => "display_name"
  | .description => "description"
  | .objective => "objective"
  | .purpose => "purpose"
  | .instructions => "instructions"
  | .completionContract => "completion_contract"
  | .policyText => "policy_text"
  | .diagnosticDetail => "diagnostic_detail"
  | .contextPath => "context_path"
  | .permissionPath => "permission_path"
  | .isolationPath => "isolation_path"

end ContentFieldKind

/-- Where a piece of content stands in a graph. -/
structure SlotPosition where
  ownerKind : ContentOwnerKind
  ownerId : String
  fieldKind : ContentFieldKind
  ordinal : Nat
deriving DecidableEq

structure ContentSlotProfile where
  sensitivity : Sensitivity
  requiredForExecution : Bool
deriving DecidableEq

/-- A slot; the identifier of its owner has been parsed as an opaque one. -/
structure ContentSlot where
  slotId : OpaqueId
  position : SlotPosition
  evidenceId : EvidenceId
  contentSha256 : RawSha256
  sensitivity : Sensitivity
  requiredForExecution : Bool
deriving DecidableEq

/-!
## Persisted topologies
-/

structure PersistedControl where
  controlType : String
  identifiers : ExtTreeMap String String
  digests : ExtTreeMap String RawSha256
  integers : ExtTreeMap String Int
  flags : ExtTreeMap String Bool

structure PersistedCustoms where
  waitWithinSeconds : Nat
  clearanceWithinSeconds : Nat
  dlqWithinSeconds : Option Nat
deriving DecidableEq

structure PersistedNode where
  nodeType : NodeType
  optionality : Optionality
  controls : List PersistedControl
  contentSlotIds : List OpaqueId
  timeoutSeconds : Option Nat
  customs : Option PersistedCustoms

structure PersistedEdge where
  id : OpaqueId
  source : OpaqueId
  target : OpaqueId
  edgeType : EdgeType
  priority : Option Int
  bindings : ExtTreeMap String String
  condition : Option PersistedControl

structure PersistedTopology where
  graphId : OpaqueId
  executionId : OpaqueId
  labels : ExtTreeMap String String
  entrypoints : List OpaqueId
  nodes : ExtTreeMap String PersistedNode
  edges : List PersistedEdge
  budgets : GraphBudgets
  policies : List PersistedControl
  completion : PersistedControl

/-!
## Safe texts
-/

def forbiddenSafeKeyFragments : List String :=
  ["instruction", "prompt", "objective", "purpose", "output", "log", "credential", "environment",
    "message", "path", "source", "secret", "token", "password", "apikey", "privatekey",
    "rawtoolresult", "description", "displayname", "completioncontract", "policytext",
    "diagnosticdetail", "content", "response", "comment", "example", "title", "prose", "note"]

def isAsciiAlpha (c : Char) : Bool :=
  ('a' <= c && c <= 'z') || ('A' <= c && c <= 'Z')

def isAsciiDigit (c : Char) : Bool :=
  '0' <= c && c <= '9'

def isAsciiAlphanumeric (c : Char) : Bool :=
  isAsciiAlpha c || isAsciiDigit c

def isSeparator (c : Char) : Bool :=
  c = '.' || c = '_' || c = '-'

def containsText (text fragment : List Char) : Bool :=
  text.tails.any fragment.isPrefixOf

def isSafeKey (value : String) : Bool :=
  match value.toList with
  | [] => false
  | first :: rest =>
      let normalized := ((first :: rest).filter fun c => !isSeparator c).map Char.toLower
      decide (value.utf8ByteSize <= 64) && isAsciiAlpha first &&
        rest.all (fun c => isAsciiAlphanumeric c || isSeparator c) &&
        !forbiddenSafeKeyFragments.any fun fragment => containsText normalized fragment.toList

def isSafeValue (value : String) : Bool :=
  match value.toList with
  | [] => false
  | first :: rest =>
      decide (value.utf8ByteSize <= 128) && isAsciiAlphanumeric first &&
        rest.all fun c => isAsciiAlphanumeric c || isSeparator c || c = ':'

def isValidIsolationTier (value : String) : Bool :=
  decide (value ∈ ["tier_0", "tier_1", "tier_2", "tier_3"])

def persistedNodeControlOrder (controlType : String) : Option Nat :=
  [("agent_configuration", 0), ("agent_context_strategy", 1), ("agent_evidence_requirements", 2),
   ("agent_memory_policy", 3), ("agent_model_requirements", 4), ("node_agents", 5),
   ("node_delegation", 6), ("input_contract", 10), ("output_contract", 11), ("node_model", 20),
   ("node_context", 21), ("node_permissions", 22), ("node_isolation", 23), ("node_retry", 24),
   ("node_resources", 25), ("node_memory", 26), ("node_completion", 27), ("node_common", 28),
   ("node_loop", 29), ("tool_configuration", 30), ("classifier_configuration", 30),
   ("gate_configuration", 30), ("fork_configuration", 30), ("join_configuration", 30),
   ("human_decision", 30), ("subgraph_configuration", 30), ("materializer_configuration", 30),
   ("deploy_configuration", 30), ("rollback_configuration", 30),
   ("node_configuration", 31)].lookup controlType

/-!
## What the externalizer takes from outside
-/

/--
The digests and serializers the projection is built with, and the checks of
persisted values that look at nothing but the value.
-/
structure Surroundings where
  /-- `hex::encode` of the SHA-256 digest. -/
  rawContentSha256 : List UInt8 -> RawSha256
  /-- `serde_json::to_vec`. -/
  jsonText : Json -> List UInt8
  /-- `preflight_json_structure`. -/
  structureWithinLimits : Json -> Bool
  /-- `encode_persisted_reference`. -/
  encodePersistedReference : String -> Option String
  /-- `parse_persisted_binding`. -/
  parsePersistedBinding : String -> Option String
  /-- `parse_persisted_nominal_identifier`. -/
  parseNominalIdentifier : String -> Option String
  /-- `validate_context_include_reference`, of a type and a reference. -/
  contextIncludeReferenceValid : String -> String -> Bool
  /-- `validate_persisted_control_references`. -/
  controlReferencesValid : PersistedControl -> Bool
  /-- `compile_inline_schema`. -/
  compileInlineSchema : Json -> Except GovernorError Unit
  /-- `validate_durable_content`, of a structural schema. -/
  validateDurableContent : Json -> Except GovernorError Unit
  /-- What the deserializer makes of a `customs` block. -/
  readCustoms : Json -> Option PersistedCustoms

end Externalize
end GraphHelm
