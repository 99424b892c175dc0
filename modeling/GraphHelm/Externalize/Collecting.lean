import GraphHelm.Externalize.Controls
import Mathlib.Data.List.Sort
import Mathlib.Data.Prod.Lex
import Mathlib.Data.String.Basic

/-!
# Collecting the content of a graph

Every text and every authored value a graph holds is registered under its position
(`ContentCollector` and the `collect_*` functions of
`core/governor/src/externalize.rs`), and the slots are what the positions, never the
values, make them (`derive_content_slot_id` and `derive_content_slot_profile` of
`core/graph/src/persistence.rs`).
-/

namespace GraphHelm
namespace Externalize

variable (env : Surroundings)

/-!
## Slot identities
-/

def positionPart (text : String) : Option (List UInt8) :=
  if (utf8 text).length < 256 ^ 4 then some (framed (utf8 text)) else none

def positionParts : List String -> Option (List UInt8)
  | [] => some []
  | text :: rest => do
      let part <- positionPart text
      let more <- positionParts rest
      some (part ++ more)

def deriveContentSlotId (position : SlotPosition) : Option OpaqueId := do
  let parts <- positionParts ["graphhelm-content-slot-position-v1", position.ownerKind.asStr,
    position.ownerId, position.fieldKind.asStr]
  OpaqueId.parse ("slot-" ++ env.rawContentSha256 (parts ++ bigEndian 4 position.ordinal))

def deriveContentSlotProfile (position : SlotPosition) : Option ContentSlotProfile :=
  let internal : ContentSlotProfile :=
    { sensitivity := .internal, requiredForExecution := false }
  let restricted : ContentSlotProfile :=
    { sensitivity := .restricted, requiredForExecution := true }
  match position.ownerKind, position.fieldKind with
  | .graph, .displayName => if position.ordinal = 0 then some internal else none
  | .graph, .description => if position.ordinal = 0 then some internal else none
  | .node, .displayName => if position.ordinal = 0 then some internal else none
  | .node, .description => if position.ordinal = 0 then some internal else none
  | .node, .objective => if position.ordinal = 0 then some restricted else none
  | .node, .instructions => if position.ordinal = 0 then some restricted else none
  | .agent, .purpose => if position.ordinal = 0 then some restricted else none
  | .agent, .instructions => if position.ordinal = 0 then some restricted else none
  | .agent, .completionContract => if position.ordinal = 0 then some restricted else none
  | .edge, .policyText => if position.ordinal <= 1 then some restricted else none
  | .node, .completionContract => some restricted
  | .policy, .policyText => some restricted
  | .node, .contextPath => some restricted
  | .node, .permissionPath => some restricted
  | .node, .isolationPath => some restricted
  | _, _ => none

/-!
## The collector
-/

def maxContentItems : Nat := 8192

def maxContentItemBytes : Nat := 16 * 1024 * 1024

def maxContentBatchBytes : Nat := 64 * 1024 * 1024

/-- `PendingContent`: a slot and the text that is to be sealed for it. -/
structure PendingContent where
  slot : ContentSlot
  plaintext : List UInt8

structure ContentCollector where
  items : List PendingContent
  totalBytes : Nat

def ContentCollector.fresh : ContentCollector :=
  { items := [], totalBytes := 0 }

def slotAt (position : SlotPosition) (contentSha256 : RawSha256) :
    Except GovernorError ContentSlot := do
  let _ <- orRefuse (OpaqueId.parse position.ownerId) .invalidAuthoring
  let slotId <- orRefuse (deriveContentSlotId env position) .invalidProjection
  let profile <- orRefuse (deriveContentSlotProfile position) .invalidProjection
  let evidenceId <- orRefuse (OpaqueId.parse ("evidence-" ++ slotId.text)) .invalidProjection
  .ok { slotId, position, evidenceId, contentSha256, sensitivity := profile.sensitivity,
        requiredForExecution := profile.requiredForExecution }

/-- `canonical_content_bytes`; the members of an object are in the order of their keys already. -/
def canonicalContentBytes (value : Json) : Option (List UInt8) :=
  if env.structureWithinLimits value then some (env.jsonText value) else none

def register (position : SlotPosition) (value : Json) (collector : ContentCollector) :
    Except GovernorError ContentCollector := do
  check (decide (collector.items.length < maxContentItems)) .limitExceeded
  let encodedLen := (env.jsonText value).length
  check (decide (encodedLen <= maxContentItemBytes)) .limitExceeded
  check (decide (collector.totalBytes + encodedLen <= maxContentBatchBytes)) .limitExceeded
  let bytes <- orRefuse (canonicalContentBytes env value) .invalidProjection
  check (decide (bytes.length = encodedLen)) .invalidProjection
  let slot <- slotAt env position (env.rawContentSha256 bytes)
  .ok { items := collector.items ++ [{ slot, plaintext := bytes }],
        totalBytes := collector.totalBytes + encodedLen }

namespace SlotPosition

def orderKey (position : SlotPosition) : Nat ×ₗ String ×ₗ Nat ×ₗ Nat :=
  toLex (position.ownerKind.rank, toLex (position.ownerId,
    toLex (position.fieldKind.rank, position.ordinal)))

end SlotPosition

def ContentCollector.finish (collector : ContentCollector) :
    Except GovernorError (List PendingContent) := do
  let items := collector.items.insertionSort fun a b =>
    a.slot.position.orderKey <= b.slot.position.orderKey
  check (decide (items.map fun item => item.slot.position).Nodup) .invalidProjection
  .ok items

def contentSlots (items : List PendingContent) : List ContentSlot :=
  items.map PendingContent.slot

/-!
## The content of a completion, a policy and an agent
-/

/-- One item after the other, each with its index. -/
def collectItems {A : Type} (items : List A)
    (step : Nat -> A -> ContentCollector -> Except GovernorError ContentCollector)
    (collector : ContentCollector) : Except GovernorError ContentCollector :=
  items.zipIdx.foldlM (fun collector entry => step entry.2 entry.1 collector) collector

def collectMembers {A : Type} (members : List (String × A))
    (step : String -> A -> ContentCollector -> Except GovernorError ContentCollector)
    (collector : ContentCollector) : Except GovernorError ContentCollector :=
  members.foldlM (fun collector member => step member.1 member.2 collector) collector

def collectExpression (ownerKind : ContentOwnerKind) (ownerId : String) (base index : Nat)
    (item : Json) (collector : ContentCollector) : Except GovernorError ContentCollector :=
  match item.get "expression" with
  | some expression => do
      validateString expression
      let ordinal <- ordinalOf (base + index)
      register env { ownerKind, ownerId, fieldKind := .completionContract, ordinal } expression
        collector
  | none => .ok collector

def collectCompletionGroup (ownerKind : ContentOwnerKind) (ownerId : String) (base : Nat)
    (group : Option Json) (collector : ContentCollector) :
    Except GovernorError ContentCollector :=
  match group with
  | some items => do
      let items <- arrayOf items
      check (decide (items.length <= 64)) .limitExceeded
      collectItems items (collectExpression env ownerKind ownerId base) collector
  | none => .ok collector

def collectCompletionContent (ownerKind : ContentOwnerKind) (ownerId : String) (value : Json)
    (collector : ContentCollector) : Except GovernorError ContentCollector := do
  let members <- objectOf value
  let collector <- collectCompletionGroup env ownerKind ownerId 0 (members.lookup "requires")
    collector
  collectCompletionGroup env ownerKind ownerId (requirementCount members)
    (members.lookup "forbids") collector

def collectPolicyText (graphId : String) (ordinal offset : Nat) (value : Json)
    (collector : ContentCollector) : Except GovernorError ContentCollector := do
  validateString value
  let position <- policyTextOrdinal ordinal offset
  register env
    { ownerKind := .policy, ownerId := graphId, fieldKind := .policyText, ordinal := position }
    value collector

def collectConstraintMember (graphId : String) (ordinal : Nat) (key : String) (value : Json)
    (collector : ContentCollector) : Except GovernorError ContentCollector :=
  match key with
  | "ruleText" => collectPolicyText env graphId ordinal 0 value collector
  | "explanation" => collectPolicyText env graphId ordinal 1 value collector
  | "deny" => .ok collector
  | "reason" => .ok collector
  | "manualOverride" => .ok collector
  | _ => refused

def collectPolicyContent (graphId : String) (ordinal : Nat) (policy : Json)
    (collector : ContentCollector) : Except GovernorError ContentCollector :=
  match policy with
  | .string _ => .ok collector
  | policy => do
      let members <- nonemptyObject policy
      match members.lookup "ref" with
      | some reference => do
          check (decide (members.length = 1)) .invalidAuthoring
          validateString reference
          .ok collector
      | none => do
          check (decide (members.length = 1)) .invalidAuthoring
          let constraint <- orRefuse (members.lookup "inlineConstraint") .invalidAuthoring
          let inline <- nonemptyObject constraint
          check (!isKey inline "manualOverride" || decide (inline.length = 1)) .invalidAuthoring
          collectMembers inline (collectConstraintMember env graphId ordinal) collector

def collectEphemeralMember (nodeId : String) (key : String) (value : Json)
    (collector : ContentCollector) : Except GovernorError ContentCollector :=
  let registered (fieldKind : ContentFieldKind) :=
    register env { ownerKind := .agent, ownerId := nodeId, fieldKind, ordinal := 0 } value collector
  let validated (validation : Except GovernorError Unit) := do
    validation
    .ok collector
  match key with
  | "purpose" => registered .purpose
  | "instructions" => registered .instructions
  | "completionContract" => registered .completionContract
  | "capabilities" => validated (validateStringArray value)
  | "allowedTools" => validated (validateStringArray value)
  | "prohibitedActions" => validated (validateStringArray value)
  | "inputSchema" => validated (validateString value)
  | "outputSchema" => validated (validateString value)
  | "instructionsRef" => validated (validateString value)
  | "isolationMinimum" => validated (validateString value)
  | "modelRequirements" => .ok collector
  | "contextStrategy" => .ok collector
  | "evidenceRequirements" => .ok collector
  | "memoryPolicy" => .ok collector
  | _ => refused

def collectAgentContent (nodeId : String) (value : Json) (collector : ContentCollector) :
    Except GovernorError ContentCollector := do
  let members <- objectOf value
  match members.lookup "ref" with
  | some reference => do
      validateString reference
      check ((members.map Prod.fst).all fun key => key == "ref") .invalidAuthoring
      .ok collector
  | none => do
      let ephemeral <- orRefuse ((members.lookup "ephemeral").bind Json.asObject) .invalidAuthoring
      check ((members.map Prod.fst).all fun key => key == "ephemeral") .invalidAuthoring
      collectMembers ephemeral (collectEphemeralMember env nodeId) collector

/-!
## The paths of a node
-/

def collectPaths (nodeId : String) (fieldKind : ContentFieldKind)
    (ordinal : Nat -> Except GovernorError Nat) (value : Json) (collector : ContentCollector) :
    Except GovernorError ContentCollector := do
  let paths <- registeredPathArray value
  collectItems paths
    (fun index path collector => do
      let ordinal <- ordinal index
      register env { ownerKind := .node, ownerId := nodeId, fieldKind, ordinal } path collector)
    collector

def isSourceScope (members : List (String × Json)) : Bool :=
  (members.lookup "type").bind Json.asString == some "source_scope"

def collectContextInclude (nodeId : String) (index : Nat) (value : Json)
    (collector : ContentCollector) : Except GovernorError ContentCollector := do
  let members <- nonemptyObject value
  if isSourceScope members then do
    let paths <- orRefuse (members.lookup "paths") .invalidAuthoring
    collectPaths env nodeId .contextPath (nestedPathOrdinal index) paths collector
  else do
    check (!isKey members "paths") .invalidAuthoring
    .ok collector

def collectContextPaths (nodeId : String) (value : Json) (collector : ContentCollector) :
    Except GovernorError ContentCollector := do
  let members <- nonemptyObject value
  match members.lookup "include" with
  | some includes => do
      let includes <- arrayOf includes
      collectItems includes (collectContextInclude env nodeId) collector
  | none => .ok collector

def collectPermission (nodeId : String) (index : Nat) (permission : Json)
    (collector : ContentCollector) : Except GovernorError ContentCollector :=
  match permission.get "scope" with
  | some scope => do
      let members <- nonemptyObject scope
      match members.lookup "paths" with
      | some paths =>
          collectPaths env nodeId .permissionPath (nestedPathOrdinal index) paths collector
      | none => .ok collector
  | none => .ok collector

def collectPermissionPaths (nodeId : String) (value : Json) (collector : ContentCollector) :
    Except GovernorError ContentCollector := do
  let permissions <- arrayOf value
  collectItems permissions (collectPermission env nodeId) collector

def collectIsolationPaths (nodeId : String) (value : Json) (collector : ContentCollector) :
    Except GovernorError ContentCollector := do
  let members <- nonemptyObject value
  match members.lookup "filesystem" with
  | some filesystem => do
      let filesystem <- nonemptyObject filesystem
      match filesystem.lookup "writablePaths" with
      | some paths => collectPaths env nodeId .isolationPath ordinalOf paths collector
      | none => .ok collector
  | none => .ok collector

/-!
## The content of a graph
-/

/-- The properties of a node that hold no content and are read where its controls are built. -/
def uncollectedProperties : List String :=
  ["model", "retry", "resources", "memory", "tags", "onCancel", "onFailure", "tool", "classifier",
    "gate", "onFail", "override", "strategy", "merge", "options", "timeout", "graphRef",
    "parameters", "expose", "materializer", "adapterRef", "preconditions", "effects", "ui"]

def collectNodeProperty (nodeId : String) (key : String) (value : Json)
    (collector : ContentCollector) : Except GovernorError ContentCollector :=
  let validated (validation : Except GovernorError Unit) := do
    validation
    .ok collector
  match key with
  | "description" =>
      register env { ownerKind := .node, ownerId := nodeId, fieldKind := .description, ordinal := 0 }
        value collector
  | "completion" => collectCompletionContent env .node nodeId value collector
  | "agent" => collectAgentContent env nodeId value collector
  | "agents" => validated do
      let _ <- collectCrewReferences value
      .ok ()
  | "delegation" => validated (validateDelegation value)
  | "input" => validated (validateSchemaContainer env value)
  | "output" => validated (validateSchemaContainer env value)
  | "prompt" => do
      validateString value
      register env { ownerKind := .node, ownerId := nodeId, fieldKind := .instructions, ordinal := 0 }
        value collector
  | "context" => collectContextPaths env nodeId value collector
  | "permissions" => collectPermissionPaths env nodeId value collector
  | "isolation" => collectIsolationPaths env nodeId value collector
  | "loop" => validated (validateLoopControl value)
  | "timeoutSeconds" => validated (validatePositiveInteger value)
  | "userEditable" => validated (validateBool value)
  | "userOverrideAllowed" => validated (validateBool value)
  | "targetRef" => validated (validateString value)
  | key => if key ∈ uncollectedProperties then .ok collector else refused

def collectNode (nodeId : String) (node : GraphNode) (collector : ContentCollector) :
    Except GovernorError ContentCollector := do
  let collector <- register env
    { ownerKind := .node, ownerId := nodeId, fieldKind := .displayName, ordinal := 0 }
    (.string node.name) collector
  let collector <- register env
    { ownerKind := .node, ownerId := nodeId, fieldKind := .objective, ordinal := 0 }
    (.string node.objective) collector
  collectMembers node.properties (collectNodeProperty env nodeId) collector

/-- A condition or what stands in its place, when the edge has it. -/
def collectEdgeText (edgeId : String) (ordinal : Nat) (text : Option Json)
    (collector : ContentCollector) : Except GovernorError ContentCollector :=
  match text with
  | some value =>
      register env { ownerKind := .edge, ownerId := edgeId, fieldKind := .policyText, ordinal }
        value collector
  | none => .ok collector

def collectEdge (edge : GraphEdge) (collector : ContentCollector) :
    Except GovernorError ContentCollector := do
  let collector <- collectEdgeText env edge.id 0 edge.condition collector
  collectEdgeText env edge.id 1 edge.onFalse collector

def collectMetadataProperty (graphId : String) (key : String) (value : Json)
    (collector : ContentCollector) : Except GovernorError ContentCollector :=
  match key with
  | "description" =>
      register env
        { ownerKind := .graph, ownerId := graphId, fieldKind := .description, ordinal := 0 }
        value collector
  | key =>
      if key ∈ ["source", "sourcePath", "ui", "annotations", "mutationId"] then .ok collector
      else refused

def collectGraphContent (graph : ExecutionGraph) (collector : ContentCollector) :
    Except GovernorError ContentCollector := do
  let graphId := graph.metadata.id
  let collector <- register env
    { ownerKind := .graph, ownerId := graphId, fieldKind := .displayName, ordinal := 0 }
    (.string graph.metadata.name) collector
  let collector <- collectMembers graph.metadata.properties (collectMetadataProperty env graphId)
    collector
  let collector <- collectCompletionContent env .graph graphId graph.spec.completion collector
  let collector <- collectItems graph.spec.policies (collectPolicyContent env graphId) collector
  let collector <- collectMembers graph.spec.nodes (collectNode env) collector
  graph.spec.edges.foldlM (fun collector edge => collectEdge env edge collector) collector

def collectContent (graph : ExecutionGraph) : Except GovernorError (List PendingContent) := do
  let collector <- collectGraphContent env graph .fresh
  collector.finish

end Externalize
end GraphHelm
