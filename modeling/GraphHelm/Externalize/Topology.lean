import GraphHelm.Externalize.Controls
import Mathlib.Data.List.Sort

/-!
# The persisted topology of a graph

`build_topology` and the builders of its nodes, edges and budgets
(`core/governor/src/externalize.rs`), with the constructors of the persisted
records they fill (`core/protocols/src/projection.rs`).
-/

namespace GraphHelm
namespace Externalize

open Std
open ControlBuilder

variable (env : Surroundings)

/-!
## Node kinds
-/

def kindFields : List String :=
  ["agent", "agents", "tool", "classifier", "gate", "onFail", "override", "strategy", "merge",
    "prompt", "options", "timeout", "graphRef", "parameters", "expose", "materializer",
    "adapterRef", "preconditions", "effects", "targetRef"]

def allowedKindFields : NodeType -> Option (List String)
  | .agent => some ["agent", "agents"]
  | .tool => some ["tool"]
  | .classifier => some ["classifier"]
  | .gate => some ["gate", "onFail", "override"]
  | .fork => some ["strategy"]
  | .join => some ["strategy", "merge"]
  | .humanDecision => some ["prompt", "options", "timeout"]
  | .subgraph => some ["graphRef", "parameters", "expose"]
  | .materializer => some ["materializer"]
  | .deploy => some ["adapterRef", "preconditions", "effects", "targetRef"]
  | .rollback => some ["adapterRef"]
  | .planner => some []
  | .evaluator => some []
  | .timer => some []
  | .trigger => some []
  | .artifactTransform => some []
  | .deadLetter => none

def validateNodeKindPropertyOwnership (node : GraphNode) : Except GovernorError Unit := do
  let allowed <- orRefuse (allowedKindFields node.nodeType) .invalidAuthoring
  check ((node.properties.map Prod.fst).all fun key =>
    decide (key ∉ kindFields) || decide (key ∈ allowed)) .invalidAuthoring

def whenPresent (node : GraphNode) (key : String)
    (step : Json -> ControlBuilder -> Except GovernorError ControlBuilder)
    (builder : ControlBuilder) : Except GovernorError ControlBuilder :=
  match node.property key with
  | some value => step value builder
  | none => .ok builder

def membersOf (step : String -> Json -> ControlBuilder -> Except GovernorError ControlBuilder)
    (value : Json) (builder : ControlBuilder) : Except GovernorError ControlBuilder := do
  let members <- nonemptyObject value
  builder.forEachMember members step

def toolMember (key : String) (value : Json) (builder : ControlBuilder) :
    Except GovernorError ControlBuilder :=
  match key with
  | "ref" => builder.reference env "toolRef" value
  | "action" => builder.enumToken "action" value ["execute"]
  | _ => refused

def classifierMember (key : String) (value : Json) (builder : ControlBuilder) :
    Except GovernorError ControlBuilder :=
  match key with
  | "method" => builder.enumToken "method" value ["hybrid"]
  | "profile" => builder.token "profile" value
  | "deterministicRulesRef" => builder.reference env "rulesRef" value
  | _ => refused

def gateMember (key : String) (value : Json) (builder : ControlBuilder) :
    Except GovernorError ControlBuilder :=
  match key with
  | "requirements" => builder.tokenArray "requirement" value
  | "evaluators" => builder.referenceArray env "evaluator" value
  | "passWhen" => builder.enumToken "passWhen" value ["all"]
  | _ => refused

def gateFailure (value : Json) (builder : ControlBuilder) :
    Except GovernorError ControlBuilder := do
  let members <- nonemptyObject value
  check (decide (members.length = 1)) .invalidAuthoring
  let route <- orRefuse (members.lookup "routeTo") .invalidAuthoring
  builder.token "failureRoute" route

def gateOverride (key : String) (value : Json) (builder : ControlBuilder) :
    Except GovernorError ControlBuilder :=
  match key with
  | "allowedRoles" => builder.tokenArrayUnique "overrideRole" value
  | "resultLabel" => builder.token "overrideResult" value
  | _ => refused

def mergeMember (key : String) (value : Json) (builder : ControlBuilder) :
    Except GovernorError ControlBuilder :=
  match key with
  | "method" => builder.token "mergeMethod" value
  | "outputSchema" => builder.reference env "resultSchema" value
  | _ => refused

def joinStrategies : List String :=
  ["all_completed", "all_succeeded", "any_succeeded", "quorum", "first_valid", "custom_evaluator"]

def decisionPrompt (slots : List ContentSlot) (nodeId : String) (builder : ControlBuilder) :
    Except GovernorError ControlBuilder := do
  let found <- findSlot slots
    { ownerKind := .node, ownerId := nodeId, fieldKind := .instructions, ordinal := 0 }
  builder.slot "directiveSlot" found

def decisionTimeout (key : String) (value : Json) (builder : ControlBuilder) :
    Except GovernorError ControlBuilder :=
  match key with
  | "seconds" => builder.integer "timeoutSeconds" value
  | "onTimeout" => builder.enumToken "timeoutAction" value ["pause"]
  | _ => refused

def subgraphParameters (value : Json) (builder : ControlBuilder) :
    Except GovernorError ControlBuilder := do
  let members <- objectOf value
  check (decide (members.length <= 64)) .limitExceeded
  let builder <- builder.count "parameterCount" members.length
  builder.forEachIndexed members fun index entry builder => do
    let builder <- builder.token ("parameterKey." ++ padded index) (.string entry.1)
    builder.reference env ("parameterValue." ++ padded index) entry.2

def subgraphExpose (value : Json) (builder : ControlBuilder) :
    Except GovernorError ControlBuilder := do
  let members <- nonemptyObject value
  check (decide (members.length = 1)) .invalidAuthoring
  let outputs <- orRefuse (members.lookup "outputs") .invalidAuthoring
  builder.tokenArrayUnique "exposedResult" outputs

def materializerMember (key : String) (value : Json) (builder : ControlBuilder) :
    Except GovernorError ControlBuilder :=
  match key with
  | "target" => builder.reference env "target" value
  | "strategy" => builder.enumToken "strategy" value ["evidence_backed_patch"]
  | _ => refused

def deployEffect (key : String) (value : Json) (builder : ControlBuilder) :
    Except GovernorError ControlBuilder :=
  match key with
  | "reversible" => builder.flag "reversible" value
  | "compensationRequired" => builder.flag "compensationRequired" value
  | "compensationNode" => builder.token "compensationNode" value
  | _ => refused

def buildNodeKindControl (slots : List ContentSlot) (nodeId : String) (node : GraphNode) :
    Except GovernorError (Option PersistedControl) :=
  match node.nodeType with
  | .tool => do
      let builder <- whenPresent node "tool" (membersOf (toolMember env)) fresh
      builder.finishOptional env "tool_configuration"
  | .classifier => do
      let builder <- whenPresent node "classifier" (membersOf (classifierMember env)) fresh
      builder.finishOptional env "classifier_configuration"
  | .gate => do
      let builder <- whenPresent node "gate" (membersOf (gateMember env)) fresh
      let builder <- whenPresent node "onFail" gateFailure builder
      let builder <- whenPresent node "override" (membersOf gateOverride) builder
      builder.finishOptional env "gate_configuration"
  | .fork => do
      let builder <- whenPresent node "strategy"
        (fun value builder => builder.enumToken "strategy" value ["all"]) fresh
      builder.finishOptional env "fork_configuration"
  | .join => do
      let builder <- whenPresent node "strategy"
        (fun value builder => builder.enumToken "strategy" value joinStrategies) fresh
      let builder <- whenPresent node "merge" (membersOf (mergeMember env)) builder
      builder.finishOptional env "join_configuration"
  | .humanDecision => do
      let builder <- whenPresent node "prompt" (fun _ => decisionPrompt slots nodeId) fresh
      let builder <- whenPresent node "options"
        (fun value builder => builder.tokenArrayUnique "option" value) builder
      let builder <- whenPresent node "timeout" (membersOf decisionTimeout) builder
      builder.finishOptional env "human_decision"
  | .subgraph => do
      let builder <- whenPresent node "graphRef"
        (fun value builder => builder.reference env "graphRef" value) fresh
      let builder <- whenPresent node "parameters" (subgraphParameters env) builder
      let builder <- whenPresent node "expose" subgraphExpose builder
      builder.finishOptional env "subgraph_configuration"
  | .materializer => do
      let builder <- whenPresent node "materializer" (membersOf (materializerMember env)) fresh
      builder.finishOptional env "materializer_configuration"
  | .deploy => do
      let builder <- whenPresent node "adapterRef"
        (fun value builder => builder.reference env "adapterRef" value) fresh
      let builder <- whenPresent node "preconditions"
        (fun value builder => builder.referenceArray env "precondition" value) builder
      let builder <- whenPresent node "effects" (membersOf deployEffect) builder
      builder.finishOptional env "deploy_configuration"
  | .rollback => do
      let builder <- whenPresent node "adapterRef"
        (fun value builder => builder.reference env "adapterRef" value) fresh
      builder.finishOptional env "rollback_configuration"
  | .deadLetter => refused
  | _ => .ok none

/-!
## Nodes
-/

def buildCommonControl (node : GraphNode) : Except GovernorError (Option PersistedControl) := do
  let builder <- whenPresent node "tags"
    (fun value builder => builder.tokenArrayUnique "tag" value) fresh
  let builder <- whenPresent node "onCancel"
    (fun value builder => builder.token "onCancel" value) builder
  let builder <- whenPresent node "onFailure"
    (fun value builder => builder.token "onFailure" value) builder
  builder.finishOptional env "node_common"

def buildConfigurationControl (node : GraphNode) :
    Except GovernorError (Option PersistedControl) := do
  let builder <- whenPresent node "targetRef"
    (fun value builder => builder.reference env "targetRef" value) fresh
  let builder <- whenPresent node "timeoutSeconds"
    (fun value builder => builder.integer "timeoutSeconds" value) builder
  let builder <- whenPresent node "userEditable"
    (fun value builder => builder.flag "userEditable" value) builder
  let builder <- whenPresent node "userOverrideAllowed"
    (fun value builder => builder.flag "userOverrideAllowed" value) builder
  builder.finishOptional env "node_configuration"

def propertyControls (node : GraphNode) (key : String)
    (build : Json -> Except GovernorError (List PersistedControl)) :
    Except GovernorError (List PersistedControl) :=
  match node.property key with
  | some value => build value
  | none => .ok []

def propertyControl (node : GraphNode) (key : String)
    (build : Json -> Except GovernorError PersistedControl) :
    Except GovernorError (List PersistedControl) :=
  propertyControls node key fun value => (build value).map fun control => [control]

def controlRank (control : PersistedControl) : Nat :=
  (persistedNodeControlOrder control.controlType).getD 255

def buildNodeControls (slots : List ContentSlot) (nodeId : String) (node : GraphNode) :
    Except GovernorError (List PersistedControl) := do
  validateNodeKindPropertyOwnership node
  let agent <- propertyControls node "agent" (buildAgentControls env)
  let crew <- propertyControl node "agents" (buildCrewControl env)
  let delegation <- propertyControl node "delegation" (buildDelegationControl env)
  let input <- propertyControl node "input" (buildContractControl env "input")
  let output <- propertyControl node "output" (buildContractControl env "output")
  let model <- propertyControl node "model" (buildModelControl env "node_model")
  let retry <- propertyControl node "retry" (buildRetryControl env "node_retry")
  let resources <- propertyControl node "resources" (buildResourcesControl env "node_resources")
  let memory <- propertyControl node "memory" (buildMemoryControl env "node_memory")
  let context <- propertyControl node "context" (buildContextControl env slots nodeId)
  let permissions <- propertyControl node "permissions" (buildPermissionsControl env slots nodeId)
  let isolation <- propertyControl node "isolation" (buildIsolationControl env slots nodeId)
  let completion <- propertyControl node "completion" (buildNodeCompletion env slots nodeId)
  let common <- buildCommonControl env node
  let loop <- propertyControl node "loop" (buildLoopControl env)
  let kind <- buildNodeKindControl env slots nodeId node
  let configuration <- buildConfigurationControl env node
  let controls := agent ++ crew ++ delegation ++ input ++ output ++ model ++ retry ++ resources ++
    memory ++ context ++ permissions ++ isolation ++ completion ++ common.toList ++ loop ++
    kind.toList ++ configuration.toList
  .ok (controls.insertionSort fun a b => controlRank a <= controlRank b)

def declaredTimeoutSeconds (node : GraphNode) : Option Nat :=
  (node.property "timeoutSeconds").bind Json.asNatural

def GraphNode.customs (node : GraphNode) : Except GovernorError (Option PersistedCustoms) :=
  match (node.property "completion").bind fun completion => completion.get "customs" with
  | some customs => (orRefuse (env.readCustoms customs) .invalidAuthoring).map some
  | none => .ok none

def ContentSlot.ownedBy (nodeId : String) (slot : ContentSlot) : Bool :=
  (slot.position.ownerKind == .node || slot.position.ownerKind == .agent) &&
    slot.position.ownerId == nodeId

/-- `PersistedNode::new`. -/
def PersistedNode.allowed (node : PersistedNode) : Bool :=
  decide (node.controls.length <= 64) && decide (node.contentSlotIds.length <= 64) &&
    decide node.contentSlotIds.Nodup

def buildNode (slots : List ContentSlot) (nodeId : String) (node : GraphNode) :
    Except GovernorError (String × PersistedNode) := do
  let id <- orRefuse (OpaqueId.parse nodeId) .invalidAuthoring
  let controls <- buildNodeControls env slots nodeId node
  let customs <- node.customs env
  let persisted : PersistedNode :=
    { nodeType := node.nodeType, optionality := node.optionality, controls,
      contentSlotIds := (slots.filter (ContentSlot.ownedBy nodeId)).map ContentSlot.slotId,
      timeoutSeconds := declaredTimeoutSeconds node, customs }
  check persisted.allowed .invalidProjection
  .ok (id.text, persisted)

/-!
## Edges and budgets
-/

def edgeBinding (entry : String × String) : Except GovernorError (String × String) := do
  check (isSafeKey entry.1) .invalidAuthoring
  let encoded <- encodeSafeBinding env entry.2
  .ok (entry.1, encoded)

def edgeSlot (slots : List ContentSlot) (edgeId : String) (ordinal : Nat) (text : Option Json) :
    Except GovernorError (Option ContentSlot) :=
  match text with
  | some _ => (findSlot slots
      { ownerKind := .edge, ownerId := edgeId, fieldKind := .policyText, ordinal }).map some
  | none => .ok none

def insertSlotIdentifier (key : String) (found : Option ContentSlot)
    (identifiers : ExtTreeMap String String) :
    Except GovernorError (ExtTreeMap String String) :=
  match found with
  | some slot => do
      let key <- safeKey key
      check (isSafeValue slot.slotId.text) .invalidProjection
      .ok (identifiers.insert key slot.slotId.text)
  | none => .ok identifiers

def buildEdgeCondition (edge : GraphEdge) (conditionSlot onFalseSlot : Option ContentSlot) :
    Except GovernorError (Option PersistedControl) :=
  if edge.payloadSchema.isSome || edge.onUnknown.isSome || conditionSlot.isSome ||
      onFalseSlot.isSome then do
    let identifiers <- match edge.payloadSchema with
      | some schema => do
          let encoded <- encodeSafeReference env schema
          .ok ((∅ : ExtTreeMap String String).insert "schema" encoded)
      | none => .ok ∅
    let identifiers := match edge.onUnknown with
      | some behavior => identifiers.insert "unknownBehavior" behavior.asStr
      | none => identifiers
    let identifiers <- insertSlotIdentifier "slot0" conditionSlot identifiers
    let identifiers <- insertSlotIdentifier "slot1" onFalseSlot identifiers
    let control <- finishControl env
      { controlType := "edge_condition", identifiers, digests := ∅, integers := ∅, flags := ∅ }
    .ok (some control)
  else
    .ok none

/-- `PersistedEdge::new`. -/
def PersistedEdge.allowed (edge : PersistedEdge) : Bool :=
  edge.priority.all validSafeInteger && decide (edge.bindings.size <= maxMapItems)

def buildEdge (slots : List ContentSlot) (edge : GraphEdge) :
    Except GovernorError PersistedEdge := do
  let id <- orRefuse (OpaqueId.parse edge.id) .invalidAuthoring
  let bindings <- edge.bindings.mapM (edgeBinding env)
  let conditionSlot <- edgeSlot slots edge.id 0 edge.condition
  let onFalseSlot <- edgeSlot slots edge.id 1 edge.onFalse
  let condition <- buildEdgeCondition env edge conditionSlot onFalseSlot
  let source <- orRefuse (OpaqueId.parse edge.source) .invalidAuthoring
  let target <- orRefuse (OpaqueId.parse edge.target) .invalidAuthoring
  let persisted : PersistedEdge :=
    { id, source, target, edgeType := edge.edgeType, priority := edge.priority,
      bindings := ExtTreeMap.ofList bindings, condition }
  check persisted.allowed .invalidProjection
  .ok persisted

/-- `build_budgets`, over `PersistedBudgets::new`. -/
def buildBudgets (budgets : GraphBudgets) : Except GovernorError GraphBudgets := do
  let boundedNonzero (value : Option Nat) (most : Nat) :=
    value.all fun value => decide (1 <= value) && decide (value <= most)
  let bounded (value : Option Nat) (most : Nat) := value.all fun value => decide (value <= most)
  check (boundedNonzero budgets.maxNodes 100000 && boundedNonzero budgets.maxDepth 100000 &&
    bounded budgets.maxMutations 100000 && bounded budgets.maxRetriesPerNode 100000 &&
    boundedNonzero budgets.maxWallClockSeconds 315576000 &&
    budgets.maxApiCostUsd.all (fun value => decide (0 <= value) && decide (value <= 1000000000)) &&
    boundedNonzero budgets.maxParallelModelCalls 100000) .invalidProjection
  .ok budgets

/-!
## Topologies
-/

def buildLabel (entry : String × String) : Except GovernorError (String × String) := do
  check (isSafeKey entry.1) .invalidAuthoring
  check (isSafeValue entry.2) .invalidAuthoring
  .ok entry

def derivedTerminals (graph : ExecutionGraph) : Option (List String) :=
  match graph.spec.completion.get "terminalNodes" with
  | some _ => none
  | none =>
      let nodeIds := graph.spec.nodes.map Prod.fst
      let leaving := (graph.spec.edges.filter fun edge =>
        decide (edge.source ∈ nodeIds) && decide (edge.target ∈ nodeIds)).map GraphEdge.source
      some (nodeIds.filter fun nodeId => decide (nodeId ∉ leaving))

/-- `PersistedTopology::new`. -/
def PersistedTopology.allowed (topology : PersistedTopology) : Bool :=
  decide (topology.labels.size <= maxMapItems) && !topology.entrypoints.isEmpty &&
    decide (topology.entrypoints.length <= 1024) && decide topology.entrypoints.Nodup &&
    !topology.nodes.isEmpty && decide (topology.nodes.size <= 1024) &&
    decide (topology.edges.length <= 4096) && decide (topology.policies.length <= 64)

def buildTopology (graph : ExecutionGraph) (slots : List ContentSlot) :
    Except GovernorError PersistedTopology := do
  let graphId <- orRefuse (OpaqueId.parse graph.metadata.id) .invalidAuthoring
  let executionId <- orRefuse (OpaqueId.parse graph.metadata.executionId) .invalidAuthoring
  let labels <- graph.metadata.labels.mapM buildLabel
  let entrypoints <- graph.spec.entrypoints.mapM fun id =>
    orRefuse (OpaqueId.parse id) .invalidAuthoring
  let nodes <- graph.spec.nodes.mapM fun entry => buildNode env slots entry.1 entry.2
  let edges <- graph.spec.edges.mapM (buildEdge env slots)
  let budgets <- buildBudgets graph.spec.budgets
  let policies <- graph.spec.policies.zipIdx.mapM fun entry =>
    buildPolicyControl env slots graph.metadata.id entry.2 entry.1
  let completion <- buildGraphCompletion env graph.spec.completion (derivedTerminals graph)
  let topology : PersistedTopology :=
    { graphId, executionId, labels := ExtTreeMap.ofList labels, entrypoints,
      nodes := ExtTreeMap.ofList nodes, edges, budgets, policies, completion }
  check topology.allowed .invalidProjection
  .ok topology

end Externalize
end GraphHelm
