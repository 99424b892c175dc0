import GraphHelm.Evolution.Reference
import GraphHelm.Externalize.References
import GraphHelm.Governor.Policy
import GraphHelm.Library.Search
import GraphHelm.Lint.Budgets

/-!
# The lint report

`lint` of `core/graph`: the errors and the warnings of an authored graph.  The checks of
cycles and of budgets are those of the modules before; the others are here, one definition
a file of the source.
-/

namespace GraphHelm
namespace Externalize
namespace Lint

open Std

structure LintReport where
  errors : List Diagnostic
  warnings : List Diagnostic
deriving DecidableEq

def warning (code message path source : String) : Diagnostic :=
  { code := code
    severity := .warning
    message := message
    path := path
    source := source }

section Checks

variable (graph : ExecutionGraph) (source : String)

/-!
## Entrypoints and edges
-/

def checkEntrypoints : List Diagnostic :=
  graph.spec.entrypoints.zipIdx.flatMap fun entry =>
    if entry.1 ∈ nodeIds graph then []
    else
      [Diagnostic.error "GHG001_ENTRYPOINT_UNKNOWN" "entrypoint does not name a graph node"
        s!"/spec/entrypoints/{entry.2}" source]

/-- The errors of one edge, `before` being the identifiers of the edges before it. -/
def checkEdge (before : List String) (edge : GraphEdge) (index : Nat) : List Diagnostic :=
  (if edge.source ∈ nodeIds graph then []
    else
      [Diagnostic.error "GHG002_EDGE_SOURCE_UNKNOWN" "edge source does not name a graph node"
        s!"/spec/edges/{index}/from" source]) ++
  (if edge.target ∈ nodeIds graph then []
    else
      [Diagnostic.error "GHG003_EDGE_TARGET_UNKNOWN" "edge target does not name a graph node"
        s!"/spec/edges/{index}/to" source]) ++
  if edge.id ∈ before then
    [Diagnostic.error "GHG004_EDGE_ID_DUPLICATE" "edge ID is duplicated"
      s!"/spec/edges/{index}/id" source]
  else
    []

def checkEdges : List Diagnostic :=
  graph.spec.edges.zipIdx.flatMap fun entry =>
    checkEdge graph source ((graph.spec.edges.take entry.2).map GraphEdge.id) entry.1 entry.2

/-!
## Reachability
-/

def declaredTerminals : Option (List String) :=
  ((graph.spec.completion.get "terminalNodes").bind Json.asArray).map fun values =>
    values.filterMap Json.asString

def terminals : List String :=
  (declaredTerminals graph).getD
    ((nodeIds graph).filter fun id => (outgoing graph id).isEmpty)

def traverse (next : String -> List String) (starts : List String) : List String :=
  Search.search next (fun rest found => rest ++ found) (nodeIds graph ++ starts) starts

def reachable : List String :=
  traverse graph (outgoing graph)
    (graph.spec.entrypoints.filter fun id => decide (id ∈ nodeIds graph))

def canFinish : List String :=
  traverse graph (incoming graph) (terminals graph)

/-- `check` of `lint/reachability.rs`. -/
def checkReachability : List Diagnostic :=
  ((sorted (reachable graph)).filter fun id => decide (id ∉ canFinish graph)).map fun id =>
    Diagnostic.error "GHG005_NO_TERMINAL_PATH" "reachable node has no path to a terminal node"
      s!"/spec/nodes/{escape id}" source

/-!
## Bindings
-/

def referencedNode (binding : String) : Option String :=
  (((stripText "outputs." binding.toList).bind (Evolution.splitOnce ['.'])).or
    ((stripText "nodes." binding.toList).bind (Evolution.splitOnce ".output".toList))).map
    fun parts => String.ofList parts.1

def checkBinding (binding path : String) : List Diagnostic :=
  if (referencedNode binding).any fun node => decide (node ∉ nodeIds graph) then
    [Diagnostic.error "GHG007_BINDING_SOURCE_UNKNOWN"
      "binding references an unknown source node" path source]
  else
    []

/-- `check` of `lint/binding.rs`. -/
def checkBindings : List Diagnostic :=
  (graph.spec.edges.zipIdx.flatMap fun entry =>
    entry.1.bindings.flatMap fun binding =>
      checkBinding graph source binding.2 s!"/spec/edges/{entry.2}/map/{escape binding.1}") ++
  graph.spec.nodes.flatMap fun entry =>
    ((((entry.2.property "input").bind fun value => value.get "bindings").bind
      Json.asObject).getD []).flatMap fun binding =>
      binding.2.asString.toList.flatMap fun text =>
        checkBinding graph source text
          s!"/spec/nodes/{escape entry.1}/input/bindings/{escape binding.1}"

/-!
## Secrets
-/

def isSecretKey (key : String) : Bool :=
  [ "password", "secret", "token", "api_key", "apikey", "private_key", "privatekey"].contains
    (String.ofList (key.toList.map Char.toLower))

def isReference (key : String) (value : Json) : Bool :=
  "Ref".toList.isSuffixOf key.toList || "_ref".toList.isSuffixOf key.toList ||
    value.asString.any fun text =>
      ["secret://", "environment://", "env://"].any fun start =>
        start.toList.isPrefixOf text.toList

def inlineSecret (path : String) : Diagnostic :=
  Diagnostic.error "GHG008_INLINE_SECRET" "secret-shaped value must use an external reference"
    path source

def inspectKey (key : String) (value : Json) (path : String) : List Diagnostic :=
  if isSecretKey key && !isReference key value then [inlineSecret source path] else []

mutual

def inspect (key : String) : Json -> String -> List Diagnostic
  | .object members, path =>
      inspectKey source key (.object members) path ++ inspectMembers members path
  | .array items, path =>
      inspectKey source key (.array items) path ++ inspectItems key items 0 path
  | value, path => inspectKey source key value path

def inspectMembers : List (String × Json) -> String -> List Diagnostic
  | [], _ => []
  | (key, value) :: rest, path =>
      inspect key value s!"{path}/{escape key}" ++ inspectMembers rest path

def inspectItems (key : String) : List Json -> Nat -> String -> List Diagnostic
  | [], _, _ => []
  | value :: rest, index, path =>
      inspect key value s!"{path}/{index}" ++ inspectItems key rest (index + 1) path

end

/-- The members of an object, where a property takes the place of the field of its name. -/
def withProperties (fields properties : List (String × Json)) : List (String × Json) :=
  (fields.filter fun field => (properties.lookup field.1).isNone) ++ properties

def texts (entries : List (String × String)) : Json :=
  .object (entries.map fun entry => (entry.1, .string entry.2))

def naturalMember (key : String) (value : Option Nat) : List (String × Json) :=
  value.toList.map fun value => (key, .number (.integer (.ofNat value)))

def edgeTypeText : EdgeType -> String
  | .control => "control"
  | .data => "data"
  | .evidence => "evidence"
  | .event => "event"
  | .failure => "failure"
  | .compensation => "compensation"
  | .humanApproval => "human_approval"

def metadataValue (metadata : GraphMetadata) : Json :=
  .object (withProperties
    [("id", .string metadata.id), ("name", .string metadata.name),
      ("executionId", .string metadata.executionId),
      ("version", .number (.integer (.ofNat metadata.version))), ("labels", texts metadata.labels)]
    metadata.properties)

def nodeValue (node : GraphNode) : Json :=
  .object (withProperties
    [("type", .string node.nodeType.asStr), ("name", .string node.name),
      ("objective", .string node.objective), ("optionality", .string node.optionality.asStr)]
    node.properties)

def edgeValue (edge : GraphEdge) : Json :=
  .object
    ([("id", .string edge.id), ("from", .string edge.source), ("to", .string edge.target),
        ("type", .string (edgeTypeText edge.edgeType))] ++
      edge.payloadSchema.toList.map (fun text => ("payloadSchema", .string text)) ++
      edge.condition.toList.map (fun value => ("condition", value)) ++
      edge.onFalse.toList.map (fun value => ("onFalse", value)) ++
      edge.onUnknown.toList.map (fun behavior => ("onUnknown", .string behavior.asStr)) ++
      [("map", texts edge.bindings)] ++
      edge.priority.toList.map fun value => ("priority", .number (.integer value)))

def budgetsValue (budgets : GraphBudgets) : Json :=
  .object
    (naturalMember "maxNodes" budgets.maxNodes ++ naturalMember "maxDepth" budgets.maxDepth ++
      naturalMember "maxMutations" budgets.maxMutations ++
      naturalMember "maxRetriesPerNode" budgets.maxRetriesPerNode ++
      naturalMember "maxWallClockSeconds" budgets.maxWallClockSeconds ++
      budgets.maxApiCostUsd.toList.map (fun value => ("maxApiCostUsd", .number (.float value))) ++
      naturalMember "maxParallelModelCalls" budgets.maxParallelModelCalls)

/-- The members of the serialized graph; its version and kind, which are fixed texts, are left
out. -/
def graphMembers : List (String × Json) :=
  [("metadata", metadataValue graph.metadata),
    ("spec", .object
      [("entrypoints", .array (graph.spec.entrypoints.map Json.string)),
        ("nodes", .object (graph.spec.nodes.map fun entry => (entry.1, nodeValue entry.2))),
        ("edges", .array (graph.spec.edges.map edgeValue)),
        ("budgets", budgetsValue graph.spec.budgets), ("policies", .array graph.spec.policies),
        ("completion", graph.spec.completion)])]

/-- `check` of `lint/security.rs`. -/
def checkSecurity : List Diagnostic :=
  inspectMembers source (graphMembers graph) ""

/-!
## Deployments
-/

def deployTargetMissing (node : GraphNode) : Bool :=
  decide (node.nodeType = .deploy) &&
    !((node.property "targetRef").bind Json.asString).any fun value =>
      value.toList.any fun c => !isWhiteSpace c

def compensationMissing (node : GraphNode) : Bool :=
  (node.property "effects").any fun effects =>
    effects.asObject.isSome &&
      (((effects.get "reversible").bind Json.asBool).getD false ||
        ((effects.get "compensationRequired").bind Json.asBool).getD false) &&
      !(((effects.get "compensationNode").bind Json.asString).bind fun target =>
        graph.spec.nodes.lookup target).any fun node => decide (node.nodeType = .rollback)

/-- `check` of `lint/deployment.rs`. -/
def checkDeployments : List Diagnostic :=
  graph.spec.nodes.flatMap fun entry =>
    (if deployTargetMissing entry.2 then
      [Diagnostic.error "GHG009_DEPLOY_TARGET_MISSING" "deploy node requires a non-empty targetRef"
        s!"/spec/nodes/{escape entry.1}/targetRef" source]
    else
      []) ++
    if compensationMissing graph entry.2 then
      [Diagnostic.error "GHG010_COMPENSATION_MISSING"
        "reversible effect requires an existing rollback compensation node"
        s!"/spec/nodes/{escape entry.1}/effects/compensationNode" source]
    else
      []

/-!
## Hard policies
-/

def denied (policy : Json) : Option String :=
  (policy.asString.bind fun text => (stripText "deny:" text.toList).map String.ofList).or
    ((policy.get "deny").bind Json.asString)

def policyConflicts (secretErrors : List Diagnostic) (policy : Json) : Bool :=
  match denied policy with
  | some "deploy" | some "production.deploy" =>
      graph.spec.nodes.any fun entry => decide (entry.2.nodeType = .deploy)
  | some "secret.inline" => !secretErrors.isEmpty
  | _ => false

def checkHardPolicies (secretErrors : List Diagnostic) : List Diagnostic :=
  graph.spec.policies.zipIdx.flatMap fun entry =>
    if policyConflicts graph secretErrors entry.1 then
      [Diagnostic.error "GHG014_HARD_POLICY_DENIED"
        "graph conflicts with an inline hard deny policy" s!"/spec/policies/{entry.2}" source]
    else
      []

/-!
## Warnings
-/

def isExecutable : NodeType -> Bool
  | .agent | .tool | .deploy | .rollback | .artifactTransform => true
  | _ => false

def canParkForInput : NodeType -> Bool
  | .agent | .planner | .classifier | .evaluator | .tool => true
  | .humanDecision | .deploy | .rollback | .artifactTransform => true
  | .gate => false
  | .fork | .join | .timer | .trigger | .subgraph | .materializer => false
  | .deadLetter => false

def declaresCustoms (node : GraphNode) : Bool :=
  ((node.property "completion").bind fun completion => completion.get "customs").isSome

def timeoutWarnings : List Diagnostic :=
  (graph.spec.nodes.filter fun entry =>
    isExecutable entry.2.nodeType && (entry.2.property "timeoutSeconds").isNone).map fun entry =>
    warning "GHG101_DEFAULT_TIMEOUT" "executable node relies on the runtime default timeout"
      s!"/spec/nodes/{escape entry.1}/timeoutSeconds" source

def customsWarnings : List Diagnostic :=
  (graph.spec.nodes.filter fun entry =>
    canParkForInput entry.2.nodeType && !declaresCustoms entry.2).map fun entry =>
    warning "GHG102_UNBOUNDED_CUSTOMS"
      "node can park for input but declares no customs budgets, so no stage of it can ever go overdue"
      s!"/spec/nodes/{escape entry.1}/completion/customs" source

/-!
## The report
-/

def reportedBefore (left right : Diagnostic) : Prop :=
  left.path < right.path ∨ left.path = right.path ∧
    (left.code < right.code ∨ left.code = right.code ∧ left.message <= right.message)

instance : DecidableRel reportedBefore :=
  fun _ _ => inferInstanceAs (Decidable (_ ∨ _ ∧ (_ ∨ _ ∧ _)))

def lintErrors : List Diagnostic :=
  checkEntrypoints graph source ++ checkEdges graph source ++ checkReachability graph source ++
    checkCycles graph source ++ checkBindings graph source ++ checkSecurity graph source ++
    checkDeployments graph source ++ checkBudgets graph source ++
    checkHardPolicies graph source (checkSecurity graph source)

def lint : LintReport :=
  { errors := (lintErrors graph source).insertionSort reportedBefore
    warnings := (timeoutWarnings graph source ++ customsWarnings graph source).insertionSort
      reportedBefore }

end Checks

/-!
## What a clean report promises
-/

section Clean

variable {graph : ExecutionGraph} {source : String}

theorem errors_eq_nil_iff : (lint graph source).errors = [] <-> lintErrors graph source = [] := by
  have hperm : (lint graph source).errors.Perm (lintErrors graph source) :=
    List.perm_insertionSort reportedBefore (lintErrors graph source)
  constructor
  · intro h
    exact (h ▸ hperm).symm.eq_nil
  · intro h
    exact (h ▸ hperm).eq_nil

/-- The checks of a graph without errors report none. -/
structure Clean (graph : ExecutionGraph) (source : String) : Prop where
  entrypoints : checkEntrypoints graph source = []
  edges : checkEdges graph source = []
  reachability : checkReachability graph source = []
  cycles : checkCycles graph source = []

theorem clean_of_no_errors (h : (lint graph source).errors = []) : Clean graph source := by
  have hnone := errors_eq_nil_iff.mp h
  simp only [lintErrors, List.append_eq_nil_iff, and_assoc] at hnone
  rcases hnone with ⟨hentrypoints, hedges, hreachability, hcycles, _⟩
  exact ⟨hentrypoints, hedges, hreachability, hcycles⟩

namespace Clean

theorem endpoints (h : Clean graph source) {edge : GraphEdge} (hedge : edge ∈ graph.spec.edges) :
    edge.source ∈ nodeIds graph ∧ edge.target ∈ nodeIds graph := by
  rcases List.mem_iff_getElem?.mp hedge with ⟨index, hindex⟩
  have hmem := List.mk_mem_zipIdx_iff_getElem?.mpr hindex
  have hnone := List.flatMap_eq_nil_iff.mp h.edges _ hmem
  simp only [checkEdge, List.append_eq_nil_iff, and_assoc] at hnone
  rcases hnone with ⟨hsource, htarget, _⟩
  constructor
  · rcases Decidable.em (edge.source ∈ nodeIds graph) with hin | hout
    · exact hin
    · rw [if_neg hout] at hsource
      cases hsource
  · rcases Decidable.em (edge.target ∈ nodeIds graph) with hin | hout
    · exact hin
    · rw [if_neg hout] at htarget
      cases htarget

end Clean

end Clean

end Lint
end Externalize
end GraphHelm
