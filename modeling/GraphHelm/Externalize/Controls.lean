import GraphHelm.Externalize.Builder

/-!
# The controls of a node

One builder for each kind of control a node, an agent or a policy is persisted
with (`core/governor/src/externalize.rs`). Every builder reads the members of a
closed grammar, each into safe entries, and refuses any other member.
-/

namespace GraphHelm
namespace Externalize

open Std
open ControlBuilder

variable (env : Surroundings)

/-- `_ => return Err(GovernorError::InvalidAuthoring)`. -/
def refused {A : Type} : Except GovernorError A :=
  .error .invalidAuthoring

/-!
## Structural schemas
-/

def isSchemaAnnotationKey (key : String) : Bool :=
  decide (key ∈ ["title", "description", "examples", "$comment", "default", "deprecated",
    "readOnly", "writeOnly"])

/-- Where the schemas stand inside the value of a keyword. -/
inductive KeywordShape where
  | schemaMap
  | schemaArray
  | schema
  | literal

def keywordShape (keyword : String) : KeywordShape :=
  if keyword ∈ ["properties", "patternProperties", "$defs", "definitions", "dependentSchemas"] then
    .schemaMap
  else if keyword ∈ ["additionalProperties", "unevaluatedProperties", "unevaluatedItems",
      "propertyNames", "contains", "contentSchema", "not", "if", "then", "else", "items"] then
    .schema
  else if keyword ∈ ["allOf", "anyOf", "oneOf", "prefixItems"] then
    .schemaArray
  else
    .literal

mutual

def stripSchema : Json -> Except GovernorError Json
  | .bool value => .ok (.bool value)
  | .object members => do
      let stripped <- stripSchemaNode members
      .ok (.object stripped)
  | _ => refused

def stripSchemaNode :
    List (String × Json) -> Except GovernorError (List (String × Json))
  | [] => .ok []
  | (keyword, child) :: rest =>
      if isSchemaAnnotationKey keyword then
        stripSchemaNode rest
      else do
        let stripped <- match keywordShape keyword, child with
          | .schemaMap, .object members => do
              let stripped <- stripSchemaMap members
              .ok (.object stripped)
          | .schemaMap, _ => refused
          | .schemaArray, .array items => do
              let stripped <- stripSchemaArray items
              .ok (.array stripped)
          | .schemaArray, _ => refused
          | .schema, schema => stripSchema schema
          | .literal, value => .ok value
        let more <- stripSchemaNode rest
        .ok ((keyword, stripped) :: more)

def stripSchemaMap :
    List (String × Json) -> Except GovernorError (List (String × Json))
  | [] => .ok []
  | (key, schema) :: rest => do
      let stripped <- stripSchema schema
      let more <- stripSchemaMap rest
      .ok ((key, stripped) :: more)

def stripSchemaArray : List Json -> Except GovernorError (List Json)
  | [] => .ok []
  | schema :: rest => do
      let stripped <- stripSchema schema
      let more <- stripSchemaArray rest
      .ok (stripped :: more)

end

def structuralSchemaDigest (value : Json) : Except GovernorError RawSha256 := do
  env.compileInlineSchema value
  let structural <- stripSchema value
  check (structural != .object []) .invalidAuthoring
  env.validateDurableContent structural
  check (env.structureWithinLimits structural) .invalidAuthoring
  .ok (env.rawContentSha256 (env.jsonText structural))

def validateSchemaAnnotation (keyword : String) (value : Json) : Except GovernorError Unit :=
  check
    (if keyword ∈ ["title", "description", "$comment"] then value.asString.isSome
    else if keyword = "examples" then value.asArray.isSome
    else if keyword ∈ ["deprecated", "readOnly", "writeOnly"] then value.asBool.isSome
    else keyword == "default")
    .invalidAuthoring

def isSchemaValue (value : Json) : Bool :=
  value.asObject.isSome || value.asBool.isSome

def schemaContainerMember (key : String) (value : Json) : Except GovernorError Nat :=
  if key = "schema" && isSchemaValue value then do
    let _ <- structuralSchemaDigest env value
    .ok 1
  else if key ∈ ["schema", "publishAs", "$id", "$schema"] then do
    validateString value
    .ok 1
  else if key = "bindings" then do
    let bindings <- objectOf value
    check (decide (bindings.length <= 128) && bindings.all fun member => member.2.asString.isSome)
      .invalidAuthoring
    .ok bindings.length
  else if isSchemaAnnotationKey key then do
    validateSchemaAnnotation key value
    .ok 0
  else
    refused

def validateSchemaContainer (value : Json) : Except GovernorError Unit := do
  let members <- objectOf value
  let counts <- members.mapM fun member => schemaContainerMember env member.1 member.2
  check (counts.sum != 0) .invalidAuthoring

def contractMember (key : String) (value : Json) (builder : ControlBuilder) :
    Except GovernorError ControlBuilder :=
  match key with
  | "schema" =>
      if value.asString.isSome then
        builder.reference env "schema" value
      else if isSchemaValue value then do
        let digest <- structuralSchemaDigest env value
        builder.digest "schema" digest
      else
        refused
  | "$id" => builder.reference env "schemaId" value
  | "$schema" => builder.reference env "schemaDialect" value
  | "bindings" => do
      let bindings <- objectOf value
      let builder <- builder.count "bindingCount" bindings.length
      builder.forEachIndexed bindings fun index entry builder => do
        let builder <- builder.token ("bindingKey." ++ padded index) (.string entry.1)
        builder.binding env ("bindingValue." ++ padded index) entry.2
  | "publishAs" => builder.reference env "publishAs" value
  | key =>
      if isSchemaAnnotationKey key then do
        validateSchemaAnnotation key value
        .ok builder
      else
        refused

def buildContractControl (kind : String) (value : Json) :
    Except GovernorError PersistedControl := do
  validateSchemaContainer env value
  let members <- nonemptyObject value
  let builder <- fresh.forEachMember members (contractMember env)
  builder.finish env (if kind = "input" then "input_contract" else "output_contract")

/-!
## Agents
-/

def maxCrewMembers : Nat := 64

def crewReference (member : Json) : Except GovernorError Json := do
  let members <- objectOf member
  check (decide (members.length = 1)) .invalidAuthoring
  let reference <- orRefuse (members.lookup "ref") .invalidAuthoring
  validateString reference
  .ok reference

def collectCrewReferences (value : Json) : Except GovernorError (List Json) := do
  let members <- arrayOf value
  check (!members.isEmpty) .invalidAuthoring
  check (decide (members.length <= maxCrewMembers)) .limitExceeded
  members.mapM crewReference

def buildCrewControl (value : Json) : Except GovernorError PersistedControl := do
  let references <- collectCrewReferences value
  let builder <- fresh.referenceArray env "agentRef" (.array references)
  builder.finish env "node_agents"

def modelMember (key : String) (value : Json) (builder : ControlBuilder) :
    Except GovernorError ControlBuilder :=
  match key with
  | "profile" => builder.token "profile" value
  | "routePolicy" => builder.token "routePolicy" value
  | "requireIndependentFrom" => builder.tokenArray "independent" value
  | _ => refused

def buildModelControl (controlType : String) (value : Json) :
    Except GovernorError PersistedControl := do
  let members <- nonemptyObject value
  let builder <- fresh.forEachMember members modelMember
  builder.finish env controlType

def contextStrategyMember (key : String) (value : Json) (builder : ControlBuilder) :
    Except GovernorError ControlBuilder :=
  match key with
  | "includeScopes" => builder.tokenArray "includeScope" value
  | "maxTokens" => builder.integer "maxUnits" value
  | _ => refused

def buildContextStrategyControl (value : Json) : Except GovernorError PersistedControl := do
  let members <- nonemptyObject value
  let builder <- fresh.forEachMember members contextStrategyMember
  builder.finish env "agent_context_strategy"

def evidenceRequirement (index : Nat) (value : Json) (builder : ControlBuilder) :
    Except GovernorError ControlBuilder :=
  match value with
  | .string _ => builder.token ("requirement." ++ padded index) value
  | .object (member :: rest) =>
      builder.forEachMember (member :: rest) fun key value builder =>
        match key with
        | "type" => builder.token ("type." ++ padded index) value
        | "ref" => builder.reference env ("ref." ++ padded index) value
        | "min" => builder.integer ("min." ++ padded index) value
        | _ => refused
  | _ => refused

def buildEvidenceRequirementsControl (value : Json) : Except GovernorError PersistedControl := do
  let values <- arrayOf value
  check (decide (values.length <= 32)) .limitExceeded
  let builder <- fresh.count "requirementCount" values.length
  let builder <- builder.forEachIndexed values (evidenceRequirement env)
  builder.finish env "agent_evidence_requirements"

def memoryMember (key : String) (value : Json) (builder : ControlBuilder) :
    Except GovernorError ControlBuilder :=
  match key with
  | "writeCandidates" => builder.flag "writeCandidates" value
  | "defaultTtlDays" => builder.integer "defaultTtlDays" value
  | "policyRef" => builder.reference env "policyRef" value
  | "includeScopes" => builder.tokenArray "includeScope" value
  | _ => refused

def buildMemoryControl (controlType : String) (value : Json) :
    Except GovernorError PersistedControl := do
  let members <- nonemptyObject value
  let builder <- fresh.forEachMember members (memoryMember env)
  builder.finish env controlType

def ephemeralMember (key : String) (value : Json)
    (built : ControlBuilder × List PersistedControl) :
    Except GovernorError (ControlBuilder × List PersistedControl) :=
  let configure (step : Except GovernorError ControlBuilder) := do
    let agent <- step
    .ok (agent, built.2)
  let beside (step : Except GovernorError PersistedControl) := do
    let control <- step
    .ok (built.1, built.2 ++ [control])
  match key with
  | "purpose" => .ok built
  | "instructions" => .ok built
  | "completionContract" => .ok built
  | "capabilities" => configure (built.1.tokenArrayUnique "capability" value)
  | "allowedTools" => configure (built.1.tokenArray "allowedTool" value)
  | "prohibitedActions" => configure (built.1.tokenArray "prohibitedAction" value)
  | "inputSchema" => configure (built.1.reference env "inputSchema" value)
  | "outputSchema" => configure (built.1.reference env "resultSchema" value)
  | "instructionsRef" => configure (built.1.referenceOrNominal env "directiveRef" value)
  | "isolationMinimum" => configure do
      let tier <- textOf value
      check (isValidIsolationTier tier) .invalidAuthoring
      built.1.token "isolation" value
  | "modelRequirements" => beside (buildModelControl env "agent_model_requirements" value)
  | "contextStrategy" => beside (buildContextStrategyControl env value)
  | "evidenceRequirements" => beside (buildEvidenceRequirementsControl env value)
  | "memoryPolicy" => beside (buildMemoryControl env "agent_memory_policy" value)
  | _ => refused

def buildAgentControls (value : Json) : Except GovernorError (List PersistedControl) := do
  let members <- objectOf value
  let built <- match members.lookup "ref" with
    | some reference => do
        check (decide (members.length = 1)) .invalidAuthoring
        let agent <- fresh.token "mode" (.string "ref")
        let agent <- agent.reference env "agentRef" reference
        Except.ok (agent, [])
    | none => do
        check (decide (members.length = 1)) .invalidAuthoring
        let ephemeral <- orRefuse ((members.lookup "ephemeral").bind Json.asObject) .invalidAuthoring
        let agent <- fresh.token "mode" (.string "ephemeral")
        ephemeral.foldlM (fun built member => ephemeralMember env member.1 member.2 built)
          (agent, [])
  let configuration <- built.1.finish env "agent_configuration"
  .ok (configuration :: built.2)

/-!
## Delegation and loops
-/

def delegationKinds : List String := ["explorer", "implementer", "reviewer", "verifier"]

def validateDelegation (value : Json) : Except GovernorError Unit := do
  let members <- objectOf value
  let kind := (members.lookup "kind").bind Json.asString
  check (decide (members.length = 1) && kind.any fun kind => decide (kind ∈ delegationKinds))
    .invalidAuthoring

def buildDelegationControl (value : Json) : Except GovernorError PersistedControl := do
  validateDelegation value
  let builder <- fresh.enumToken "kind" ((value.get "kind").getD .null) delegationKinds
  builder.finish env "node_delegation"

def validateLoopControl (value : Json) : Except GovernorError Unit := do
  let members <- objectOf value
  check (decide (members.length = 1)) .invalidAuthoring
  let iterations <- orRefuse (members.lookup "maxIterations") .invalidAuthoring
  validatePositiveInteger iterations

def buildLoopControl (value : Json) : Except GovernorError PersistedControl := do
  validateLoopControl value
  let builder <- fresh.integer "maxIterations" ((value.get "maxIterations").getD .null)
  builder.finish env "node_loop"

/-!
## Contexts, permissions and isolation
-/

def slotEntries (slots : List ContentSlot) (nodeId : String) (fieldKind : ContentFieldKind)
    (ordinal : Nat -> Except GovernorError Nat) (countKey : String) (slotKey : Nat -> String)
    (paths : List Json) (builder : ControlBuilder) : Except GovernorError ControlBuilder := do
  let builder <- builder.count countKey paths.length
  (List.range paths.length).foldlM
    (fun builder index => do
      let ordinal <- ordinal index
      let found <- findSlot slots { ownerKind := .node, ownerId := nodeId, fieldKind, ordinal }
      builder.slot (slotKey index) found)
    builder

def contextInclude (slots : List ContentSlot) (nodeId : String) (index : Nat) (value : Json)
    (builder : ControlBuilder) : Except GovernorError ControlBuilder := do
  let members <- nonemptyObject value
  let includeType := (members.lookup "type").bind Json.asString
  builder.forEachMember members fun key value builder =>
    match key with
    | "type" => builder.token ("includeType." ++ padded index) value
    | "ref" => do
        let includeType <- orRefuse includeType .invalidAuthoring
        let reference <- textOf value
        check (env.contextIncludeReferenceValid includeType reference) .invalidAuthoring
        builder.reference env ("includeRef." ++ padded index) value
    | "node" => builder.token ("includeNode." ++ padded index) value
    | "paths" => do
        check (includeType == some "source_scope") .invalidAuthoring
        let paths <- registeredPathArray value
        slotEntries slots nodeId .contextPath (nestedPathOrdinal index)
          ("scope." ++ padded index ++ "Count")
          (fun path => "scopeSlot." ++ padded index ++ "." ++ padded path) paths builder
    | _ => refused

def buildContextIncludes (slots : List ContentSlot) (nodeId : String) (value : Json)
    (builder : ControlBuilder) : Except GovernorError ControlBuilder := do
  let values <- arrayOf value
  check (decide (values.length <= 32)) .limitExceeded
  let builder <- builder.count "includeCount" values.length
  builder.forEachIndexed values (contextInclude env slots nodeId)

def contextMember (slots : List ContentSlot) (nodeId : String) (key : String) (value : Json)
    (builder : ControlBuilder) : Except GovernorError ControlBuilder :=
  match key with
  | "policyRef" => builder.reference env "policyRef" value
  | "include" => buildContextIncludes env slots nodeId value builder
  | "exclude" => builder.tokenArray "exclude" value
  | "conflicts" => builder.token "conflicts" value
  | "freshness" => do
      let members <- nonemptyObject value
      let builder <- builder.flag "freshnessPresent" (.bool true)
      builder.forEachMember members fun key value builder =>
        match key with
        | "maxAgeDays" => builder.integer "freshnessMaxAgeDays" value
        | "requireRevalidationFor" => builder.tokenArray "revalidate" value
        | _ => refused
  | "budget" => do
      let members <- nonemptyObject value
      let builder <- builder.flag "budgetPresent" (.bool true)
      builder.forEachMember members fun key value builder =>
        match key with
        | "initialTokens" => builder.integer "initialUnits" value
        | "maxTokens" => builder.integer "maxUnits" value
        | _ => refused
  | "expansion" => do
      let members <- nonemptyObject value
      let builder <- builder.flag "expansionPresent" (.bool true)
      builder.forEachMember members fun key value builder =>
        match key with
        | "allowed" => builder.flag "expansionAllowed" value
        | "requiresReason" => builder.flag "expansionRequiresReason" value
        | _ => refused
  | _ => refused

def buildContextControl (slots : List ContentSlot) (nodeId : String) (value : Json) :
    Except GovernorError PersistedControl := do
  let members <- nonemptyObject value
  let builder <- fresh.forEachMember members (contextMember env slots nodeId)
  builder.finish env "node_context"

def permissionScopeMember (slots : List ContentSlot) (nodeId : String) (index : Nat)
    (key : String) (value : Json) (builder : ControlBuilder) :
    Except GovernorError ControlBuilder :=
  match key with
  | "allowlist" => do
      let values <- arrayOf value
      check (decide (values.length <= 16)) .limitExceeded
      builder.tokenArray ("allow." ++ padded index) value
  | "paths" => do
      let paths <- registeredPathArray value
      slotEntries slots nodeId .permissionPath (nestedPathOrdinal index)
        ("scope." ++ padded index ++ "Count")
        (fun path => "scopeSlot." ++ padded index ++ "." ++ padded path) paths builder
  | _ => refused

def buildPermissionScope (slots : List ContentSlot) (nodeId : String) (index : Nat)
    (value : Json) (builder : ControlBuilder) : Except GovernorError ControlBuilder := do
  let members <- nonemptyObject value
  builder.forEachMember members (permissionScopeMember slots nodeId index)

def permissionMember (slots : List ContentSlot) (nodeId : String) (index : Nat) (key : String)
    (value : Json) (builder : ControlBuilder) : Except GovernorError ControlBuilder :=
  match key with
  | "capability" => builder.token ("capability." ++ padded index) value
  | "duration" => builder.token ("duration." ++ padded index) value
  | "scope" => buildPermissionScope slots nodeId index value builder
  | _ => refused

def permissionEntry (slots : List ContentSlot) (nodeId : String) (index : Nat) (value : Json)
    (builder : ControlBuilder) : Except GovernorError ControlBuilder :=
  match value with
  | .string _ => builder.token ("capability." ++ padded index) value
  | .object (member :: rest) =>
      builder.forEachMember (member :: rest) (permissionMember slots nodeId index)
  | _ => refused

def buildPermissionsControl (slots : List ContentSlot) (nodeId : String) (value : Json) :
    Except GovernorError PersistedControl := do
  let values <- arrayOf value
  check (decide (values.length <= 32)) .limitExceeded
  let builder <- fresh.count "permissionCount" values.length
  let builder <- builder.forEachIndexed values (permissionEntry slots nodeId)
  builder.finish env "node_permissions"

/-- `add_resource_integers`, with the key each resource is persisted under. -/
def addResourceIntegers (value : Json) (cpu memoryMb diskMb : String) (builder : ControlBuilder) :
    Except GovernorError ControlBuilder := do
  let members <- nonemptyObject value
  builder.forEachMember members fun key value builder =>
    match key with
    | "cpu" => builder.integer cpu value
    | "memoryMb" => builder.integer memoryMb value
    | "diskMb" => builder.integer diskMb value
    | _ => refused

def isolationCompartment (presentKey modeKey : String) (value : Json)
    (other : String -> Json -> ControlBuilder -> Except GovernorError ControlBuilder)
    (builder : ControlBuilder) : Except GovernorError ControlBuilder := do
  let members <- nonemptyObject value
  let builder <- builder.flag presentKey (.bool true)
  builder.forEachMember members fun key value builder =>
    match key with
    | "mode" => builder.token modeKey value
    | key => other key value builder

def filesystemMember (slots : List ContentSlot) (nodeId : String) (key : String) (value : Json)
    (builder : ControlBuilder) : Except GovernorError ControlBuilder :=
  match key with
  | "writablePaths" => do
      let paths <- registeredPathArray value
      slotEntries slots nodeId .isolationPath ordinalOf "writeScopeCount"
        (fun path => "writeScopeSlot." ++ padded path) paths builder
  | _ => refused

def networkMember (key : String) (value : Json) (builder : ControlBuilder) :
    Except GovernorError ControlBuilder :=
  match key with
  | "allowlist" => builder.tokenArray "networkAllow" value
  | _ => refused

def isolationMember (slots : List ContentSlot) (nodeId : String) (key : String) (value : Json)
    (builder : ControlBuilder) : Except GovernorError ControlBuilder :=
  match key with
  | "minimum" => do
      let tier <- textOf value
      check (isValidIsolationTier tier) .invalidAuthoring
      builder.token "minimum" value
  | "filesystem" =>
      isolationCompartment "filesystemPresent" "filesystemMode" value
        (filesystemMember slots nodeId) builder
  | "network" =>
      isolationCompartment "networkPresent" "networkMode" value networkMember builder
  | "secrets" =>
      isolationCompartment "brokerPresent" "brokerMode" value (fun _ _ _ => refused) builder
  | "resources" =>
      addResourceIntegers value "isolationCpu" "isolationMemoryMb" "isolationDiskMb" builder
  | _ => refused

def buildIsolationControl (slots : List ContentSlot) (nodeId : String) (value : Json) :
    Except GovernorError PersistedControl := do
  let members <- nonemptyObject value
  let builder <- fresh.forEachMember members (isolationMember slots nodeId)
  builder.finish env "node_isolation"

/-!
## Retries and resources
-/

def retryMember (key : String) (value : Json) (builder : ControlBuilder) :
    Except GovernorError ControlBuilder :=
  match key with
  | "maxAttempts" => builder.integer "maxAttempts" value
  | "maxBackoffSeconds" => builder.integer "maxBackoffSeconds" value
  | "backoff" => builder.token "backoff" value
  | "retryOn" => builder.tokenArray "retryOn" value
  | "doNotRetryOn" => builder.tokenArray "noRetry" value
  | "beforeRetry" => builder.tokenArray "beforeRetry" value
  | _ => refused

def buildRetryControl (controlType : String) (value : Json) :
    Except GovernorError PersistedControl := do
  let members <- nonemptyObject value
  let builder <- fresh.forEachMember members retryMember
  builder.finish env controlType

def buildResourcesControl (controlType : String) (value : Json) :
    Except GovernorError PersistedControl := do
  let builder <- addResourceIntegers value "cpu" "memoryMb" "diskMb" fresh
  builder.finish env controlType

/-!
## Completions
-/

def completionStatus (key : String) (value : Json) (builder : ControlBuilder) :
    Except GovernorError ControlBuilder :=
  match key with
  | "full" => builder.token "statusFull" value
  | "waived" => builder.token "statusWaived" value
  | _ => refused

def graphCompletionMember (key : String) (value : Json) (builder : ControlBuilder) :
    Except GovernorError ControlBuilder :=
  match key with
  | "terminalNodes" => builder.tokenArrayUnique "terminal" value
  | "requires" => builder.referenceArray env "requirement" value
  | "allowWaivers" => builder.flag "allowWaivers" value
  | "statuses" => do
      let statuses <- nonemptyObject value
      builder.forEachMember statuses completionStatus
  | _ => refused

def buildGraphCompletion (value : Json) (derivedTerminals : Option (List String)) :
    Except GovernorError PersistedControl := do
  let members <- nonemptyObject value
  let builder <- match derivedTerminals with
    | some terminals => fresh.tokenArrayUnique "terminal" (.array (terminals.map .string))
    | none => .ok fresh
  let builder <- builder.forEachMember members (graphCompletionMember env)
  builder.finish env "graph_completion"

/-- One requirement or prohibition, by the only member it has. -/
def completionItem (slots : List ContentSlot) (nodeId : String) (group : String) (base : Nat)
    (index : Nat) (item : Json) (builder : ControlBuilder) :
    Except GovernorError ControlBuilder :=
  match item with
  | .string _ => builder.token (group ++ "." ++ padded index) item
  | .object [(field, value)] =>
      match field with
      | "outputSchemaValid" => builder.flag (group ++ "SchemaValid." ++ padded index) value
      | "artifactExists" => builder.artifact env (group ++ "Artifact." ++ padded index) value
      | "expression" => do
          let ordinal <- ordinalOf (base + index)
          let found <- findSlot slots
            { ownerKind := .node, ownerId := nodeId, fieldKind := .completionContract, ordinal }
          builder.slot (group ++ "Slot." ++ padded index) found
      | "evidence" => do
          let evidence <- nonemptyObject value
          builder.forEachMember evidence fun child value builder =>
            match child with
            | "type" => builder.token (group ++ "EvidenceType." ++ padded index) value
            | "min" => builder.integer (group ++ "EvidenceMin." ++ padded index) value
            | _ => refused
      | _ => refused
  | _ => refused

def completionGroup (slots : List ContentSlot) (nodeId : String) (group : String) (base : Nat)
    (value : Json) (builder : ControlBuilder) : Except GovernorError ControlBuilder := do
  let items <- arrayOf value
  check (decide (items.length <= 64)) .limitExceeded
  let builder <- builder.count (group ++ "Count") items.length
  builder.forEachIndexed items (completionItem env slots nodeId group base)

def completionCustoms (key : String) (value : Json) (builder : ControlBuilder) :
    Except GovernorError ControlBuilder :=
  match key with
  | "proofKinds" => do
      let items <- arrayOf value
      check (decide (items.length <= 64)) .limitExceeded
      let builder <- builder.count "customsProofCount" items.length
      builder.tokenArrayUnique "customsProof" value
  -- the budgets are persisted as `PersistedNode::customs`
  | "budgets" => .ok builder
  | _ => refused

def completionMember (slots : List ContentSlot) (nodeId : String) (requiresLen : Nat)
    (key : String) (value : Json) (builder : ControlBuilder) :
    Except GovernorError ControlBuilder :=
  match key with
  | "contractRef" => builder.reference env "contractRef" value
  | "requires" => completionGroup env slots nodeId "requires" 0 value builder
  | "forbids" => completionGroup env slots nodeId "forbids" requiresLen value builder
  | "customs" => do
      let customs <- nonemptyObject value
      builder.forEachMember customs completionCustoms
  | _ => refused

def requirementCount (members : List (String × Json)) : Nat :=
  (((members.lookup "requires").bind Json.asArray).map List.length).getD 0

def buildNodeCompletion (slots : List ContentSlot) (nodeId : String) (value : Json) :
    Except GovernorError PersistedControl := do
  let members <- nonemptyObject value
  let builder <- fresh.forEachMember members
    (completionMember env slots nodeId (requirementCount members))
  builder.finish env "node_completion"

/-!
## Policies
-/

/-- `manualOverride`, whose three members are all there. -/
def buildManualOverride (value : Json) (builder : ControlBuilder) :
    Except GovernorError ControlBuilder := do
  let members <- nonemptyObject value
  let listed (key : String) := ((members.lookup key).bind Json.asArray).any fun items =>
    !items.isEmpty
  check (decide (members.length = 3) && isKey members "bypassedRequirements" &&
    isKey members "acknowledgedRisks" && isKey members "resultLabel" &&
    listed "bypassedRequirements" && listed "acknowledgedRisks") .invalidAuthoring
  let builder <- builder.token "mode" (.string "manual_override")
  builder.forEachMember members fun key value builder =>
    match key with
    | "bypassedRequirements" => builder.tokenArrayUnique "bypassedRequirement" value
    | "acknowledgedRisks" => builder.tokenArrayUnique "acknowledgedRisk" value
    | "resultLabel" => builder.token "resultLabel" value
    | _ => refused

def policyText (slots : List ContentSlot) (graphId : String) (ordinal offset : Nat)
    (key : String) (builder : ControlBuilder) : Except GovernorError ControlBuilder := do
  let position <- policyTextOrdinal ordinal offset
  let found <- findSlot slots
    { ownerKind := .policy, ownerId := graphId, fieldKind := .policyText, ordinal := position }
  builder.slot key found

def inlineConstraintMember (slots : List ContentSlot) (graphId : String) (ordinal : Nat)
    (key : String) (value : Json) (builder : ControlBuilder) :
    Except GovernorError ControlBuilder :=
  match key with
  | "deny" => builder.tokenArrayUnique "deny" value
  | "reason" => builder.token "reasonCode" value
  | "manualOverride" => buildManualOverride value builder
  | "ruleText" => policyText slots graphId ordinal 0 "ruleTextSlot" builder
  | "explanation" => policyText slots graphId ordinal 1 "explanationSlot" builder
  | _ => refused

/-- `build_policy_control`; an inline constraint is enforced by what it denies or overrides. -/
def buildPolicyControl (slots : List ContentSlot) (graphId : String) (ordinal : Nat)
    (value : Json) : Except GovernorError PersistedControl :=
  match value with
  | .string _ => policyReference value
  | .object [("ref", reference)] => policyReference reference
  | .object [("inlineConstraint", constraint)] => do
      let builder <- fresh.token "mode" (.string "inline")
      let members <- nonemptyObject constraint
      check (!isKey members "manualOverride" || decide (members.length = 1)) .invalidAuthoring
      let builder <- builder.forEachMember members (inlineConstraintMember slots graphId ordinal)
      check (isKey members "deny" || isKey members "manualOverride") .invalidAuthoring
      builder.finish env "policy_control"
  | _ => refused
where
  policyReference (reference : Json) : Except GovernorError PersistedControl := do
    let builder <- fresh.token "mode" (.string "ref")
    let builder <- builder.reference env "policyRef" reference
    builder.finish env "policy_control"

end Externalize
end GraphHelm
