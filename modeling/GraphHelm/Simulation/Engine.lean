import GraphHelm.Lint.Report

/-!
# The simulator

`simulate` of `core/simulation/src/engine.rs`: a graph is driven from its entrypoints, a node
at a time, by the outcomes its fixtures give.  The loop of the source takes its turns under a
bound that is enough for it to end.
-/

namespace GraphHelm
namespace Externalize
namespace Simulation

open Std

def maxLoopIterations : Nat := 100

def maxSimulationTransitions : Nat := 5000

inductive FixtureOutcome where
  | success
  | failure
  | unknown
deriving DecidableEq

structure SimulationFixtures where
  nodeOutcomes : ExtTreeMap String FixtureOutcome
  conditions : ExtTreeMap String Bool

/-- A version of a graph, as far as a simulation reads it. -/
structure GraphVersion where
  number : Nat
  contentHash : String
  graph : ExecutionGraph

structure ControlledLoop where
  nodes : List String
  limit : Nat
  completed : Nat
deriving DecidableEq

/--
What the simulator is given: the identifier and the instant it asks for, the digest it
keys its events by, and the repository it appends them to.
-/
structure SimulationServices where
  nextId : String
  now : PersistedTimestamp
  actor : PersistedActor
  rawContentSha256 : Bytes -> Option RawSha256
  nextSequence : Except EventRepositoryError Nat
  appendAtomic : Nat -> List NewEvent -> Except EventRepositoryError (List EventEnvelope)

structure SimulationState where
  pending : ExtTreeSet String
  queue : List String
  states : ExtTreeMap String NodeState
  transitions : List (String × NodeState)
  pendingEvents : List NewEvent
  diagnostics : List Diagnostic
  status : SimulationStatus
  loops : List ControlledLoop

structure SimulationResult where
  simulationId : String
  startedAt : PersistedTimestamp
  status : SimulationStatus
  nodeStates : ExtTreeMap String NodeState
  diagnostics : List Diagnostic
  events : List EventEnvelope
  transitions : List (String × NodeState)

/-- What cannot be parsed is an invalid request. -/
def orInvalid {α : Type} : Option α -> Except EventRepositoryError α
  | some value => .ok value
  | none => .error .invalid

/-!
## Controlled loops
-/

section Loops

variable (graph : ExecutionGraph)

def step (reverse : Bool) (node : String) : List String :=
  graph.spec.edges.filterMap fun edge =>
    if reverse then
      if edge.target = node then some edge.source else none
    else
      if edge.source = node then some edge.target else none

/-- The names a walk over the edges may come across. -/
def names (start : String) : List String :=
  start :: graph.spec.edges.flatMap fun edge => [edge.source, edge.target]

/-- `reachable`, whose stack is taken from its top. -/
def reachable (start : String) (reverse : Bool) : List String :=
  Search.search (step graph reverse) (fun rest found => found.reverse ++ rest) (names graph start)
    [start]

/-- A positive `loop.maxIterations`. -/
def loopLimit (node : GraphNode) : Option Nat :=
  (((node.property "loop").bind fun value => value.get "maxIterations").bind Json.asNatural).filter
    fun limit => decide (0 < limit)

def loopNodes (controller : String) : List String :=
  Lint.sorted ((reachable graph controller false).filter fun node =>
    decide (node ∈ reachable graph controller true))

def selfLoop (controller : String) : Bool :=
  graph.spec.edges.any fun edge =>
    decide (edge.source = controller) && decide (edge.target = controller)

/-- The loops with one more controller; two controllers of one loop share it. -/
def addLoop (components : List ControlledLoop) (entry : String × GraphNode) :
    List ControlledLoop :=
  match loopLimit entry.2 with
  | none => components
  | some limit =>
      let nodes := loopNodes graph entry.1
      if nodes.length = 1 ∧ selfLoop graph entry.1 = false then
        components
      else
        match components.findIdx? fun item => item.nodes = nodes with
        | some index =>
            components.modify index fun existing =>
              { existing with limit := max existing.limit limit }
        | none => components ++ [{ nodes := nodes, limit := limit, completed := 0 }]

def controlledLoops : List ControlledLoop :=
  (graph.spec.nodes.foldl (addLoop graph) []).insertionSort fun left right =>
    left.nodes.headD "" <= right.nodes.headD ""

/-- The transitions a simulation may take. -/
def estimated : Nat :=
  graph.spec.nodes.length * 3 +
    ((controlledLoops graph).map fun component =>
      component.nodes.length * component.limit * 3).sum

end Loops

/-!
## Readiness
-/

inductive Readiness where
  | ready
  | waiting
  | unknown (edge : Nat)
  | failed
deriving DecidableEq

def outputCondition (text : String) : Option (String × String) := do
  let (left, expected) <- Evolution.splitOnce " == ".toList text.toList
  let tail <- stripText "nodes." left
  let node <- stripEnd ".output.passed" tail
  some (String.ofList node, String.ofList expected)

def evaluateText (states : ExtTreeMap String NodeState) (fixtures : SimulationFixtures)
    (text : String) : Option Bool :=
  match text with
  | "true" => some true
  | "false" => some false
  | text =>
      fixtures.conditions[text]?.or do
        let (node, expected) <- outputCondition text
        let passed := decide (states[node]? = some .succeeded)
        match expected with
        | "true" => some passed
        | "false" => some !passed
        | _ => none

def evaluateCondition (states : ExtTreeMap String NodeState) (fixtures : SimulationFixtures)
    (edge : GraphEdge) : Option Bool :=
  match edge.condition with
  | none => some true
  | some (.bool value) => some value
  | some (.string text) => evaluateText states fixtures text
  | some _ => none

def edgesReadiness (states : ExtTreeMap String NodeState) (fixtures : SimulationFixtures) :
    List (GraphEdge × Nat) -> Readiness
  | [] => .ready
  | (edge, index) :: rest =>
      if states[edge.source]? ≠ some .succeeded then
        .waiting
      else
        match evaluateCondition states fixtures edge with
        | some true => edgesReadiness states fixtures rest
        | some false => .waiting
        | none =>
            match edge.onUnknown with
            | some .fail => .failed
            | some .skip => .waiting
            | some .pause | some .route | none => .unknown index

def incomingEdges (graph : ExecutionGraph) (node : String) : List (GraphEdge × Nat) :=
  graph.spec.edges.zipIdx.filter fun entry => decide (entry.1.target = node)

def readiness (graph : ExecutionGraph) (states : ExtTreeMap String NodeState)
    (fixtures : SimulationFixtures) (node : String) : Readiness :=
  match incomingEdges graph node with
  | [] => .waiting
  | incoming => edgesReadiness states fixtures incoming

/-!
## Transitions
-/

def simulationIdempotencyKey (services : SimulationServices) (phase : String)
    (simulationId : OpaqueId) (node : Option String) (ordinal : Nat) :
    Except EventRepositoryError OpaqueId := do
  let parts := [utf8 "graphhelm-simulation-idempotency-v1", utf8 phase, utf8 simulationId.text,
    utf8 (node.getD "")]
  if parts.all fun part => decide (part.length < 2 ^ 32) then
    let material := parts.flatMap framed ++ bigEndian 8 ordinal
    let digest <- orInvalid (services.rawContentSha256 material)
    orInvalid (OpaqueId.parse s!"ev-{digest}")
  else
    .error .limitExceeded

def simulationEvent (services : SimulationServices) (key : OpaqueId) (kind : EventKind) :
    NewEvent :=
  { idempotencyKey := key
    actor := services.actor
    sensitivity := .internal
    kind := kind
    evidenceRefs := []
    artifactRefs := [] }

section Driving

variable (graph : ExecutionGraph) (fixtures : SimulationFixtures) (services : SimulationServices)
  (simulationId : OpaqueId)

def transition (node : String) (next : NodeState) (s : SimulationState) :
    Except EventRepositoryError SimulationState := do
  let transitions := s.transitions ++ [(node, next)]
  let key <- simulationIdempotencyKey services "transition" simulationId (some node)
    transitions.length
  let nodeId <- orInvalid (OpaqueId.parse node)
  .ok
    { s with
      states := s.states.insert node next
      transitions := transitions
      pendingEvents := s.pendingEvents ++
        [simulationEvent services key (.nodeStateChanged
          { simulationId := simulationId
            nodeId := nodeId
            previousState := s.states[node]?
            nextState := next })] }

def diagnose (code message path : String) (s : SimulationState) : SimulationState :=
  { s with
    diagnostics := s.diagnostics ++ [Diagnostic.error code message path graph.metadata.id] }

def drive (node : String) (s : SimulationState) : Except EventRepositoryError SimulationState := do
  let s := { s with pending := s.pending.erase node }
  let s <- transition services simulationId node .queued s
  let s <- transition services simulationId node .running s
  match fixtures.nodeOutcomes[node]?.getD .success with
  | .success => transition services simulationId node .succeeded s
  | .failure => do
      let s <- transition services simulationId node .failed s
      .ok { s with status := .failed }
  | .unknown => do
      let s <- transition services simulationId node .paused s
      let s := diagnose graph "GHSIM001_UNKNOWN_CONDITION" "fixture outcome is unknown"
        s!"/spec/nodes/{node}" s
      .ok { s with status := .paused }

def limitTransitions (limit : Nat) (s : SimulationState) : SimulationState :=
  if limit < s.transitions.length then
    { diagnose graph "GHSIM002_STEP_LIMIT_EXCEEDED"
        "simulation exceeded its deterministic transition limit" "/spec/nodes" s with
      status := .blocked }
  else
    s

def drain (limit : Nat) : List String -> SimulationState ->
    Except EventRepositoryError SimulationState
  | [], s => .ok { s with queue := [] }
  | node :: rest, s =>
      if s.pending.contains node then do
        let driven <- drive graph fixtures services simulationId node s
        if driven.status ≠ .running then
          .ok { driven with queue := rest }
        else
          let checked := limitTransitions graph limit driven
          if checked.status ≠ .running then .ok { checked with queue := rest }
          else drain limit rest checked
      else
        drain limit rest s

/-!
## The loop
-/

def discover (s : SimulationState) : List String -> List String -> List String × SimulationState
  | [], found => (found, s)
  | node :: rest, found =>
      match readiness graph s.states fixtures node with
      | .ready => discover s rest (found ++ [node])
      | .waiting => discover s rest found
      | .unknown edge =>
          (found,
            { diagnose graph "GHSIM001_UNKNOWN_CONDITION"
                "condition is outside the deterministic simulation subset"
                s!"/spec/edges/{edge}/condition" s with
              status := .paused })
      | .failed => (found, { s with status := .failed })

def terminalsSucceeded (states : ExtTreeMap String NodeState) : Bool :=
  ((graph.spec.completion.get "terminalNodes").bind Json.asArray).any fun items =>
    !items.isEmpty &&
      (items.filterMap Json.asString).all fun id => decide (states[id]? = some .succeeded)

/-- Whether no node of a loop has been driven yet. -/
def ControlledLoop.isUntouched (states : ExtTreeMap String NodeState) (component : ControlledLoop) :
    Bool :=
  decide (component.completed = 0) && component.nodes.all fun node => !states.contains node

/-- A loop that was driven from outside has completed its first iteration. -/
def ControlledLoop.settle (states : ExtTreeMap String NodeState) (component : ControlledLoop) :
    ControlledLoop :=
  if component.completed = 0 ∧ component.nodes.all fun node =>
      decide (states[node]? = some .succeeded) then
    { component with completed := 1 }
  else
    component

def ControlledLoop.iterate (component : ControlledLoop) : ControlledLoop :=
  { component with completed := component.completed + 1 }

/-- What is done when no node is ready: another iteration of a loop, or the end. -/
def iterate (s : SimulationState) : SimulationState :=
  match s.loops.findIdx? (ControlledLoop.isUntouched s.states) with
  | some index =>
      { s with
        queue := s.queue ++ (s.loops[index]?.map fun component => component.nodes.take 1).getD []
        loops := s.loops.modify index ControlledLoop.iterate }
  | none =>
      if terminalsSucceeded graph s.states then
        let loops := s.loops.map (ControlledLoop.settle s.states)
        match loops.findIdx? fun component => decide (component.completed < component.limit) with
        | some index =>
            let nodes := (loops[index]?.map ControlledLoop.nodes).getD []
            { s with
              pending := s.pending.insertMany nodes
              queue := s.queue ++ nodes.take 1
              loops := loops.modify index ControlledLoop.iterate }
        | none => { s with loops := loops, status := .completed }
      else
        { s with status := .blocked }

/-- One turn of the outer loop. -/
def turn (limit : Nat) (s : SimulationState) : Except EventRepositoryError SimulationState := do
  let s <- drain graph fixtures services simulationId limit s.queue s
  if s.status ≠ .running then
    .ok s
  else
    let (discovered, s) := discover graph fixtures s s.pending.toList []
    if s.status ≠ .running then .ok s
    else if discovered.isEmpty then .ok (iterate graph s)
    else .ok { s with queue := s.queue ++ discovered }

/-- The outer loop goes on while the simulation is running. -/
def nextTurn (limit : Nat) (s : Except EventRepositoryError SimulationState) :
    Option (Except EventRepositoryError SimulationState) :=
  match s with
  | .ok s =>
      if s.status = .running then
        some (turn graph fixtures services simulationId limit s)
      else
        none
  | .error _ => none

end Driving

/-!
## The simulation
-/

section Simulate

variable (version : GraphVersion) (fixtures : SimulationFixtures) (services : SimulationServices)

/-- The variables of the loop as it is entered. -/
def started (event : NewEvent) : SimulationState :=
  let graph := version.graph
  let s : SimulationState :=
    { pending := ExtTreeSet.ofList (graph.spec.nodes.map Prod.fst)
      queue := graph.spec.entrypoints
      states := ∅
      transitions := []
      pendingEvents := [event]
      diagnostics := []
      status := .running
      loops := controlledLoops graph }
  if (s.loops.any fun component => decide (maxLoopIterations < component.limit)) ∨
      maxSimulationTransitions < estimated graph then
    { diagnose graph "GHSIM002_STEP_LIMIT_EXCEEDED"
        "controlled loop exceeds the deterministic simulation step limit" "/spec/nodes" s with
      status := .blocked }
  else
    s

def transitionLimit : Nat := min (estimated version.graph) maxSimulationTransitions

def turnsLeft (s : SimulationState) : Nat :=
  2 * (s.pending.size + (s.loops.map fun component =>
    (component.limit - component.completed) * (component.nodes.length + 1)).sum) +
    if s.queue.any s.pending.contains then 0 else 1

/-- The loop, from its first turn to its end. -/
def simulated (simulationId : OpaqueId) (event : NewEvent) :
    Except EventRepositoryError SimulationState :=
  let s := started version event
  exhaust (nextTurn version.graph fixtures services simulationId (transitionLimit version))
    (turnsLeft s + 1) (.ok s)

def simulate : Except EventRepositoryError SimulationResult := do
  let simulationId <- orInvalid (OpaqueId.parse services.nextId)
  let graphHash <- orInvalid (parseWireHash version.contentHash)
  let startedKey <- simulationIdempotencyKey services "started" simulationId none 0
  let startedEvent := simulationEvent services startedKey (.simulationStarted
    { simulationId := simulationId, graphVersion := version.number, graphHash := graphHash })
  let s <- simulated version fixtures services simulationId startedEvent
  let completedKey <- simulationIdempotencyKey services "completed" simulationId none
    s.transitions.length
  let completedEvent := simulationEvent services completedKey (.simulationCompleted
    { simulationId := simulationId, status := s.status })
  let next <- services.nextSequence
  let events <- services.appendAtomic next (s.pendingEvents ++ [completedEvent])
  .ok
    { simulationId := simulationId.text
      startedAt := services.now
      status := s.status
      nodeStates := s.states
      diagnostics := s.diagnostics
      events := events
      transitions := s.transitions }

end Simulate

end Simulation
end Externalize
end GraphHelm
