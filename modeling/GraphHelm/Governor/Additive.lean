import GraphHelm.Governor.Calls
import Mathlib.Data.List.Dedup
import Mathlib.Data.List.Perm.Subperm

/-!
# What a governed acceptance adds

A draft that is accepted while its execution is paused only adds nodes and edges to the
version that is active, and the batch it comes to assigns and approves each node it adds.
-/

namespace GraphHelm

open Std

/-!
## Operations that only add
-/

section Widening

variable {env : GovernorEnvironment} {graph widened : ExecutionGraph}
  {operations : List DraftOperation}

def DraftOperation.addedEdge : DraftOperation -> Option AuthoredEdge
  | .addEdge edge => some edge
  | _ => none

structure Widens (operations : List DraftOperation) (graph widened : ExecutionGraph) : Prop where
  kept : forall {id : String} {node : AuthoredNode}, graph.nodes[id]? = some node ->
    widened.nodes[id]? = some node
  known : forall {id : String}, id ∈ widened.nodes ->
    id ∈ graph.nodes ∨ id ∈ operations.filterMap DraftOperation.addedNode
  fresh : forall {id : String}, id ∈ operations.filterMap DraftOperation.addedNode ->
    ¬ id ∈ graph.nodes
  distinct : (operations.filterMap DraftOperation.addedNode).Nodup
  edges : widened.edges = graph.edges ++ operations.filterMap DraftOperation.addedEdge
  newEdges : forall {edge : AuthoredEdge}, edge ∈ operations.filterMap DraftOperation.addedEdge ->
    ¬ edge ∈ graph.edges

theorem Widens.refl : Widens [] graph graph := by
  constructor
  · exact id
  · exact Or.inl
  · exact nofun
  · exact List.nodup_nil
  · exact (List.append_nil _).symm
  · exact nofun

theorem Widens.addNode {id : String} {node : AuthoredNode} {between : ExecutionGraph}
    (hfree : ¬ id ∈ graph.nodes)
    (hbetween : between = { graph with nodes := graph.nodes.insert id node })
    (h : Widens operations between widened) :
    Widens (.addNode id node :: operations) graph widened := by
  subst hbetween
  have hadded : (DraftOperation.addNode id node :: operations).filterMap DraftOperation.addedNode =
      id :: operations.filterMap DraftOperation.addedNode := rfl
  have hedges : (DraftOperation.addNode id node :: operations).filterMap DraftOperation.addedEdge =
      operations.filterMap DraftOperation.addedEdge := rfl
  have hmem : forall other, other ∈ graph.nodes.insert id node <-> id = other ∨ other ∈ graph.nodes := by
    intro other
    rw [ExtTreeMap.mem_insert, LawfulEqOrd.compare_eq_iff_eq]
  constructor
  · intro other found hget
    apply h.kept
    rw [OrderedMap.getElem?_insert_of_ne]
    · exact hget
    · rintro rfl
      exact hfree (ExtTreeMap.mem_iff_isSome_getElem?.mpr (Option.isSome_of_eq_some hget))
  · intro other hin
    rw [hadded, List.mem_cons]
    rcases h.known hin with hold | hnew
    · rcases (hmem other).mp hold with rfl | hold
      · exact Or.inr (Or.inl rfl)
      · exact Or.inl hold
    · exact Or.inr (Or.inr hnew)
  · intro other hin
    rw [hadded, List.mem_cons] at hin
    rcases hin with rfl | hin
    · exact hfree
    · exact fun hold => h.fresh hin ((hmem other).mpr (Or.inr hold))
  · rw [hadded, List.nodup_cons]
    exact ⟨fun hin => h.fresh hin ((hmem id).mpr (Or.inl rfl)), h.distinct⟩
  · rw [hedges]
    exact h.edges
  · rw [hedges]
    exact h.newEdges

theorem Widens.addEdge {edge : AuthoredEdge} {between : ExecutionGraph}
    (hfree : forall item, item ∈ graph.edges -> item.id ≠ edge.id)
    (hbetween : between = { graph with edges := graph.edges ++ [edge] })
    (h : Widens operations between widened) :
    Widens (.addEdge edge :: operations) graph widened := by
  subst hbetween
  have hadded : (DraftOperation.addEdge edge :: operations).filterMap DraftOperation.addedNode =
      operations.filterMap DraftOperation.addedNode := rfl
  have hedges : (DraftOperation.addEdge edge :: operations).filterMap DraftOperation.addedEdge =
      edge :: operations.filterMap DraftOperation.addedEdge := rfl
  constructor
  · exact h.kept
  · rw [hadded]
    exact h.known
  · rw [hadded]
    exact h.fresh
  · rw [hadded]
    exact h.distinct
  · rw [hedges, h.edges, List.append_assoc]
    rfl
  · intro other hin
    rw [hedges, List.mem_cons] at hin
    rcases hin with rfl | hin
    · exact fun hold => hfree other hold rfl
    · exact fun hold => h.newEdges hin (List.mem_append_left _ hold)

theorem widens_of_applyOperations
    (hadds : forall operation, operation ∈ operations ->
      operation.addedNode ≠ none ∨ operation.addedEdge ≠ none)
    (h : applyOperations env graph operations = .ok widened) : Widens operations graph widened := by
  unfold applyOperations at h
  induction operations generalizing graph with
  | nil =>
      cases h
      exact Widens.refl
  | cons operation rest ih =>
      rw [List.foldlM_cons] at h
      rcases bind_ok h with ⟨between, hfirst, hrest⟩
      have hlater := ih (fun other hmem => hadds other (List.mem_cons_of_mem _ hmem)) hrest
      unfold applyOperation at hfirst
      cases operation with
      | addNode id node =>
          rcases check_ok hfirst with ⟨hfree, hfirst⟩
          cases hfirst
          refine Widens.addNode ?_ rfl hlater
          intro hin
          rw [ExtTreeMap.contains_iff_mem.mpr hin] at hfree
          cases hfree
      | addEdge edge =>
          rcases check_ok hfirst with ⟨hfree, hfirst⟩
          cases hfirst
          refine Widens.addEdge ?_ rfl hlater
          intro item hitem
          exact bne_iff_ne.mp (List.all_eq_true.mp hfree item hitem)
      | removeNode id =>
          exact (hadds _ List.mem_cons_self).elim (absurd rfl) (absurd rfl)
      | patchNode id patch =>
          exact (hadds _ List.mem_cons_self).elim (absurd rfl) (absurd rfl)
      | removeEdge id =>
          exact (hadds _ List.mem_cons_self).elim (absurd rfl) (absurd rfl)

end Widening

/-!
## What a batch does with a node
-/

/-- How an event of the governor moves a node. -/
inductive NodeMove where
  | proposed
  | assigned (actor : PersistedActor)
  | recorded (outcome : NodeOutcome) (next : NodeState)
deriving DecidableEq

def nodeMove (node : String) : EventKind -> Option NodeMove
  | .ghostNodeProposed payload => if payload.nodeId.text = node then some .proposed else none
  | .nodeAssigned payload =>
      if payload.nodeId.text = node then some (.assigned payload.assignedActor) else none
  | .nodeOutcomeRecorded payload =>
      if payload.nodeId.text = node then some (.recorded payload.outcome payload.nextState)
      else none
  | _ => none

def movesOf (node : String) (events : List NewEvent) : List NodeMove :=
  events.filterMap fun event => nodeMove node event.kind

section Moves

variable {env : GovernorEnvironment} {request : RequestIdentity} {executionId : OpaqueId}
  {node : String}

theorem movesOf_cons (event : NewEvent) (rest : List NewEvent) :
    movesOf node (event :: rest) = (nodeMove node event.kind).toList ++ movesOf node rest := by
  unfold movesOf
  rw [List.filterMap_cons]
  cases nodeMove node event.kind with
  | none => rfl
  | some move => rfl

theorem movesOf_append (first second : List NewEvent) :
    movesOf node (first ++ second) = movesOf node first ++ movesOf node second :=
  List.filterMap_append

theorem movesOf_eq_nil {events : List NewEvent}
    (h : forall event, event ∈ events -> nodeMove node event.kind = none) :
    movesOf node events = [] :=
  List.filterMap_eq_nil_iff.mpr h

theorem movesOf_ghosts {refs : List EvidenceReference} {index : Nat}
    {operations : List DraftOperation} {ghosts : List NewEvent}
    (h : ghostEvents env request executionId refs index operations = .ok ghosts) :
    movesOf node ghosts =
      List.replicate ((operations.filterMap DraftOperation.addedNode).count node) .proposed := by
  induction operations generalizing index ghosts with
  | nil =>
      cases h
      rfl
  | cons operation rest ih =>
      cases hadded : operation.addedNode with
      | none =>
          rw [ghostEvents_skip hadded] at h
          rw [List.filterMap_cons_none hadded]
          exact ih h
      | some id =>
          rcases ghostEvents_cons hadded h with ⟨key, payload, more, _, hnode, _, _, rfl, hmore⟩
          rw [List.filterMap_cons_some hadded]
          have hfirst : nodeMove node
              (newEvent key request.actor (.ghostNodeProposed payload) refs).kind =
                if id = node then some .proposed else none := by
            rw [← hnode]
            rfl
          rcases Decidable.em (id = node) with rfl | hne
          · rw [if_pos rfl] at hfirst
            rw [movesOf_cons, hfirst, List.count_cons_self, List.replicate_succ, ih hmore]
            rfl
          · rw [if_neg hne] at hfirst
            rw [movesOf_cons, hfirst, List.count_cons_of_ne hne, ih hmore]
            rfl

def movesOfEntry (entry : OpaqueId × PersistedActor) : List NodeMove :=
  [.assigned entry.2, .recorded .approved .ready]

theorem movesOf_decisions {acceptance : ExecutionDraftAcceptance}
    {entries : List (OpaqueId × PersistedActor)} {decisions : List (List NewEvent)}
    (h : entries.mapM (decisionEvents env request acceptance executionId) = .ok decisions) :
    movesOf node decisions.flatten =
      (entries.filter fun entry => decide (entry.1.text = node)).flatMap movesOfEntry := by
  induction Except.mapM_eq_ok.mp h with
  | nil => rfl
  | cons hevents hrest ih =>
      rename_i entry events entries more
      rcases decisionEvents_eq_ok hevents with ⟨assignedKey, approvedKey, _, _, rfl⟩
      rw [List.flatten_cons, movesOf_append, ih (Except.mapM_eq_ok.mpr hrest), List.filter_cons]
      rcases Decidable.em (entry.1.text = node) with heq | hne
      · have hpair : movesOf node
            [newEvent assignedKey request.actor (assignmentKind acceptance executionId entry) [],
              newEvent approvedKey request.actor (approvalKind executionId entry.1) []] =
              movesOfEntry entry := by
          simp [movesOf, newEvent, assignmentKind, approvalKind, nodeMove, heq, movesOfEntry]
        rw [hpair, if_pos (decide_eq_true heq), List.flatMap_cons]
      · have hpair : movesOf node
            [newEvent assignedKey request.actor (assignmentKind acceptance executionId entry) [],
              newEvent approvedKey request.actor (approvalKind executionId entry.1) []] = [] := by
          simp [movesOf, newEvent, assignmentKind, approvalKind, nodeMove, hne]
        rw [hpair, List.nil_append]
        simp [hne]

theorem movesOf_application {publication : Publication} {acceptance : ExecutionDraftAcceptance}
    {parts : ApplicationParts}
    (h : BuildsApplication env request publication (some acceptance) parts) :
    movesOf node parts.events =
      List.replicate ((request.draft.operations.filterMap DraftOperation.addedNode).count node)
          .proposed ++
        (acceptance.assignments.filter fun entry => decide (entry.1.text = node)).flatMap
          movesOfEntry := by
  rcases acceptanceEvents_eq_ok h.decided with
    ⟨decisions, key, payload, hdecisions, _, _, _, _, _, hdecided⟩
  have hevaluated : movesOf node parts.evaluated = [] := by
    apply movesOf_eq_nil
    intro event hmem
    rcases obligationEvents_kind h.evaluated hmem with ⟨payload, hkind⟩
    rw [hkind]
    rfl
  have hwaived : movesOf node parts.waived = [] := by
    apply movesOf_eq_nil
    intro event hmem
    rcases waiverEvents_kind h.waived hmem with ⟨waiver, hkind⟩
    rw [hkind]
    rfl
  have hhead : movesOf node [parts.published, parts.snapshot] = [] := by
    simp [movesOf, h.published_kind, h.snapshot_kind, publishedKind, snapshotKind, nodeMove]
  have haccepted : movesOf node [newEvent key request.actor (.mutationAccepted payload) []] = [] :=
    rfl
  have hlast : movesOf node [parts.applied] = [] := by
    simp [movesOf, h.applied.kind_eq, nodeMove]
  have hsplit : parts.events = parts.evaluated ++ parts.waived ++
      [parts.published, parts.snapshot] ++ (parts.ghosts ++ parts.decided) ++ [parts.applied] := by
    simp [ApplicationParts.events, ApplicationParts.middle]
  rw [hsplit, hdecided]
  simp only [movesOf_append, hevaluated, hwaived, hhead, hlast, haccepted, List.nil_append,
    List.append_nil]
  rw [movesOf_ghosts h.ghosts, movesOf_decisions hdecisions]

theorem movesOf_proposal {services : ApplyServices}
    {stream : GovernedStream env.toEnvironment services.scope services.streamId}
    {proposal : NewEvent} (h : proposed env request = .ok proposal) :
    movesOf node (proposalUnlessRecorded env services stream proposal) = [] := by
  rcases proposed_eq_ok h with ⟨payload, digest, hcarries, _⟩
  rcases @proposalUnlessRecorded_eq env services stream proposal with hnone | hone
  · rw [hnone]
    rfl
  · rw [hone]
    simp [movesOf, hcarries.kind_eq, nodeMove]

end Moves

/-!
## What an acceptance was checked for
-/

section Checked

variable {env : GovernorEnvironment} {draft : GraphDraft} {acceptance : ExecutionDraftAcceptance}
  {history : List EventEnvelope} {projection : ExecutionProjection}

/-- What the acceptance gate has made sure of. -/
structure AcceptanceChecked (draft : GraphDraft) (acceptance : ExecutionDraftAcceptance)
    (projection : ExecutionProjection) : Prop where
  idle : forall {node : String} {state : NodeState}, projection.nodeStates[node]? = some state ->
    state ≠ .running
  additive : forall operation, operation ∈ draft.operations ->
    isAdditive projection draft operation = true
  agents : forall entry, entry ∈ acceptance.assignments -> entry.2.actorType = .agent
  covered : forall entry, entry ∈ acceptance.assignments ->
    entry.1.text ∈ draft.proposedNodes
  counted : draft.proposedNodes.dedup.length = acceptance.assignments.length

theorem checkAcceptance_eq_ok
    (h : checkAcceptance env draft acceptance history projection = .ok ()) :
    AcceptanceChecked draft acceptance projection := by
  unfold checkAcceptance at h
  rcases check_ok h with ⟨_, h⟩
  rcases check_ok h with ⟨_, h⟩
  rcases bind_ok h with ⟨digest, _, h⟩
  rcases check_ok h with ⟨_, h⟩
  rcases check_ok h with ⟨_, h⟩
  rcases check_ok h with ⟨hpaused, h⟩
  rcases check_ok h with ⟨hadditive, h⟩
  have hcover := check_eq_ok.mp h
  unfold assignmentsCover at hcover
  simp only [Bool.and_eq_true, decide_eq_true_eq, List.all_eq_true, List.contains_iff_mem]
    at hcover
  constructor
  · rintro node state hstate rfl
    rw [Bool.and_eq_true, Bool.not_eq_true', OrderedMap.any_eq_any_toList, List.any_eq_false]
      at hpaused
    exact hpaused.right _ (ExtTreeMap.mem_toList_iff_getElem?_eq_some.mpr hstate)
      (decide_eq_true rfl)
  · exact List.all_eq_true.mp hadditive
  · exact fun entry hmem => (hcover.left entry hmem).left
  · exact fun entry hmem => (hcover.left entry hmem).right
  · exact hcover.right

theorem AcceptanceChecked.assigned (h : AcceptanceChecked draft acceptance projection)
    {node : String} (hnode : node ∈ draft.proposedNodes) :
    exists entry, entry.2.actorType = .agent ∧
      (acceptance.assignments.filter fun entry => decide (entry.1.text = node)) = [entry] := by
  let names := acceptance.assignments.map fun entry => entry.1.text
  have hdistinct : names.Nodup := by
    have hmap : names = (acceptance.assignments.map Prod.fst).map OpaqueId.text := by
      rw [List.map_map]
      rfl
    rw [hmap]
    exact acceptance.distinct.map fun _ _ => OpaqueId.text_injective
  have hsubset : names ⊆ draft.proposedNodes.dedup := by
    intro name hname
    rcases List.mem_map.mp hname with ⟨entry, hentry, rfl⟩
    exact List.mem_dedup.mpr (h.covered entry hentry)
  -- As many names as nodes, and every name is one of them: they are the same.
  have hperm : names.Perm draft.proposedNodes.dedup := by
    apply (List.subperm_of_subset hdistinct hsubset).perm_of_length_le
    rw [h.counted, List.length_map]
  rcases List.mem_map.mp (hperm.mem_iff.mpr (List.mem_dedup.mpr hnode)) with ⟨entry, hentry, rfl⟩
  exact ⟨entry, h.agents entry hentry, OrderedMap.filter_key_eq_singleton hdistinct hentry⟩

theorem AcceptanceChecked.adds (h : AcceptanceChecked draft acceptance projection)
    {operation : DraftOperation} (hmem : operation ∈ draft.operations) :
    operation.addedNode ≠ none ∨ operation.addedEdge ≠ none := by
  have hadditive := h.additive operation hmem
  cases operation with
  | addNode id node => exact Or.inl nofun
  | addEdge edge => exact Or.inr nofun
  | removeNode id => cases hadditive
  | patchNode id patch => cases hadditive
  | removeEdge id => cases hadditive

end Checked

/-!
## What is committed
-/

/-- A node that the execution has taken beyond `Draft` and `Ready`. -/
def HasLeft (projection : ExecutionProjection) (node : String) : Prop :=
  exists state, projection.nodeStates[node]? = some state ∧ state ≠ .draft ∧ state ≠ .ready

/--
What a governed acceptance owes: the version keeps the nodes and edges of its base, every
node it adds is proposed, assigned to one agent and approved by the batch, no edge it adds
leads to a node that has left `Draft` and `Ready`, and no node was running.
-/
structure GovernedAddition (base : GraphVersion) (projection : ExecutionProjection)
    (version : GraphVersion) (added : List EventEnvelope) : Prop where
  nodes : forall {id : String} {node : AuthoredNode}, base.graph.nodes[id]? = some node ->
    version.graph.nodes[id]? = some node
  edges : base.graph.edges <+: version.graph.edges
  moves : forall {id : String}, id ∈ version.graph.nodes -> ¬ id ∈ base.graph.nodes ->
    exists actor : PersistedActor, actor.actorType = .agent ∧
      movesOf id (added.map EventEnvelope.toNewEvent) =
        [.proposed, .assigned actor, .recorded .approved .ready]
  untouched : forall {edge : AuthoredEdge}, edge ∈ version.graph.edges ->
    ¬ edge ∈ base.graph.edges -> ¬ HasLeft projection edge.to
  idle : forall {node : String} {state : NodeState},
    projection.nodeStates[node]? = some state -> state ≠ .running

def LeadsToNewNodes (draft : GraphDraft) (projection : ExecutionProjection) : Prop :=
  forall edge, DraftOperation.addEdge edge ∈ draft.operations ->
    edge.to ∈ draft.proposedNodes -> ¬ HasLeft projection edge.to

structure IsRejection (draft : GraphDraft) (added : List EventEnvelope) : Prop where
  ends : exists front last payload, added = front ++ [last] ∧
    last.kind = .draftRejected payload ∧ payload.draftId.text = draft.id ∧
      forall event, event ∈ front ->
        (exists payload, event.kind = .draftProposed payload) ∨
          exists payload, event.kind = .policyObligationEvaluated payload

section Committed

variable {env : GovernorEnvironment} {services : ApplyServices} {seen : Sightings env services}
  {stream : GovernedStream env.toEnvironment services.scope services.streamId}
  {call : ApplyCall} {base : GraphVersion} {draft : GraphDraft}
  {acceptance : ExecutionDraftAcceptance}

/-- A call that appended, and answered with what it appended. -/
def Commits (stream : GovernedStream env.toEnvironment services.scope services.streamId)
    (applied : Applied env services) (result : ApplyResult) : Prop :=
  applied.answer = .ok result ∧ applied.stream.events ≠ stream.events

theorem mem_addedEdge {operations : List DraftOperation} {edge : AuthoredEdge} :
    edge ∈ operations.filterMap DraftOperation.addedEdge <->
      DraftOperation.addEdge edge ∈ operations := by
  rw [List.mem_filterMap]
  constructor
  · rintro ⟨operation, hmem, hedge⟩
    cases operation with
    | addEdge other =>
        cases hedge
        exact hmem
    | addNode id node => cases hedge
    | removeNode id => cases hedge
    | patchNode id patch => cases hedge
    | removeEdge id => cases hedge
  · exact fun hmem => ⟨_, hmem, rfl⟩

/-- An edge of an additive draft leads to a node it adds, or to one still in `Draft` or `Ready`. -/
theorem AcceptanceChecked.edge {projection : ExecutionProjection}
    (h : AcceptanceChecked draft acceptance projection) {edge : AuthoredEdge}
    (hmem : DraftOperation.addEdge edge ∈ draft.operations) :
    edge.to ∈ draft.proposedNodes ∨ ¬ HasLeft projection edge.to := by
  have hadditive := h.additive _ hmem
  unfold isAdditive at hadditive
  dsimp only at hadditive
  split at hadditive
  · rename_i hproposed
    exact Or.inl (List.contains_iff_mem.mp hproposed)
  · apply Or.inr
    rintro ⟨state, hstate, hdraft, hready⟩
    rw [hstate, Bool.or_eq_true, decide_eq_true_eq, decide_eq_true_eq] at hadditive
    exact hadditive.elim hdraft hready

theorem governedAddition_iff {projection : ExecutionProjection} {graph : ExecutionGraph}
    {number : Nat} {identity : WireHash} {actor : PersistedActor} {publication : Publication}
    {proposal : NewEvent} {news : List NewEvent} {added : List EventEnvelope}
    (hchecked : AcceptanceChecked draft acceptance projection)
    (happlied : applyOperations env base.graph draft.operations = .ok graph)
    (hversion : publication.version.graph = candidateOf base number graph)
    (hproposal : proposed env (requestOf draft identity actor) = .ok proposal)
    (hnews : applicationEvents env (requestOf draft identity actor) publication (some acceptance) =
      .ok news)
    (hcarries : added.map EventEnvelope.toNewEvent =
      proposalUnlessRecorded env services stream proposal ++ news) :
    GovernedAddition base projection publication.version added <->
      LeadsToNewNodes draft projection := by
  have hwidens : Widens draft.operations base.graph graph :=
    widens_of_applyOperations (fun operation hmem => hchecked.adds hmem) happlied
  have hedges : publication.version.graph.edges =
      base.graph.edges ++ draft.operations.filterMap DraftOperation.addedEdge := by
    rw [hversion]
    exact hwidens.edges
  constructor
  · intro h edge hmem _
    have hadded := mem_addedEdge.mpr hmem
    apply h.untouched
    · rw [hedges]
      exact List.mem_append_right _ hadded
    · exact hwidens.newEdges hadded
  · intro h
    constructor
    · intro id node hget
      rw [hversion]
      exact hwidens.kept hget
    · rw [hedges]
      exact List.prefix_append _ _
    · intro id hin hout
      rw [hversion] at hin
      have hnode : id ∈ draft.proposedNodes := (hwidens.known hin).resolve_left hout
      rcases hchecked.assigned hnode with ⟨entry, hagent, hentry⟩
      rcases applicationEvents_eq_ok hnews with ⟨parts, hparts, rfl⟩
      refine ⟨entry.2, hagent, ?_⟩
      rw [hcarries, movesOf_append, movesOf_proposal hproposal, movesOf_application hparts, hentry]
      have honce : (draft.operations.filterMap DraftOperation.addedNode).count id = 1 :=
        List.count_eq_one_of_mem hwidens.distinct hnode
      show List.replicate
        ((draft.operations.filterMap DraftOperation.addedNode).count id) _ ++ _ = _
      rw [honce]
      rfl
    · intro edge hin hout
      rw [hedges] at hin
      have hmem := mem_addedEdge.mp ((List.mem_append.mp hin).resolve_left hout)
      rcases hchecked.edge hmem with hproposed | hstays
      · exact h edge hmem hproposed
      · exact hstays
    · exact hchecked.idle

theorem isRejection_of_rejectionEvents {identity : WireHash} {actor : PersistedActor}
    {error : ApplyError} {obligations : List PolicyObligation} {news : List NewEvent}
    {added : List EventEnvelope}
    (h : rejectionEvents env (requestOf draft identity actor) obligations error = .ok news)
    (hcarries : added.map EventEnvelope.toNewEvent = news) : IsRejection draft added := by
  unfold rejectionEvents at h
  rcases bind_ok h with ⟨proposal, hproposal, h⟩
  rcases bind_ok h with ⟨evaluated, hevaluated, h⟩
  rcases bind_ok h with ⟨draftId, hdraft, h⟩
  rcases bind_ok h with ⟨rejected, hrejected, h⟩
  cases h
  rw [← List.cons_append, List.map_eq_append_iff] at hcarries
  rcases hcarries with ⟨front, rest, rfl, hfront, hrest⟩
  rcases List.map_eq_singleton_iff.mp hrest with ⟨last, rfl, hlast⟩
  have hkind : last.kind = rejected.kind := congrArg NewEvent.kind hlast
  rw [(carriesPayload_of_governorEvent hrejected).kind_eq] at hkind
  refine ⟨front, last, _, rfl, hkind, opaqueId_eq_ok hdraft, ?_⟩
  intro event hmem
  have hcarried : event.toNewEvent ∈ proposal :: evaluated := by
    rw [← hfront]
    exact List.mem_map_of_mem hmem
  rcases List.mem_cons.mp hcarried with heq | hobligation
  · rcases proposed_eq_ok hproposal with ⟨payload, digest, hpayload, _⟩
    exact Or.inl ⟨payload, (congrArg NewEvent.kind heq).trans hpayload.kind_eq⟩
  · exact Or.inr (obligationEvents_kind hevaluated hobligation)

/--
What a call commits on an acceptance is the addition it promises exactly if no edge of its
draft leads to a node that the draft adds again after the execution has driven it; a call that
commits nothing leaves the stream as it is, or with the batch of a rejection.
-/
theorem governed_acceptance_additive_iff (hgrow : seen.Grow stream) :
    (forall result,
        Commits stream
            (applyDraftAmong env services seen stream call base draft (some acceptance)) result ->
          exists projection,
            replay env.toEnvironment services.scope services.streamId.text stream.events =
                .ok projection ∧
              (applyDraftAmong env services seen stream call base draft
                (some acceptance)).stream.events = stream.events ++ result.events ∧
              (GovernedAddition base projection result.version result.events <->
                LeadsToNewNodes draft projection)) ∧
      ((¬ exists result, Commits stream
          (applyDraftAmong env services seen stream call base draft (some acceptance)) result) ->
        (applyDraftAmong env services seen stream call base draft
            (some acceptance)).stream.events = stream.events ∨
          exists added, (applyDraftAmong env services seen stream call base draft
              (some acceptance)).stream.events = stream.events ++ added ∧
            IsRejection draft added) := by
  have hleaves := @leavesAmong env services seen stream call base draft (some acceptance)
  generalize applyDraftAmong env services seen stream call base draft (some acceptance) = applied
    at hleaves
  cases hleaves with
  | refused error =>
      exact ⟨fun result hcommits => absurd rfl hcommits.right, fun _ => Or.inl rfl⟩
  | recovered events result hrecovered =>
      exact ⟨fun result hcommits => absurd rfl hcommits.right, fun _ => Or.inl rfl⟩
  | rejected identity actor error obligations news added after hnews hafter =>
      constructor
      · intro result hcommits
        cases hcommits.left
      · intro _
        exact Or.inr
          ⟨added, hafter.events, isRejection_of_rejectionEvents hnews hafter.carries⟩
  | published publication proposal news added after hposition hpublishes hafter =>
      have hallowed := hpublishes.allowed
      rcases hpublishes.prepared with ⟨baseSafeHash, candidate, hjudged, hprepares⟩
      rcases hpublishes.requested with ⟨identity, actor, hproposal, hnews⟩
      have hversion := (GraphVersion.publish_eq_ok hprepares.published).left
      have hcommits : Commits stream
          { answer := .ok (answerOf publication added), stream := after }
          (answerOf publication added) := by
        refine ⟨rfl, fun hsame => ?_⟩
        have hnone : added = [] := List.append_right_eq_self.mp (hafter.events.symm.trans hsame)
        have hcarries := hafter.carries
        rcases applicationEvents_eq_ok hnews with ⟨parts, _, rfl⟩
        rw [hnone] at hcarries
        have hempty := (List.append_eq_nil_iff.mp hcarries.symm).right
        simp [ApplicationParts.events] at hempty
      constructor
      · rintro result ⟨hanswer, _⟩
        cases hanswer
        unfold acceptanceAllows at hallowed
        rw [(hgrow.events_eq hposition).left] at hallowed
        cases hreplay : replay env.toEnvironment services.scope services.streamId.text
            stream.events with
        | error error =>
            rw [hreplay] at hallowed
            cases hallowed
        | ok projection =>
            rw [hreplay] at hallowed
            refine ⟨projection, rfl, hafter.events, ?_⟩
            generalize publication.policyReport = report at hjudged
            cases hjudged with
            | governed hnumber hbinds graph number hcandidate hvalid hfree =>
                exact governedAddition_iff (checkAcceptance_eq_ok hallowed) hcandidate.applied
                  hversion hproposal hnews hafter.carries
      · exact fun hnone => absurd ⟨_, hcommits⟩ hnone

end Committed

/-!
## A node that is added again
-/

namespace Sample

def briefDigest (bytes : List UInt8) : RawSha256 :=
  match bytes.reverse with
  | _ :: 0 :: _ => String.ofList (List.replicate 64 '0')
  | last :: _ =>
      String.ofList ([last.toNat / 16, last.toNat % 16, bytes.length % 16].map Nat.digitChar)
  | [] => "0"

def briefEnv : GovernorEnvironment :=
  { governorEnv with rawContentSha256 := fun bytes => some (briefDigest bytes) }

def replannedHash : String := s!"sha256:{spelledDigest (toBeBytes 2)}"

def replannedVersion : GraphVersion :=
  { plannedVersion with
    graph :=
      { planned with
        metadata := { planned.metadata with version := 2, basedOn := some "graph" } }
    predecessor := some { number := 1, contentHash := plannedVersion.contentHash }
    contentHash := replannedHash }

def replannedEvent : NewEvent :=
  event "replanned"
    (.graphVersionPublished
      { number := 2
        semanticHash := replannedHash
        predecessor := some { number := 1, semanticHash := plannedVersion.contentHash }
        createdBy := { actorType := .owner, id := "owner" }
        createdAt := 0
        topology := { executionId := id "execution", nodes := ∅ }
        contentSlots := []
        body := "" })

def building : GraphDraft :=
  { id := "draft"
    expectedVersion := 2
    expectedHash := some replannedHash
    expectedSafeHash := none
    operations :=
      [.addNode "build"
          { nodeType := .agent
            name := "Build"
            objective := "Build the change"
            optionality := .optional
            properties := ∅ },
        .addEdge { id := "review-build", «to» := "build", body := "" }]
    manualOverride := none }

def buildingEvent : NewEvent :=
  event "proposal"
    (.draftProposed
      { draftId := id "draft"
        expectedVersion := 2
        expectedHash := some replannedHash
        expectedSafeHash := none
        operationCount := 2
        proposalSha256 := some (briefDigest (utf8 "draft")) })

def buildingAcceptance : ExecutionDraftAcceptance :=
  { draftId := id "draft"
    mode := .manual
    proposalSha256 := briefDigest (utf8 "draft")
    assignments := [(id "build", { actorType := .agent, id := "worker" })]
    decisionKey := none
    decisionNode := none
    distinct := List.nodup_singleton _ }

/-- An execution that was driven, planned anew, and paused with the draft proposed. -/
def replanning (driven : List NewEvent) :
    GovernedStream briefEnv.toEnvironment applyServices.scope applyServices.streamId :=
  { toVerifiedStream := verified
      (plannedEvent :: started :: (driven ++ [replannedEvent, buildingEvent, paused "pause"]))
    batches :=
      [history
        (plannedEvent :: started :: (driven ++ [replannedEvent, buildingEvent, paused "pause"]))]
    flattened := List.append_nil _ }

/-- The node ran to its end in the version before. -/
def built : List NewEvent :=
  [outcome "approve" "build" .approved .ready, outcome "run" "build" .started .running,
    outcome "end" "build" .succeeded .succeeded]

def accepting (driven : List NewEvent) : Applied briefEnv applyServices :=
  applyDraftAmong briefEnv applyServices (Sightings.alone (replanning driven))
    (replanning driven) (applyCall (driven.length + 5)) replannedVersion building
    (some buildingAcceptance)

def accepted (driven : List NewEvent) : Option (List AuthoredEdge × Nat × Bool) :=
  (accepting driven).answer.toOption.map fun result =>
    (result.version.graph.edges, (accepting driven).stream.events.length,
      (replay briefEnv.toEnvironment applyServices.scope applyServices.streamId.text
        (accepting driven).stream.events).isOk)

theorem accepting_commits {driven : List NewEvent} {edges : List AuthoredEdge} {length : Nat}
    {readable : Bool} (h : accepted driven = some (edges, length, readable))
    (hgrows : length ≠ (replanning driven).events.length) :
    (replay briefEnv.toEnvironment applyServices.scope applyServices.streamId.text
        (accepting driven).stream.events).isOk = readable ∧
      exists result, Commits (replanning driven) (accepting driven) result ∧
        result.version.graph.edges = edges := by
  unfold accepted at h
  cases hanswer : (accepting driven).answer with
  | error error =>
      rw [hanswer] at h
      cases h
  | ok result =>
      rw [hanswer] at h
      rcases Prod.mk.inj (Option.some.inj h) with ⟨hedges, hrest⟩
      rcases Prod.mk.inj hrest with ⟨hlength, hreadable⟩
      refine ⟨hreadable, result, ⟨hanswer, fun hsame => hgrows ?_⟩, hedges⟩
      rw [← hlength, hsame]

/-- What the acceptance of the draft publishes beside the node it adds. -/
def buildingEdges : List AuthoredEdge := [{ id := "review-build", «to» := "build", body := "" }]

def buildState (driven : List NewEvent) : Option (Option NodeState) :=
  (replay briefEnv.toEnvironment applyServices.scope applyServices.streamId.text
    (replanning driven).events).toOption.map fun projection => projection.nodeStates["build"]?

theorem exists_projection {driven : List NewEvent} {state : Option NodeState}
    (h : buildState driven = some state) :
    exists projection,
      replay briefEnv.toEnvironment applyServices.scope applyServices.streamId.text
          (replanning driven).events = .ok projection ∧
        projection.nodeStates["build"]? = state := by
  unfold buildState at h
  cases hreplay : replay briefEnv.toEnvironment applyServices.scope
      applyServices.streamId.text (replanning driven).events with
  | error error =>
      rw [hreplay] at h
      cases h
  | ok projection =>
      rw [hreplay] at h
      exact ⟨projection, rfl, Option.some.inj h⟩

end Sample

/-- A node that ran to its end gains an edge when it is added again, and the history is lost. -/
theorem added_again_gains_an_edge :
    exists result projection,
      Commits (Sample.replanning Sample.built) (Sample.accepting Sample.built) result ∧
        replay Sample.briefEnv.toEnvironment Sample.applyServices.scope
            Sample.applyServices.streamId.text (Sample.replanning Sample.built).events =
          .ok projection ∧
        ¬ GovernedAddition Sample.replannedVersion projection result.version result.events ∧
        (replay Sample.briefEnv.toEnvironment Sample.applyServices.scope
          Sample.applyServices.streamId.text
          (Sample.accepting Sample.built).stream.events).isOk = false := by
  have haccepted : Sample.accepted Sample.built = some (Sample.buildingEdges, 16, false) := by
    decide +kernel
  rcases Sample.accepting_commits haccepted (by decide +kernel) with
    ⟨hlost, result, hcommits, hresult⟩
  have hstate : Sample.buildState Sample.built = some (some .succeeded) := by decide +kernel
  rcases Sample.exists_projection hstate with ⟨projection, hreplay, hsucceeded⟩
  refine ⟨result, projection, hcommits, hreplay, fun hadds => ?_, hlost⟩
  have hnew : { id := "review-build", «to» := "build", body := "" } ∈
      result.version.graph.edges := by
    rw [hresult]
    exact List.mem_cons_self
  exact hadds.untouched hnew List.not_mem_nil ⟨.succeeded, hsucceeded, nofun, nofun⟩

theorem building_is_an_addition :
    exists result projection,
      Commits (Sample.replanning []) (Sample.accepting []) result ∧
        GovernedAddition Sample.replannedVersion projection result.version result.events := by
  have haccepted : Sample.accepted [] = some (Sample.buildingEdges, 13, true) := by
    decide +kernel
  rcases Sample.accepting_commits haccepted (by decide +kernel) with ⟨_, result, hcommits, _⟩
  have hstate : Sample.buildState [] = some none := by decide +kernel
  rcases Sample.exists_projection hstate with ⟨_, hreplay, hunknown⟩
  rcases (governed_acceptance_additive_iff Sightings.alone_grow).left result hcommits with
    ⟨projection, hprojection, _, hadds⟩
  rw [Except.ok.inj (hreplay.symm.trans hprojection)] at hunknown
  refine ⟨result, projection, hcommits, hadds.mpr ?_⟩
  rintro edge hmem _ ⟨state, hstate, _⟩
  have htarget : edge.to = "build" := by
    rcases List.mem_cons.mp hmem with hfirst | hrest
    · cases hfirst
    · cases List.mem_singleton.mp hrest
      rfl
  rw [htarget, hunknown] at hstate
  cases hstate

end GraphHelm
