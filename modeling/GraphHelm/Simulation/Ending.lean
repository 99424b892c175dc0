import GraphHelm.Simulation.Engine

/-!
# A simulation ends

Every turn that leaves a simulation running drives a pending node, finds nodes for a queue
that had none, or takes an iteration from a loop, and there is only so much of each.
-/

namespace GraphHelm
namespace Externalize
namespace Simulation

open Std

/-!
## Transitions
-/

section Transitions

variable {graph : ExecutionGraph} {fixtures : SimulationFixtures} {services : SimulationServices}
  {simulationId : OpaqueId} {node : String} {next : NodeState} {s s' : SimulationState}

/-- What a transition makes of the variables, its event apart. -/
structure Transits (node : String) (next : NodeState) (s s' : SimulationState) : Prop where
  pending : s'.pending = s.pending
  queue : s'.queue = s.queue
  states : s'.states = s.states.insert node next
  transitions : s'.transitions = s.transitions ++ [(node, next)]
  status : s'.status = s.status
  loops : s'.loops = s.loops

theorem transits_of_transition (h : transition services simulationId node next s = .ok s') :
    Transits node next s s' := by
  unfold transition at h
  rcases bind_ok h with ⟨key, _, h⟩
  rcases bind_ok h with ⟨nodeId, _, h⟩
  cases h
  exact ⟨rfl, rfl, rfl, rfl, rfl, rfl⟩

structure DrivenTo (node : String) (last : NodeState) (s s' : SimulationState) : Prop where
  pending : s'.pending = s.pending.erase node
  queue : s'.queue = s.queue
  states : s'.states = s.states.insert node last
  transitions : s'.transitions = s.transitions ++ [(node, .queued), (node, .running), (node, last)]
  loops : s'.loops = s.loops

theorem drivenTo_of_transits {queued running : SimulationState}
    (hqueued : Transits node .queued { s with pending := s.pending.erase node } queued)
    (hrunning : Transits node .running queued running) (hlast : Transits node next running s') :
    DrivenTo node next s s' ∧ s'.status = s.status := by
  constructor
  · constructor
    · rw [hlast.pending, hrunning.pending, hqueued.pending]
    · rw [hlast.queue, hrunning.queue, hqueued.queue]
    · rw [hlast.states, hrunning.states, hqueued.states, OrderedMap.insert_insert_self,
        OrderedMap.insert_insert_self]
    · rw [hlast.transitions, hrunning.transitions, hqueued.transitions, List.append_assoc,
        List.append_assoc]
      rfl
    · rw [hlast.loops, hrunning.loops, hqueued.loops]
  · rw [hlast.status, hrunning.status, hqueued.status]

def outcomeOf (fixtures : SimulationFixtures) (node : String) : FixtureOutcome :=
  fixtures.nodeOutcomes[node]?.getD .success

def FixtureOutcome.target : FixtureOutcome -> NodeState
  | .success => .succeeded
  | .failure => .failed
  | .unknown => .paused

theorem drive_eq_ok (h : drive graph fixtures services simulationId node s = .ok s') :
    DrivenTo node (outcomeOf fixtures node).target s s' ∧
      (outcomeOf fixtures node = .success -> s'.status = s.status) ∧
      (outcomeOf fixtures node ≠ .success -> s'.status ≠ .running) := by
  unfold drive at h
  rcases bind_ok h with ⟨queued, hqueued, h⟩
  rcases bind_ok h with ⟨running, hrunning, h⟩
  have hdriven := fun {last final} (hlast : transition services simulationId node last running =
      .ok final) =>
    drivenTo_of_transits (transits_of_transition hqueued) (transits_of_transition hrunning)
      (transits_of_transition hlast)
  change (match outcomeOf fixtures node with
    | .success => _
    | .failure => _
    | .unknown => _) = _ at h
  cases houtcome : outcomeOf fixtures node with
  | success =>
      rw [houtcome] at h
      rcases hdriven h with ⟨hto, hstatus⟩
      exact ⟨hto, fun _ => hstatus, fun hne => absurd rfl hne⟩
  | failure =>
      rw [houtcome] at h
      rcases bind_ok h with ⟨failed, hfailed, h⟩
      cases h
      rcases hdriven hfailed with ⟨hto, _⟩
      exact ⟨⟨hto.pending, hto.queue, hto.states, hto.transitions, hto.loops⟩, nofun, nofun⟩
  | unknown =>
      rw [houtcome] at h
      rcases bind_ok h with ⟨paused, hpaused, h⟩
      cases h
      rcases hdriven hpaused with ⟨hto, _⟩
      exact ⟨⟨hto.pending, hto.queue, hto.states, hto.transitions, hto.loops⟩, nofun, nofun⟩

end Transitions

/-!
## The inner loop
-/

section Draining

variable {graph : ExecutionGraph} {fixtures : SimulationFixtures} {services : SimulationServices}
  {simulationId : OpaqueId} {limit : Nat} {s s' : SimulationState}

theorem limitTransitions_cases (graph : ExecutionGraph) (limit : Nat) (s : SimulationState) :
    limitTransitions graph limit s = s ∧ s.transitions.length <= limit ∨
      (limitTransitions graph limit s).status ≠ .running ∧
        (limitTransitions graph limit s).pending = s.pending ∧
        (limitTransitions graph limit s).loops = s.loops ∧ limit < s.transitions.length := by
  unfold limitTransitions
  split
  · exact Or.inr ⟨nofun, rfl, rfl, ‹_›⟩
  · exact Or.inl ⟨rfl, Nat.le_of_not_lt ‹_›⟩

theorem size_erase_lt {set : ExtTreeSet String} {key : String} (h : set.contains key = true) :
    (set.erase key).size < set.size := by
  have hpos : set.size ≠ 0 := fun hzero =>
    ExtTreeSet.ne_empty_of_mem (ExtTreeSet.contains_iff_mem.mp h)
      (ExtTreeSet.eq_empty_iff_size_eq_zero.mpr hzero)
  rw [ExtTreeSet.size_erase, if_pos h]
  omega

structure Drains (waiting : List String) (s s' : SimulationState) : Prop where
  loops : s'.loops = s.loops
  size : s'.pending.size <= s.pending.size
  queue : s'.status = .running -> s'.queue = []
  drives : s'.status = .running -> waiting.any s.pending.contains = true ->
    s'.pending.size < s.pending.size

theorem Drains.stopped {waiting : List String} (hloops : s'.loops = s.loops)
    (hsize : s'.pending.size <= s.pending.size) (hstatus : s'.status ≠ .running) :
    Drains waiting s s' :=
  ⟨hloops, hsize, fun hrunning => absurd hrunning hstatus,
    fun hrunning => absurd hrunning hstatus⟩

theorem drains_of_drain {waiting : List String}
    (h : drain graph fixtures services simulationId limit waiting s = .ok s') :
    Drains waiting s s' := by
  induction waiting generalizing s with
  | nil =>
      cases h
      exact ⟨rfl, Nat.le_refl _, fun _ => rfl, fun _ hany => absurd hany Bool.false_ne_true⟩
  | cons node rest ih =>
      unfold drain at h
      cases hpending : s.pending.contains node with
      | false =>
          rw [hpending, if_neg Bool.false_ne_true] at h
          have hrest := ih h
          refine ⟨hrest.loops, hrest.size, hrest.queue, ?_⟩
          intro hrunning hany
          rw [List.any_cons, hpending, Bool.false_or] at hany
          exact hrest.drives hrunning hany
      | true =>
          rw [hpending, if_pos rfl] at h
          rcases bind_ok h with ⟨driven, hdrive, h⟩
          have hto := (drive_eq_ok hdrive).left
          have hless : driven.pending.size < s.pending.size := by
            rw [hto.pending]
            exact size_erase_lt hpending
          rcases Decidable.em (driven.status = .running) with hgoes | hstops
          · rw [if_neg (not_not_intro hgoes)] at h
            rcases limitTransitions_cases graph limit driven with
              ⟨hsame, _⟩ | ⟨hstatus, hkept, hloops, _⟩
            · dsimp only at h
              rw [hsame, if_neg (not_not_intro hgoes)] at h
              have hrest := ih h
              have hfewer := Nat.lt_of_le_of_lt hrest.size hless
              exact ⟨hrest.loops.trans hto.loops, Nat.le_of_lt hfewer, hrest.queue,
                fun _ _ => hfewer⟩
            · dsimp only at h
              rw [if_pos hstatus] at h
              cases h
              refine Drains.stopped (hloops.trans hto.loops) ?_ hstatus
              show (limitTransitions graph limit driven).pending.size <= s.pending.size
              rw [hkept]
              exact Nat.le_of_lt hless
          · rw [if_pos hstops] at h
            cases h
            exact Drains.stopped hto.loops (Nat.le_of_lt hless) hstops

end Draining

/-!
## The outer loop
-/

section Turning

variable {graph : ExecutionGraph} {fixtures : SimulationFixtures} {services : SimulationServices}
  {simulationId : OpaqueId} {limit : Nat} {s s' : SimulationState}

theorem discover_spec {nodes found discovered : List String}
    (h : discover graph fixtures s nodes found = (discovered, s')) :
    s'.pending = s.pending ∧ s'.queue = s.queue ∧ s'.states = s.states ∧
      s'.transitions = s.transitions ∧ s'.loops = s.loops ∧
      forall node, node ∈ discovered -> node ∈ found ∨
        node ∈ nodes ∧ readiness graph s.states fixtures node = .ready := by
  induction nodes generalizing found with
  | nil =>
      cases h
      exact ⟨rfl, rfl, rfl, rfl, rfl, fun _ hmem => Or.inl hmem⟩
  | cons node rest ih =>
      unfold discover at h
      have hlater : forall {other : String}, other ∈ found ∨
          other ∈ rest ∧ readiness graph s.states fixtures other = .ready ->
            other ∈ found ∨ other ∈ node :: rest ∧
              readiness graph s.states fixtures other = .ready := by
        rintro other (hold | ⟨hmem, hready⟩)
        · exact Or.inl hold
        · exact Or.inr ⟨List.mem_cons_of_mem node hmem, hready⟩
      cases hready : readiness graph s.states fixtures node with
      | ready =>
          rw [hready] at h
          rcases ih h with ⟨hpending, hqueue, hstates, htransitions, hloops, hfound⟩
          refine ⟨hpending, hqueue, hstates, htransitions, hloops, ?_⟩
          intro other hmem
          rcases hfound other hmem with hold | hnew
          · rcases List.mem_append.mp hold with hold | hlast
            · exact Or.inl hold
            · rw [List.mem_singleton.mp hlast]
              exact Or.inr ⟨List.mem_cons_self, hready⟩
          · exact hlater (Or.inr hnew)
      | waiting =>
          rw [hready] at h
          rcases ih h with ⟨hpending, hqueue, hstates, htransitions, hloops, hfound⟩
          exact ⟨hpending, hqueue, hstates, htransitions, hloops,
            fun other hmem => hlater (hfound other hmem)⟩
      | unknown edge =>
          rw [hready] at h
          cases h
          exact ⟨rfl, rfl, rfl, rfl, rfl, fun _ hmem => Or.inl hmem⟩
      | failed =>
          rw [hready] at h
          cases h
          exact ⟨rfl, rfl, rfl, rfl, rfl, fun _ hmem => Or.inl hmem⟩

end Turning

/-!
## What is left to do
-/

section Work

variable {graph : ExecutionGraph} {s : SimulationState}

/-- The work of the iterations a loop has left: its nodes once more, and the iteration. -/
def ControlledLoop.work (component : ControlledLoop) : Nat :=
  (component.limit - component.completed) * (component.nodes.length + 1)

def SimulationState.work (s : SimulationState) : Nat :=
  s.pending.size + (s.loops.map ControlledLoop.work).sum

variable {loops : List ControlledLoop}

theorem sum_modify {component : ControlledLoop} {index : Nat}
    (hindex : loops[index]? = some component) :
    ((loops.modify index ControlledLoop.iterate).map ControlledLoop.work).sum + component.work =
      (loops.map ControlledLoop.work).sum + component.iterate.work := by
  induction loops generalizing index with
  | nil => cases hindex
  | cons first rest ih =>
      cases index with
      | zero =>
          cases hindex
          simp only [List.modify_zero_cons, List.map_cons, List.sum_cons]
          omega
      | succ index =>
          have hrest := ih hindex
          simp only [List.modify_succ_cons, List.map_cons, List.sum_cons]
          omega

theorem ControlledLoop.work_iterate {component : ControlledLoop}
    (h : component.completed < component.limit) :
    component.work = component.iterate.work + (component.nodes.length + 1) := by
  have hless : component.limit - component.completed =
      (component.limit - (component.completed + 1)) + 1 := by omega
  unfold ControlledLoop.work ControlledLoop.iterate
  rw [hless, Nat.add_mul, Nat.one_mul]

theorem ControlledLoop.work_settle (states : ExtTreeMap String NodeState)
    (component : ControlledLoop) : (component.settle states).work <= component.work := by
  unfold ControlledLoop.settle
  split
  · rename_i hsettled
    unfold ControlledLoop.work
    exact Nat.mul_le_mul_right _ (by dsimp only; omega)
  · exact Nat.le_refl _

theorem ControlledLoop.limit_settle (states : ExtTreeMap String NodeState)
    (component : ControlledLoop) : (component.settle states).limit = component.limit := by
  unfold ControlledLoop.settle
  split
  · rfl
  · rfl

theorem sum_settle (states : ExtTreeMap String NodeState) (loops : List ControlledLoop) :
    ((loops.map (ControlledLoop.settle states)).map ControlledLoop.work).sum <=
      (loops.map ControlledLoop.work).sum := by
  induction loops with
  | nil => exact Nat.le_refl _
  | cons first rest ih =>
      have hfirst := first.work_settle states
      simp only [List.map_cons, List.sum_cons]
      omega

/-- Every loop of the simulation has an iteration to give. -/
def Limited (loops : List ControlledLoop) : Prop :=
  forall component, component ∈ loops -> 0 < component.limit

theorem Limited.modify (h : Limited loops) (index : Nat) :
    Limited (loops.modify index ControlledLoop.iterate) := by
  induction loops generalizing index with
  | nil =>
      rw [List.modify_nil]
      exact h
  | cons first rest ih =>
      have hrest : Limited rest := fun component hmem => h component (List.mem_cons_of_mem _ hmem)
      intro component hmem
      cases index with
      | zero =>
          rw [List.modify_zero_cons] at hmem
          rcases List.mem_cons.mp hmem with rfl | hmem
          · exact h first List.mem_cons_self
          · exact hrest component hmem
      | succ index =>
          rw [List.modify_succ_cons] at hmem
          rcases List.mem_cons.mp hmem with rfl | hmem
          · exact h _ List.mem_cons_self
          · exact ih hrest index component hmem

theorem Limited.settle (h : Limited loops) (states : ExtTreeMap String NodeState) :
    Limited (loops.map (ControlledLoop.settle states)) := by
  intro component hmem
  rcases List.mem_map.mp hmem with ⟨earlier, hearlier, rfl⟩
  rw [ControlledLoop.limit_settle]
  exact h earlier hearlier

theorem getElem?_of_findIdx? {p : ControlledLoop -> Bool} {index : Nat}
    (h : loops.findIdx? p = some index) :
    exists component, loops[index]? = some component ∧ component ∈ loops ∧ p component = true := by
  rcases List.findIdx?_eq_some_iff_getElem.mp h with ⟨hlt, hp, _⟩
  exact ⟨loops[index], List.getElem?_eq_getElem hlt, List.getElem_mem hlt, hp⟩

theorem work_iterate (hlimited : Limited s.loops) (hrunning : (iterate graph s).status = .running) :
    Limited (iterate graph s).loops ∧ (iterate graph s).work < s.work := by
  unfold iterate at hrunning ⊢
  cases hstart : s.loops.findIdx? (ControlledLoop.isUntouched s.states) with
  | some index =>
      rcases getElem?_of_findIdx? hstart with ⟨component, hindex, hmem, huntouched⟩
      have hfresh : component.completed = 0 := by
        unfold ControlledLoop.isUntouched at huntouched
        rw [Bool.and_eq_true, decide_eq_true_eq] at huntouched
        exact huntouched.left
      have hless : component.completed < component.limit := by
        rw [hfresh]
        exact hlimited component hmem
      have hsum := sum_modify hindex
      have hwork := component.work_iterate hless
      constructor
      · exact hlimited.modify index
      · unfold SimulationState.work
        dsimp only
        omega
  | none =>
      rw [hstart] at hrunning
      dsimp only at hrunning ⊢
      cases hterminals : terminalsSucceeded graph s.states with
      | false =>
          rw [hterminals, if_neg Bool.false_ne_true] at hrunning
          cases hrunning
      | true =>
          rw [hterminals, if_pos rfl] at hrunning
          rw [if_pos rfl]
          cases hnext : (s.loops.map (ControlledLoop.settle s.states)).findIdx? fun component =>
              decide (component.completed < component.limit) with
          | none =>
              rw [hnext] at hrunning
              cases hrunning
          | some index =>
              rcases getElem?_of_findIdx? hnext with ⟨component, hindex, _, hless⟩
              have hsum := sum_modify hindex
              have hwork := component.work_iterate (of_decide_eq_true hless)
              have hsettled := sum_settle s.states s.loops
              have hsize := @ExtTreeSet.size_insertMany_list_le _ _ s.pending _ component.nodes
              dsimp only
              rw [hindex, Option.map_some, Option.getD_some]
              constructor
              · exact (hlimited.settle s.states).modify index
              · unfold SimulationState.work
                dsimp only
                omega

end Work

/-!
## The end
-/

section Ending

variable {graph : ExecutionGraph} {fixtures : SimulationFixtures} {services : SimulationServices}
  {simulationId : OpaqueId} {limit : Nat} {s s' : SimulationState}

structure Turns (graph : ExecutionGraph) (fixtures : SimulationFixtures)
    (s drained s' : SimulationState) : Prop where
  drains : Drains s.queue s drained
  running : drained.status = .running
  next :
    (exists discovered, discovered ≠ [] ∧
      (forall node, node ∈ discovered -> node ∈ drained.pending) ∧
        s' = { drained with queue := discovered }) ∨
    s' = iterate graph drained

/-- A search that leaves the simulation running has changed nothing. -/
theorem discover_running {nodes found discovered : List String}
    (h : discover graph fixtures s nodes found = (discovered, s'))
    (hrunning : s'.status = .running) : s' = s := by
  induction nodes generalizing found with
  | nil =>
      cases h
      rfl
  | cons node rest ih =>
      unfold discover at h
      cases hready : readiness graph s.states fixtures node with
      | ready =>
          rw [hready] at h
          exact ih h
      | waiting =>
          rw [hready] at h
          exact ih h
      | unknown edge =>
          rw [hready] at h
          cases h
          cases hrunning
      | failed =>
          rw [hready] at h
          cases h
          cases hrunning

theorem turn_running (h : turn graph fixtures services simulationId limit s = .ok s')
    (hrunning : s'.status = .running) : exists drained, Turns graph fixtures s drained s' := by
  unfold turn at h
  rcases bind_ok h with ⟨drained, hdrain, h⟩
  have hdrains := drains_of_drain hdrain
  rcases Decidable.em (drained.status = .running) with hgoes | hstops
  · rw [if_neg (not_not_intro hgoes)] at h
    refine ⟨drained, hdrains, hgoes, ?_⟩
    cases hdiscover : discover graph fixtures drained drained.pending.toList [] with
    | mk discovered searched =>
        rw [hdiscover] at h
        dsimp only at h
        rcases Decidable.em (searched.status = .running) with hsearched | hstops
        · rw [if_neg (not_not_intro hsearched)] at h
          have hsame := discover_running hdiscover hsearched
          subst hsame
          rcases (discover_spec hdiscover) with ⟨_, _, _, _, _, hfound⟩
          cases discovered with
          | nil =>
              cases h
              exact Or.inr rfl
          | cons node rest =>
              cases h
              refine Or.inl ⟨node :: rest, nofun, ?_, ?_⟩
              · intro other hmem
                rcases hfound other hmem with hnone | hpending
                · cases hnone
                · exact ExtTreeSet.mem_toList.mp hpending.left
              · rw [hdrains.queue hgoes]
                rfl
        · rw [if_pos hstops] at h
          cases h
          exact absurd hrunning hstops
  · rw [if_pos hstops] at h
    cases h
    exact absurd hrunning hstops

theorem turnsLeft_turn (hlimited : Limited s.loops)
    (h : turn graph fixtures services simulationId limit s = .ok s')
    (hrunning : s'.status = .running) : Limited s'.loops ∧ turnsLeft s' < turnsLeft s := by
  rcases turn_running h hrunning with ⟨drained, hturns⟩
  have hloops := hturns.drains.loops
  have hwork : drained.work <= s.work := by
    unfold SimulationState.work
    rw [hloops]
    exact Nat.add_le_add_right hturns.drains.size _
  have hdriven : s.queue.any s.pending.contains = true -> drained.work < s.work := by
    intro hany
    unfold SimulationState.work
    rw [hloops]
    exact Nat.add_lt_add_right (hturns.drains.drives hturns.running hany) _
  have hless : 2 * drained.work < turnsLeft s := by
    show 2 * drained.work < 2 * s.work + if s.queue.any s.pending.contains then 0 else 1
    cases hany : s.queue.any s.pending.contains with
    | true =>
        have hfewer := hdriven hany
        rw [if_pos rfl]
        omega
    | false =>
        rw [if_neg Bool.false_ne_true]
        omega
  rcases hturns.next with ⟨discovered, hsome, hpending, rfl⟩ | rfl
  · constructor
    · rw [show ({ drained with queue := discovered } : SimulationState).loops = s.loops from hloops]
      exact hlimited
    · have hany : discovered.any drained.pending.contains = true := by
        rcases List.exists_mem_of_ne_nil discovered hsome with ⟨node, hmem⟩
        exact List.any_eq_true.mpr
          ⟨node, hmem, ExtTreeSet.contains_iff_mem.mpr (hpending node hmem)⟩
      show 2 * drained.work + (if discovered.any drained.pending.contains then 0 else 1) < turnsLeft s
      rw [hany, if_pos rfl]
      exact hless
  · rcases work_iterate (hloops ▸ hlimited) hrunning with ⟨hstill, hfewer⟩
    constructor
    · exact hstill
    · have hflag : turnsLeft (iterate graph drained) <= 2 * (iterate graph drained).work + 1 := by
        show 2 * (iterate graph drained).work + (if _ then 0 else 1) <= _
        split
        · omega
        · omega
      omega

theorem loopLimit_pos {node : GraphNode} {bound : Nat} (h : loopLimit node = some bound) :
    0 < bound :=
  of_decide_eq_true (Option.filter_eq_some_iff.mp h).right

theorem Limited.addLoop {components : List ControlledLoop} (h : Limited components)
    (entry : String × GraphNode) : Limited (addLoop graph components entry) := by
  unfold Simulation.addLoop
  cases hlimit : loopLimit entry.2 with
  | none => exact h
  | some bound =>
      have hpos := loopLimit_pos hlimit
      dsimp only
      split
      · exact h
      · split
        · rename_i index _
          intro component hmem
          rcases List.mem_iff_getElem?.mp hmem with ⟨place, hplace⟩
          rw [List.getElem?_modify] at hplace
          rcases Option.map_eq_some_iff.mp hplace with ⟨earlier, hearlier, hchanged⟩
          have hpositive := h earlier (List.mem_of_getElem? hearlier)
          split at hchanged
          · rw [← hchanged]
            exact Nat.lt_of_lt_of_le hpositive (Nat.le_max_left _ _)
          · rw [← hchanged]
            exact hpositive
        · intro component hmem
          rcases List.mem_append.mp hmem with hold | hlast
          · exact h component hold
          · rw [List.mem_singleton.mp hlast]
            exact hpos

theorem limited_controlledLoops (graph : ExecutionGraph) : Limited (controlledLoops graph) := by
  have hfold : forall (entries : List (String × GraphNode)) (components : List ControlledLoop),
      Limited components -> Limited (entries.foldl (addLoop graph) components) := by
    intro entries
    induction entries with
    | nil => exact fun _ h => h
    | cons entry rest ih => exact fun components h => ih _ (h.addLoop entry)
  intro component hmem
  unfold controlledLoops at hmem
  exact hfold _ [] nofun component ((List.mem_insertionSort _).mp hmem)

def measure : Except EventRepositoryError SimulationState -> Nat
  | .ok s => if s.status = .running then turnsLeft s + 1 else 0
  | .error _ => 0

theorem started_loops (version : GraphVersion) (event : NewEvent) :
    (started version event).loops = controlledLoops version.graph := by
  unfold started
  dsimp only
  split
  · rfl
  · rfl

theorem measure_of_running (h : s.status = .running) : measure (.ok s) = turnsLeft s + 1 :=
  if_pos h

theorem measure_of_stopped (h : s.status ≠ .running) : measure (.ok s) = 0 :=
  if_neg h

def Proceeds (Inv : SimulationState -> Prop)
    (result : Except EventRepositoryError SimulationState) : Prop :=
  forall s, result = .ok s -> Inv s ∧ (s.status = .running -> Limited s.loops)

theorem nextTurn_eq_some {result result' : Except EventRepositoryError SimulationState}
    (h : nextTurn graph fixtures services simulationId limit result = some result') :
    exists s, result = .ok s ∧ s.status = .running ∧
      turn graph fixtures services simulationId limit s = result' := by
  cases result with
  | error error => cases h
  | ok s =>
      rcases Option.ite_none_right_eq_some.mp h with ⟨hrunning, hturn⟩
      exact ⟨s, rfl, hrunning, Option.some.inj hturn⟩

theorem simulated_rule {version : GraphVersion} {event : NewEvent}
    {Inv : SimulationState -> Prop} (hstart : Inv (started version event))
    (hturn : forall {s s'}, Inv s -> s.status = .running ->
      turn version.graph fixtures services simulationId (transitionLimit version) s = .ok s' ->
        Inv s')
    (h : simulated version fixtures services simulationId event = .ok s) :
    Inv s ∧ s.status ≠ .running := by
  have hopen : Proceeds Inv (.ok (started version event)) := by
    intro first hfirst
    cases hfirst
    refine ⟨hstart, fun _ => ?_⟩
    rw [started_loops]
    exact limited_controlledLoops version.graph
  have hstep : forall result result', Proceeds Inv result ->
      nextTurn version.graph fixtures services simulationId (transitionLimit version) result =
        some result' -> Proceeds Inv result' ∧ measure result' < measure result := by
    intro result result' hresult hnext
    rcases nextTurn_eq_some hnext with ⟨before, rfl, hrunning, hturned⟩
    rcases hresult before rfl with ⟨hinv, hlimited⟩
    constructor
    · intro after hafter
      rw [hafter] at hturned
      refine ⟨hturn hinv hrunning hturned, fun hgoes => ?_⟩
      exact (turnsLeft_turn (hlimited hrunning) hturned hgoes).left
    · rw [measure_of_running hrunning]
      cases result' with
      | error error => exact Nat.succ_pos _
      | ok after =>
          rcases Decidable.em (after.status = .running) with hgoes | hstops
          · rw [measure_of_running hgoes]
            exact Nat.succ_lt_succ (turnsLeft_turn (hlimited hrunning) hturned hgoes).right
          · rw [measure_of_stopped hstops]
            exact Nat.succ_pos _
  have hfuel : measure (.ok (started version event)) <= turnsLeft (started version event) + 1 := by
    rcases Decidable.em ((started version event).status = .running) with hgoes | hstops
    · exact Nat.le_of_eq (measure_of_running hgoes)
    · rw [measure_of_stopped hstops]
      exact Nat.zero_le _
  rcases exhaust_rule hstep hopen hfuel with ⟨hend, hstop⟩
  unfold simulated at h
  dsimp only at h
  rw [h] at hend hstop
  refine ⟨(hend s rfl).left, fun hrunning => ?_⟩
  have hnext : nextTurn version.graph fixtures services simulationId (transitionLimit version)
      (.ok s) = some _ := if_pos hrunning
  rw [hnext] at hstop
  cases hstop

end Ending

end Simulation
end Externalize
end GraphHelm
