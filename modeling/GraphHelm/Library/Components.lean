import GraphHelm.Library.Loops
import Mathlib.Data.List.Nodup
import Mathlib.Data.List.Dedup
import Mathlib.Logic.Relation
import Mathlib.Algebra.Order.Ring.Int

/-!
# Strongly connected components

Two searches with explicit stacks: the first walks the edges forwards and lists the nodes
in the order it is done with them, the second takes the nodes in the opposite order and
gathers, against the edges, what no earlier gathering took.  The gatherings are the classes
of mutual reachability.
-/

namespace GraphHelm
namespace Components

open Relation

/-- A finite directed graph with its edges in both directions. -/
structure Digraph (V : Type) where
  nodes : List V
  outgoing : V -> List V
  incoming : V -> List V
  converse : forall {x y}, y ∈ outgoing x <-> x ∈ incoming y
  source : forall {x y}, y ∈ outgoing x -> x ∈ nodes
  target : forall {x y}, y ∈ outgoing x -> y ∈ nodes

namespace Digraph

variable {V : Type} (g : Digraph V)

def Edge (x y : V) : Prop := y ∈ g.outgoing x

def Reaches : V -> V -> Prop := ReflTransGen g.Edge

/-- Two nodes that reach each other. -/
def Mutual (x y : V) : Prop := g.Reaches x y ∧ g.Reaches y x

section Reaching

variable {g}

theorem Mutual.symm {u v : V} (h : g.Mutual u v) : g.Mutual v u :=
  And.intro h.right h.left

theorem Mutual.trans {u v w : V} (h : g.Mutual u v) (h' : g.Mutual v w) : g.Mutual u w :=
  And.intro (h.left.trans h'.left) (h'.right.trans h.right)

end Reaching

end Digraph

section Searches

variable {V : Type} [DecidableEq V] (g : Digraph V)

/-- A forward search; a stack entry is a node to visit, or one whose visit ends. -/
structure Walk (V : Type) where
  visited : List V
  order : List V
  stack : List (V × Bool)

def walkStep (w : Walk V) : Option (Walk V) :=
  match w.stack with
  | [] => none
  | (node, true) :: rest => some { w with order := w.order ++ [node], stack := rest }
  | (node, false) :: rest =>
      if node ∈ w.visited then some { w with stack := rest }
      else
        let visited := node :: w.visited
        some
          { w with
            visited := visited
            stack := ((g.outgoing node).filter fun next => next ∉ visited).map (fun y => (y, false)) ++
              (node, true) :: rest }

def cost (degree : V -> List V) (nodes : List V) (visited : List V) : Nat :=
  ((nodes.filter fun v => v ∉ visited).map fun v => (degree v).length + 1).sum

def searchFrom (w : Walk V) (start : V) : Walk V :=
  if start ∈ w.visited then w
  else
    exhaust (walkStep g) (cost g.outgoing g.nodes [] + 1) { w with stack := [(start, false)] }

def finishOrder : List V :=
  (g.nodes.foldl (searchFrom g) { visited := [], order := [], stack := [] }).order

structure Gathering (V : Type) where
  visited : List V
  component : List V
  stack : List V

def gatherStep (s : Gathering V) : Option (Gathering V) :=
  match s.stack with
  | [] => none
  | node :: rest =>
      if node ∈ s.visited then some { s with stack := rest }
      else
        some
          { visited := node :: s.visited
            component := s.component ++ [node]
            stack := (g.incoming node).reverse ++ rest }

def gather (visited : List V) (start : V) : Gathering V :=
  exhaust (gatherStep g) (cost g.incoming g.nodes [] + 1)
    { visited := visited, component := [], stack := [start] }

structure Gathered (V : Type) where
  visited : List V
  result : List (List V)

def gatherFrom (s : Gathered V) (start : V) : Gathered V :=
  if start ∈ s.visited then s
  else
    let gathering := gather g s.visited start
    { visited := gathering.visited, result := s.result ++ [gathering.component] }

def components : List (List V) :=
  ((finishOrder g).reverse.foldl (gatherFrom g) { visited := [], result := [] }).result

end Searches

/-!
## The cost of a search
-/

section Costs

variable {V : Type} [DecidableEq V] {degree : V -> List V} {nodes visited : List V}

theorem cost_visit {node : V} (hnode : node ∈ nodes) (hnew : node ∉ visited) :
    cost degree nodes (node :: visited) + ((degree node).length + 1) <= cost degree nodes visited := by
  induction nodes with
  | nil => cases hnode
  | cons first rest ih =>
      have hless : cost degree rest (node :: visited) <= cost degree rest visited := by
        clear ih hnode
        induction rest with
        | nil => exact Nat.le_refl _
        | cons next rest ih =>
            simp only [cost, List.filter_cons, List.mem_cons, decide_not] at ih ⊢
            by_cases heq : next = node
            · subst heq
              simp only [true_or, decide_true, Bool.not_true, Bool.false_eq_true, if_false, hnew,
                decide_false, Bool.not_false, if_true, List.map_cons, List.sum_cons]
              omega
            · by_cases hold : next ∈ visited
              · simp only [heq, hold, or_true, decide_true, Bool.not_true, Bool.false_eq_true,
                  if_false]
                exact ih
              · simp only [heq, hold, or_false, decide_false, Bool.not_false, if_true,
                  List.map_cons, List.sum_cons]
                omega
      simp only [cost, List.filter_cons, List.mem_cons, decide_not] at ih hless ⊢
      by_cases heq : first = node
      · subst heq
        simp only [true_or, decide_true, Bool.not_true, Bool.false_eq_true, if_false, hnew,
          decide_false, Bool.not_false, if_true, List.map_cons, List.sum_cons]
        omega
      · have hrest : node ∈ rest := by
          rcases List.mem_cons.mp hnode with hfirst | hrest
          · exact absurd hfirst.symm heq
          · exact hrest
        have hih := ih hrest
        by_cases hold : first ∈ visited
        · simp only [heq, hold, or_true, decide_true, Bool.not_true, Bool.false_eq_true, if_false]
          exact hih
        · simp only [heq, hold, or_false, decide_false, Bool.not_false, if_true,
            List.map_cons, List.sum_cons]
          omega

theorem cost_le : cost degree nodes visited <= cost degree nodes [] := by
  induction nodes with
  | nil => exact Nat.le_refl _
  | cons first rest ih =>
      simp only [cost, List.filter_cons, List.not_mem_nil, not_false_eq_true, decide_true, if_true,
        decide_not, List.map_cons, List.sum_cons] at ih ⊢
      by_cases hold : first ∈ visited
      · simp only [hold, decide_true, Bool.not_true, Bool.false_eq_true, if_false]
        omega
      · simp only [hold, decide_false, Bool.not_false, if_true, List.map_cons, List.sum_cons]
        omega

end Costs

/-!
## What the forward search knows
-/

section Walks

variable {V : Type} [DecidableEq V] {g : Digraph V}

/-- A node that came later than another reaches all that was finished in between. -/
def Spans (g : Digraph V) (order : List V) (x y : V) : Prop :=
  forall z, z ∈ order -> order.idxOf x <= order.idxOf z ->
    (y ∈ order -> order.idxOf z <= order.idxOf y) -> g.Reaches y z

/-- An edge of a finished node leads to an earlier one, or back into a visit that is still on. -/
def Settled (g : Digraph V) (order : List V) (x y : V) : Prop :=
  (y ∈ order ∧ order.idxOf y <= order.idxOf x) ∨ Spans g order x y

structure Finishing (g : Digraph V) (w : Walk V) : Prop where
  visited : forall v, v ∈ w.visited <-> v ∈ w.order ∨ (v, true) ∈ w.stack
  nodup : w.order.Nodup
  unfinished : forall v, (v, true) ∈ w.stack -> v ∉ w.order
  /-- The visits that are on reach all that is above them. -/
  stacked : w.stack.Pairwise fun upper lower => lower.2 = true ->
    g.Reaches lower.1 upper.1 ∧ (upper.2 = true -> upper.1 ≠ lower.1)
  inside : forall v b, (v, b) ∈ w.stack -> v ∈ g.nodes
  finished : forall v, v ∈ w.order -> v ∈ g.nodes
  pending : forall {above x below}, w.stack = above ++ (x, true) :: below ->
    forall y, g.Edge x y -> y ∈ w.visited ∨ (y, false) ∈ above
  settled : forall x, x ∈ w.order -> forall y, g.Edge x y ->
    y ∈ w.visited ∧ Settled g w.order x y

variable {w : Walk V} {node : V} {rest : List (V × Bool)}

/-- The end of a visit puts its node last in the order. -/
theorem Settled.concat {order : List V} {x y : V} (hx : x ∈ order) (hnode : node ∉ order)
    (hreach : y ∉ order -> g.Reaches y node) (h : Settled g order x y) :
    Settled g (order ++ [node]) x y := by
  have hold : forall {v}, v ∈ order -> (order ++ [node]).idxOf v = order.idxOf v := fun hv =>
    List.idxOf_append_of_mem hv
  have hlast : (order ++ [node]).idxOf node = order.length := by
    rw [List.idxOf_append_of_notMem hnode, List.idxOf_cons_self, Nat.add_zero]
  rcases h with ⟨hy, hle⟩ | hspans
  · left
    constructor
    · exact List.mem_append_left [node] hy
    · rw [hold hy, hold hx]
      exact hle
  · right
    intro z hz hxz hzy
    rcases List.mem_append.mp hz with hz | hz
    · rw [hold hx, hold hz] at hxz
      apply hspans z hz hxz
      intro hy
      have hle := hzy (List.mem_append_left [node] hy)
      rw [hold hz, hold hy] at hle
      exact hle
    · rw [List.mem_singleton] at hz
      subst hz
      apply hreach
      intro hy
      have hle := hzy (List.mem_append_left [z] hy)
      rw [hlast, hold hy] at hle
      exact absurd (List.idxOf_lt_length_of_mem hy) (Nat.not_lt.mpr hle)

theorem Finishing.close (h : Finishing g w) (hstack : w.stack = (node, true) :: rest) :
    Finishing g { w with order := w.order ++ [node], stack := rest } := by
  have hstacked := h.stacked
  rw [hstack, List.pairwise_cons] at hstacked
  rcases hstacked with ⟨hbelow, hrest⟩
  have hnode : node ∉ w.order := h.unfinished node (by rw [hstack]; exact List.mem_cons_self)
  have hgray : forall {y}, y ∈ w.visited -> y ∉ w.order -> g.Reaches y node := by
    intro y hy hunfinished
    rcases (h.visited y).mp hy with horder | hon
    · exact absurd horder hunfinished
    · rw [hstack] at hon
      rcases List.mem_cons.mp hon with heq | hlower
      · cases heq
        exact Relation.ReflTransGen.refl
      · exact (hbelow (y, true) hlower rfl).left
  have hedges : forall y, g.Edge node y -> y ∈ w.visited := by
    intro y hedge
    rcases @Finishing.pending _ _ _ _ h [] node rest hstack y hedge with hvisited | habove
    · exact hvisited
    · cases habove
  constructor
  · intro v
    rw [h.visited v, hstack]
    simp only [List.mem_cons, Prod.mk.injEq, and_true, List.mem_append, List.not_mem_nil, or_false]
    constructor
    · rintro (horder | heq | hlower)
      · exact Or.inl (Or.inl horder)
      · exact Or.inl (Or.inr heq)
      · exact Or.inr hlower
    · rintro ((horder | heq) | hlower)
      · exact Or.inl horder
      · exact Or.inr (Or.inl heq)
      · exact Or.inr (Or.inr hlower)
  · exact List.Nodup.append h.nodup (List.nodup_singleton node)
      (List.disjoint_singleton.mpr hnode)
  · intro v hv hmem
    rcases List.mem_append.mp hmem with horder | heq
    · exact h.unfinished v (by rw [hstack]; exact List.mem_cons_of_mem _ hv) horder
    · exact (hbelow (v, true) hv rfl).right rfl (List.mem_singleton.mp heq).symm
  · exact hrest
  · intro v b hv
    exact h.inside v b (by rw [hstack]; exact List.mem_cons_of_mem _ hv)
  · intro v hv
    rcases List.mem_append.mp hv with horder | heq
    · exact h.finished v horder
    · rw [List.mem_singleton.mp heq]
      exact h.inside node true (by rw [hstack]; exact List.mem_cons_self)
  · intro above x below hsplit y hedge
    have hsplit : w.stack = ((node, true) :: above) ++ (x, true) :: below := by
      rw [hstack, List.cons_append, ← hsplit]
    rcases h.pending hsplit y hedge with hvisited | habove
    · exact Or.inl hvisited
    · rcases List.mem_cons.mp habove with heq | habove
      · cases heq
      · exact Or.inr habove
  · intro x hx y hedge
    rcases List.mem_append.mp hx with horder | heq
    · rcases h.settled x horder y hedge with ⟨hvisited, hsettled⟩
      exact And.intro hvisited (hsettled.concat horder hnode (hgray hvisited))
    · rw [List.mem_singleton] at heq
      subst heq
      have hvisited := hedges y hedge
      refine And.intro hvisited ?_
      have hlast : (w.order ++ [x]).idxOf x = w.order.length := by
        rw [List.idxOf_append_of_notMem hnode, List.idxOf_cons_self, Nat.add_zero]
      by_cases hy : y ∈ w.order
      · left
        constructor
        · exact List.mem_append_left [x] hy
        · rw [hlast, List.idxOf_append_of_mem hy]
          exact Nat.le_of_lt (List.idxOf_lt_length_of_mem hy)
      · right
        intro z hz hle _
        rcases List.mem_append.mp hz with hz | hz
        · rw [hlast, List.idxOf_append_of_mem hz] at hle
          exact absurd (List.idxOf_lt_length_of_mem hz) (Nat.not_lt.mpr hle)
        · rw [List.mem_singleton.mp hz]
          exact hgray hvisited hy

theorem Finishing.skip (h : Finishing g w) (hstack : w.stack = (node, false) :: rest)
    (hnode : node ∈ w.visited) : Finishing g { w with stack := rest } := by
  have hstacked := h.stacked
  rw [hstack, List.pairwise_cons] at hstacked
  have hon : forall v, (v, true) ∈ w.stack <-> (v, true) ∈ rest := by
    intro v
    rw [hstack, List.mem_cons]
    simp
  constructor
  · intro v
    rw [h.visited v, hon v]
  · exact h.nodup
  · intro v hv
    exact h.unfinished v ((hon v).mpr hv)
  · exact hstacked.right
  · intro v b hv
    exact h.inside v b (by rw [hstack]; exact List.mem_cons_of_mem _ hv)
  · exact h.finished
  · intro above x below hsplit y hedge
    have hsplit : w.stack = ((node, false) :: above) ++ (x, true) :: below := by
      rw [hstack, List.cons_append, ← hsplit]
    rcases h.pending hsplit y hedge with hvisited | habove
    · exact Or.inl hvisited
    · rcases List.mem_cons.mp habove with heq | habove
      · cases heq
        exact Or.inl hnode
      · exact Or.inr habove
  · exact h.settled

def openings (g : Digraph V) (visited : List V) (node : V) : List (V × Bool) :=
  ((g.outgoing node).filter fun next => next ∉ node :: visited).map fun y => (y, false)

theorem mem_openings {visited : List V} {entry : V × Bool} :
    entry ∈ openings g visited node <->
      g.Edge node entry.1 ∧ entry.1 ∉ node :: visited ∧ entry.2 = false := by
  rcases entry with ⟨v, b⟩
  simp only [openings, List.mem_map, List.mem_filter, decide_eq_true_eq, Prod.mk.injEq]
  constructor
  · rintro ⟨y, ⟨hedge, hnew⟩, rfl, rfl⟩
    exact ⟨hedge, hnew, rfl⟩
  · rintro ⟨hedge, hnew, rfl⟩
    exact ⟨v, ⟨hedge, hnew⟩, rfl, rfl⟩

theorem Finishing.enter (h : Finishing g w) (hstack : w.stack = (node, false) :: rest)
    (hnode : node ∉ w.visited) :
    Finishing g
      { w with
        visited := node :: w.visited
        stack := openings g w.visited node ++ (node, true) :: rest } := by
  have hstacked := h.stacked
  rw [hstack, List.pairwise_cons] at hstacked
  rcases hstacked with ⟨hbelow, hrest⟩
  have hon : forall v, (v, true) ∈ openings g w.visited node ++ (node, true) :: rest <->
      v = node ∨ (v, true) ∈ w.stack := by
    intro v
    rw [List.mem_append, mem_openings, List.mem_cons, hstack, List.mem_cons]
    simp
  have hunordered : node ∉ w.order := fun horder => hnode ((h.visited node).mpr (Or.inl horder))
  constructor
  · intro v
    rw [List.mem_cons, h.visited v, hon v]
    constructor
    · rintro (heq | horder | hstacked)
      · exact Or.inr (Or.inl heq)
      · exact Or.inl horder
      · exact Or.inr (Or.inr hstacked)
    · rintro (horder | heq | hstacked)
      · exact Or.inr (Or.inl horder)
      · exact Or.inl heq
      · exact Or.inr (Or.inr hstacked)
  · exact h.nodup
  · intro v hv
    rcases (hon v).mp hv with heq | hstacked
    · rw [heq]
      exact hunordered
    · exact h.unfinished v hstacked
  · refine List.pairwise_append.mpr ⟨?_, List.pairwise_cons.mpr ⟨?_, hrest⟩, ?_⟩
    · apply List.pairwise_of_forall_mem_list
      intro upper _ lower hlower hgray
      rw [(mem_openings.mp hlower).right.right] at hgray
      cases hgray
    · intro lower hlower hgray
      constructor
      · exact (hbelow lower hlower hgray).left
      · intro _ heq
        apply hnode
        rw [h.visited, hstack]
        right
        apply List.mem_cons_of_mem
        rcases lower with ⟨v, b⟩
        cases hgray
        cases heq
        exact hlower
    · intro upper hupper lower hlower hgray
      rcases mem_openings.mp hupper with ⟨hedge, _, hfalse⟩
      constructor
      · rcases List.mem_cons.mp hlower with heq | hlower
        · subst heq
          exact Relation.ReflTransGen.single hedge
        · exact (hbelow lower hlower hgray).left.tail hedge
      · intro htrue
        rw [hfalse] at htrue
        cases htrue
  · intro v b hv
    rcases List.mem_append.mp hv with hopening | hv
    · exact g.target (mem_openings.mp hopening).left
    · rcases List.mem_cons.mp hv with heq | hv
      · cases heq
        exact h.inside node false (by rw [hstack]; exact List.mem_cons_self)
      · exact h.inside v b (by rw [hstack]; exact List.mem_cons_of_mem _ hv)
  · exact h.finished
  · intro above x below hsplit y hedge
    rcases List.append_eq_append_iff.mp hsplit with ⟨middle, habove, htail⟩ | ⟨middle, hopen, htail⟩
    · cases middle with
      | nil =>
          rw [List.nil_append, List.cons.injEq, Prod.mk.injEq] at htail
          rcases htail with ⟨⟨heq, _⟩, _⟩
          subst heq
          by_cases hy : y ∈ node :: w.visited
          · exact Or.inl hy
          · right
            rw [habove, List.append_nil]
            exact mem_openings.mpr ⟨hedge, hy, rfl⟩
      | cons first middle =>
          rw [List.cons_append, List.cons.injEq] at htail
          have hold : w.stack = ((node, false) :: middle) ++ (x, true) :: below := by
            rw [hstack, List.cons_append, ← htail.right]
          rcases h.pending hold y hedge with hvisited | hmiddle
          · exact Or.inl (List.mem_cons_of_mem _ hvisited)
          · rcases List.mem_cons.mp hmiddle with heq | hmiddle
            · cases heq
              exact Or.inl List.mem_cons_self
            · right
              rw [habove]
              exact List.mem_append_right _ (List.mem_cons_of_mem _ hmiddle)
    · cases middle with
      | nil =>
          rw [List.nil_append, List.cons.injEq, Prod.mk.injEq] at htail
          rcases htail with ⟨⟨heq, _⟩, _⟩
          subst heq
          by_cases hy : y ∈ x :: w.visited
          · exact Or.inl hy
          · right
            rw [← List.append_nil above, ← hopen]
            exact mem_openings.mpr ⟨hedge, hy, rfl⟩
      | cons first middle =>
          rw [List.cons_append, List.cons.injEq] at htail
          have hmem : (x, true) ∈ openings g w.visited node := by
            rw [hopen, ← htail.left]
            exact List.mem_append_right _ List.mem_cons_self
          cases (mem_openings.mp hmem).right.right
  · intro x hx y hedge
    rcases h.settled x hx y hedge with ⟨hvisited, hsettled⟩
    exact And.intro (List.mem_cons_of_mem _ hvisited) hsettled

theorem walkStep_spec {w' : Walk V} (h : Finishing g w) (hstep : walkStep g w = some w') :
    Finishing g w' ∧ (forall v, v ∈ w.visited -> v ∈ w'.visited) ∧
      (forall v, (v, false) ∈ w.stack -> v ∈ w'.visited ∨ (v, false) ∈ w'.stack) ∧
      w'.stack.length + cost g.outgoing g.nodes w'.visited <
        w.stack.length + cost g.outgoing g.nodes w.visited := by
  cases hstack : w.stack with
  | nil =>
      simp only [walkStep, hstack, reduceCtorEq] at hstep
  | cons entry rest =>
      rcases entry with ⟨node, isEnd⟩
      cases isEnd with
      | true =>
          simp only [walkStep, hstack, Option.some.injEq] at hstep
          subst hstep
          refine ⟨h.close hstack, fun v hv => hv, ?_, ?_⟩
          · intro v hv
            rcases List.mem_cons.mp hv with heq | hv
            · cases heq
            · exact Or.inr hv
          · simp only [List.length_cons]
            omega
      | false =>
          simp only [walkStep, hstack] at hstep
          split at hstep
          · rename_i hvisited
            cases hstep
            refine ⟨h.skip hstack hvisited, fun v hv => hv, ?_, ?_⟩
            · intro v hv
              rcases List.mem_cons.mp hv with heq | hv
              · cases heq
                exact Or.inl hvisited
              · exact Or.inr hv
            · simp only [List.length_cons]
              omega
          · rename_i hnew
            cases hstep
            have hnode : node ∈ g.nodes :=
              h.inside node false (by rw [hstack]; exact List.mem_cons_self)
            refine ⟨h.enter hstack hnew, fun v hv => List.mem_cons_of_mem _ hv, ?_, ?_⟩
            · intro v hv
              rcases List.mem_cons.mp hv with heq | hv
              · cases heq
                exact Or.inl List.mem_cons_self
              · exact Or.inr (List.mem_append_right _ (List.mem_cons_of_mem _ hv))
            · have hcost := @cost_visit V _ g.outgoing g.nodes w.visited node hnode hnew
              have hfilter := List.length_filter_le (fun next => decide (next ∉ node :: w.visited))
                (g.outgoing node)
              simp only [List.length_append, List.length_map, List.length_cons]
              omega

theorem searchFrom_spec (h : Finishing g w) (hdone : w.stack = []) {start : V}
    (hstart : start ∈ g.nodes) :
    Finishing g (searchFrom g w start) ∧ (searchFrom g w start).stack = [] ∧
      start ∈ (searchFrom g w start).visited ∧
      forall v, v ∈ w.visited -> v ∈ (searchFrom g w start).visited := by
  by_cases hvisited : start ∈ w.visited
  · have hsame : searchFrom g w start = w := if_pos hvisited
    rw [hsame]
    exact ⟨h, hdone, hvisited, fun v hv => hv⟩
  · have hsearch : searchFrom g w start =
        exhaust (walkStep g) (cost g.outgoing g.nodes [] + 1)
          { w with stack := [(start, false)] } := if_neg hvisited
    have hbegin : Finishing g { w with stack := [(start, false)] } := by
      constructor
      · intro v
        rw [h.visited v, hdone]
        simp
      · exact h.nodup
      · intro v hv
        simp at hv
      · exact List.pairwise_singleton _ _
      · intro v b hv
        cases List.mem_singleton.mp hv
        exact hstart
      · exact h.finished
      · intro above x below hsplit
        cases above with
        | nil => simp at hsplit
        | cons first above => simp at hsplit
      · exact h.settled
    have hend := @exhaust_rule _ (walkStep g)
      (fun later : Walk V => Finishing g later ∧
        (forall v, v ∈ w.visited -> v ∈ later.visited) ∧
        (start ∈ later.visited ∨ (start, false) ∈ later.stack))
      (fun later => later.stack.length + cost g.outgoing g.nodes later.visited)
      (by
        rintro later next ⟨hfinishing, hkeeps, hreached⟩ hstep
        rcases walkStep_spec hfinishing hstep with ⟨hnext, hmono, hopen, hless⟩
        refine ⟨⟨hnext, fun v hv => hmono v (hkeeps v hv), ?_⟩, hless⟩
        rcases hreached with hvisited | hopened
        · exact Or.inl (hmono start hvisited)
        · exact hopen start hopened)
      { w with stack := [(start, false)] } (cost g.outgoing g.nodes [] + 1)
      ⟨hbegin, fun v hv => hv, Or.inr List.mem_cons_self⟩
      (by
        have hcost := @cost_le V _ g.outgoing g.nodes w.visited
        simp only [List.length_singleton]
        omega)
    rw [← hsearch] at hend
    rcases hend with ⟨⟨hfinishing, hkeeps, hreached⟩, hstop⟩
    have hempty : (searchFrom g w start).stack = [] := by
      cases hstack : (searchFrom g w start).stack with
      | nil => rfl
      | cons entry rest =>
          rcases entry with ⟨node, isEnd⟩
          cases isEnd with
          | true => simp only [walkStep, hstack, reduceCtorEq] at hstop
          | false =>
              simp only [walkStep, hstack] at hstop
              split at hstop
              · cases hstop
              · cases hstop
    refine ⟨hfinishing, hempty, ?_, hkeeps⟩
    rcases hreached with hvisited | hopened
    · exact hvisited
    · rw [hempty] at hopened
      cases hopened

/-- What the order in which the searches end keeps of the graph. -/
structure Finished (g : Digraph V) (order : List V) : Prop where
  nodup : order.Nodup
  mem : forall v, v ∈ order <-> v ∈ g.nodes
  settled : forall x y, g.Edge x y -> Settled g order x y

theorem finishOrder_finished : Finished g (finishOrder g) := by
  have hfold : forall (nodes : List V) (w : Walk V), (forall v, v ∈ nodes -> v ∈ g.nodes) ->
      Finishing g w -> w.stack = [] ->
        Finishing g (nodes.foldl (searchFrom g) w) ∧ (nodes.foldl (searchFrom g) w).stack = [] ∧
          (forall v, v ∈ nodes -> v ∈ (nodes.foldl (searchFrom g) w).visited) ∧
          forall v, v ∈ w.visited -> v ∈ (nodes.foldl (searchFrom g) w).visited := by
    intro nodes
    induction nodes with
    | nil =>
        intro w _ hfinishing hdone
        exact ⟨hfinishing, hdone, fun v hv => absurd hv List.not_mem_nil, fun v hv => hv⟩
    | cons start rest ih =>
        intro w hinside hfinishing hdone
        rcases searchFrom_spec hfinishing hdone (hinside start List.mem_cons_self) with
          ⟨hnext, hempty, hstart, hkeeps⟩
        rcases ih (searchFrom g w start) (fun v hv => hinside v (List.mem_cons_of_mem _ hv)) hnext
          hempty with ⟨hend, hstack, hall, hmono⟩
        refine ⟨hend, hstack, ?_, fun v hv => hmono v (hkeeps v hv)⟩
        intro v hv
        rcases List.mem_cons.mp hv with heq | hv
        · rw [heq]
          exact hmono start hstart
        · exact hall v hv
  have hbegin : Finishing g ({ visited := [], order := [], stack := [] } : Walk V) := by
    constructor
    · simp
    · exact List.nodup_nil
    · simp
    · exact List.Pairwise.nil
    · simp
    · simp
    · intro above x below hsplit
      cases above with
      | nil => cases hsplit
      | cons first above => cases hsplit
    · simp
  rcases hfold g.nodes _ (fun v hv => hv) hbegin rfl with ⟨hend, hstack, hall, _⟩
  have hmem : forall v, v ∈ finishOrder g <-> v ∈ g.nodes := by
    intro v
    constructor
    · exact hend.finished v
    · intro hv
      rcases (hend.visited v).mp (hall v hv) with horder | hon
      · exact horder
      · rw [hstack] at hon
        cases hon
  exact
    { nodup := hend.nodup
      mem := hmem
      settled := fun x y hedge =>
        (hend.settled x ((hmem x).mpr (g.source hedge)) y hedge).right }

theorem Finished.reaches {order : List V} (h : Finished g order) {a b : V}
    (hpath : Relation.ReflTransGen
      (fun x y => g.Edge x y ∧ order.idxOf y <= order.idxOf b) a b) {z : V} (hz : z ∈ order)
    (hfrom : order.idxOf a <= order.idxOf z) (hto : order.idxOf z <= order.idxOf b) :
    g.Reaches b z := by
  induction hpath using Relation.ReflTransGen.head_induction_on generalizing z with
  | refl =>
      have heq : z = b := (List.idxOf_inj hz).mp (Nat.le_antisymm hto hfrom)
      rw [heq]
      exact Relation.ReflTransGen.refl
  | @head x y hstep _ ih =>
      rcases hstep with ⟨hedge, hle⟩
      have hy : y ∈ order := (h.mem y).mpr (g.target hedge)
      rcases h.settled x y hedge with ⟨_, hback⟩ | hspans
      · exact ih hz (Nat.le_trans hback hfrom) hto
      · rcases Nat.le_total (order.idxOf z) (order.idxOf y) with hzy | hyz
        · exact (ih hy (Nat.le_refl _) hle).trans (hspans z hz hfrom fun _ => hzy)
        · exact ih hz hyz hto

end Walks

/-!
## What is gathered
-/

section Gatherings

variable {V : Type} [DecidableEq V] {g : Digraph V} {taken : List V} {start : V}

def Frees (g : Digraph V) (taken : List V) (start : V) (v : V) : Prop :=
  Relation.ReflTransGen (fun x y => g.Edge x y ∧ x ∉ taken ∧ y ∉ taken) v start

structure Collecting (g : Digraph V) (taken : List V) (start : V) (s : Gathering V) : Prop where
  visited : forall v, v ∈ s.visited <-> v ∈ taken ∨ v ∈ s.component
  fresh : forall v, v ∈ s.component -> v ∉ taken ∧ v ∈ g.nodes
  nodup : s.component.Nodup
  reaches : forall v, v ∈ s.component -> Frees g taken start v
  stacked : forall v, v ∈ s.stack -> v ∈ g.nodes ∧ (v ∉ taken -> Frees g taken start v)
  closed : forall c, c ∈ s.component -> forall v, g.Edge v c -> v ∈ s.visited ∨ v ∈ s.stack
  begun : start ∈ s.visited ∨ start ∈ s.stack

variable {s s' : Gathering V}

theorem gatherStep_spec (h : Collecting g taken start s) (hstep : gatherStep g s = some s') :
    Collecting g taken start s' ∧
      s'.stack.length + cost g.incoming g.nodes s'.visited <
        s.stack.length + cost g.incoming g.nodes s.visited := by
  cases hstack : s.stack with
  | nil =>
      simp only [gatherStep, hstack, reduceCtorEq] at hstep
  | cons node rest =>
      simp only [gatherStep, hstack] at hstep
      have hnode := h.stacked node (by rw [hstack]; exact List.mem_cons_self)
      split at hstep
      · rename_i hvisited
        cases hstep
        constructor
        · constructor
          · exact h.visited
          · exact h.fresh
          · exact h.nodup
          · exact h.reaches
          · intro v hv
            exact h.stacked v (by rw [hstack]; exact List.mem_cons_of_mem _ hv)
          · intro c hc v hedge
            rcases h.closed c hc v hedge with hv | hv
            · exact Or.inl hv
            · rw [hstack] at hv
              rcases List.mem_cons.mp hv with heq | hv
              · rw [heq]
                exact Or.inl hvisited
              · exact Or.inr hv
          · rcases h.begun with hv | hv
            · exact Or.inl hv
            · rw [hstack] at hv
              rcases List.mem_cons.mp hv with heq | hv
              · rw [heq]
                exact Or.inl hvisited
              · exact Or.inr hv
        · simp only [List.length_cons]
          omega
      · rename_i hnew
        cases hstep
        have hfree : node ∉ taken := fun htaken => hnew ((h.visited node).mpr (Or.inl htaken))
        have hreach := hnode.right hfree
        constructor
        · constructor
          · intro v
            simp only [List.mem_cons, List.mem_append, List.not_mem_nil, or_false, h.visited v]
            constructor
            · rintro (heq | htaken | hcomponent)
              · exact Or.inr (Or.inr heq)
              · exact Or.inl htaken
              · exact Or.inr (Or.inl hcomponent)
            · rintro (htaken | hcomponent | heq)
              · exact Or.inr (Or.inl htaken)
              · exact Or.inr (Or.inr hcomponent)
              · exact Or.inl heq
          · intro v hv
            rcases List.mem_append.mp hv with hv | hv
            · exact h.fresh v hv
            · rw [List.mem_singleton.mp hv]
              exact And.intro hfree hnode.left
          · refine List.Nodup.append h.nodup (List.nodup_singleton node)
              (List.disjoint_singleton.mpr ?_)
            intro hcomponent
            exact hnew ((h.visited node).mpr (Or.inr hcomponent))
          · intro v hv
            rcases List.mem_append.mp hv with hv | hv
            · exact h.reaches v hv
            · rw [List.mem_singleton.mp hv]
              exact hreach
          · intro v hv
            rcases List.mem_append.mp hv with hv | hv
            · have hedge : g.Edge v node := g.converse.mpr (List.mem_reverse.mp hv)
              exact And.intro (g.source hedge) fun hv => hreach.head ⟨hedge, hv, hfree⟩
            · exact h.stacked v (by rw [hstack]; exact List.mem_cons_of_mem _ hv)
          · intro c hc v hedge
            rcases List.mem_append.mp hc with hc | hc
            · rcases h.closed c hc v hedge with hv | hv
              · exact Or.inl (List.mem_cons_of_mem _ hv)
              · rw [hstack] at hv
                rcases List.mem_cons.mp hv with heq | hv
                · rw [heq]
                  exact Or.inl List.mem_cons_self
                · exact Or.inr (List.mem_append_right _ hv)
            · rw [List.mem_singleton.mp hc] at hedge
              exact Or.inr (List.mem_append_left _ (List.mem_reverse.mpr (g.converse.mp hedge)))
          · rcases h.begun with hv | hv
            · exact Or.inl (List.mem_cons_of_mem _ hv)
            · rw [hstack] at hv
              rcases List.mem_cons.mp hv with heq | hv
              · rw [heq]
                exact Or.inl List.mem_cons_self
              · exact Or.inr (List.mem_append_right _ hv)
        · have hcost := @cost_visit V _ g.incoming g.nodes s.visited node hnode.left hnew
          simp only [List.length_append, List.length_reverse, List.length_cons]
          omega

theorem gather_spec (hstart : start ∈ g.nodes) (hfree : start ∉ taken) :
    (forall v, v ∈ (gather g taken start).component <-> Frees g taken start v) ∧
      (gather g taken start).component.Nodup ∧
      (forall v, v ∈ (gather g taken start).component -> v ∉ taken ∧ v ∈ g.nodes) ∧
      forall v, v ∈ (gather g taken start).visited <->
        v ∈ taken ∨ v ∈ (gather g taken start).component := by
  have hbegin : Collecting g taken start
      { visited := taken, component := [], stack := [start] } := by
    constructor
    · simp
    · simp
    · exact List.nodup_nil
    · simp
    · intro v hv
      rw [List.mem_singleton.mp hv]
      exact And.intro hstart fun _ => Relation.ReflTransGen.refl
    · simp
    · exact Or.inr List.mem_cons_self
  have hend := @exhaust_rule _ (gatherStep g) (Collecting g taken start)
    (fun later => later.stack.length + cost g.incoming g.nodes later.visited)
    (fun later next => gatherStep_spec)
    { visited := taken, component := [], stack := [start] } (cost g.incoming g.nodes [] + 1) hbegin
    (by
      have hcost := @cost_le V _ g.incoming g.nodes taken
      simp only [List.length_singleton]
      omega)
  change Collecting g taken start (gather g taken start) ∧ gatherStep g (gather g taken start) = none
    at hend
  rcases hend with ⟨hcollecting, hstop⟩
  have hempty : (gather g taken start).stack = [] := by
    cases hstack : (gather g taken start).stack with
    | nil => rfl
    | cons node rest =>
        simp only [gatherStep, hstack] at hstop
        split at hstop
        · cases hstop
        · cases hstop
  refine ⟨?_, hcollecting.nodup, hcollecting.fresh, hcollecting.visited⟩
  intro v
  constructor
  · exact hcollecting.reaches v
  · intro hpath
    induction hpath using Relation.ReflTransGen.head_induction_on with
    | refl =>
        rcases hcollecting.begun with hv | hv
        · exact ((hcollecting.visited start).mp hv).resolve_left hfree
        · rw [hempty] at hv
          cases hv
    | @head x y hstep _ ih =>
        rcases hstep with ⟨hedge, hx, _⟩
        rcases hcollecting.closed y ih x hedge with hv | hv
        · exact ((hcollecting.visited x).mp hv).resolve_left hx
        · rw [hempty] at hv
          cases hv

end Gatherings

/-!
## The classes
-/

section Classes

variable {V : Type} [DecidableEq V] {g : Digraph V}

/-- The classes of mutual reachability, each listed once and without repetition. -/
structure Classes (g : Digraph V) (parts : List (List V)) : Prop where
  covers : forall v, v ∈ g.nodes -> exists part, part ∈ parts ∧ v ∈ part
  inside : forall part, part ∈ parts -> forall v, v ∈ part -> v ∈ g.nodes
  nonempty : forall part, part ∈ parts -> part ≠ []
  classes : forall part, part ∈ parts -> forall u, u ∈ part -> forall v, v ∈ part <-> g.Mutual u v
  nodup : parts.flatten.Nodup

/-- What holds of the gatherings after the nodes that were finished last. -/
structure Gathers (g : Digraph V) (done : List V) (s : Gathered V) : Prop where
  done : forall v, v ∈ done -> v ∈ s.visited
  visited : forall v, v ∈ s.visited <-> v ∈ s.result.flatten
  inside : forall part, part ∈ s.result -> forall v, v ∈ part -> v ∈ g.nodes
  nonempty : forall part, part ∈ s.result -> part ≠ []
  classes : forall part, part ∈ s.result -> forall u, u ∈ part ->
    forall v, v ∈ part <-> g.Mutual u v
  nodup : s.result.flatten.Nodup

omit [DecidableEq V] in
/-- A class is taken whole. -/
theorem Gathers.closed {done : List V} {s : Gathered V} (h : Gathers g done s) {u v : V}
    (hu : u ∈ s.visited) (hmutual : g.Mutual u v) : v ∈ s.visited := by
  rcases List.mem_flatten.mp ((h.visited u).mp hu) with ⟨part, hpart, hmem⟩
  exact (h.visited v).mpr
    (List.mem_flatten.mpr ⟨part, hpart, (h.classes part hpart u hmem v).mpr hmutual⟩)

theorem gatherFrom_spec {order done : List V} {s : Gathered V} {start : V} {before : List V}
    (hfinished : Finished g order) (horder : order = before ++ start :: done.reverse)
    (h : Gathers g done s) : Gathers g (done ++ [start]) (gatherFrom g s start) := by
  by_cases hvisited : start ∈ s.visited
  · have hsame : gatherFrom g s start = s := if_pos hvisited
    rw [hsame]
    refine { h with done := ?_ }
    intro v hv
    rcases List.mem_append.mp hv with hv | hv
    · exact h.done v hv
    · rw [List.mem_singleton.mp hv]
      exact hvisited
  · have hstart : start ∈ g.nodes := by
      rw [← hfinished.mem, horder]
      exact List.mem_append_right _ List.mem_cons_self
    rcases gather_spec hstart hvisited with ⟨hmem, hnodup, hfresh, htaken⟩
    have hgather : gatherFrom g s start =
        { visited := (gather g s.visited start).visited
          result := s.result ++ [(gather g s.visited start).component] } := if_neg hvisited
    -- a node that is still free was finished no later than the start
    have hearlier : forall v, v ∈ g.nodes -> v ∉ s.visited ->
        order.idxOf v <= order.idxOf start := by
      intro v hv hfree
      have hnodup := hfinished.nodup
      have hv := (hfinished.mem v).mpr hv
      rw [horder] at hv hnodup ⊢
      have hbefore : start ∉ before := fun hmem =>
        (List.nodup_append.mp hnodup).right.right start hmem start List.mem_cons_self rfl
      rw [List.idxOf_append_of_notMem hbefore, List.idxOf_cons_self, Nat.add_zero]
      rcases List.mem_append.mp hv with hv | hv
      · rw [List.idxOf_append_of_mem hv]
        exact Nat.le_of_lt (List.idxOf_lt_length_of_mem hv)
      · rcases List.mem_cons.mp hv with heq | hv
        · rw [heq, List.idxOf_append_of_notMem hbefore, List.idxOf_cons_self]
          exact Nat.le_refl _
        · exact absurd (h.done v (List.mem_reverse.mp hv)) hfree
    have hmutual : forall v, v ∈ (gather g s.visited start).component <-> g.Mutual start v := by
      intro v
      rw [hmem]
      constructor
      · intro hpath
        have hreaches : g.Reaches v start := Relation.ReflTransGen.mono (fun x y hstep => hstep.left) v start hpath
        refine And.intro ?_ hreaches
        rcases hfresh v ((hmem v).mpr hpath) with ⟨hfree, hv⟩
        have hlater : Relation.ReflTransGen
            (fun x y => g.Edge x y ∧ order.idxOf y <= order.idxOf start) v start :=
          Relation.ReflTransGen.mono (fun x y hstep =>
            And.intro hstep.left (hearlier y (g.target hstep.left) hstep.right.right)) v start hpath
        exact hfinished.reaches hlater ((hfinished.mem v).mpr hv) (Nat.le_refl _)
          (hearlier v hv hfree)
      · intro hmutual
        have hfree : forall w, g.Reaches start w -> g.Reaches w start -> w ∉ s.visited :=
          fun w hto hfrom hw => hvisited (h.closed hw (And.intro hfrom hto))
        have hpath : forall w, g.Reaches w start -> g.Reaches start w ->
            Frees g s.visited start w := by
          intro w hfrom
          induction hfrom using Relation.ReflTransGen.head_induction_on with
          | refl =>
              intro _
              exact Relation.ReflTransGen.refl
          | @head x y hedge hrest ih =>
              intro hto
              have hy : g.Reaches start y := hto.tail hedge
              exact (ih hy).head
                ⟨hedge, hfree x hto (hrest.head hedge), hfree y hy hrest⟩
        exact hpath v hmutual.right hmutual.left
    rw [hgather]
    constructor
    · intro v hv
      rw [htaken]
      rcases List.mem_append.mp hv with hv | hv
      · exact Or.inl (h.done v hv)
      · rw [List.mem_singleton.mp hv, hmutual]
        exact Or.inr ⟨Relation.ReflTransGen.refl, Relation.ReflTransGen.refl⟩
    · intro v
      rw [htaken, h.visited v, List.flatten_append, List.mem_append, List.flatten_singleton]
    · intro part hpart v hv
      rcases List.mem_append.mp hpart with hpart | hpart
      · exact h.inside part hpart v hv
      · rw [List.mem_singleton.mp hpart] at hv
        exact (hfresh v hv).right
    · intro part hpart
      rcases List.mem_append.mp hpart with hpart | hpart
      · exact h.nonempty part hpart
      · rw [List.mem_singleton.mp hpart]
        have hself : start ∈ (gather g s.visited start).component :=
          (hmutual start).mpr ⟨Relation.ReflTransGen.refl, Relation.ReflTransGen.refl⟩
        exact List.ne_nil_of_mem hself
    · intro part hpart u hu v
      rcases List.mem_append.mp hpart with hpart | hpart
      · exact h.classes part hpart u hu v
      · rw [List.mem_singleton] at hpart
        subst hpart
        have hu := (hmutual u).mp hu
        rw [hmutual v]
        constructor
        · exact hu.symm.trans
        · exact hu.trans
    · rw [List.flatten_append, List.flatten_singleton]
      refine List.Nodup.append h.nodup hnodup ?_
      intro v hv hcomponent
      exact (hfresh v hcomponent).left ((h.visited v).mpr hv)

theorem components_classes : Classes g (components g) := by
  have hfinished := @finishOrder_finished V _ g
  have hfold : forall (todo done : List V) (s : Gathered V),
      (finishOrder g).reverse = done ++ todo -> Gathers g done s ->
        Gathers g (finishOrder g).reverse (todo.foldl (gatherFrom g) s) := by
    intro todo
    induction todo with
    | nil =>
        intro done s hsplit h
        rw [hsplit, List.append_nil]
        exact h
    | cons start rest ih =>
        intro done s hsplit h
        have horder : finishOrder g = rest.reverse ++ start :: done.reverse := by
          have hreverse := congrArg List.reverse hsplit
          rw [List.reverse_reverse, List.reverse_append, List.reverse_cons, List.append_assoc]
            at hreverse
          exact hreverse
        apply ih (done ++ [start]) (gatherFrom g s start)
        · rw [hsplit, List.append_assoc]
          rfl
        · exact gatherFrom_spec hfinished horder h
  have hall := hfold (finishOrder g).reverse [] { visited := [], result := [] } rfl
    (by constructor <;> simp)
  constructor
  · intro v hv
    have hvisited := hall.done v (List.mem_reverse.mpr ((hfinished.mem v).mpr hv))
    rcases List.mem_flatten.mp ((hall.visited v).mp hvisited) with ⟨part, hpart, hmem⟩
    exact ⟨part, hpart, hmem⟩
  · exact hall.inside
  · exact hall.nonempty
  · exact hall.classes
  · exact hall.nodup

end Classes

/-!
## Cycles
-/

section Cycles

variable {V : Type} {g : Digraph V} {parts : List (List V)}

/-- A closed walk, listed without the return to its first node. -/
def Digraph.IsCycle (g : Digraph V) : List V -> Prop
  | [] => False
  | first :: rest => (first :: (rest ++ [first])).IsChain g.Edge

theorem transGen_of_chain {r : V -> V -> Prop} {first last : V} {rest : List V}
    (h : (first :: (rest ++ [last])).IsChain r) : TransGen r first last := by
  induction rest generalizing first with
  | nil => exact TransGen.single (List.isChain_cons_cons.mp h).left
  | cons next rest ih =>
      have hsplit := List.isChain_cons_cons.mp h
      exact TransGen.head hsplit.left (ih hsplit.right)

theorem chain_of_transGen {r : V -> V -> Prop} {first last : V} (h : TransGen r first last) :
    exists rest, (first :: (rest ++ [last])).IsChain r := by
  induction h using TransGen.head_induction_on with
  | single hedge => exact ⟨[], List.isChain_cons_cons.mpr (And.intro hedge (List.IsChain.singleton _))⟩
  | @head a b hedge _ ih =>
      rcases ih with ⟨rest, hrest⟩
      exact ⟨b :: rest, List.isChain_cons_cons.mpr (And.intro hedge hrest)⟩

/-- A cycle is there where some node is led back to itself. -/
theorem exists_cycle_iff : (exists cycle, g.IsCycle cycle) <-> exists v, TransGen g.Edge v v := by
  constructor
  · rintro ⟨cycle, hcycle⟩
    cases cycle with
    | nil => cases hcycle
    | cons first rest => exact ⟨first, transGen_of_chain hcycle⟩
  · rintro ⟨v, hback⟩
    rcases chain_of_transGen hback with ⟨rest, hrest⟩
    exact ⟨v :: rest, hrest⟩

/-- Some node is led back to itself where a component has a second node or a loop. -/
theorem Classes.cyclic_iff (h : Classes g parts) :
    (exists v, TransGen g.Edge v v) <->
      exists part, part ∈ parts ∧ (1 < part.length ∨ exists v, v ∈ part.head? ∧ g.Edge v v) := by
  constructor
  · rintro ⟨v, hback⟩
    rcases TransGen.head'_iff.mp hback with ⟨w, hedge, hreturn⟩
    rcases h.covers v (g.source hedge) with ⟨part, hpart, hv⟩
    have hw : w ∈ part := (h.classes part hpart v hv w).mpr
      (And.intro (ReflTransGen.single hedge) hreturn)
    refine ⟨part, hpart, ?_⟩
    cases part with
    | nil => cases hv
    | cons first rest =>
        cases rest with
        | nil =>
            rw [List.mem_singleton] at hv hw
            rw [hw, hv] at hedge
            exact Or.inr ⟨first, rfl, hedge⟩
        | cons second rest => exact Or.inl (by simp)
  · rintro ⟨part, hpart, hlong | ⟨v, _, hedge⟩⟩
    · cases part with
      | nil => cases hlong
      | cons first rest =>
          cases rest with
          | nil => cases Nat.lt_irrefl _ hlong
          | cons second rest =>
              have hnodup := (List.nodup_flatten.mp h.nodup).left _ hpart
              have hne : first ≠ second := fun heq =>
                (List.nodup_cons.mp hnodup).left (heq ▸ List.mem_cons_self)
              have hmutual := (h.classes _ hpart first List.mem_cons_self second).mp
                (List.mem_cons_of_mem first List.mem_cons_self)
              have hforth : TransGen g.Edge first second := by
                rcases reflTransGen_iff_eq_or_transGen.mp hmutual.left with heq | hpath
                · exact absurd heq.symm hne
                · exact hpath
              exact ⟨first, TransGen.trans_left hforth hmutual.right⟩
    · exact ⟨v, TransGen.single hedge⟩

theorem Digraph.isCycle_within {within : Digraph V} {P : V -> Prop}
    (hedge : forall x y, within.Edge x y <-> g.Edge x y ∧ P x ∧ P y) {cycle : List V} :
    within.IsCycle cycle <-> g.IsCycle cycle ∧ forall v, v ∈ cycle -> P v := by
  cases cycle with
  | nil =>
      constructor
      · intro h
        cases h
      · rintro ⟨h, _⟩
        cases h
  | cons first rest =>
      have hchain : forall (last first : V) (rest : List V),
          (first :: (rest ++ [last])).IsChain within.Edge <->
            (first :: (rest ++ [last])).IsChain g.Edge ∧
              forall v, v ∈ first :: (rest ++ [last]) -> P v := by
        intro last first rest
        induction rest generalizing first with
        | nil => simp [hedge]
        | cons next rest ih =>
            rw [List.cons_append, List.isChain_cons_cons, List.isChain_cons_cons, ih, hedge]
            constructor
            · rintro ⟨⟨hstep, hfirst, _⟩, hrest, hfree⟩
              refine ⟨And.intro hstep hrest, ?_⟩
              intro v hv
              rcases List.mem_cons.mp hv with heq | hv
              · rw [heq]
                exact hfirst
              · exact hfree v hv
            · rintro ⟨⟨hstep, hrest⟩, hfree⟩
              refine ⟨⟨hstep, hfree first List.mem_cons_self, ?_⟩, hrest, ?_⟩
              · exact hfree next (List.mem_cons_of_mem first List.mem_cons_self)
              · exact fun v hv => hfree v (List.mem_cons_of_mem first hv)
      rw [show within.IsCycle (first :: rest) <-> _ from hchain first first rest]
      apply and_congr Iff.rfl
      constructor
      · exact fun hfree v hv => hfree v (List.mem_append_left _ hv)
      · intro hfree v hv
        rcases List.mem_append.mp (show v ∈ (first :: rest) ++ [first] from hv) with hv | hv
        · exact hfree v hv
        · exact hfree v (List.mem_singleton.mp hv ▸ List.mem_cons_self)

theorem Classes.cycles_pass_iff {within : Digraph V} (h : Classes within parts)
    {kind : V -> Bool}
    (hedge : forall x y, within.Edge x y <-> g.Edge x y ∧ kind x = false ∧ kind y = false) :
    (forall cycle, g.IsCycle cycle -> exists v, v ∈ cycle ∧ kind v = true) <->
      forall part, part ∈ parts ->
        ¬ (1 < part.length ∨ exists v, v ∈ part.head? ∧ within.Edge v v) := by
  have hnone : (forall cycle, g.IsCycle cycle -> exists v, v ∈ cycle ∧ kind v = true) <->
      ¬ exists cycle, within.IsCycle cycle := by
    constructor
    · rintro hpass ⟨cycle, hcycle⟩
      rcases (Digraph.isCycle_within hedge).mp hcycle with ⟨hcycle, hother⟩
      rcases hpass cycle hcycle with ⟨v, hv, hkind⟩
      rw [hother v hv] at hkind
      cases hkind
    · intro hacyclic cycle hcycle
      by_contra hnone
      apply hacyclic
      refine ⟨cycle, (Digraph.isCycle_within hedge).mpr (And.intro hcycle ?_)⟩
      intro v hv
      exact Bool.eq_false_iff.mpr fun hkind => hnone ⟨v, hv, hkind⟩
  rw [hnone, exists_cycle_iff, h.cyclic_iff]
  constructor
  · exact fun hacyclic part hpart hcyclic => hacyclic ⟨part, hpart, hcyclic⟩
  · rintro hsilent ⟨part, hpart, hcyclic⟩
    exact hsilent part hpart hcyclic

end Cycles

/-!
## Listings of the same classes
-/

section Listings

variable {V : Type} {g : Digraph V} {parts parts' : List (List V)}

theorem Classes.map_perm (h : Classes g parts) {order : List V -> List V}
    (horder : forall part, (order part).Perm part) : Classes g (parts.map order) := by
  have hmem : forall part v, v ∈ order part <-> v ∈ part := fun part v =>
    (horder part).mem_iff
  constructor
  · intro v hv
    rcases h.covers v hv with ⟨part, hpart, hmember⟩
    exact ⟨order part, List.mem_map_of_mem hpart, (hmem part v).mpr hmember⟩
  · intro listed hlisted v hv
    rcases List.mem_map.mp hlisted with ⟨part, hpart, heq⟩
    rw [<- heq, hmem] at hv
    exact h.inside part hpart v hv
  · intro listed hlisted hempty
    rcases List.mem_map.mp hlisted with ⟨part, hpart, heq⟩
    rw [hempty] at heq
    have hnil := horder part
    rw [heq] at hnil
    exact h.nonempty part hpart (List.nil_perm.mp hnil)
  · intro listed hlisted u hu v
    rcases List.mem_map.mp hlisted with ⟨part, hpart, heq⟩
    rw [<- heq, hmem] at hu
    rw [<- heq, hmem]
    exact h.classes part hpart u hu v
  · have hflat : (parts.map order).flatten.Perm parts.flatten := by
      clear h
      induction parts with
      | nil => exact List.Perm.nil
      | cons part rest ih =>
          rw [List.map_cons, List.flatten_cons, List.flatten_cons]
          exact (horder part).append ih
    exact hflat.nodup_iff.mpr h.nodup

/-- Listing the classes in another order changes nothing. -/
theorem Classes.perm (h : Classes g parts) (hperm : parts'.Perm parts) : Classes g parts' := by
  constructor
  · intro v hv
    rcases h.covers v hv with ⟨part, hpart, hmember⟩
    exact ⟨part, hperm.mem_iff.mpr hpart, hmember⟩
  · intro part hpart
    exact h.inside part (hperm.mem_iff.mp hpart)
  · intro part hpart
    exact h.nonempty part (hperm.mem_iff.mp hpart)
  · intro part hpart
    exact h.classes part (hperm.mem_iff.mp hpart)
  · exact (hperm.flatten).nodup_iff.mpr h.nodup

/-- Every component is listed once. -/
theorem Classes.parts_nodup (h : Classes g parts) : parts.Nodup := by
  have hpairs := (List.nodup_flatten.mp h.nodup).right
  refine hpairs.imp_of_mem ?_
  intro a b ha _ hdisjoint heq
  rcases List.exists_mem_of_ne_nil a (h.nonempty a ha) with ⟨v, hv⟩
  exact hdisjoint hv (heq ▸ hv)

theorem Classes.listed_once {g' : Digraph V} (h : Classes g parts) (h' : Classes g' parts')
    (hnodes : forall v, v ∈ g.nodes <-> v ∈ g'.nodes)
    (hedges : forall x y, g.Edge x y <-> g'.Edge x y)
    (hlisted : forall a b, a ∈ parts -> b ∈ parts' -> a.Perm b -> a = b) : parts'.Perm parts := by
  have hmutual : forall u v, g.Mutual u v <-> g'.Mutual u v := by
    have hreaches : forall u v, g.Reaches u v <-> g'.Reaches u v := by
      intro u v
      constructor
      · exact fun hpath => ReflTransGen.mono (fun x y hedge => (hedges x y).mp hedge) u v hpath
      · exact fun hpath => ReflTransGen.mono (fun x y hedge => (hedges x y).mpr hedge) u v hpath
    intro u v
    exact and_congr (hreaches u v) (hreaches v u)
  have hsame : forall a b, a ∈ parts -> b ∈ parts' -> forall v, v ∈ a -> v ∈ b -> a = b := by
    intro a b ha hb v hva hvb
    apply hlisted a b ha hb
    apply (List.perm_ext_iff_of_nodup ((List.nodup_flatten.mp h.nodup).left a ha)
      ((List.nodup_flatten.mp h'.nodup).left b hb)).mpr
    intro w
    rw [h.classes a ha v hva w, h'.classes b hb v hvb w]
    exact hmutual v w
  apply (List.perm_ext_iff_of_nodup h'.parts_nodup h.parts_nodup).mpr
  intro part
  constructor
  · intro hpart
    rcases List.exists_mem_of_ne_nil part (h'.nonempty part hpart) with ⟨v, hv⟩
    rcases h.covers v ((hnodes v).mpr (h'.inside part hpart v hv)) with ⟨a, ha, hva⟩
    rw [<- hsame a part ha hpart v hva hv]
    exact ha
  · intro hpart
    rcases List.exists_mem_of_ne_nil part (h.nonempty part hpart) with ⟨v, hv⟩
    rcases h'.covers v ((hnodes v).mp (h.inside part hpart v hv)) with ⟨b, hb, hvb⟩
    rw [hsame part b hpart hb v hv hvb]
    exact hb

end Listings

end Components
end GraphHelm
