import GraphHelm.Library.Components

/-!
# Searches

A search takes nodes from a list of nodes to visit, and puts the successors of a node
it had not visited back on the list.  Whichever end of the list they are put on, it
visits what its starts lead to and nothing else.
-/

namespace GraphHelm
namespace Search

open Relation

variable {V : Type}

structure State (V : Type) where
  visited : List V
  waiting : List V

/-- The successors join the list, and nothing else does. -/
structure Puts (put : List V -> List V -> List V) : Prop where
  mem : forall {rest found : List V} {v : V}, v ∈ put rest found <-> v ∈ rest ∨ v ∈ found
  length : forall {rest found : List V}, (put rest found).length = rest.length + found.length

/-- A stack, its top first: the successor found last is taken first. -/
theorem puts_top : Puts (V := V) fun rest found => found.reverse ++ rest where
  mem := by
    intro rest found v
    rw [List.mem_append, List.mem_reverse]
    exact or_comm
  length := by
    intro rest found
    rw [List.length_append, List.length_reverse]
    exact Nat.add_comm _ _

variable [DecidableEq V]

/-- `put rest found` is the list to visit once `found` joins `rest`. -/
def searchStep (next : V -> List V) (put : List V -> List V -> List V) (s : State V) :
    Option (State V) :=
  match s.waiting with
  | [] => none
  | node :: rest =>
      if node ∈ s.visited then
        some { s with waiting := rest }
      else
        some { visited := node :: s.visited, waiting := put rest (next node) }

/-- A search from `starts`, which stays within `nodes`. -/
def search (next : V -> List V) (put : List V -> List V -> List V) (nodes starts : List V) :
    List V :=
  (exhaust (searchStep next put) (starts.length + Components.cost next nodes [])
    { visited := [], waiting := starts }).visited

/-- Everything a search has come across, or is still to visit, is led to by its starts. -/
structure Searching (next : V -> List V) (nodes starts : List V) (s : State V) : Prop where
  within : forall v, v ∈ s.waiting -> v ∈ nodes
  nodup : s.visited.Nodup
  visited : forall v, v ∈ s.visited -> exists start, start ∈ starts ∧
    ReflTransGen (fun a b => b ∈ next a) start v
  waiting : forall v, v ∈ s.waiting -> exists start, start ∈ starts ∧
    ReflTransGen (fun a b => b ∈ next a) start v
  starts : forall v, v ∈ starts -> v ∈ s.visited ∨ v ∈ s.waiting
  closed : forall a b, a ∈ s.visited -> b ∈ next a -> b ∈ s.visited ∨ b ∈ s.waiting

section Rules

variable {next : V -> List V} {put : List V -> List V -> List V} {nodes starts : List V}
  {s s' : State V}

theorem searchStep_spec (hput : Puts put) (hnext : forall a b, a ∈ nodes -> b ∈ next a -> b ∈ nodes)
    (h : Searching next nodes starts s) (hstep : searchStep next put s = some s') :
    Searching next nodes starts s' ∧
      s'.waiting.length + Components.cost next nodes s'.visited <
        s.waiting.length + Components.cost next nodes s.visited := by
  unfold searchStep at hstep
  cases hwaiting : s.waiting with
  | nil =>
      rw [hwaiting] at hstep
      cases hstep
  | cons node rest =>
      rw [hwaiting] at hstep
      dsimp only at hstep
      have hnode : node ∈ s.waiting := hwaiting ▸ List.mem_cons_self
      have hrest : forall v, v ∈ rest -> v ∈ s.waiting := fun v hv =>
        hwaiting ▸ List.mem_cons_of_mem node hv
      have hsplit : forall v, v ∈ s.waiting -> v = node ∨ v ∈ rest := fun v hv =>
        List.mem_cons.mp (hwaiting ▸ hv)
      rcases Decidable.em (node ∈ s.visited) with hold | hnew
      · rw [if_pos hold] at hstep
        cases hstep
        have hstill : forall v, v ∈ s.visited ∨ v ∈ s.waiting -> v ∈ s.visited ∨ v ∈ rest := by
          rintro v (hv | hv)
          · exact Or.inl hv
          · rcases hsplit v hv with rfl | hv
            · exact Or.inl hold
            · exact Or.inr hv
        constructor
        · exact
            { within := fun v hv => h.within v (hrest v hv)
              nodup := h.nodup
              visited := h.visited
              waiting := fun v hv => h.waiting v (hrest v hv)
              starts := fun v hv => hstill v (h.starts v hv)
              closed := fun a b ha hb => hstill b (h.closed a b ha hb) }
        · simp only [List.length_cons]
          omega
      · rw [if_neg hnew] at hstep
        cases hstep
        have hstill : forall v, v ∈ s.visited ∨ v ∈ s.waiting ->
            v ∈ node :: s.visited ∨ v ∈ put rest (next node) := by
          rintro v (hv | hv)
          · exact Or.inl (List.mem_cons_of_mem node hv)
          · rcases hsplit v hv with rfl | hv
            · exact Or.inl List.mem_cons_self
            · exact Or.inr (hput.mem.mpr (Or.inl hv))
        constructor
        · constructor
          · intro v hv
            rcases hput.mem.mp hv with hv | hv
            · exact h.within v (hrest v hv)
            · exact hnext node v (h.within node hnode) hv
          · exact List.nodup_cons.mpr ⟨hnew, h.nodup⟩
          · intro v hv
            rcases List.mem_cons.mp hv with rfl | hv
            · exact h.waiting v hnode
            · exact h.visited v hv
          · intro v hv
            rcases hput.mem.mp hv with hv | hv
            · exact h.waiting v (hrest v hv)
            · rcases h.waiting node hnode with ⟨start, hstart, hchain⟩
              exact ⟨start, hstart, hchain.tail hv⟩
          · exact fun v hv => hstill v (h.starts v hv)
          · intro a b ha hb
            rcases List.mem_cons.mp ha with rfl | ha
            · exact Or.inr (hput.mem.mpr (Or.inr hb))
            · exact hstill b (h.closed a b ha hb)
        · have hcost := @Components.cost_visit V _ next nodes s.visited node
            (h.within node hnode) hnew
          simp only [hput.length, List.length_cons]
          omega

theorem search_spec (hput : Puts put) (hstarts : forall v, v ∈ starts -> v ∈ nodes)
    (hnext : forall a b, a ∈ nodes -> b ∈ next a -> b ∈ nodes) :
    Searching next nodes starts { visited := search next put nodes starts, waiting := [] } := by
  have hopen : Searching next nodes starts { visited := [], waiting := starts } :=
    { within := hstarts
      nodup := List.nodup_nil
      visited := fun v hv => absurd hv List.not_mem_nil
      waiting := fun v hv => ⟨v, hv, .refl⟩
      starts := fun v hv => Or.inr hv
      closed := fun a b ha _ => absurd ha List.not_mem_nil }
  have hrule := @exhaust_rule (State V) (searchStep next put) (Searching next nodes starts)
    (fun s => s.waiting.length + Components.cost next nodes s.visited)
    (fun s s' h hstep => searchStep_spec hput hnext h hstep) _ _ hopen (Nat.le_refl _)
  unfold search
  generalize exhaust (searchStep next put) (starts.length + Components.cost next nodes [])
    { visited := [], waiting := starts } = final at hrule
  rcases hrule with ⟨hdone, hstop⟩
  have hempty : final.waiting = [] := by
    unfold searchStep at hstop
    split at hstop
    · assumption
    · split at hstop
      · cases hstop
      · cases hstop
  rw [← hempty]
  exact hdone

theorem search_nodup (hput : Puts put) (hstarts : forall v, v ∈ starts -> v ∈ nodes)
    (hnext : forall a b, a ∈ nodes -> b ∈ next a -> b ∈ nodes) :
    (search next put nodes starts).Nodup :=
  (search_spec hput hstarts hnext).nodup

theorem mem_search (hput : Puts put) (hstarts : forall v, v ∈ starts -> v ∈ nodes)
    (hnext : forall a b, a ∈ nodes -> b ∈ next a -> b ∈ nodes) {v : V} :
    v ∈ search next put nodes starts <->
      exists start, start ∈ starts ∧ ReflTransGen (fun a b => b ∈ next a) start v := by
  have hdone := search_spec hput hstarts hnext
  constructor
  · exact hdone.visited v
  · rintro ⟨start, hstart, hchain⟩
    induction hchain with
    | refl =>
        exact (hdone.starts start hstart).resolve_right List.not_mem_nil
    | tail _ hlink ih =>
        exact (hdone.closed _ _ ih hlink).resolve_right List.not_mem_nil

end Rules

end Search
end GraphHelm
