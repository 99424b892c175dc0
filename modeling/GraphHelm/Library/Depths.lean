import GraphHelm.Library.Loops
import Mathlib.Data.Finset.Card
import Mathlib.Data.List.Chain
import Mathlib.Data.Fintype.EquivFin
import Mathlib.Order.WellFounded
import Mathlib.Order.RelClasses
import Mathlib.Logic.Function.Basic

/-!
# Longest paths

The length of the longest paths of an acyclic graph of numbers, by taking the numbers to
which no unfinished one leads from a queue.
-/

namespace GraphHelm
namespace Depths

open Relation

/-- Arcs between the numbers below `size`. -/
structure Arcs where
  size : Nat
  targets : Nat -> List Nat

structure Drain where
  queue : List Nat
  indegree : Nat -> Nat
  depths : Nat -> Nat
  maximum : Nat

/-- One target of a number that leaves the queue at `depth`. -/
def relax (depth : Nat) (s : Drain) (target : Nat) : Drain :=
  let left := s.indegree target - 1
  { s with
    depths := Function.update s.depths target (max (s.depths target) (depth + 1))
    indegree := Function.update s.indegree target left
    queue := if left = 0 then s.queue ++ [target] else s.queue }

def drainStep (arcs : Arcs) (s : Drain) : Option Drain :=
  match s.queue with
  | [] => none
  | node :: rest =>
      let depth := s.depths node
      some
        ((arcs.targets node).foldl (relax depth)
          { s with queue := rest, maximum := max s.maximum depth })

def opened (arcs : Arcs) (indegree : Nat -> Nat) (maximum : Nat) : Drain :=
  { queue := (List.range arcs.size).filter fun i => indegree i = 0
    indegree := indegree
    depths := fun _ => 1
    maximum := maximum }

def drained (arcs : Arcs) (indegree : Nat -> Nat) (maximum : Nat) : Drain :=
  exhaust (drainStep arcs) arcs.size (opened arcs indegree maximum)

/-- The numbers in the order they leave the queue. -/
def taken (arcs : Arcs) (indegree : Nat -> Nat) (maximum : Nat) : List Nat :=
  (passes (drainStep arcs) arcs.size (opened arcs indegree maximum)).filterMap fun s =>
    s.queue.head?

/-!
## Paths
-/

namespace Arcs

variable (arcs : Arcs)

def Arc (a b : Nat) : Prop := b ∈ arcs.targets a

structure IsPath (path : List Nat) : Prop where
  inside : forall i, i ∈ path -> i < arcs.size
  linked : path.IsChain arcs.Arc

structure Longest (length : Nat) : Prop where
  bounds : forall path, arcs.IsPath path -> path.length <= length
  attained : exists path, arcs.IsPath path ∧ path.length = length

/-- What the queue is drained over: no arc is listed twice, none closes a circle, and the
indegrees are counted. -/
structure Acyclic (indegree : Nat -> Nat) : Prop where
  nodup : forall i, (arcs.targets i).Nodup
  inside : forall {i j}, arcs.Arc i j -> i < arcs.size ∧ j < arcs.size
  irrefl : forall i, ¬ TransGen arcs.Arc i i
  indegree : forall i, i < arcs.size ->
    indegree i = ((Finset.range arcs.size).filter fun j => i ∈ arcs.targets j).card

structure EndsAt (i : Nat) (path : List Nat) : Prop where
  head : path.head? = some i
  inside : forall j, j ∈ path -> j < arcs.size
  linked : path.IsChain fun b a => arcs.Arc a b

end Arcs

section Paths

variable {arcs : Arcs} {i j : Nat} {path : List Nat}

theorem Arcs.EndsAt.isPath (h : arcs.EndsAt i path) : arcs.IsPath path.reverse := by
  constructor
  · intro j hj
    exact h.inside j (List.mem_reverse.mp hj)
  · exact List.isChain_reverse.mpr h.linked

theorem Arcs.EndsAt.single (hi : i < arcs.size) : arcs.EndsAt i [i] := by
  constructor
  · rfl
  · intro j hj
    rw [List.mem_singleton.mp hj]
    exact hi
  · exact List.isChain_singleton i

theorem Arcs.EndsAt.extend (h : arcs.EndsAt i path) (harc : arcs.Arc i j) (hj : j < arcs.size) :
    arcs.EndsAt j (j :: path) := by
  constructor
  · rfl
  · intro k hk
    rcases List.mem_cons.mp hk with heq | hk
    · rw [heq]
      exact hj
    · exact h.inside k hk
  · rw [List.isChain_cons]
    constructor
    · intro k hk
      rw [h.head] at hk
      cases hk
      exact harc
    · exact h.linked

end Paths

/-!
## One node
-/

section Relaxing

variable {s : Drain} {depth : Nat}

theorem foldl_relax {targets : List Nat} (hnodup : targets.Nodup) :
    (targets.foldl (relax depth) s).maximum = s.maximum ∧
      (targets.foldl (relax depth) s).queue =
        s.queue ++ targets.filter (fun t => s.indegree t - 1 = 0) ∧
      (forall i, (targets.foldl (relax depth) s).indegree i =
        if i ∈ targets then s.indegree i - 1 else s.indegree i) ∧
      forall i, (targets.foldl (relax depth) s).depths i =
        if i ∈ targets then max (s.depths i) (depth + 1) else s.depths i := by
  induction targets generalizing s with
  | nil =>
      simp
  | cons first rest ih =>
      rw [List.nodup_cons] at hnodup
      rcases hnodup with ⟨hfirst, hrest⟩
      rcases @ih (relax depth s first) hrest with ⟨hmaximum, hqueue, hindegree, hdepths⟩
      have hother : forall t, t ∈ rest -> (relax depth s first).indegree t = s.indegree t := by
        intro t ht
        have hne : t ≠ first := fun heq => hfirst (heq ▸ ht)
        exact Function.update_of_ne hne _ _
      rw [List.foldl_cons]
      refine ⟨hmaximum, ?_, ?_, ?_⟩
      · have hfilter : rest.filter (fun t => (relax depth s first).indegree t - 1 = 0) =
            rest.filter fun t => s.indegree t - 1 = 0 := by
          apply List.filter_congr
          intro t ht
          rw [hother t ht]
        rw [hqueue, hfilter]
        simp only [relax, List.filter_cons]
        split
        · rename_i hzero
          simp [hzero]
        · rename_i hzero
          simp [hzero]
      · intro i
        rw [hindegree i]
        rcases Decidable.em (i = first) with heq | hne
        · subst heq
          rw [if_neg hfirst, if_pos List.mem_cons_self]
          exact Function.update_self _ _ _
        · have hsame : (relax depth s first).indegree i = s.indegree i :=
            Function.update_of_ne hne _ _
          simp only [hsame, List.mem_cons, hne, false_or]
      · intro i
        rw [hdepths i]
        rcases Decidable.em (i = first) with heq | hne
        · subst heq
          rw [if_neg hfirst, if_pos List.mem_cons_self]
          exact Function.update_self _ _ _
        · have hsame : (relax depth s first).depths i = s.depths i :=
            Function.update_of_ne hne _ _
          simp only [hsame, List.mem_cons, hne, false_or]

end Relaxing

/-!
## The whole queue
-/

/-- The queue after the numbers of `done` have left it. -/
structure Draining (arcs : Arcs) (least : Nat) (done : List Nat) (s : Drain) : Prop where
  nodup : (done ++ s.queue).Nodup
  inside : forall i, i ∈ done ++ s.queue -> i < arcs.size
  indegree : forall i, i < arcs.size -> s.indegree i =
    ((Finset.range arcs.size).filter fun j => j ∉ done ∧ i ∈ arcs.targets j).card
  ready : forall i, i < arcs.size -> (i ∈ done ++ s.queue <-> s.indegree i = 0)
  attained : forall i, i < arcs.size -> exists path, arcs.EndsAt i path ∧ path.length = s.depths i
  relaxed : forall j, j ∈ done -> forall i, arcs.Arc j i -> s.depths j + 1 <= s.depths i
  bounds : forall j, j ∈ done -> s.depths j <= s.maximum
  reached : s.maximum = least ∨ exists j, j ∈ done ∧ s.depths j = s.maximum
  least : least <= s.maximum

section Draining

variable {arcs : Arcs} {indegree : Nat -> Nat} {least : Nat}

theorem Draining.opened (hacyclic : arcs.Acyclic indegree) :
    Draining arcs least [] (opened arcs indegree least) := by
  constructor
  · exact List.Nodup.filter _ List.nodup_range
  · intro i hi
    exact List.mem_range.mp (List.mem_filter.mp hi).left
  · intro i hi
    rw [show (Depths.opened arcs indegree least).indegree i = indegree i from rfl,
      hacyclic.indegree i hi]
    congr 1
    apply Finset.filter_congr
    intro j _
    simp
  · intro i hi
    simp [Depths.opened, hi]
  · intro i hi
    exact ⟨[i], Arcs.EndsAt.single hi, rfl⟩
  · intro j hj
    cases hj
  · intro j hj
    cases hj
  · exact Or.inl rfl
  · exact Nat.le_refl _

variable {done : List Nat}

theorem Draining.waits {s : Drain} (h : Draining arcs least done s)
    (hacyclic : arcs.Acyclic indegree) {node i : Nat} (hnode : node ∉ done)
    (harc : arcs.Arc node i) : s.indegree i ≠ 0 ∧ i ∉ done ++ s.queue := by
  have hi := (hacyclic.inside harc).right
  have hpos : s.indegree i ≠ 0 := by
    rw [h.indegree i hi]
    apply Nat.ne_of_gt
    apply Finset.card_pos.mpr
    exact ⟨node, by simp [(hacyclic.inside harc).left, hnode, show i ∈ arcs.targets node from harc]⟩
  exact And.intro hpos fun hmem => hpos ((h.ready i hi).mp hmem)

theorem drainStep_spec (hacyclic : arcs.Acyclic indegree) {s s' : Drain}
    (h : Draining arcs least done s) (hstep : drainStep arcs s = some s') :
    exists node, s.queue.head? = some node ∧ Draining arcs least (done ++ [node]) s' := by
  cases hqueue : s.queue with
  | nil => simp [drainStep, hqueue] at hstep
  | cons node rest =>
      have hnext : s' = (arcs.targets node).foldl (relax (s.depths node))
          { s with queue := rest, maximum := max s.maximum (s.depths node) } := by
        simp only [drainStep, hqueue, Option.some.injEq] at hstep
        exact hstep.symm
      rcases @foldl_relax { s with queue := rest, maximum := max s.maximum (s.depths node) }
        (s.depths node) (arcs.targets node) (hacyclic.nodup node) with
        ⟨hmaximum, hrest, hindegree, hdepths⟩
      rw [<- hnext] at hmaximum hrest hindegree hdepths
      have hlisted : done ++ s.queue = (done ++ [node]) ++ rest := by
        rw [hqueue, List.append_assoc]
        rfl
      have hmemNode : node ∈ done ++ s.queue := by
        rw [hqueue]
        exact List.mem_append_right _ List.mem_cons_self
      have hnode := h.inside node hmemNode
      have hfresh : node ∉ done := fun hmem =>
        (List.nodup_append.mp h.nodup).right.right node hmem node
          (by rw [hqueue]; exact List.mem_cons_self) rfl
      have hself : node ∉ arcs.targets node := fun hmem =>
        hacyclic.irrefl node (TransGen.single hmem)
      have hwaits : forall i, i ∈ arcs.targets node ->
          s.indegree i ≠ 0 ∧ i ∉ done ++ s.queue := fun i harc =>
        h.waits hacyclic hfresh harc
      have hgrows : forall i, s.depths i <= s'.depths i := by
        intro i
        rw [hdepths i]
        split
        · exact Nat.le_max_left _ _
        · exact Nat.le_refl _
      -- what left the queue is no target of what leaves it later
      have hkept : forall j, j ∈ done ++ s.queue -> s'.depths j = s.depths j := by
        intro j hj
        rw [hdepths j, if_neg fun harc => (hwaits j harc).right hj]
      refine ⟨node, rfl, ?_⟩
      constructor
      · rw [hrest, <- List.append_assoc, <- hlisted]
        refine List.Nodup.append h.nodup (List.Nodup.filter _ (hacyclic.nodup node)) ?_
        intro i hi hnew
        exact (hwaits i (List.mem_filter.mp hnew).left).right hi
      · intro i hi
        rw [hrest, <- List.append_assoc, <- hlisted] at hi
        rcases List.mem_append.mp hi with hi | hi
        · exact h.inside i hi
        · exact (hacyclic.inside (List.mem_filter.mp hi).left).right
      · intro i hi
        rw [hindegree i]
        split
        · rename_i harc
          have herase : ((Finset.range arcs.size).filter fun j =>
              j ∉ done ++ [node] ∧ i ∈ arcs.targets j) =
                ((Finset.range arcs.size).filter fun j => j ∉ done ∧ i ∈ arcs.targets j).erase
                  node := by
            ext j
            simp only [Finset.mem_filter, Finset.mem_erase, List.mem_append, List.mem_singleton,
              not_or]
            constructor
            · rintro ⟨hj, ⟨hdone, hne⟩, harc⟩
              exact ⟨hne, hj, hdone, harc⟩
            · rintro ⟨hne, hj, hdone, harc⟩
              exact ⟨hj, ⟨hdone, hne⟩, harc⟩
          rw [herase, Finset.card_erase_of_mem (by simp [hnode, hfresh, harc]), <- h.indegree i hi]
        · rename_i harc
          have hsame : ((Finset.range arcs.size).filter fun j =>
              j ∉ done ++ [node] ∧ i ∈ arcs.targets j) =
                (Finset.range arcs.size).filter fun j => j ∉ done ∧ i ∈ arcs.targets j := by
            apply Finset.filter_congr
            intro j _
            simp only [List.mem_append, List.mem_singleton, not_or]
            constructor
            · rintro ⟨⟨hdone, _⟩, hmem⟩
              exact And.intro hdone hmem
            · rintro ⟨hdone, hmem⟩
              exact And.intro (And.intro hdone fun heq => harc (heq ▸ hmem)) hmem
          rw [hsame, <- h.indegree i hi]
      · intro i hi
        rw [hrest, <- List.append_assoc, <- hlisted, List.mem_append, hindegree i,
          List.mem_filter]
        split
        · rename_i harc
          have hout := (hwaits i harc).right
          simp only [hout, false_or, decide_eq_true_eq]
          exact and_iff_right harc
        · rename_i harc
          rw [h.ready i hi]
          constructor
          · rintro (hzero | hnew)
            · exact hzero
            · exact absurd hnew.left harc
          · exact Or.inl
      · intro i hi
        rw [hdepths i]
        split
        · rename_i harc
          rcases Nat.le_total (s.depths node + 1) (s.depths i) with hle | hle
          · rcases h.attained i hi with ⟨path, hpath, hlength⟩
            exact ⟨path, hpath, by rw [hlength, Nat.max_eq_left hle]⟩
          · rcases h.attained node hnode with ⟨path, hpath, hlength⟩
            exact ⟨i :: path, hpath.extend harc hi,
              by rw [List.length_cons, hlength, Nat.max_eq_right hle]⟩
        · exact h.attained i hi
      · intro j hj i harc
        rcases List.mem_append.mp hj with hj | hj
        · rw [hkept j (List.mem_append_left _ hj)]
          exact Nat.le_trans (h.relaxed j hj i harc) (hgrows i)
        · have heq := List.mem_singleton.mp hj
          subst heq
          rw [hkept j hmemNode, hdepths i, if_pos (show i ∈ arcs.targets j from harc)]
          exact Nat.le_max_right _ _
      · intro j hj
        rw [hmaximum]
        rcases List.mem_append.mp hj with hj | hj
        · rw [hkept j (List.mem_append_left _ hj)]
          exact Nat.le_trans (h.bounds j hj) (Nat.le_max_left _ _)
        · rw [List.mem_singleton.mp hj, hkept node hmemNode]
          exact Nat.le_max_right _ _
      · rw [hmaximum]
        rcases Nat.le_total (s.depths node) s.maximum with hle | hle
        · rw [Nat.max_eq_left hle]
          rcases h.reached with hfirst | ⟨j, hj, hdepth⟩
          · exact Or.inl hfirst
          · refine Or.inr ⟨j, List.mem_append_left _ hj, ?_⟩
            rw [hkept j (List.mem_append_left _ hj)]
            exact hdepth
        · rw [Nat.max_eq_right hle]
          refine Or.inr ⟨node, List.mem_append_right _ (List.mem_singleton_self node), ?_⟩
          exact hkept node hmemNode
      · rw [hmaximum]
        exact Nat.le_trans h.least (Nat.le_max_left _ _)

theorem Draining.complete {s : Drain} (h : Draining arcs least done s)
    (hacyclic : arcs.Acyclic indegree) (hempty : s.queue = []) :
    forall i, i < arcs.size -> i ∈ done := by
  have hwf : WellFounded fun a b : Fin arcs.size => TransGen arcs.Arc a b := by
    have htrans : IsTrans (Fin arcs.size) fun a b => TransGen arcs.Arc a b :=
      ⟨fun a b c hab hbc => TransGen.trans hab hbc⟩
    have hirrefl : Std.Irrefl fun a b : Fin arcs.size => TransGen arcs.Arc a b :=
      ⟨fun a => hacyclic.irrefl a⟩
    exact Finite.wellFounded_of_trans_of_irrefl _
  intro i hi
  have hall : forall a : Fin arcs.size, (a : Nat) ∈ done := by
    intro a
    induction a using hwf.induction with
    | _ a ih =>
        by_contra hout
        have hzero : s.indegree a ≠ 0 := by
          intro hzero
          have hmem := (h.ready a a.isLt).mpr hzero
          rw [hempty, List.append_nil] at hmem
          exact hout hmem
        rw [h.indegree a a.isLt] at hzero
        rcases Finset.card_pos.mp (Nat.pos_of_ne_zero hzero) with ⟨j, hj⟩
        rcases Finset.mem_filter.mp hj with ⟨hrange, hdone, harc⟩
        exact hdone (ih ⟨j, Finset.mem_range.mp hrange⟩ (TransGen.single harc))
  exact hall ⟨i, hi⟩

theorem Draining.path_le {s : Drain} (h : Draining arcs least done s)
    (hall : forall i, i < arcs.size -> i ∈ done) {path : List Nat} {i : Nat}
    (hpath : arcs.EndsAt i path) : path.length <= s.depths i := by
  have hpositive : forall j, j < arcs.size -> 1 <= s.depths j := by
    intro j hj
    rcases h.attained j hj with ⟨other, hother, hlength⟩
    rw [<- hlength]
    cases other with
    | nil => cases hother.head
    | cons first rest => simp
  induction path generalizing i with
  | nil => cases hpath.head
  | cons first rest ih =>
      have heq : first = i := Option.some.inj hpath.head
      subst heq
      have hfirst := hpath.inside first List.mem_cons_self
      cases rest with
      | nil => exact hpositive first hfirst
      | cons next rest =>
          have hlinked := List.isChain_cons_cons.mp hpath.linked
          have hnext : arcs.EndsAt next (next :: rest) :=
            { head := rfl
              inside := fun j hj => hpath.inside j (List.mem_cons_of_mem first hj)
              linked := hlinked.right }
          have hle := ih hnext
          have hrelaxed := h.relaxed next
            (hall next (hpath.inside next (List.mem_cons_of_mem first List.mem_cons_self))) first
            hlinked.left
          rw [List.length_cons]
          omega

theorem drained_spec (hacyclic : arcs.Acyclic indegree)
    (hleast : least = if arcs.size = 0 then 0 else 1) :
    (taken arcs indegree least).Perm (List.range arcs.size) ∧
      (drained arcs indegree least).queue = [] ∧
      arcs.Longest (drained arcs indegree least).maximum := by
  have hrule := @passes_rule Drain (drainStep arcs)
    (fun past s => Draining arcs least (past.filterMap fun s => s.queue.head?) s)
    (fun past _ => arcs.size - (past.filterMap fun s => s.queue.head?).length)
    (by
      intro past s s' h hstep
      rcases drainStep_spec hacyclic h hstep with ⟨node, hhead, hnext⟩
      have hlisted : (past ++ [s]).filterMap (fun s => s.queue.head?) =
          past.filterMap (fun s => s.queue.head?) ++ [node] := by
        rw [List.filterMap_append]
        simp [hhead]
      rw [hlisted]
      refine And.intro hnext ?_
      have hinside : past.filterMap (fun s => s.queue.head?) ++ [node] ⊆
          List.range arcs.size :=
        fun i hi => List.mem_range.mpr (hnext.inside i (List.mem_append_left _ hi))
      have hle := (List.nodup_append.mp hnext.nodup).left.length_le_of_subset hinside
      rw [List.length_append, List.length_singleton, List.length_range] at hle
      rw [List.length_append, List.length_singleton]
      omega)
    [] (opened arcs indegree least) arcs.size (Draining.opened hacyclic) (by simp)
  rcases hrule with ⟨hend, hstop⟩
  rw [List.nil_append] at hend
  have hempty : (drained arcs indegree least).queue = [] := by
    cases hqueue : (drained arcs indegree least).queue with
    | nil => rfl
    | cons node rest =>
        have hnone : drainStep arcs (drained arcs indegree least) = none := hstop
        simp [drainStep, hqueue] at hnone
  have hall := hend.complete hacyclic hempty
  refine ⟨?_, hempty, ?_⟩
  · apply (List.perm_ext_iff_of_nodup (List.nodup_append.mp hend.nodup).left
      List.nodup_range).mpr
    intro i
    rw [List.mem_range]
    constructor
    · intro hi
      exact hend.inside i (List.mem_append_left _ hi)
    · exact hall i
  · constructor
    · intro path hpath
      cases hlast : path.reverse with
      | nil =>
          rw [List.reverse_eq_nil_iff.mp hlast]
          exact Nat.zero_le _
      | cons last before =>
          have hends : arcs.EndsAt last path.reverse :=
            { head := by rw [hlast]; rfl
              inside := fun j hj => hpath.inside j (List.mem_reverse.mp hj)
              linked := List.isChain_reverse.mpr (by simpa using hpath.linked) }
          have hdone := hall last (hends.inside last (by rw [hlast]; exact List.mem_cons_self))
          rw [<- List.length_reverse]
          exact Nat.le_trans (hend.path_le hall hends) (hend.bounds last hdone)
    · rcases hend.reached with hfirst | ⟨j, hj, hdepth⟩
      · have hmaximum : (drained arcs indegree least).maximum = least := hfirst
        rw [hmaximum, hleast]
        split
        · exact ⟨[], by constructor <;> simp, rfl⟩
        · rename_i hsize
          exact ⟨[0], (Arcs.EndsAt.single (Nat.pos_of_ne_zero hsize)).isPath, rfl⟩
      · rcases hend.attained j (hend.inside j (List.mem_append_left _ hj)) with
          ⟨path, hpath, hlength⟩
        refine ⟨path.reverse, hpath.isPath, ?_⟩
        rw [List.length_reverse, hlength]
        exact hdepth

end Draining

end Depths
end GraphHelm
