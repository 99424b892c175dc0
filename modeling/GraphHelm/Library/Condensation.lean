import GraphHelm.Library.Components
import GraphHelm.Library.Depths

/-!
# Condensations

The arcs between the components of a graph, entered edge by edge, and the length of the
longest paths of components.
-/

namespace GraphHelm
namespace Components

open Relation
open Depths

section Condensing

variable {V : Type}

structure Condensed where
  targets : Nat -> List Nat
  indegree : Nat -> Nat

/-- An edge that leaves a component is an arc, once; `place` tells the component of a node. -/
def condenseEdge (place : V -> Option Nat) (s : Condensed) (edge : V × V) : Condensed :=
  match place edge.1, place edge.2 with
  | some i, some j =>
      if i = j ∨ j ∈ s.targets i then s
      else
        { targets := Function.update s.targets i ((s.targets i).orderedInsert (fun a b => a <= b) j)
          indegree := Function.update s.indegree j (s.indegree j + 1) }
  | _, _ => s

def condense (place : V -> Option Nat) (edges : List (V × V)) : Condensed :=
  edges.foldl (condenseEdge place) { targets := fun _ => [], indegree := fun _ => 0 }

structure Condenses (place : V -> Option Nat) (size : Nat) (edges : List (V × V))
    (s : Condensed) : Prop where
  nodup : forall i, (s.targets i).Nodup
  mem : forall i j, j ∈ s.targets i <->
    i ≠ j ∧ exists edge, edge ∈ edges ∧ place edge.1 = some i ∧ place edge.2 = some j
  indegree : forall j, s.indegree j =
    ((Finset.range size).filter fun i => j ∈ s.targets i).card

variable {place : V -> Option Nat} {size : Nat} {edges : List (V × V)} {s : Condensed}

theorem Condenses.skip (h : Condenses place size edges s) {edge : V × V}
    (hnone : forall i j, place edge.1 = some i -> place edge.2 = some j ->
      i = j ∨ j ∈ s.targets i) : Condenses place size (edges ++ [edge]) s := by
  refine { h with mem := ?_ }
  intro i j
  rw [h.mem i j]
  constructor
  · rintro ⟨hne, other, hother, hplaces⟩
    exact ⟨hne, other, List.mem_append_left _ hother, hplaces⟩
  · rintro ⟨hne, other, hother, hplaces⟩
    rcases List.mem_append.mp hother with hother | hother
    · exact ⟨hne, other, hother, hplaces⟩
    · rw [List.mem_singleton.mp hother] at hplaces
      rcases hnone i j hplaces.left hplaces.right with heq | hmem
      · exact absurd heq hne
      · exact (h.mem i j).mp hmem

theorem condenseEdge_spec (hsize : forall v i, place v = some i -> i < size) {edge : V × V}
    (h : Condenses place size edges s) :
    Condenses place size (edges ++ [edge]) (condenseEdge place s edge) := by
  unfold condenseEdge
  split
  · rename_i i j hi hj
    split
    · rename_i hold
      apply h.skip
      intro i' j' hi' hj'
      rw [hi] at hi'
      rw [hj] at hj'
      cases hi'
      cases hj'
      exact hold
    · rename_i hnew
      rw [not_or] at hnew
      rcases hnew with ⟨hne, hnew⟩
      have hmem : forall a b,
          b ∈ Function.update s.targets i ((s.targets i).orderedInsert (fun a b => a <= b) j) a <->
            b ∈ s.targets a ∨ (a = i ∧ b = j) := by
        intro a b
        rcases Decidable.em (a = i) with heq | hother
        · subst heq
          rw [Function.update_self, List.mem_orderedInsert]
          constructor
          · rintro (hb | hb)
            · exact Or.inr (And.intro rfl hb)
            · exact Or.inl hb
          · rintro (hb | hb)
            · exact Or.inr hb
            · exact Or.inl hb.right
        · rw [Function.update_of_ne hother]
          simp [hother]
      constructor
      · intro a
        rcases Decidable.em (a = i) with heq | hother
        · subst heq
          simp only [Function.update_self]
          exact ((List.perm_orderedInsert _ j _).nodup_iff).mpr
            (List.nodup_cons.mpr (And.intro hnew (h.nodup a)))
        · simp only [Function.update_of_ne hother]
          exact h.nodup a
      · intro a b
        rw [hmem a b, h.mem a b]
        constructor
        · rintro (⟨hab, other, hother, hplaces⟩ | ⟨ha, hb⟩)
          · exact ⟨hab, other, List.mem_append_left _ hother, hplaces⟩
          · rw [ha, hb]
            exact ⟨hne, edge, List.mem_append_right _ (List.mem_singleton_self edge), hi, hj⟩
        · rintro ⟨hab, other, hother, hplaces⟩
          rcases List.mem_append.mp hother with hother | hother
          · exact Or.inl ⟨hab, other, hother, hplaces⟩
          · rw [List.mem_singleton.mp hother, hi, hj] at hplaces
            exact Or.inr ⟨(Option.some.inj hplaces.left).symm, (Option.some.inj hplaces.right).symm⟩
      · intro b
        rcases Decidable.em (b = j) with heq | hother
        · subst heq
          have hinsert : ((Finset.range size).filter fun a =>
              b ∈ Function.update s.targets i
                ((s.targets i).orderedInsert (fun a b => a <= b) b) a) =
                insert i ((Finset.range size).filter fun a => b ∈ s.targets a) := by
            ext a
            rw [Finset.mem_insert, Finset.mem_filter, Finset.mem_filter, hmem a b]
            constructor
            · rintro ⟨ha, hb | hb⟩
              · exact Or.inr (And.intro ha hb)
              · exact Or.inl hb.left
            · rintro (ha | ⟨ha, hb⟩)
              · exact And.intro (Finset.mem_range.mpr (ha ▸ hsize edge.1 i hi))
                  (Or.inr (And.intro ha rfl))
              · exact And.intro ha (Or.inl hb)
          dsimp only
          rw [hinsert, Finset.card_insert_of_notMem, Function.update_self, h.indegree b]
          intro hmem
          exact hnew (Finset.mem_filter.mp hmem).right
        · dsimp only
          rw [Function.update_of_ne hother, h.indegree b]
          congr 1
          apply Finset.filter_congr
          intro a _
          rw [hmem a b]
          simp [hother]
  · rename_i hnone
    apply h.skip
    intro i j hi hj
    exact absurd hj (hnone i j hi)

theorem condense_spec (hsize : forall v i, place v = some i -> i < size)
    (edges : List (V × V)) : Condenses place size edges (condense place edges) := by
  have hfold : forall (todo done : List (V × V)) (s : Condensed), Condenses place size done s ->
      Condenses place size (done ++ todo) (todo.foldl (condenseEdge place) s) := by
    intro todo
    induction todo with
    | nil =>
        intro done s h
        rw [List.append_nil]
        exact h
    | cons edge rest ih =>
        intro done s h
        have hnext := ih (done ++ [edge]) _ (condenseEdge_spec hsize h)
        rw [List.append_assoc] at hnext
        exact hnext
  apply hfold edges []
  constructor
  · intro i
    exact List.nodup_nil
  · intro i j
    simp
  · intro j
    simp

end Condensing

/-!
## Paths of components
-/

section Paths

variable {V : Type} (g : Digraph V) (parts : List (List V))

structure IsCondensationPath (path : List (List V)) : Prop where
  inside : forall part, part ∈ path -> part ∈ parts
  linked : path.IsChain fun a b => a ≠ b ∧ exists x y, x ∈ a ∧ y ∈ b ∧ g.Edge x y

structure LongestCondensation (length : Nat) : Prop where
  bounds : forall path, IsCondensationPath g parts path -> path.length <= length
  attained : exists path, IsCondensationPath g parts path ∧ path.length = length

/-- `place` tells the component of every node. -/
def Places (place : V -> Option Nat) : Prop :=
  forall v i, place v = some i <-> exists part, parts[i]? = some part ∧ v ∈ part

variable {g parts}

theorem LongestCondensation.unique {m n : Nat} (hm : LongestCondensation g parts m)
    (hn : LongestCondensation g parts n) : m = n := by
  have hle : forall {a b : Nat}, LongestCondensation g parts a -> LongestCondensation g parts b ->
      a <= b := by
    intro a b ha hb
    rcases ha.attained with ⟨path, hpath, hlength⟩
    rw [<- hlength]
    exact hb.bounds path hpath
  exact Nat.le_antisymm (hle hm hn) (hle hn hm)

theorem LongestCondensation.transfer {g' : Digraph V} {parts' : List (List V)}
    (hedges : forall x y, g.Edge x y <-> g'.Edge x y)
    (hparts : forall part, part ∈ parts <-> part ∈ parts') {n : Nat}
    (h : LongestCondensation g parts n) : LongestCondensation g' parts' n := by
  have hpaths : forall path, IsCondensationPath g parts path <-> IsCondensationPath g' parts' path := by
    intro path
    constructor
    · intro hpath
      constructor
      · intro part hpart
        exact (hparts part).mp (hpath.inside part hpart)
      · refine hpath.linked.imp ?_
        rintro a b ⟨hne, x, y, hx, hy, hedge⟩
        exact ⟨hne, x, y, hx, hy, (hedges x y).mp hedge⟩
    · intro hpath
      constructor
      · intro part hpart
        exact (hparts part).mpr (hpath.inside part hpart)
      · refine hpath.linked.imp ?_
        rintro a b ⟨hne, x, y, hx, hy, hedge⟩
        exact ⟨hne, x, y, hx, hy, (hedges x y).mpr hedge⟩
  constructor
  · intro path hpath
    exact h.bounds path ((hpaths path).mpr hpath)
  · rcases h.attained with ⟨path, hpath, hlength⟩
    exact ⟨path, (hpaths path).mp hpath, hlength⟩

end Paths

section Condensation

variable {V : Type} {g : Digraph V} {parts : List (List V)} {place : V -> Option Nat}
  {edges : List (V × V)}

/-- The arcs between the components. -/
def condensation (parts : List (List V)) (place : V -> Option Nat) (edges : List (V × V)) : Arcs :=
  { size := parts.length, targets := (condense place edges).targets }

theorem Places.lt (h : Places parts place) {v : V} {i : Nat} (hi : place v = some i) :
    i < parts.length := by
  rcases (h v i).mp hi with ⟨part, hpart, _⟩
  exact (List.getElem?_eq_some_iff.mp hpart).1

theorem arc_iff (h : Places parts place)
    (hedges : forall x y, x ∈ parts.flatten -> y ∈ parts.flatten ->
      (g.Edge x y <-> (x, y) ∈ edges)) {i j : Nat} :
    (condensation parts place edges).Arc i j <->
      i ≠ j ∧ exists a b, parts[i]? = some a ∧ parts[j]? = some b ∧
        exists x y, x ∈ a ∧ y ∈ b ∧ g.Edge x y := by
  have hspec := @condense_spec V place parts.length (fun v i => h.lt) edges
  rw [show (condensation parts place edges).Arc i j <-> j ∈ (condense place edges).targets i
    from Iff.rfl, hspec.mem i j]
  have hflat : forall {k : Nat} {part : List V} {v : V}, parts[k]? = some part -> v ∈ part ->
      v ∈ parts.flatten := fun hpart hv =>
    List.mem_flatten.mpr ⟨_, List.mem_of_getElem? hpart, hv⟩
  constructor
  · rintro ⟨hne, edge, hedge, hi, hj⟩
    rcases (h edge.1 i).mp hi with ⟨a, ha, hx⟩
    rcases (h edge.2 j).mp hj with ⟨b, hb, hy⟩
    exact ⟨hne, a, b, ha, hb, edge.1, edge.2, hx, hy,
      (hedges edge.1 edge.2 (hflat ha hx) (hflat hb hy)).mpr hedge⟩
  · rintro ⟨hne, a, b, ha, hb, x, y, hx, hy, hedge⟩
    exact ⟨hne, (x, y), (hedges x y (hflat ha hx) (hflat hb hy)).mp hedge,
      (h x i).mpr ⟨a, ha, hx⟩, (h y j).mpr ⟨b, hb, hy⟩⟩

theorem Classes.reaches_of_path (hclasses : Classes g parts) (h : Places parts place)
    (hedges : forall x y, x ∈ parts.flatten -> y ∈ parts.flatten ->
      (g.Edge x y <-> (x, y) ∈ edges)) {i j : Nat}
    (hpath : TransGen (condensation parts place edges).Arc i j) {a b : List V}
    (ha : parts[i]? = some a) (hb : parts[j]? = some b) {u v : V} (hu : u ∈ a) (hv : v ∈ b) :
    g.Reaches u v := by
  have hwithin : forall {k : Nat} {part : List V} {x y : V}, parts[k]? = some part ->
      x ∈ part -> y ∈ part -> g.Reaches x y := by
    intro k part x y hpart hx hy
    exact ((hclasses.classes part (List.mem_of_getElem? hpart) x hx y).mp hy).left
  induction hpath generalizing b v with
  | single harc =>
      rcases ((arc_iff h hedges).mp harc).right with ⟨a', b', ha', hb', x, y, hx, hy, hedge⟩
      rw [ha] at ha'
      rw [hb] at hb'
      cases ha'
      cases hb'
      exact ((hwithin ha hu hx).tail hedge).trans (hwithin hb hy hv)
  | tail _ harc ih =>
      rcases ((arc_iff h hedges).mp harc).right with ⟨a', b', ha', hb', x, y, hx, hy, hedge⟩
      rw [hb] at hb'
      cases hb'
      exact ((ih ha' hx).tail hedge).trans (hwithin hb hy hv)

theorem Classes.condensation_acyclic (hclasses : Classes g parts) (h : Places parts place)
    (hedges : forall x y, x ∈ parts.flatten -> y ∈ parts.flatten ->
      (g.Edge x y <-> (x, y) ∈ edges)) :
    (condensation parts place edges).Acyclic (condense place edges).indegree := by
  have hspec := @condense_spec V place parts.length (fun v i => h.lt) edges
  constructor
  · exact hspec.nodup
  · intro i j harc
    rcases ((arc_iff h hedges).mp harc).right with ⟨a, b, ha, hb, _⟩
    exact And.intro (List.getElem?_eq_some_iff.mp ha).1 (List.getElem?_eq_some_iff.mp hb).1
  · intro i hcircle
    rcases TransGen.head'_iff.mp hcircle with ⟨j, harc, hback⟩
    rcases (arc_iff h hedges).mp harc with ⟨hne, a, b, ha, hb, x, y, hx, hy, hedge⟩
    have hreturn : g.Reaches y x := by
      rcases Relation.reflTransGen_iff_eq_or_transGen.mp hback with heq | hpath
      · exact absurd heq hne
      · exact hclasses.reaches_of_path h hedges hpath hb ha hy hx
    -- both ends lie in one component, so it has both numbers
    have hsame : y ∈ a := (hclasses.classes a (List.mem_of_getElem? ha) x hx y).mpr
      (And.intro (ReflTransGen.single hedge) hreturn)
    have hi := (h y i).mpr ⟨a, ha, hsame⟩
    have hj := (h y j).mpr ⟨b, hb, hy⟩
    rw [hi] at hj
    exact hne (Option.some.inj hj)
  · intro i _
    exact hspec.indegree i

/-- The longest paths of the arcs and of the components are equally long. -/
theorem Classes.longest_iff (hclasses : Classes g parts) (h : Places parts place)
    (hedges : forall x y, x ∈ parts.flatten -> y ∈ parts.flatten ->
      (g.Edge x y <-> (x, y) ∈ edges)) {n : Nat}
    (hlongest : (condensation parts place edges).Longest n) : LongestCondensation g parts n := by
  classical
  have hnodup := hclasses.parts_nodup
  constructor
  · intro path hpath
    have hindex : forall part, part ∈ path -> parts[parts.idxOf part]? = some part := by
      intro part hpart
      have hmem := hpath.inside part hpart
      rw [List.getElem?_eq_getElem (List.idxOf_lt_length_of_mem hmem), List.getElem_idxOf]
    have hnumbers : (condensation parts place edges).IsPath (path.map parts.idxOf) := by
      constructor
      · intro i hi
        rcases List.mem_map.mp hi with ⟨part, hpart, heq⟩
        rw [<- heq]
        exact List.idxOf_lt_length_of_mem (hpath.inside part hpart)
      · rw [List.isChain_map]
        refine List.IsChain.imp_of_mem_imp ?_ hpath.linked
        intro a b ha hb hlink
        apply (arc_iff h hedges).mpr
        refine ⟨?_, a, b, hindex a ha, hindex b hb, hlink.right⟩
        intro heq
        have hsame := hindex b hb
        rw [<- heq, hindex a ha] at hsame
        exact hlink.left (Option.some.inj hsame)
    have hle := hlongest.bounds _ hnumbers
    rw [List.length_map] at hle
    exact hle
  · rcases hlongest.attained with ⟨path, hpath, hlength⟩
    have hpart : forall i, i ∈ path -> parts[i]? = some (parts.getD i []) := by
      intro i hi
      have hlt : i < parts.length := hpath.inside i hi
      rw [List.getD_eq_getElem?_getD, List.getElem?_eq_getElem hlt, Option.getD_some]
    refine ⟨path.map fun i => parts.getD i [], ?_, by rw [List.length_map, hlength]⟩
    constructor
    · intro part hmem
      rcases List.mem_map.mp hmem with ⟨i, hi, heq⟩
      rw [<- heq]
      exact List.mem_of_getElem? (hpart i hi)
    · rw [List.isChain_map]
      refine List.IsChain.imp_of_mem_imp ?_ hpath.linked
      intro i j hi hj harc
      rcases (arc_iff h hedges).mp harc with ⟨hne, a, b, ha, hb, hlink⟩
      rw [hpart i hi] at ha
      rw [hpart j hj] at hb
      rw [Option.some.inj ha, Option.some.inj hb]
      refine And.intro ?_ hlink
      intro heq
      have hi' := hpath.inside i hi
      have hj' := hpath.inside j hj
      apply hne
      apply (List.getElem?_inj hi' hnodup).mp
      rw [hpart i hi, hpart j hj, ha, hb, heq]

theorem Classes.drained_spec (hclasses : Classes g parts) (h : Places parts place)
    (hedges : forall x y, x ∈ parts.flatten -> y ∈ parts.flatten ->
      (g.Edge x y <-> (x, y) ∈ edges)) {least : Nat}
    (hleast : least = if parts.length = 0 then 0 else 1) :
    (taken (condensation parts place edges) (condense place edges).indegree least).Perm
        (List.range parts.length) ∧
      (drained (condensation parts place edges) (condense place edges).indegree least).queue = [] ∧
      LongestCondensation g parts
        (drained (condensation parts place edges) (condense place edges).indegree least).maximum := by
  rcases Depths.drained_spec (hclasses.condensation_acyclic h hedges) hleast with
    ⟨htaken, hempty, hlongest⟩
  exact ⟨htaken, hempty, hclasses.longest_iff h hedges hlongest⟩

end Condensation

end Components
end GraphHelm
