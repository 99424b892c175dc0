import Mathlib.Data.List.Sort
import Mathlib.Data.Set.Card

/-!
# Ranks

How many members of a list stand before one of them in an order.  A member is in
a prefix of the sorted list exactly when fewer members stand before it than the
prefix is long, so what a bounded plan takes is said without sorting.
-/

namespace GraphHelm
namespace Ranks

variable {α : Type} {l : List α}

/-- A list without repetitions is as long as the set of its members is large. -/
theorem length_eq_ncard (h : l.Nodup) : l.length = { a | a ∈ l }.ncard := by
  classical
  have hset : { a | a ∈ l } = ↑l.toFinset := by
    ext a
    exact List.mem_toFinset.symm
  rw [hset, Set.ncard_coe_finset, List.toFinset_card_of_nodup h]

theorem length_filter_eq_iff {p q : α -> Bool}
    (hsub : forall a, a ∈ l -> p a = true -> q a = true) :
    (l.filter p).length = (l.filter q).length <->
      forall a, a ∈ l -> q a = true -> p a = true := by
  have hnested : (l.filter q).filter p = l.filter p := by
    rw [List.filter_filter]
    refine List.filter_congr fun a hmem => ?_
    rw [Bool.eq_iff_iff, Bool.and_eq_true]
    exact and_iff_left_of_imp (hsub a hmem)
  rw [← hnested, List.length_filter_eq_length_iff]
  constructor
  · intro h a hmem hq
    exact h a (List.mem_filter.mpr (And.intro hmem hq))
  · intro h a hmem
    rcases List.mem_filter.mp hmem with ⟨hmem, hq⟩
    exact h a hmem hq

section Rank

variable [DecidableEq α] {r : α -> α -> Prop} [DecidableRel r] {a : α} {k : Nat}

/-- The members of `l` that stand before `a`. -/
def rank (r : α -> α -> Prop) [DecidableRel r] (l : List α) (a : α) : Nat :=
  l.countP fun b => b ≠ a ∧ r b a

theorem rank_eq_of_perm {other : List α} (h : l.Perm other) : rank r l a = rank r other a :=
  h.countP_eq _

theorem rank_eq_ncard (h : l.Nodup) : rank r l a = { b | b ∈ l ∧ b ≠ a ∧ r b a }.ncard := by
  have hset : { b | b ∈ l ∧ b ≠ a ∧ r b a } = { b | b ∈ l.filter fun b => b ≠ a ∧ r b a } := by
    ext b
    show _ <-> b ∈ l.filter _
    rw [List.mem_filter, decide_eq_true_iff]
    exact Iff.rfl
  rw [hset, ← length_eq_ncard (h.filter _)]
  exact List.countP_eq_length_filter

theorem rank_eq_zero (h : forall b, b ∈ l -> b ≠ a -> ¬ r b a) : rank r l a = 0 := by
  unfold rank
  rw [List.countP_eq_zero]
  intro b hmem hbefore
  rcases of_decide_eq_true hbefore with ⟨hne, hrel⟩
  exact h b hmem hne hrel

/-- A prefix of a sorted list holds the members of small rank. -/
theorem mem_take_of_pairwise [Std.Antisymm r] (hsorted : l.Pairwise r) (hnodup : l.Nodup) :
    a ∈ l.take k <-> a ∈ l ∧ rank r l a < k := by
  induction l generalizing k with
  | nil =>
      rw [List.take_nil]
      exact iff_of_false List.not_mem_nil fun h => List.not_mem_nil h.left
  | cons first rest ih =>
      rcases List.pairwise_cons.mp hsorted with ⟨hfirst, hsorted⟩
      rcases List.nodup_cons.mp hnodup with ⟨hnotin, hnodup⟩
      cases k with
      | zero =>
          exact iff_of_false List.not_mem_nil fun h => Nat.not_lt_zero _ h.right
      | succ k =>
          rw [List.take_succ_cons, List.mem_cons, List.mem_cons]
          rcases Decidable.em (a = first) with rfl | hne
          · refine iff_of_true (Or.inl rfl) (And.intro (Or.inl rfl) ?_)
            rw [rank_eq_zero]
            · exact Nat.succ_pos k
            · intro b hmem hother hbefore
              rcases List.mem_cons.mp hmem with rfl | hmem
              · exact hother rfl
              · exact hother (antisymm hbefore (hfirst b hmem))
          · rw [or_iff_right hne, or_iff_right hne, ih hsorted hnodup]
            refine and_congr_right fun hmem => ?_
            have hrank : rank r (first :: rest) a = rank r rest a + 1 :=
              List.countP_cons_of_pos (decide_eq_true (And.intro (Ne.symm hne) (hfirst a hmem)))
            rw [hrank, Nat.succ_lt_succ_iff]

/-- A prefix of a list put in order holds the members of small rank. -/
theorem mem_take_insertionSort [Std.Antisymm r] [Std.Total r] [IsTrans α r] (hnodup : l.Nodup) :
    a ∈ (l.insertionSort r).take k <-> a ∈ l ∧ rank r l a < k := by
  have hperm := List.perm_insertionSort r l
  rw [mem_take_of_pairwise (List.pairwise_insertionSort r l) (hperm.nodup_iff.mpr hnodup),
    hperm.mem_iff, rank_eq_of_perm hperm]

end Rank

end Ranks
end GraphHelm
