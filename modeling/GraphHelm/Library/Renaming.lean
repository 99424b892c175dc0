import Mathlib.Data.Finset.Max
import Mathlib.Data.List.Dedup
import Mathlib.Data.List.Sort
import Mathlib.Logic.Equiv.Basic
import Mathlib.Order.Defs.LinearOrder

/-!
# Renaming

Names of a linear order can be exchanged among each other so that they stand in
any order: what is decided by the order of names is decided by nothing else.
-/

namespace GraphHelm

variable {α : Type} [LinearOrder α]

/-- A renaming of `names` among themselves that puts them in the order of the list. -/
structure PutInOrder (names : List α) (rename : Equiv.Perm α) : Prop where
  elsewhere : forall name, name ∉ names -> rename name = name
  within : forall name, name ∈ names -> rename name ∈ names
  ordered : (names.map rename).Pairwise fun a b => a < b

theorem exists_least (name : α) (rest : List α) :
    exists least, least ∈ name :: rest ∧ forall other, other ∈ name :: rest -> least <= other := by
  have hsome : (name :: rest).toFinset.Nonempty := ⟨name, by simp⟩
  rcases (name :: rest).toFinset.exists_min_image id hsome with ⟨least, hmem, hleast⟩
  exists least
  constructor
  · exact List.mem_toFinset.mp hmem
  · intro other hother
    exact hleast other (List.mem_toFinset.mpr hother)

theorem swap_least {name least : α} {rest : List α} (hnodup : (name :: rest).Nodup)
    (hleast : forall other, other ∈ name :: rest -> least <= other) (other : α)
    (hother : other ∈ rest.map (Equiv.swap name least)) :
    other ∈ name :: rest ∧ least < other := by
  rcases List.mem_map.mp hother with ⟨before, hbefore, heq⟩
  have hfresh : before ≠ name := fun h => (List.nodup_cons.mp hnodup).left (h ▸ hbefore)
  have hwithin : other ∈ name :: rest := by
    by_cases h : before = least
    · rw [h, Equiv.swap_apply_right] at heq
      exact heq ▸ List.mem_cons_self
    · rw [Equiv.swap_apply_of_ne_of_ne hfresh h] at heq
      exact heq ▸ List.mem_cons_of_mem name hbefore
  constructor
  · exact hwithin
  · apply lt_of_le_of_ne (hleast other hwithin)
    intro h
    apply hfresh
    apply (Equiv.swap name least).injective
    rw [heq, <- h, Equiv.swap_apply_left]

theorem exists_putInOrder {names : List α} (hnodup : names.Nodup) :
    exists rename, PutInOrder names rename := by
  induction hlength : names.length generalizing names with
  | zero =>
      cases List.length_eq_zero_iff.mp hlength
      exact ⟨Equiv.refl α, fun _ _ => rfl, fun _ h => h, List.Pairwise.nil⟩
  | succ length ih =>
      cases names with
      | nil => cases hlength
      | cons name rest =>
          rcases exists_least name rest with ⟨least, hmem, hleast⟩
          have hlater : (rest.map (Equiv.swap name least)).Nodup :=
            (List.nodup_cons.mp hnodup).right.map (Equiv.injective _)
          rcases ih hlater (by simpa using hlength) with ⟨rename, hrename⟩
          have habove := swap_least hnodup hleast
          have hfixed : rename least = least :=
            hrename.elsewhere least fun h => lt_irrefl _ (habove _ h).right
          exists (Equiv.swap name least).trans rename
          constructor
          · intro other hother
            have hname : other ≠ name := fun h => hother (h ▸ List.mem_cons_self)
            have hother' : other ≠ least := fun h => hother (h ▸ hmem)
            rw [Equiv.trans_apply, Equiv.swap_apply_of_ne_of_ne hname hother']
            exact hrename.elsewhere other fun h => hother (habove _ h).left
          · intro other hother
            rw [Equiv.trans_apply]
            rcases List.mem_cons.mp hother with heq | hrest
            · rw [heq, Equiv.swap_apply_left, hfixed]
              exact hmem
            · exact (habove _ (hrename.within _ (List.mem_map_of_mem hrest))).left
          · simp only [List.map_cons, Equiv.trans_apply, Equiv.swap_apply_left, hfixed]
            apply List.pairwise_cons.mpr
            constructor
            · intro other hother
              rcases List.mem_map.mp hother with ⟨before, hbefore, heq⟩
              exact heq ▸ (habove _ (hrename.within _ (List.mem_map_of_mem hbefore))).right
            · have hordered := hrename.ordered
              rw [List.map_map] at hordered
              exact hordered

/-!
## Names at the ends
-/

/-- Two names can be put before every other, in either order. -/
theorem exists_renamed_first (first second : α) (names : List α) :
    exists rename : Equiv.Perm α, forall name, name ∈ second :: names ->
      rename first <= rename name ∧ (name ≠ first -> rename second <= rename name) := by
  have hothers : (names.dedup.filter fun name => decide (name ≠ first ∧ name ≠ second)).Nodup :=
    (List.nodup_dedup names).filter _
  by_cases hsame : first = second
  · subst hsame
    have hnodup : (first :: names.dedup.filter fun name =>
        decide (name ≠ first ∧ name ≠ first)).Nodup :=
      List.nodup_cons.mpr ⟨by simp, hothers⟩
    rcases exists_putInOrder hnodup with ⟨rename, hrename⟩
    exists rename
    intro name hname
    have hfirst : rename first <= rename name := by
      by_cases heq : name = first
      · exact le_of_eq (heq ▸ rfl)
      · have hmem := (List.mem_cons.mp hname).resolve_left heq
        have hbelow := (List.pairwise_cons.mp hrename.ordered).left (rename name)
          (List.mem_map_of_mem (by simp [hmem, heq]))
        exact le_of_lt hbelow
    exact ⟨hfirst, fun _ => hfirst⟩
  · have hnodup : (first :: second :: names.dedup.filter fun name =>
        decide (name ≠ first ∧ name ≠ second)).Nodup := by
      apply List.nodup_cons.mpr
      constructor
      · simp [hsame]
      · exact List.nodup_cons.mpr ⟨by simp, hothers⟩
    rcases exists_putInOrder hnodup with ⟨rename, hrename⟩
    rcases List.pairwise_cons.mp hrename.ordered with ⟨hfirst, hlater⟩
    have hsecond := (List.pairwise_cons.mp hlater).left
    have hpair : rename first < rename second := hfirst _ List.mem_cons_self
    exists rename
    intro name hname
    by_cases heq : name = first
    · exact ⟨le_of_eq (heq ▸ rfl), fun hne => absurd heq hne⟩
    · have hle : rename second <= rename name := by
        by_cases heq' : name = second
        · exact le_of_eq (heq' ▸ rfl)
        · have hmem := (List.mem_cons.mp hname).resolve_left heq'
          exact le_of_lt (hsecond _ (List.mem_map_of_mem (by simp [hmem, heq, heq'])))
      exact ⟨le_trans (le_of_lt hpair) hle, fun _ => hle⟩

theorem exists_renamed_last (last : α) (names : List α) :
    exists rename : Equiv.Perm α, forall name, name ∈ names -> rename name <= rename last := by
  have hnodup : ((names.dedup.filter fun name => decide (name ≠ last)) ++ [last]).Nodup := by
    apply List.nodup_append.mpr
    refine ⟨(List.nodup_dedup names).filter _, List.nodup_singleton last, ?_⟩
    intro name hname other hother
    rw [List.mem_singleton.mp hother]
    simpa using (List.mem_filter.mp hname).right
  rcases exists_putInOrder hnodup with ⟨rename, hrename⟩
  exists rename
  intro name hname
  by_cases heq : name = last
  · exact le_of_eq (heq ▸ rfl)
  · have hordered := hrename.ordered
    rw [List.map_append] at hordered
    have hbefore : rename name ∈ (names.dedup.filter fun name => decide (name ≠ last)).map rename :=
      List.mem_map_of_mem (by simp [hname, heq])
    exact le_of_lt ((List.pairwise_append.mp hordered).right.right _ hbefore _ (by simp))

end GraphHelm
