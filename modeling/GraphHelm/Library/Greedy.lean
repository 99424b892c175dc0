import Mathlib.Data.List.Basic

/-!
# Greedy fits

A greedy fit walks a list once and keeps each item that still fits behind those it
has kept. What it leaves out was refused once; where a refusal stands behind any
further items, nothing that was left out fits at the end.
-/

namespace GraphHelm
namespace Greedy

section Fit

variable {α : Type} (fits : List α -> Bool)

/-- What the walk has kept at its end, behind what was there before. -/
def keeps : List α -> List α -> List α
  | kept, [] => kept
  | kept, item :: rest =>
      if fits (kept ++ [item]) then keeps (kept ++ [item]) rest else keeps kept rest

/-- What the walk leaves out, in the order in which it meets it. -/
def leaves : List α -> List α -> List α
  | _, [] => []
  | kept, item :: rest =>
      if fits (kept ++ [item]) then leaves (kept ++ [item]) rest else item :: leaves kept rest

variable {fits} {kept items rest : List α} {item : α}

theorem keeps_cons_of_fits (h : fits (kept ++ [item]) = true) :
    keeps fits kept (item :: rest) = keeps fits (kept ++ [item]) rest :=
  if_pos h

theorem keeps_cons_of_refused (h : fits (kept ++ [item]) = false) :
    keeps fits kept (item :: rest) = keeps fits kept rest :=
  if_neg (Bool.eq_false_iff.mp h)

theorem leaves_cons_of_fits (h : fits (kept ++ [item]) = true) :
    leaves fits kept (item :: rest) = leaves fits (kept ++ [item]) rest :=
  if_pos h

theorem leaves_cons_of_refused (h : fits (kept ++ [item]) = false) :
    leaves fits kept (item :: rest) = item :: leaves fits kept rest :=
  if_neg (Bool.eq_false_iff.mp h)

theorem keeps_eq_append : exists took, keeps fits kept items = kept ++ took ∧
    took.Sublist items ∧ List.Perm items (took ++ leaves fits kept items) := by
  induction items generalizing kept with
  | nil =>
      exact ⟨[], (List.append_nil kept).symm, List.Sublist.refl [], List.Perm.refl []⟩
  | cons item rest ih =>
      cases hfits : fits (kept ++ [item]) with
      | true =>
          rw [keeps_cons_of_fits hfits, leaves_cons_of_fits hfits]
          rcases @ih (kept ++ [item]) with ⟨took, hkeeps, hsub, hperm⟩
          refine ⟨item :: took, ?_, hsub.cons_cons item, hperm.cons item⟩
          rw [hkeeps, List.append_assoc, List.singleton_append]
      | false =>
          rw [keeps_cons_of_refused hfits, leaves_cons_of_refused hfits]
          rcases @ih kept with ⟨took, hkeeps, hsub, hperm⟩
          exact ⟨took, hkeeps, hsub.cons item, (hperm.cons item).trans List.perm_middle.symm⟩

theorem fits_keeps (h : fits kept = true) : fits (keeps fits kept items) = true := by
  induction items generalizing kept with
  | nil =>
      exact h
  | cons item rest ih =>
      cases hfits : fits (kept ++ [item]) with
      | true =>
          rw [keeps_cons_of_fits hfits]
          exact ih hfits
      | false =>
          rw [keeps_cons_of_refused hfits]
          exact ih h

theorem keeps_of_refused (h : forall item, item ∈ items -> fits (kept ++ [item]) = false) :
    keeps fits kept items = kept ∧ leaves fits kept items = items := by
  induction items with
  | nil =>
      exact And.intro rfl rfl
  | cons item rest ih =>
      have hfirst := h item List.mem_cons_self
      rcases ih fun other hmem => h other (List.mem_cons_of_mem item hmem) with
        ⟨hkeeps, hleaves⟩
      rw [keeps_cons_of_refused hfirst, leaves_cons_of_refused hfirst, hkeeps, hleaves]
      exact And.intro rfl rfl

/-- The walk can be taken in two parts. -/
theorem keeps_append (first second : List α) :
    keeps fits kept (first ++ second) = keeps fits (keeps fits kept first) second := by
  induction first generalizing kept with
  | nil =>
      rfl
  | cons item rest ih =>
      rw [List.cons_append]
      cases hfits : fits (kept ++ [item]) with
      | true =>
          rw [keeps_cons_of_fits hfits, keeps_cons_of_fits hfits]
          exact ih
      | false =>
          rw [keeps_cons_of_refused hfits, keeps_cons_of_refused hfits]
          exact ih

theorem keeps_eq_self_iff : keeps fits kept items = kept <->
    forall item, item ∈ items -> fits (kept ++ [item]) = false := by
  constructor
  · intro h
    induction items with
    | nil =>
        exact fun item hmem => absurd hmem List.not_mem_nil
    | cons first rest ih =>
        cases hfits : fits (kept ++ [first]) with
        | true =>
            rw [keeps_cons_of_fits hfits] at h
            rcases @keeps_eq_append _ fits (kept ++ [first]) rest with ⟨took, hkeeps, _⟩
            have hlength := congrArg List.length (hkeeps.symm.trans h)
            simp only [List.length_append, List.length_singleton] at hlength
            omega
        | false =>
            rw [keeps_cons_of_refused hfits] at h
            intro item hmem
            rcases List.mem_cons.mp hmem with rfl | hlater
            · exact hfits
            · exact ih h item hlater
  · exact fun h => (keeps_of_refused h).left

/-- A refusal that stands behind further items stands at the end of the walk. -/
theorem refused_of_mem_leaves
    (hstands : forall {before more : List α} {item : α}, fits (before ++ [item]) = false ->
      fits (before ++ more ++ [item]) = false)
    (h : item ∈ leaves fits kept items) :
    fits (keeps fits kept items ++ [item]) = false := by
  induction items generalizing kept with
  | nil =>
      exact absurd h List.not_mem_nil
  | cons first rest ih =>
      cases hfits : fits (kept ++ [first]) with
      | true =>
          rw [leaves_cons_of_fits hfits] at h
          rw [keeps_cons_of_fits hfits]
          exact ih h
      | false =>
          rw [leaves_cons_of_refused hfits] at h
          rw [keeps_cons_of_refused hfits]
          rcases List.mem_cons.mp h with rfl | hlater
          · rcases @keeps_eq_append _ fits kept rest with ⟨took, hkeeps, _⟩
            rw [hkeeps]
            exact hstands hfits
          · exact ih hlater

end Fit

end Greedy
end GraphHelm
