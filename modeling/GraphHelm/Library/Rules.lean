import GraphHelm.Library.Acyclic
import Mathlib.Order.FixedPoints
import Mathlib.Order.CompletePartialOrder
import Mathlib.Order.WellFoundedSet

/-!
# Rules and what they release

A rule tells of a set of points which points it releases.  What it releases in the end is
its least fixed point: a set it holds within, and releases nothing beyond, is that one.  A
rule that looks no further than the predecessors of a point, of which there is no endless
chain, has no other fixed point.
-/

namespace GraphHelm

open Relation

variable {α : Type}

/-- A set that was released step by step, and beyond which nothing is released. -/
theorem eq_lfp_of_closed {rule : Set α →o Set α} {done : Set α} (hsound : done <= rule.lfp)
    (hclosed : rule done <= done) : done = rule.lfp :=
  le_antisymm hsound (rule.lfp_le hclosed)

theorem mem_lfp_of_released {rule : Set α →o Set α} {done : Set α} (hsound : done <= rule.lfp)
    {x : α} (h : x ∈ rule done) : x ∈ rule.lfp := by
  rw [← rule.map_lfp]
  exact rule.mono hsound h

/-- The predecessors of a point decide whether it is released. -/
def LooksBack (before : α -> α -> Prop) (rule : Set α -> Set α) : Prop :=
  forall {first second : Set α} {x : α}, (forall y, before y x -> (y ∈ first <-> y ∈ second)) ->
    (x ∈ rule first <-> x ∈ rule second)

theorem fixed_unique {before : α -> α -> Prop} (hwell : WellFounded before)
    {rule : Set α -> Set α} (hlocal : LooksBack before rule) {first second : Set α}
    (hfirst : rule first = first) (hsecond : rule second = second) : first = second := by
  ext x
  induction x using hwell.induction with
  | _ x ih =>
      rw [← hfirst, ← hsecond]
      exact hlocal fun y hy => ih y hy

theorem wellFounded_of_acyclic {before : α -> α -> Prop} {points : Set α} (hfinite : points.Finite)
    (hwithin : forall {x y}, before x y -> x ∈ points) (hacyclic : Acyclic before) :
    WellFounded before := by
  have : IsStrictOrder α (TransGen before) :=
    { irrefl := hacyclic
      trans := fun _ _ _ => TransGen.trans }
  have hpoints : points.WellFoundedOn (TransGen before) := hfinite.wellFoundedOn
  have hacc : forall x, x ∈ points -> Acc before x := by
    intro x hx
    refine hpoints.induction hx ?_
    intro y _ ih
    exact Acc.intro y fun z hz => ih z (hwithin hz) (.single hz)
  exact ⟨fun x => Acc.intro x fun y hy => hacc y (hwithin hy)⟩

end GraphHelm
