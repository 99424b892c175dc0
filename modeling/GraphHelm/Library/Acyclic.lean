import Mathlib.Logic.Relation

/-!
# Acyclic relations

A relation is acyclic when no chain of it leads back to where it began.  One more
pair keeps it so exactly when the target of the pair does not lead to its source.
-/

namespace GraphHelm

open Relation

variable {α : Type} {r : α -> α -> Prop}

/-- No chain of the relation returns to its beginning. -/
def Acyclic (r : α -> α -> Prop) : Prop :=
  forall a, ¬ TransGen r a a

/-- The relation with one more pair. -/
def Extended (r : α -> α -> Prop) (source target : α) (a b : α) : Prop :=
  r a b ∨ a = source ∧ b = target

theorem Acyclic.anti {larger : α -> α -> Prop} (hsub : r <= larger) (h : Acyclic larger) :
    Acyclic r :=
  fun a hcycle => h a (TransGen.mono hsub a a hcycle)

/-- A relation along which a rank goes up has no cycle. -/
theorem acyclic_of_rank (rank : α -> Nat) (h : forall {a b}, r a b -> rank a < rank b) :
    Acyclic r := by
  have hup : forall {a b}, TransGen r a b -> rank a < rank b := by
    intro a b hchain
    induction hchain with
    | single hpair => exact h hpair
    | tail _ hpair ih => exact Nat.lt_trans ih (h hpair)
  exact fun a hcycle => Nat.lt_irrefl (rank a) (hup hcycle)

namespace Extended

variable {source target : α}

theorem pair : Extended r source target source target := Or.inr ⟨rfl, rfl⟩

theorem le_extended : r <= Extended r source target := fun _ _ => Or.inl

/-- A chain that goes through the new pair reaches its source and leaves its target by old pairs. -/
theorem transGen_cases {a b : α} (h : TransGen (Extended r source target) a b) :
    TransGen r a b ∨ ReflTransGen r a source ∧ ReflTransGen r target b := by
  induction h with
  | single hpair =>
      rcases hpair with hold | ⟨rfl, rfl⟩
      · exact Or.inl (.single hold)
      · exact Or.inr ⟨.refl, .refl⟩
  | tail _ hpair ih =>
      rcases hpair with hold | ⟨rfl, rfl⟩
      · rcases ih with hchain | ⟨hreach, hleave⟩
        · exact Or.inl (hchain.tail hold)
        · exact Or.inr ⟨hreach, hleave.tail hold⟩
      · rcases ih with hchain | ⟨hreach, _⟩
        · exact Or.inr ⟨hchain.to_reflTransGen, .refl⟩
        · exact Or.inr ⟨hreach, .refl⟩

theorem acyclic_iff :
    Acyclic (Extended r source target) <-> Acyclic r ∧ ¬ ReflTransGen r target source := by
  constructor
  · intro h
    constructor
    · exact h.anti le_extended
    · intro hback
      exact h source (.head' pair (ReflTransGen.mono le_extended target source hback))
  · rintro ⟨hold, hback⟩ a hcycle
    rcases transGen_cases hcycle with hchain | ⟨hreach, hleave⟩
    · exact hold a hchain
    · exact hback (hleave.trans hreach)

end Extended
end GraphHelm
