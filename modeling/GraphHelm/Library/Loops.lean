import Mathlib.Data.Nat.Notation

/-!
# Loops

A loop takes steps for as long as there is one to take.  `fuel` bounds the number of its
steps; a measure that every step lowers tells how much of it is enough.
-/

namespace GraphHelm

section Loops

variable {State : Type} {step : State -> Option State}

/-- The state a loop leaves, after at most `fuel` steps. -/
def exhaust (step : State -> Option State) : Nat -> State -> State
  | 0, s => s
  | fuel + 1, s =>
      match step s with
      | none => s
      | some s' => exhaust step fuel s'

def passes (step : State -> Option State) : Nat -> State -> List State
  | 0, _ => []
  | fuel + 1, s =>
      match step s with
      | none => []
      | some s' => s :: passes step fuel s'

theorem passes_rule {Inv : List State -> State -> Prop} {measure : List State -> State -> Nat}
    (hstep : forall past s s', Inv past s -> step s = some s' ->
      Inv (past ++ [s]) s' ∧ measure (past ++ [s]) s' < measure past s)
    {past : List State} {s : State} {fuel : Nat} (h : Inv past s) (hfuel : measure past s <= fuel) :
    Inv (past ++ passes step fuel s) (exhaust step fuel s) ∧ step (exhaust step fuel s) = none := by
  induction fuel generalizing past s with
  | zero =>
      have hstay : past ++ passes step 0 s = past := List.append_nil past
      rw [hstay]
      constructor
      · exact h
      · cases hnext : step s with
        | none => exact hnext
        | some s' =>
            have hless := (hstep past s s' h hnext).right
            omega
  | succ fuel ih =>
      cases hnext : step s with
      | none =>
          have hstop : exhaust step (fuel + 1) s = s := by simp only [exhaust, hnext]
          have hpast : passes step (fuel + 1) s = [] := by simp only [passes, hnext]
          rw [hstop, hpast, List.append_nil]
          exact And.intro h hnext
      | some s' =>
          have hgo : exhaust step (fuel + 1) s = exhaust step fuel s' := by
            simp only [exhaust, hnext]
          have hpast : passes step (fuel + 1) s = s :: passes step fuel s' := by
            simp only [passes, hnext]
          rcases hstep past s s' h hnext with ⟨hinv, hless⟩
          have hrest := @ih (past ++ [s]) s' hinv (by omega)
          rw [List.append_assoc, List.singleton_append] at hrest
          rw [hgo, hpast]
          exact hrest

theorem exhaust_rule {Inv : State -> Prop} {measure : State -> Nat}
    (hstep : forall s s', Inv s -> step s = some s' -> Inv s' ∧ measure s' < measure s) {s : State}
    {fuel : Nat} (h : Inv s) (hfuel : measure s <= fuel) :
    Inv (exhaust step fuel s) ∧ step (exhaust step fuel s) = none :=
  @passes_rule State step (fun _ => Inv) (fun _ => measure) (fun _ => hstep) [] s fuel h hfuel

end Loops

end GraphHelm
