import Mathlib.Data.List.Basic
import Mathlib.Algebra.Order.Ring.Int

/-!
# Meters

A meter keeps several counters.  A charge adds to one of them, and spending
charges refuses the first that would take its counter past its limit.  Since
counters only grow, a list of charges is spent exactly when the counters it ends
with are within their limits.
-/

namespace GraphHelm

abbrev Meter (ι : Type) := ι -> Nat

namespace Meter

variable {ι : Type}

def zero : Meter ι := fun _ => 0

def Within (limits : ι -> Nat) (meter : Meter ι) : Prop :=
  forall counter, meter counter <= limits counter

theorem zero_within (limits : ι -> Nat) : Within limits zero :=
  fun _ => Nat.zero_le _

variable [DecidableEq ι]

/-- The meter after `amount` more on one counter. -/
def plus (meter : Meter ι) (charge : ι × Nat) : Meter ι :=
  fun counter => if counter = charge.1 then meter counter + charge.2 else meter counter

def total (meter : Meter ι) (charges : List (ι × Nat)) : Meter ι :=
  charges.foldl plus meter

/-- The charges spent one after the other, each checked against its own limit. -/
def spend (limits : ι -> Nat) : List (ι × Nat) -> Meter ι -> Option (Meter ι)
  | [], meter => some meter
  | charge :: rest, meter =>
      if meter charge.1 + charge.2 <= limits charge.1 then
        spend limits rest (meter.plus charge)
      else
        none

theorem le_plus (meter : Meter ι) (charge : ι × Nat) (counter : ι) :
    meter counter <= meter.plus charge counter := by
  unfold plus
  split
  · exact Nat.le_add_right _ _
  · exact Nat.le_refl _

theorem le_total (meter : Meter ι) (charges : List (ι × Nat)) (counter : ι) :
    meter counter <= meter.total charges counter := by
  unfold total
  induction charges generalizing meter with
  | nil =>
      exact Nat.le_refl _
  | cons charge rest ih =>
      exact Nat.le_trans (le_plus meter charge counter) (ih (meter.plus charge))

theorem Within.of_total {limits : ι -> Nat} {meter : Meter ι} {charges : List (ι × Nat)}
    (h : Within limits (meter.total charges)) : Within limits meter :=
  fun counter => Nat.le_trans (le_total meter charges counter) (h counter)

theorem Within.plus {limits : ι -> Nat} {meter : Meter ι} {charge : ι × Nat}
    (h : Within limits meter) (hcharge : meter charge.1 + charge.2 <= limits charge.1) :
    Within limits (meter.plus charge) := by
  intro counter
  unfold Meter.plus
  by_cases heq : counter = charge.1
  · rw [if_pos heq, heq]
    exact hcharge
  · rw [if_neg heq]
    exact h counter

theorem spend_eq_some {limits : ι -> Nat} {charges : List (ι × Nat)} {meter meter' : Meter ι}
    (hwithin : Within limits meter) :
    spend limits charges meter = some meter' <->
      meter.total charges = meter' ∧ Within limits (meter.total charges) := by
  induction charges generalizing meter with
  | nil =>
      constructor
      · intro h
        cases h
        exact And.intro rfl hwithin
      · rintro ⟨rfl, _⟩
        rfl
  | cons charge rest ih =>
      unfold spend
      by_cases hcharge : meter charge.1 + charge.2 <= limits charge.1
      · rw [if_pos hcharge]
        exact ih (hwithin.plus hcharge)
      · rw [if_neg hcharge]
        constructor
        · intro h
          cases h
        · rintro ⟨_, hend⟩
          have hfirst := (show Within limits ((meter.plus charge).total rest) from hend).of_total
          have hcounter := hfirst charge.1
          unfold plus at hcounter
          rw [if_pos rfl] at hcounter
          exact absurd hcounter hcharge

end Meter
end GraphHelm
