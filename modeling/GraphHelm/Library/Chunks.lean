import Mathlib.Data.List.Basic

/-!
# Cutting a list into chunks

`chunks size` cuts a list into consecutive pieces of at most `size` elements, the
way a slice is walked in bounded pages.
-/

namespace GraphHelm

variable {α : Type}

def chunksWithin (size : Nat) : Nat -> List α -> List (List α)
  | 0, _ => []
  | _ + 1, [] => []
  | fuel + 1, x :: rest =>
      (x :: rest).take size :: chunksWithin size fuel ((x :: rest).drop size)

/-- A list of length `n` is used up after at most `n` chunks. -/
def chunks (size : Nat) (xs : List α) : List (List α) :=
  chunksWithin size xs.length xs

variable {size : Nat} {xs : List α}

theorem chunksWithin_length_le {fuel : Nat} {chunk : List α}
    (h : chunk ∈ chunksWithin size fuel xs) : chunk.length <= size := by
  induction fuel generalizing xs with
  | zero =>
      simp [chunksWithin] at h
  | succ fuel ih =>
      cases xs with
      | nil =>
          simp [chunksWithin] at h
      | cons x rest =>
          rcases List.mem_cons.mp h with heq | hmem
          · rw [heq]
            exact List.length_take_le size _
          · exact ih hmem

theorem chunksWithin_flatten {fuel : Nat} (hsize : 0 < size) (hfuel : xs.length <= fuel) :
    (chunksWithin size fuel xs).flatten = xs := by
  induction fuel generalizing xs with
  | zero =>
      have hnil := List.length_eq_zero_iff.mp (Nat.le_zero.mp hfuel)
      rw [hnil]
      rfl
  | succ fuel ih =>
      cases xs with
      | nil =>
          rfl
      | cons x rest =>
          have hrest : ((x :: rest).drop size).length <= fuel := by
            rw [List.length_drop]
            omega
          rw [chunksWithin, List.flatten_cons, ih hrest, List.take_append_drop]

theorem chunks_length_le {chunk : List α} (h : chunk ∈ chunks size xs) :
    chunk.length <= size :=
  chunksWithin_length_le h

theorem chunks_flatten (hsize : 0 < size) :
    (chunks size xs).flatten = xs :=
  chunksWithin_flatten hsize (Nat.le_refl _)

end GraphHelm
