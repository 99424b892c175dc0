import GraphHelm.Library.Framing

/-!
# Delimited encodings

Encodings whose values are read off the front of whatever bytes follow them. A group of
such values may repeat without their number being written.
-/

namespace GraphHelm

variable {α : Type}

/-- An admitted value and the bytes behind it are told by the bytes of both. -/
def SelfDelimitingOn (admits : α -> Prop) (encode : α -> Bytes) : Prop :=
  forall {a b : α} {x y : Bytes}, admits a -> admits b -> encode a ++ x = encode b ++ y ->
    a = b ∧ x = y

namespace SelfDelimitingOn

variable {admits : α -> Prop} {encode : α -> Bytes}

/-- A group that repeats to the end needs no count, as no member of it is empty. -/
theorem flatMap_injective (h : SelfDelimitingOn admits encode) (hnonempty : forall a, encode a ≠ [])
    {xs ys : List α} (hxs : forall a, a ∈ xs -> admits a) (hys : forall a, a ∈ ys -> admits a)
    (heq : xs.flatMap encode = ys.flatMap encode) : xs = ys := by
  induction xs generalizing ys with
  | nil =>
      cases ys with
      | nil => rfl
      | cons other later =>
          exact absurd (List.append_eq_nil_iff.mp heq.symm).left (hnonempty other)
  | cons first rest ih =>
      cases ys with
      | nil => exact absurd (List.append_eq_nil_iff.mp heq).left (hnonempty first)
      | cons other later =>
          rw [List.flatMap_cons, List.flatMap_cons] at heq
          rcases h (hxs first List.mem_cons_self) (hys other List.mem_cons_self) heq with
            ⟨hfirst, hrest⟩
          rw [hfirst, ih (fun a ha => hxs a (List.mem_cons_of_mem first ha))
            (fun a ha => hys a (List.mem_cons_of_mem other ha)) hrest]

end SelfDelimitingOn

end GraphHelm
