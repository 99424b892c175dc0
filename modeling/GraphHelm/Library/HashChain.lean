import Mathlib.Data.List.Induction

/-!
# Hash chains

A record carries the hash of its predecessor (`link`) and its own hash (`seal`),
which `digest` recomputes from the record and the hash before it.  A chain is a
list in which every record is linked to the one before it and seals itself.  Two
chains of one length with one last hash are the same list, as long as no two of
their records collide.
-/

namespace GraphHelm

structure HashChain (α η : Type) where
  link : α -> η
  «seal» : α -> η
  digest : α -> η -> η

namespace HashChain

variable {α η : Type} (chain : HashChain α η)

/-- `records` continue a chain whose last hash is `previous`. -/
def Linked : η -> List α -> Prop
  | _, [] => True
  | previous, record :: rest =>
      chain.link record = previous ∧ chain.digest record previous = chain.seal record ∧
        Linked (chain.seal record) rest

/-- The last hash once `records` have been appended to a chain ending in `previous`. -/
def last : η -> List α -> η
  | previous, [] => previous
  | _, record :: rest => last (chain.seal record) rest

/-- No two records of the two lists hash alike without being one record. -/
def Distinguishes (first second : List α) : Prop :=
  forall a, a ∈ first -> forall b, b ∈ second ->
    chain.digest a (chain.link a) = chain.digest b (chain.link b) ->
    chain.seal a = chain.seal b -> a = b

variable {chain}

theorem last_append (previous : η) (first second : List α) :
    chain.last previous (first ++ second) = chain.last (chain.last previous first) second := by
  induction first generalizing previous with
  | nil =>
      rfl
  | cons record rest ih =>
      exact ih (chain.seal record)

@[simp] theorem last_concat (previous : η) (records : List α) (record : α) :
    chain.last previous (records ++ [record]) = chain.seal record := by
  rw [last_append]
  rfl

theorem linked_append {previous : η} {first second : List α} :
    chain.Linked previous (first ++ second) <->
      chain.Linked previous first ∧ chain.Linked (chain.last previous first) second := by
  induction first generalizing previous with
  | nil =>
      simp only [List.nil_append, Linked, last, true_and]
  | cons record rest ih =>
      simp only [List.cons_append, Linked, last, ih, and_assoc]

theorem linked_concat {previous : η} {records : List α} {record : α} :
    chain.Linked previous (records ++ [record]) <->
      chain.Linked previous records ∧
        chain.link record = chain.last previous records ∧
        chain.digest record (chain.last previous records) = chain.seal record := by
  rw [linked_append]
  simp only [Linked, and_true]

theorem last_eq_of_linked {first second : η} {records : List α} (hne : records ≠ []) (hfirst : chain.Linked first records)
    (hsecond : chain.Linked second records) : first = second := by
  cases records with
  | nil =>
      exact absurd rfl hne
  | cons record rest =>
      exact hfirst.left.symm.trans hsecond.left

theorem eq_of_last_eq {previous : η} {first second : List α}
    (hfirst : chain.Linked previous first) (hsecond : chain.Linked previous second)
    (hlength : first.length = second.length)
    (hlast : chain.last previous first = chain.last previous second)
    (hdistinct : chain.Distinguishes first second) : first = second := by
  induction first using List.reverseRecOn generalizing second with
  | nil =>
      exact (List.length_eq_zero_iff.mp hlength.symm).symm
  | append_singleton earlier a ih =>
      -- The last records agree by their hash, and the agreement runs backwards.
      rcases List.eq_nil_or_concat second with hnil | ⟨others, b, hconcat⟩
      · rw [hnil] at hlength
        simp at hlength
      · rw [List.concat_eq_append] at hconcat
        subst hconcat
        have ha := linked_concat.mp hfirst
        have hb := linked_concat.mp hsecond
        rw [last_concat, last_concat] at hlast
        have hdigest :
            chain.digest a (chain.link a) = chain.digest b (chain.link b) := by
          rw [ha.right.left, ha.right.right, hb.right.left, hb.right.right, hlast]
        have heq : a = b :=
          hdistinct a (by simp) b (by simp) hdigest hlast
        subst heq
        have hprevious : chain.last previous earlier = chain.last previous others := by
          rw [← ha.right.left, ← hb.right.left]
        have hrest : earlier = others := by
          apply ih ha.left hb.left
          · simpa using hlength
          · exact hprevious
          · intro x hx y hy
            exact hdistinct x (by simp [hx]) y (by simp [hy])
        rw [hrest]

end HashChain
end GraphHelm
