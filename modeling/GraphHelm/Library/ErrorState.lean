import Mathlib.Data.List.Basic

/-!
# Computations that mutate a state and may refuse

Rules for `EStateM`: what an accepting run of a composite says about the runs of
its parts, and relations between the state before and the state after that hold
of every accepting run.
-/

namespace GraphHelm
namespace ErrorState

variable {ε σ α β : Type}

/-!
## Accepting runs
-/

variable {f : α -> EStateM ε σ β}

theorem bind_eq_ok {m : EStateM ε σ α} {s s' : σ} {b : β} :
    (m >>= f) s = .ok b s' <->
      exists a middle, m s = .ok a middle ∧ f a middle = .ok b s' := by
  change EStateM.bind m f s = .ok b s' <-> _
  unfold EStateM.bind
  cases hm : m s with
  | ok a middle =>
      constructor
      · intro h
        exact ⟨a, middle, rfl, h⟩
      · rintro ⟨a', middle', heq, h⟩
        cases heq
        exact h
  | error e middle =>
      constructor
      · intro h
        cases h
      · rintro ⟨a', middle', heq, _⟩
        cases heq

theorem bind_eq_error {m : EStateM ε σ α} {s s' : σ} {e : ε} :
    (m >>= f) s = .error e s' <->
      m s = .error e s' ∨ exists a middle, m s = .ok a middle ∧ f a middle = .error e s' := by
  change EStateM.bind m f s = .error e s' <-> _
  unfold EStateM.bind
  cases hm : m s with
  | ok a middle =>
      constructor
      · intro h
        exact Or.inr ⟨a, middle, rfl, h⟩
      · rintro (heq | ⟨a', middle', heq, h⟩)
        · cases heq
        · cases heq
          exact h
  | error e' middle =>
      constructor
      · intro h
        cases h
        exact Or.inl rfl
      · rintro (heq | ⟨a', middle', heq, _⟩)
        · cases heq
          rfl
        · cases heq

/-- The state a run leaves behind, whether it accepts or refuses. -/
def stateAfter (m : EStateM ε σ α) (s : σ) : σ :=
  match m s with
  | .ok _ s' => s'
  | .error _ s' => s'

theorem stateAfter_of_ok {m : EStateM ε σ α} {s s' : σ} {a : α} (h : m s = .ok a s') :
    stateAfter m s = s' := by
  unfold stateAfter
  rw [h]

theorem stateAfter_of_error {m : EStateM ε σ α} {s s' : σ} {e : ε}
    (h : m s = .error e s') : stateAfter m s = s' := by
  unfold stateAfter
  rw [h]

theorem stateAfter_bind {m : EStateM ε σ α} {s middle : σ} {a : α} (h : m s = .ok a middle) :
    stateAfter (m >>= f) s = stateAfter (f a) middle := by
  change stateAfter (EStateM.bind m f) s = _
  unfold stateAfter EStateM.bind
  rw [h]

/-!
## Relations between the state before and the state after
-/

/-- Every accepting run of `m` takes a state to one `R` relates it to. -/
def Relates (R : σ -> σ -> Prop) (m : EStateM ε σ α) : Prop :=
  forall s a s', m s = .ok a s' -> R s s'

variable {R : σ -> σ -> Prop}

theorem Relates.bind (htrans : forall {s t u}, R s t -> R t u -> R s u) {m : EStateM ε σ α}
    (hm : Relates R m) (hf : forall a, Relates R (f a)) : Relates R (m >>= f) := by
  intro s b s'' h
  rcases bind_eq_ok.mp h with ⟨a, s', hfirst, hrest⟩
  exact htrans (hm s a s' hfirst) (hf a s' b s'' hrest)

theorem Relates.ite {condition : Prop} [Decidable condition] {m n : EStateM ε σ α}
    (hm : Relates R m) (hn : Relates R n) :
    Relates R (if condition then m else n) := by
  by_cases h : condition
  · rw [if_pos h]
    exact hm
  · rw [if_neg h]
    exact hn

/-!
## Triples

`Triple pre m post fail` says that, from a state that meets `pre`, `m` either
answers with a value and a state that meet `post`, or refuses with an error and a
state that meet `fail`.
-/

def Triple (pre : σ -> Prop) (m : EStateM ε σ α) (post : α -> σ -> Prop)
    (fail : ε -> σ -> Prop) : Prop :=
  forall s, pre s ->
    match m s with
    | .ok a s' => post a s'
    | .error e s' => fail e s'

section Triples

variable {pre pre' : σ -> Prop} {post post' : α -> σ -> Prop} {fail fail' : ε -> σ -> Prop}
  {m n : EStateM ε σ α} {s s' : σ}

theorem Triple.ok {a : α} (h : Triple pre m post fail) (hpre : pre s) (hok : m s = .ok a s') :
    post a s' := by
  have hs := h s hpre
  rw [hok] at hs
  exact hs

theorem Triple.error {e : ε} (h : Triple pre m post fail) (hpre : pre s)
    (herror : m s = .error e s') : fail e s' := by
  have hs := h s hpre
  rw [herror] at hs
  exact hs

theorem Triple.stateAfter {after : σ -> Prop}
    (h : Triple pre m (fun _ => after) fun _ => after) (hpre : pre s) :
    after (stateAfter m s) := by
  have hs := h s hpre
  unfold ErrorState.stateAfter
  cases hm : m s with
  | ok a s' =>
      rw [hm] at hs
      exact hs
  | error e s' =>
      rw [hm] at hs
      exact hs

theorem Triple.imp (h : Triple pre m post fail) (hpre : forall s, pre' s -> pre s)
    (hpost : forall a s, post a s -> post' a s) (hfail : forall e s, fail e s -> fail' e s) :
    Triple pre' m post' fail' := by
  intro s hs
  have hs := h s (hpre s hs)
  cases hm : m s with
  | ok a s' =>
      rw [hm] at hs
      exact hpost a s' hs
  | error e s' =>
      rw [hm] at hs
      exact hfail e s' hs

theorem Triple.pure {a : α} (h : forall s, pre s -> post a s) :
    Triple pre (Pure.pure a : EStateM ε σ α) post fail :=
  h

theorem Triple.bind {last : β -> σ -> Prop} (hm : Triple pre m post fail)
    (hf : forall a, Triple (post a) (f a) last fail) :
    Triple pre (m >>= f) last fail := by
  intro s hs
  have hfirst := hm s hs
  change match EStateM.bind m f s with
    | .ok b s' => last b s'
    | .error e s' => fail e s'
  unfold EStateM.bind
  cases hrun : m s with
  | ok a middle =>
      rw [hrun] at hfirst
      exact hf a middle hfirst
  | error e s' =>
      rw [hrun] at hfirst
      exact hfirst

theorem Triple.ite {condition : Prop} [Decidable condition]
    (hm : condition -> Triple pre m post fail) (hn : ¬ condition -> Triple pre n post fail) :
    Triple pre (if condition then m else n) post fail := by
  by_cases h : condition
  · rw [if_pos h]
    exact hm h
  · rw [if_neg h]
    exact hn h

end Triples

end ErrorState
end GraphHelm
