import Mathlib.Data.List.Forall2

/-!
# Checks

Computations in `Except` that are chains of checks: each refuses with its own
error or lets the next one run.
-/

namespace GraphHelm

variable {ε α β : Type}

/-- Refuses with `error` unless `condition` holds. -/
def check (condition : Bool) (error : ε) : Except ε Unit :=
  if condition then .ok () else .error error

/-- The value, or a refusal with `error` when there is none. -/
def orRefuse (value : Option α) (error : ε) : Except ε α :=
  match value with
  | some a => .ok a
  | none => .error error

variable {condition : Bool} {error : ε} {f : α -> Except ε β} {xs : List α} {ys : List β}

@[simp] theorem check_eq_ok {u : Unit} :
    check condition error = .ok u <-> condition = true := by
  cases condition with
  | true =>
      exact Iff.intro (fun _ => rfl) fun _ => rfl
  | false =>
      constructor
      · intro h
        cases h
      · intro h
        cases h

@[simp] theorem orRefuse_eq_ok {value : Option α} {a : α} :
    orRefuse value error = .ok a <-> value = some a := by
  cases value with
  | none =>
      constructor
      · intro h
        cases h
      · intro h
        cases h
  | some b =>
      constructor
      · intro h
        cases h
        rfl
      · intro h
        cases h
        rfl

namespace Except

theorem ok_bind {a : α} {f : α -> Except ε β} : ((.ok a : Except ε α) >>= f) = f a := rfl

theorem bind_eq_ok {m : Except ε α} {f : α -> Except ε β} {b : β} :
    (m >>= f) = .ok b <-> exists a, m = .ok a ∧ f a = .ok b := by
  cases m with
  | ok a =>
      constructor
      · intro h
        exact ⟨a, rfl, h⟩
      · rintro ⟨a', heq, h⟩
        cases heq
        exact h
  | error e =>
      constructor
      · intro h
        cases h
      · rintro ⟨a', heq, _⟩
        cases heq

theorem toOption_eq_some {result : Except ε α} {a : α} (h : result.toOption = some a) :
    result = .ok a := by
  cases result with
  | ok b =>
      cases h
      rfl
  | error error =>
      cases h

theorem check_bind {condition : Bool} {error : ε} {f : Unit -> Except ε β}
    (h : condition = true) : (check condition error >>= f) = f () := by
  rw [h]
  rfl

theorem orRefuse_bind {value : Option α} {error : ε} {a : α} {f : α -> Except ε β}
    (h : value = some a) : (orRefuse value error >>= f) = f a := by
  rw [h]
  rfl

end Except

/-- What a chain that goes through computes first, and what it goes on with. -/
theorem bind_ok {m : Except ε α} {b : β} (h : (m >>= f) = .ok b) :
    exists a, m = .ok a ∧ f a = .ok b := Except.bind_eq_ok.mp h

/-- Naming an error differently refuses no more and no less. -/
theorem Except.mapError_eq_ok {ε' : Type} {f : ε -> ε'} {m : Except ε α} {a : α} :
    m.mapError f = .ok a <-> m = .ok a := by
  cases m with
  | ok b =>
      exact Iff.intro (fun h => by cases h; rfl) fun h => by cases h; rfl
  | error e =>
      constructor
      · intro h
        cases h
      · intro h
        cases h

/-- Every element is answered, each with the result in its place. -/
theorem Except.mapM_eq_ok :
    xs.mapM f = .ok ys <-> List.Forall₂ (fun x y => f x = .ok y) xs ys := by
  induction xs generalizing ys with
  | nil =>
      rw [List.mapM_nil, List.forall₂_nil_left_iff]
      exact Iff.intro (fun h => by cases h; rfl) fun h => by rw [h]; rfl
  | cons x rest ih =>
      rw [List.mapM_cons]
      constructor
      · intro h
        rcases bind_ok h with ⟨y, hy, h⟩
        rcases bind_ok h with ⟨more, hmore, h⟩
        cases h
        exact List.Forall₂.cons hy (ih.mp hmore)
      · intro h
        cases h with
        | cons hy hmore =>
            refine Except.bind_eq_ok.mpr ⟨_, hy, ?_⟩
            exact Except.bind_eq_ok.mpr ⟨_, ih.mpr hmore, rfl⟩

/-- Answers that are known, if given, are the results. -/
theorem Except.eq_map_of_mapM {g : α -> β}
    (hknown : forall x, x ∈ xs -> forall y, f x = .ok y -> y = g x) (h : xs.mapM f = .ok ys) :
    ys = xs.map g := by
  induction Except.mapM_eq_ok.mp h with
  | nil => rfl
  | @cons x y rest more hy hrest ih =>
      rw [List.map_cons, hknown x List.mem_cons_self y hy,
        ih (fun other hother => hknown other (List.mem_cons_of_mem x hother))
          (Except.mapM_eq_ok.mpr hrest)]

theorem find?_of_forall₂ {R : α -> β -> Prop} {p : α -> Bool} {q : β -> Bool}
    (h : List.Forall₂ R xs ys) (hsame : forall x y, R x y -> p x = q y) :
    xs.find? p = none ∧ ys.find? q = none ∨
      exists x y, xs.find? p = some x ∧ ys.find? q = some y ∧ R x y := by
  induction h with
  | nil =>
      exact Or.inl (And.intro rfl rfl)
  | @cons x y _ _ hxy _ ih =>
      rw [List.find?_cons, List.find?_cons, hsame x y hxy]
      cases q y with
      | true => exact Or.inr ⟨x, y, rfl, rfl, hxy⟩
      | false => exact ih

/-- Every result answers some element. -/
theorem Except.mem_of_mapM {y : β} (h : xs.mapM f = .ok ys) (hmem : y ∈ ys) :
    exists x, x ∈ xs ∧ f x = .ok y := by
  induction Except.mapM_eq_ok.mp h with
  | nil =>
      exact absurd hmem List.not_mem_nil
  | cons hy hrest ih =>
      rcases List.mem_cons.mp hmem with heq | hlater
      · exact ⟨_, List.mem_cons_self, heq ▸ hy⟩
      · rcases ih (Except.mapM_eq_ok.mpr hrest) hlater with ⟨x, hx, hfx⟩
        exact ⟨x, List.mem_cons_of_mem _ hx, hfx⟩

theorem Except.answered_of_mapM {x : α} (h : xs.mapM f = .ok ys) (hmem : x ∈ xs) :
    exists y, y ∈ ys ∧ f x = .ok y := by
  induction Except.mapM_eq_ok.mp h with
  | nil =>
      exact absurd hmem List.not_mem_nil
  | cons hy hrest ih =>
      rcases List.mem_cons.mp hmem with heq | hlater
      · exact ⟨_, List.mem_cons_self, heq ▸ hy⟩
      · rcases ih (Except.mapM_eq_ok.mpr hrest) hlater with ⟨y, hmemY, hfx⟩
        exact ⟨y, List.mem_cons_of_mem _ hmemY, hfx⟩

theorem check_bind_eq_ok {f : Unit -> Except ε β} {b : β} :
    (check condition error >>= f) = .ok b <-> condition = true ∧ f () = .ok b := by
  rw [Except.bind_eq_ok]
  constructor
  · rintro ⟨u, hcheck, h⟩
    exact And.intro (check_eq_ok.mp hcheck) h
  · rintro ⟨hcondition, h⟩
    exact ⟨(), check_eq_ok.mpr hcondition, h⟩

theorem check_ok {f : Unit -> Except ε β} {b : β} (h : (check condition error >>= f) = .ok b) :
    condition = true ∧ f () = .ok b := check_bind_eq_ok.mp h

/-!
## Passing

A computation passes when it comes to some result, whichever it is.
-/

theorem Except.bind_passes {m : Except ε α} {a : α} (hm : m = .ok a) (h : exists b, f a = .ok b) :
    exists b, (m >>= f) = .ok b := by
  rcases h with ⟨b, hb⟩
  exact ⟨b, Except.bind_eq_ok.mpr ⟨a, hm, hb⟩⟩

theorem check_bind_passes {f : Unit -> Except ε β} (hcondition : condition = true)
    (h : exists b, f () = .ok b) :
    exists b, (check condition error >>= f) = .ok b :=
  Except.bind_passes (check_eq_ok.mpr hcondition) h

/-!
## Answering at least as much

`Extends m m'` says that `m'` answers whatever `m` answers; what `m` refuses, `m'`
may answer or refuse.
-/

namespace Except

def Extends (m m' : Except ε α) : Prop :=
  forall a, m = .ok a -> m' = .ok a

theorem Extends.refl (m : Except ε α) : Extends m m :=
  fun _ h => h

theorem Extends.bind {m m' : Except ε α} {f f' : α -> Except ε β} (hm : Extends m m')
    (hf : forall a, Extends (f a) (f' a)) : Extends (m >>= f) (m' >>= f') := by
  intro b h
  rcases bind_eq_ok.mp h with ⟨a, hfirst, hrest⟩
  exact bind_eq_ok.mpr ⟨a, hm a hfirst, hf a b hrest⟩

theorem Extends.foldlM {f f' : β -> α -> Except ε β} (h : forall b a, Extends (f b a) (f' b a))
    (xs : List α) (start : β) : Extends (xs.foldlM f start) (xs.foldlM f' start) := by
  induction xs generalizing start with
  | nil =>
      exact Extends.refl _
  | cons x rest ih =>
      rw [List.foldlM_cons, List.foldlM_cons]
      exact (h start x).bind ih

end Except

end GraphHelm
