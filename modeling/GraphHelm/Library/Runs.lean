import Mathlib.Data.List.Basic

/-!
# Runs of a transition function

A system is a partial step function on its states: `step s a` is the state after
the action `a`, or nothing when the action is not enabled.  A run is a list of
actions.  A property of every reachable state follows from what one step keeps,
and a property of the runs that meet a condition at every step follows from what
one step that meets it keeps.
-/

namespace GraphHelm

section Runs

variable {State Action : Type} (step : State -> Action -> Option State)

/-- The state a run ends in; `none` when some action of it is not enabled. -/
def run : State -> List Action -> Option State
  | s, [] => some s
  | s, a :: rest => (step s a).bind fun s' => run s' rest

/-- `condition` holds of every step the run takes. -/
def StepsMeet (condition : State -> Action -> Prop) : State -> List Action -> Prop
  | _, [] => True
  | s, a :: rest =>
      condition s a ∧ forall s', step s a = some s' -> StepsMeet condition s' rest

variable {step}

variable {s t : State} {actions : List Action} {condition : State -> Action -> Prop}

theorem run_cons_eq_some {a : Action} {rest : List Action} :
    run step s (a :: rest) = some t <->
      exists s', step s a = some s' ∧ run step s' rest = some t := by
  simp [run, Option.bind_eq_some_iff]

@[simp] theorem run_singleton {a : Action} : run step s [a] = step s a := by
  simp [run]

theorem run_append (first second : List Action) :
    run step s (first ++ second) = (run step s first).bind fun s' => run step s' second := by
  induction first generalizing s with
  | nil =>
      rfl
  | cons a rest ih =>
      simp only [List.cons_append, run, Option.bind_assoc]
      congr 1
      funext s'
      exact ih

theorem StepsMeet.imp {weaker : State -> Action -> Prop}
    (himp : forall {s a}, condition s a -> weaker s a) (h : StepsMeet step condition s actions) :
    StepsMeet step weaker s actions := by
  induction actions generalizing s with
  | nil =>
      trivial
  | cons a rest ih =>
      exact And.intro (himp h.left) fun s' hstep => ih (h.right s' hstep)

theorem StepsMeet.and {first second : State -> Action -> Prop}
    (hfirst : StepsMeet step first s actions) (hsecond : StepsMeet step second s actions) :
    StepsMeet step (fun s a => first s a ∧ second s a) s actions := by
  induction actions generalizing s with
  | nil =>
      trivial
  | cons a rest ih =>
      refine And.intro (And.intro hfirst.left hsecond.left) ?_
      intro s' hstep
      exact ih (hfirst.right s' hstep) (hsecond.right s' hstep)

theorem StepsMeet.after {s' : State} {first rest : List Action}
    (h : StepsMeet step condition s (first ++ rest)) (hrun : run step s first = some s') :
    StepsMeet step condition s' rest := by
  induction first generalizing s with
  | nil =>
      cases hrun
      exact h
  | cons a later ih =>
      rcases run_cons_eq_some.mp hrun with ⟨middle, hfirst, hlater⟩
      exact ih (h.right middle hfirst) hlater

theorem StepsMeet.before {first rest : List Action}
    (h : StepsMeet step condition s (first ++ rest)) :
    StepsMeet step condition s first := by
  induction first generalizing s with
  | nil =>
      trivial
  | cons a later ih =>
      exact And.intro h.left fun s' hstep => ih (h.right s' hstep)

theorem exists_of_not_stepsMeet (h : ¬ StepsMeet step condition s actions) :
    exists first a rest s', actions = first ++ a :: rest ∧ run step s first = some s' ∧
      ¬ condition s' a := by
  induction actions generalizing s with
  | nil =>
      exact absurd trivial h
  | cons a rest ih =>
      by_cases hcondition : condition s a
      · have htail : exists s', step s a = some s' ∧ ¬ StepsMeet step condition s' rest := by
          by_contra hnone
          apply h
          refine And.intro hcondition ?_
          intro s' hstep
          by_contra hmeet
          exact hnone ⟨s', hstep, hmeet⟩
        rcases htail with ⟨s', hstep, hmeet⟩
        rcases ih hmeet with ⟨first, b, later, t, hactions, hrun, hfails⟩
        refine ⟨a :: first, b, later, t, ?_, ?_, hfails⟩
        · rw [hactions, List.cons_append]
        · exact run_cons_eq_some.mpr ⟨s', hstep, hrun⟩
      · exact ⟨[], a, rest, s, rfl, rfl, hcondition⟩

/-- `P` holds of every state the run passes through, the first and the last included. -/
def Throughout (step : State -> Action -> Option State) (P : State -> Prop) :
    State -> List Action -> Prop
  | s, [] => P s
  | s, a :: rest => P s ∧ forall s', step s a = some s' -> Throughout step P s' rest

theorem Throughout.last {P : State -> Prop} {s t : State} {actions : List Action}
    (h : Throughout step P s actions) (hrun : run step s actions = some t) : P t := by
  induction actions generalizing s with
  | nil =>
      cases hrun
      exact h
  | cons a rest ih =>
      rcases run_cons_eq_some.mp hrun with ⟨s', hfirst, hrest⟩
      exact ih (h.right s' hfirst) hrest

theorem throughout_iff_stepsMeet_of_mem {P : State -> Prop}
    {condition : State -> Action -> Prop} {s t : State} {actions : List Action}
    (hstep : forall {s a s'}, a ∈ actions -> P s -> step s a = some s' ->
      (P s' <-> condition s a))
    (hinit : P s) (hrun : run step s actions = some t) :
    Throughout step P s actions <-> StepsMeet step condition s actions := by
  induction actions generalizing s with
  | nil =>
      exact iff_of_true hinit trivial
  | cons a rest ih =>
      rcases run_cons_eq_some.mp hrun with ⟨s', hfirst, hrest⟩
      have hkept := hstep List.mem_cons_self hinit hfirst
      have hlater := @ih s' fun hmem => hstep (List.mem_cons_of_mem a hmem)
      have hhead : Throughout step P s' rest -> P s' := by
        intro h
        cases rest with
        | nil =>
            exact h
        | cons b later =>
            exact h.left
      constructor
      · intro h
        have hnext := h.right s' hfirst
        refine And.intro (hkept.mp (hhead hnext)) ?_
        intro other hother
        rw [hfirst] at hother
        cases hother
        exact (hlater (hhead hnext) hrest).mp hnext
      · intro h
        refine And.intro hinit ?_
        intro other hother
        rw [hfirst] at hother
        cases hother
        exact (hlater (hkept.mpr h.left) hrest).mpr (h.right s' hfirst)

theorem throughout_iff_stepsMeet {P : State -> Prop}
    (hstep : forall {s a s'}, P s -> step s a = some s' -> (P s' <-> condition s a)) (hinit : P s)
    (hrun : run step s actions = some t) :
    Throughout step P s actions <-> StepsMeet step condition s actions :=
  throughout_iff_stepsMeet_of_mem (fun _ => hstep) hinit hrun

instance decidableStepsMeet (condition : State -> Action -> Prop)
    [forall s a, Decidable (condition s a)] :
    (s : State) -> (actions : List Action) -> Decidable (StepsMeet step condition s actions)
  | _, [] => isTrue trivial
  | s, a :: rest =>
      match hstep : step s a with
      | none =>
          decidable_of_iff (condition s a)
            (by simp only [StepsMeet, hstep, reduceCtorEq, false_implies, implies_true, and_true])
      | some s' =>
          have : Decidable (StepsMeet step condition s' rest) :=
            decidableStepsMeet condition s' rest
          decidable_of_iff (condition s a ∧ StepsMeet step condition s' rest)
            (by simp only [StepsMeet, hstep, Option.some.injEq, forall_eq'])

theorem run_invariant_of_steps {Inv : State -> Prop} {condition : State -> Action -> Prop}
    (hstep : forall {s a s'}, Inv s -> condition s a -> step s a = some s' -> Inv s')
    {s t : State} {actions : List Action} (hinit : Inv s)
    (hmeet : StepsMeet step condition s actions) (hrun : run step s actions = some t) :
    Inv t := by
  induction actions generalizing s with
  | nil =>
      cases hrun
      exact hinit
  | cons a rest ih =>
      rcases run_cons_eq_some.mp hrun with ⟨s', hfirst, hrest⟩
      exact ih (hstep hinit hmeet.left hfirst) (hmeet.right s' hfirst) hrest

theorem stepsMeet_of_actions (h : forall a, a ∈ actions -> forall s, condition s a) :
    StepsMeet step condition s actions := by
  induction actions generalizing s with
  | nil =>
      trivial
  | cons a rest ih =>
      refine And.intro (h a List.mem_cons_self s) ?_
      intro s' _
      exact ih fun b hmem => h b (List.mem_cons_of_mem a hmem)

theorem stepsMeet_true :
    StepsMeet step (fun _ _ => True) s actions :=
  stepsMeet_of_actions fun _ _ _ => trivial

theorem run_invariant {Inv : State -> Prop}
    (hstep : forall {s a s'}, Inv s -> step s a = some s' -> Inv s')
    {s t : State} {actions : List Action} (hinit : Inv s)
    (hrun : run step s actions = some t) : Inv t :=
  run_invariant_of_steps (fun hinv _ h => hstep hinv h) hinit stepsMeet_true hrun

theorem run_good_iff_stepsMeet (Inv Good : State -> Prop) (hgood : forall {s}, Inv s -> Good s)
    (hkeep : forall {s a s'}, Inv s -> condition s a -> step s a = some s' -> Inv s')
    (hbreak : forall {s a s'}, Inv s -> ¬ condition s a -> step s a = some s' -> ¬ Good s')
    (hstay : forall {s a s'}, ¬ Good s -> step s a = some s' -> ¬ Good s') (hinit : Inv s)
    (hrun : run step s actions = some t) :
    Good t <-> StepsMeet step condition s actions := by
  induction actions generalizing s with
  | nil =>
      cases hrun
      exact iff_of_true (hgood hinit) trivial
  | cons a rest ih =>
      rcases run_cons_eq_some.mp hrun with ⟨s', hfirst, hrest⟩
      by_cases hcondition : condition s a
      · have htail := ih (hkeep hinit hcondition hfirst) hrest
        constructor
        · intro hend
          refine And.intro hcondition ?_
          intro other hother
          rw [hfirst] at hother
          cases hother
          exact htail.mp hend
        · intro hmeet
          exact htail.mpr (hmeet.right s' hfirst)
      · refine iff_of_false ?_ fun hmeet => hcondition hmeet.left
        -- Once broken, the property stays broken to the end of the run.
        exact @run_invariant State Action step (fun s => ¬ Good s) hstay s' t rest
          (hbreak hinit hcondition hfirst) hrest

/-!
## Counting steps
-/

/-- How many steps of the run `counts` holds of, each in the state it is taken from. -/
def countSteps (step : State -> Action -> Option State) (counts : State -> Action -> Bool) :
    State -> List Action -> Nat
  | _, [] => 0
  | s, a :: rest =>
      (counts s a).toNat +
        match step s a with
        | none => 0
        | some s' => countSteps step counts s' rest

theorem countSteps_eq_countP {p : Action -> Bool} (hrun : run step s actions = some t) :
    countSteps step (fun _ a => p a) s actions = actions.countP p := by
  induction actions generalizing s with
  | nil =>
      rfl
  | cons a rest ih =>
      rcases run_cons_eq_some.mp hrun with ⟨s', hfirst, hrest⟩
      unfold countSteps
      simp only [hfirst, ih hrest]
      rw [List.countP_cons, Nat.add_comm]
      cases p a <;> rfl

theorem countSteps_add_potential_le (gain pay : State -> Action -> Bool)
    (potential : State -> Nat) (hstep : forall {s a s'}, condition s a -> step s a = some s' ->
      (gain s a).toNat + potential s' <= (pay s a).toNat + potential s)
    (hmeet : StepsMeet step condition s actions) (hrun : run step s actions = some t) :
    countSteps step gain s actions + potential t <=
      countSteps step pay s actions + potential s := by
  induction actions generalizing s with
  | nil =>
      cases hrun
      exact Nat.le_refl _
  | cons a rest ih =>
      rcases run_cons_eq_some.mp hrun with ⟨s', hfirst, hrest⟩
      have hlater := ih (hmeet.right s' hfirst) hrest
      have hhead := hstep hmeet.left hfirst
      unfold countSteps
      simp only [hfirst]
      omega

end Runs

end GraphHelm
