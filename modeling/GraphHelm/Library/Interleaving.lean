import GraphHelm.Library.Runs
import Mathlib.Logic.Function.Basic

/-!
# Parties that interleave over a shared state

Each party has a state of its own; one move of one party reads and writes the
shared state and its own, and is atomic.  A run is any order of such moves.  An
invariant of all runs comes from two facts about one move: what the mover
guarantees of the shared state and of itself, and that what the others rely on
survives the move.
-/

namespace GraphHelm

structure Configuration (Party Shared Local : Type) where
  shared : Shared
  locals : Party -> Local

section Interleaving

variable {Party Shared Local Action : Type} [DecidableEq Party]
  (move : Shared -> Local -> Action -> Option (Shared × Local))

def interleave (c : Configuration Party Shared Local) (turn : Party × Action) :
    Option (Configuration Party Shared Local) :=
  (move c.shared (c.locals turn.1) turn.2).map fun after =>
    { shared := after.1
      locals := Function.update c.locals turn.1 after.2 }

def AtTurn (condition : Shared -> Local -> Action -> Prop)
    (c : Configuration Party Shared Local) (turn : Party × Action) : Prop :=
  condition c.shared (c.locals turn.1) turn.2

/-- What the shared state satisfies, and what every party relies on about it. -/
structure Holds (SharedInv : Shared -> Prop) (LocalInv : Shared -> Local -> Prop)
    (c : Configuration Party Shared Local) : Prop where
  shared : SharedInv c.shared
  locals : forall party, LocalInv c.shared (c.locals party)

/-- A move, under its condition, keeps the shared invariant and everyone's own. -/
structure Guarantees (condition : Shared -> Local -> Action -> Prop)
    (SharedInv : Shared -> Prop) (LocalInv : Shared -> Local -> Prop) : Prop where
  shared : forall {s l a s' l'}, SharedInv s -> LocalInv s l -> condition s l a ->
    move s l a = some (s', l') -> SharedInv s'
  mover : forall {s l a s' l'}, SharedInv s -> LocalInv s l -> condition s l a ->
    move s l a = some (s', l') -> LocalInv s' l'
  others : forall {s l a s' l'}, SharedInv s -> LocalInv s l -> condition s l a ->
    move s l a = some (s', l') -> forall {other}, LocalInv s other -> LocalInv s' other

variable {move}

variable {c c' : Configuration Party Shared Local}

theorem interleave_eq_some {turn : Party × Action} :
    interleave move c turn = some c' <->
      exists s' l', move c.shared (c.locals turn.1) turn.2 = some (s', l') ∧
        c' = { shared := s', locals := Function.update c.locals turn.1 l' } := by
  unfold interleave
  rw [Option.map_eq_some_iff]
  constructor
  · rintro ⟨⟨s', l'⟩, hmove, heq⟩
    exact ⟨s', l', hmove, heq.symm⟩
  · rintro ⟨s', l', hmove, heq⟩
    exact ⟨(s', l'), hmove, heq.symm⟩

variable {condition : Shared -> Local -> Action -> Prop} {SharedInv : Shared -> Prop}
  {LocalInv : Shared -> Local -> Prop}

theorem Holds.step (hguarantee : Guarantees move condition SharedInv LocalInv)
    {turn : Party × Action} (h : Holds SharedInv LocalInv c)
    (hcondition : AtTurn condition c turn) (hstep : interleave move c turn = some c') :
    Holds SharedInv LocalInv c' := by
  rcases interleave_eq_some.mp hstep with ⟨s', l', hmove, rfl⟩
  have hmover := h.locals turn.1
  refine ⟨hguarantee.shared h.shared hmover hcondition hmove, ?_⟩
  intro party
  show LocalInv s' (Function.update c.locals turn.1 l' party)
  by_cases heq : party = turn.1
  · subst heq
    rw [Function.update_self]
    exact hguarantee.mover h.shared hmover hcondition hmove
  · rw [Function.update_of_ne heq]
    exact hguarantee.others h.shared hmover hcondition hmove (h.locals party)

theorem Holds.after_run (hguarantee : Guarantees move condition SharedInv LocalInv)
    {turns : List (Party × Action)} (h : Holds SharedInv LocalInv c)
    (hmeet : StepsMeet (interleave move) (AtTurn condition) c turns)
    (hrun : run (interleave move) c turns = some c') : Holds SharedInv LocalInv c' :=
  run_invariant_of_steps (Holds.step hguarantee) h hmeet hrun

theorem Holds.run_good_iff (hguarantee : Guarantees move condition SharedInv LocalInv)
    (Good : Shared -> Prop) (hgood : forall {s}, SharedInv s -> Good s)
    (hbreak : forall {s l a s' l'}, SharedInv s -> LocalInv s l -> ¬ condition s l a ->
      move s l a = some (s', l') -> ¬ Good s')
    (hstay : forall {s l a s' l'}, ¬ Good s -> move s l a = some (s', l') -> ¬ Good s')
    {turns : List (Party × Action)} (h : Holds SharedInv LocalInv c)
    (hrun : run (interleave move) c turns = some c') :
    Good c'.shared <-> StepsMeet (interleave move) (AtTurn condition) c turns := by
  refine run_good_iff_stepsMeet (Holds SharedInv LocalInv) (fun c => Good c.shared)
    (fun hholds => hgood hholds.shared) (Holds.step hguarantee) ?_ ?_ h hrun
  · intro c turn c' hholds hcondition hstep
    rcases interleave_eq_some.mp hstep with ⟨s', l', hmove, rfl⟩
    exact hbreak hholds.shared (hholds.locals turn.1) hcondition hmove
  · intro c turn c' hbad hstep
    rcases interleave_eq_some.mp hstep with ⟨s', l', hmove, rfl⟩
    exact hstay hbad hmove

end Interleaving

end GraphHelm
