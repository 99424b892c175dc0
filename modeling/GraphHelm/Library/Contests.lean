import GraphHelm.Library.Checks

/-!
# Contests

A list is brought down to one element by letting the element held so far meet
each of the others in turn.  A meeting names a winner and a loser or refuses.
When the winner of a meeting is always at least as strong as the loser, the
element held at the end is at least as strong as every other, whatever the order
they were met in; the order decides only which of several equals it is, and
whether two elements that no meeting settles ever meet.
-/

namespace GraphHelm

variable {α ε : Type}

def champion (meet : α -> α -> Except ε (α × α)) : α -> List α -> Except ε (α × List α)
  | held, [] => .ok (held, [])
  | held, challenger :: rest => do
      let (winner, loser) <- meet held challenger
      let (last, losers) <- champion meet winner rest
      .ok (last, loser :: losers)

structure SettledBy (meet : α -> α -> Except ε (α × α)) (atLeast : α -> α -> Prop) : Prop where
  challenger : forall {held challenger}, atLeast challenger held ->
    meet held challenger = .ok (challenger, held)
  held : forall {held challenger}, ¬ atLeast challenger held -> atLeast held challenger ->
    meet held challenger = .ok (held, challenger)
  refused : forall {held challenger}, ¬ atLeast challenger held -> ¬ atLeast held challenger ->
    exists refusal, meet held challenger = .error refusal

section Contests

variable {meet : α -> α -> Except ε (α × α)} {atLeast : α -> α -> Prop}

theorem champion_cons_eq_ok {held challenger last : α} {rest losers : List α} :
    champion meet held (challenger :: rest) = .ok (last, losers) <->
      exists winner loser later, meet held challenger = .ok (winner, loser) ∧
        champion meet winner rest = .ok (last, later) ∧ losers = loser :: later := by
  constructor
  · intro h
    rcases bind_ok h with ⟨⟨winner, loser⟩, hmeet, h⟩
    rcases bind_ok h with ⟨⟨_, later⟩, hrest, h⟩
    cases h
    exact ⟨winner, loser, later, hmeet, hrest, rfl⟩
  · intro h
    rcases h with ⟨winner, loser, later, hmeet, hrest, heq⟩
    subst heq
    apply Except.bind_eq_ok.mpr
    exists (winner, loser)
    constructor
    · exact hmeet
    · exact Except.bind_eq_ok.mpr ⟨(last, later), hrest, rfl⟩

namespace SettledBy

variable {held : α} {rest : List α}

theorem cases_ok (h : SettledBy meet atLeast) {challenger winner loser : α}
    (hmeet : meet held challenger = .ok (winner, loser)) :
    (winner = challenger ∧ loser = held ∧ atLeast challenger held) ∨
      (winner = held ∧ loser = challenger ∧ atLeast held challenger ∧
        ¬ atLeast challenger held) := by
  by_cases hchallenger : atLeast challenger held
  · rw [h.challenger hchallenger] at hmeet
    cases hmeet
    exact Or.inl ⟨rfl, rfl, hchallenger⟩
  · by_cases hheld : atLeast held challenger
    · rw [h.held hchallenger hheld] at hmeet
      cases hmeet
      exact Or.inr ⟨rfl, rfl, hheld, hchallenger⟩
    · rcases h.refused hchallenger hheld with ⟨refusal, hrefused⟩
      rw [hrefused] at hmeet
      cases hmeet

theorem isOk_iff (h : SettledBy meet atLeast) {challenger : α} :
    (exists outcome, meet held challenger = .ok outcome) <->
      atLeast challenger held ∨ atLeast held challenger := by
  constructor
  · intro hmeet
    rcases hmeet with ⟨⟨winner, loser⟩, hmeet⟩
    rcases h.cases_ok hmeet with ⟨_, _, hstrong⟩ | ⟨_, _, hstrong, _⟩
    · exact Or.inl hstrong
    · exact Or.inr hstrong
  · intro hstrong
    by_cases hchallenger : atLeast challenger held
    · exact ⟨_, h.challenger hchallenger⟩
    · exact ⟨_, h.held hchallenger (hstrong.resolve_left hchallenger)⟩

theorem perm (h : SettledBy meet atLeast) {last : α} {losers : List α}
    (hchampion : champion meet held rest = .ok (last, losers)) :
    (last :: losers).Perm (held :: rest) := by
  induction rest generalizing held losers with
  | nil =>
      cases hchampion
      exact List.Perm.refl _
  | cons challenger rest ih =>
      rcases champion_cons_eq_ok.mp hchampion with ⟨winner, loser, later, hmeet, hrest, heq⟩
      subst heq
      have hlater : (loser :: last :: later).Perm (loser :: winner :: rest) :=
        (ih hrest).cons loser
      have hswapped : (last :: loser :: later).Perm (loser :: winner :: rest) :=
        (List.Perm.swap loser last later).trans hlater
      rcases h.cases_ok hmeet with ⟨hwinner, hloser, _⟩ | ⟨hwinner, hloser, _, _⟩
      · subst hwinner
        subst hloser
        exact hswapped
      · subst hwinner
        subst hloser
        exact hswapped.trans (List.Perm.swap winner loser rest)

theorem outdoes_losers (h : SettledBy meet atLeast)
    (htrans : forall {a b c}, atLeast a b -> atLeast b c -> atLeast a c) {last : α}
    {losers : List α} (hchampion : champion meet held rest = .ok (last, losers)) :
    (last = held ∨ atLeast last held) ∧ forall x, x ∈ losers -> atLeast last x := by
  induction rest generalizing held losers with
  | nil =>
      cases hchampion
      exact And.intro (Or.inl rfl) fun x hx => absurd hx List.not_mem_nil
  | cons challenger rest ih =>
      rcases champion_cons_eq_ok.mp hchampion with ⟨winner, loser, later, hmeet, hrest, heq⟩
      subst heq
      rcases ih hrest with ⟨hwinner, hlater⟩
      -- Whoever the winner outdoes, the champion outdoes.
      have hpast : forall {x}, atLeast winner x -> atLeast last x := by
        intro x hx
        rcases hwinner with heq | hstrong
        · exact heq ▸ hx
        · exact htrans hstrong hx
      rcases h.cases_ok hmeet with ⟨hwon, hlost, hstrong⟩ | ⟨hwon, hlost, hstrong, _⟩
      · constructor
        · exact Or.inr (hpast (hwon ▸ hstrong))
        · intro x hx
          rcases List.mem_cons.mp hx with heq | hx
          · exact hpast (heq ▸ hlost ▸ hwon ▸ hstrong)
          · exact hlater x hx
      · constructor
        · exact hwon ▸ hwinner
        · intro x hx
          rcases List.mem_cons.mp hx with heq | hx
          · exact hpast (heq ▸ hlost ▸ hwon ▸ hstrong)
          · exact hlater x hx

theorem last_of_equals (h : SettledBy meet atLeast) {last : α} {losers : List α}
    (hchampion : champion meet held rest = .ok (last, losers)) :
    exists before after, held :: rest = before ++ last :: after ∧
      forall y, y ∈ after -> ¬ atLeast y last := by
  induction rest generalizing held losers with
  | nil =>
      cases hchampion
      exact ⟨[], [], rfl, fun y hy => absurd hy List.not_mem_nil⟩
  | cons challenger rest ih =>
      rcases champion_cons_eq_ok.mp hchampion with ⟨winner, loser, later, hmeet, hrest, _⟩
      rcases ih hrest with ⟨before, after, hsplit, hafter⟩
      rcases h.cases_ok hmeet with ⟨heq, _, _⟩ | ⟨heq, _, hstrong, hweak⟩
      · subst heq
        exact ⟨held :: before, after, by rw [hsplit]; rfl, hafter⟩
      · subst heq
        cases before with
        | nil =>
            -- The element held from the start is the champion, and the challenger lost to it.
            injection hsplit with hhead htail
            subst hhead
            subst htail
            refine ⟨[], challenger :: rest, rfl, ?_⟩
            intro y hy
            rcases List.mem_cons.mp hy with heq | hy
            · exact heq ▸ hweak
            · exact hafter y hy
        | cons first before =>
            injection hsplit with hhead htail
            subst hhead
            exact ⟨winner :: challenger :: before, after, by rw [htail]; rfl, hafter⟩

theorem champion_of_strongest (h : SettledBy meet atLeast)
    (htrans : forall {a b c}, atLeast a b -> atLeast b c -> atLeast a c)
    (hheld : forall x, x ∈ rest -> atLeast held x) :
    exists last losers, champion meet held rest = .ok (last, losers) := by
  induction rest generalizing held with
  | nil =>
      exact ⟨held, [], rfl⟩
  | cons challenger rest ih =>
      have hfirst : atLeast held challenger := hheld challenger List.mem_cons_self
      have hrest : forall x, x ∈ rest -> atLeast held x := fun x hx =>
        hheld x (List.mem_cons_of_mem challenger hx)
      by_cases hchallenger : atLeast challenger held
      · rcases ih (fun x hx => htrans hchallenger (hrest x hx)) with ⟨last, losers, hlast⟩
        exact ⟨last, held :: losers,
          champion_cons_eq_ok.mpr ⟨challenger, held, losers, h.challenger hchallenger, hlast, rfl⟩⟩
      · rcases ih hrest with ⟨last, losers, hlast⟩
        exact ⟨last, challenger :: losers,
          champion_cons_eq_ok.mpr
            ⟨held, challenger, losers, h.held hchallenger hfirst, hlast, rfl⟩⟩

end SettledBy

/-- Where a contest refuses: the champion so far and the next challenger cannot be settled. -/
theorem champion_eq_error {held : α} {rest : List α} {refusal : ε}
    (h : champion meet held rest = .error refusal) :
    exists before challenger after last losers, rest = before ++ challenger :: after ∧
      champion meet held before = .ok (last, losers) ∧
        meet last challenger = .error refusal := by
  induction rest generalizing held with
  | nil =>
      cases h
  | cons challenger rest ih =>
      cases hmeet : meet held challenger with
      | error first =>
          have heq : champion meet held (challenger :: rest) = .error first := by
            simp [champion, hmeet, bind, Except.bind]
          rw [heq] at h
          cases h
          exact ⟨[], challenger, rest, held, [], rfl, rfl, hmeet⟩
      | ok outcome =>
          rcases outcome with ⟨winner, loser⟩
          have hrest : champion meet winner rest = .error refusal := by
            cases hlater : champion meet winner rest with
            | error later =>
                have heq : champion meet held (challenger :: rest) = .error later := by
                  simp [champion, hmeet, hlater, bind, Except.bind]
                rw [heq] at h
                exact h
            | ok outcome =>
                have heq : champion meet held (challenger :: rest) =
                    .ok (outcome.1, loser :: outcome.2) := by
                  simp [champion, hmeet, hlater, bind, Except.bind]
                rw [heq] at h
                cases h
          rcases ih hrest with ⟨before, next, after, last, losers, hsplit, hbefore, hnext⟩
          exact ⟨challenger :: before, next, after, last, loser :: losers, by rw [hsplit]; rfl,
            champion_cons_eq_ok.mpr ⟨winner, loser, losers, hmeet, hbefore, rfl⟩, hnext⟩

/-- A contest that begins with another goes on from where that one ended. -/
theorem champion_append {held : α} {first second : List α} :
    champion meet held (first ++ second) = (do
      let (last, losers) <- champion meet held first
      let (final, later) <- champion meet last second
      .ok (final, losers ++ later)) := by
  induction first generalizing held with
  | nil =>
      cases hsecond : champion meet held second with
      | error refusal => simp [champion, hsecond, bind, Except.bind]
      | ok outcome => simp [champion, hsecond, bind, Except.bind]
  | cons challenger rest ih =>
      cases hmeet : meet held challenger with
      | error refusal => simp [champion, hmeet, bind, Except.bind]
      | ok outcome =>
          simp only [List.cons_append, champion, hmeet, bind, Except.bind]
          rw [ih]
          cases hrest : champion meet outcome.1 rest with
          | error refusal => simp [bind, Except.bind]
          | ok next =>
              cases hlast : champion meet next.1 second with
              | error refusal => simp [hlast, bind, Except.bind]
              | ok final => simp [hlast, bind, Except.bind]

end Contests

end GraphHelm
