import GraphHelm.Library.Renaming
import GraphHelm.Policy.Accounting
import Mathlib.Data.List.TakeWhile

/-!
# What a key comes to

Whether the rules of a key can be settled, in every order, in some order or in
none.  A rule leads its group when it is at least as strong as each of the
others.  A group without a leader is refused however its rules are named; a group
with one is refused only where two rules that no strength orders meet before the
leader has taken over.
-/

namespace GraphHelm

open Std (ExtTreeMap ExtTreeSet)

/-!
## Leaders and clashes
-/

def Leads (group : List CodeRule) (rule : CodeRule) : Prop :=
  rule ∈ group ∧ forall other, other ∈ group.erase rule -> AtLeast rule other

/-- Two selectors of the group do not compare. -/
def Unordered (group : List CodeRule) : Prop :=
  exists left right, left ∈ group ∧ right ∈ group ∧ incomparableTo left right = true

/-- Nothing but the order of the rules stands against an answer. -/
def Settleable (group : List CodeRule) : Prop :=
  ¬ Unordered group ∧ (group ≠ [] -> exists rule, Leads group rule)

/-- Two rules that no meeting settles. -/
def Clash (held rule : CodeRule) : Prop :=
  ¬ AtLeast held rule ∧ ¬ AtLeast rule held

/--
Two clashing rules can meet first: they share a name, or the first is not
outdone under its own name.
-/
def MayClash (group : List CodeRule) : Prop :=
  exists held rule, held ∈ group ∧ rule ∈ group ∧ held ≠ rule ∧ Clash held rule ∧
    (held.id = rule.id ∨ forall other, other ∈ group -> other.id = held.id ->
      AtLeast other held -> AtLeast held other)

def Settles (conflictKey : String) (group : List CodeRule) : Prop :=
  exists outcome, settleGroup conflictKey group = .ok outcome

section Groups

variable {conflictKey : String} {group : List CodeRule}

theorem incomparableTo_symm (left right : CodeRule) :
    incomparableTo left right = incomparableTo right left := by
  unfold incomparableTo dominance
  cases containsSelector left.spec.selector right.spec.selector <;>
    cases containsSelector right.spec.selector left.spec.selector <;> simp

theorem incomparableTo_self (rule : CodeRule) : incomparableTo rule rule = false := by
  simp [incomparableTo, dominance, containsSelector_refl]

theorem firstIncomparable_eq_some {left right : CodeRule}
    (h : firstIncomparable group = some (left, right)) :
    left ∈ group ∧ right ∈ group ∧ incomparableTo left right = true := by
  induction group with
  | nil => cases h
  | cons first rest ih =>
      unfold firstIncomparable at h
      cases hfind : rest.find? (incomparableTo first) with
      | some other =>
          rw [hfind] at h
          cases h
          exact ⟨List.mem_cons_self, List.mem_cons_of_mem left (List.mem_of_find?_eq_some hfind),
            List.find?_some hfind⟩
      | none =>
          rw [hfind] at h
          rcases ih h with ⟨hleft, hright, hpair⟩
          exact ⟨List.mem_cons_of_mem first hleft, List.mem_cons_of_mem first hright, hpair⟩

theorem firstIncomparable_eq_none (h : firstIncomparable group = none) : ¬ Unordered group := by
  have hpairs : group.Pairwise fun left right => incomparableTo left right = false := by
    induction group with
    | nil => exact List.Pairwise.nil
    | cons first rest ih =>
        unfold firstIncomparable at h
        cases hfind : rest.find? (incomparableTo first) with
        | some other =>
            rw [hfind] at h
            cases h
        | none =>
            rw [hfind] at h
            apply List.pairwise_cons.mpr
            constructor
            · intro other hother
              simpa using List.find?_eq_none.mp hfind other hother
            · exact ih h
  intro hunordered
  rcases hunordered with ⟨left, right, hleft, hright, hpair⟩
  have : Std.Symm fun left right : CodeRule => incomparableTo left right = false :=
    ⟨fun left right h => (incomparableTo_symm right left).trans h⟩
  have hordered : incomparableTo left right = false := by
    by_cases heq : left = right
    · exact heq ▸ incomparableTo_self left
    · exact hpairs.forall hleft hright heq
  rw [hordered] at hpair
  cases hpair

theorem Unordered.of_perm {other : List CodeRule} (hperm : other.Perm group)
    (h : Unordered other) : Unordered group := by
  rcases h with ⟨left, right, hleft, hright, hpair⟩
  exact ⟨left, right, hperm.mem_iff.mp hleft, hperm.mem_iff.mp hright, hpair⟩

/-!
## Refusals
-/

/-- The selectors are looked at first. -/
theorem settleGroup_of_unordered (h : Unordered group) :
    exists rules, settleGroup conflictKey group = .error (.precedenceUnresolved conflictKey rules) := by
  unfold settleGroup
  cases hpair : firstIncomparable (sortById group) with
  | some pair => exact ⟨_, rfl⟩
  | none =>
      exact absurd (h.of_perm (sortById_perm group).symm) (firstIncomparable_eq_none hpair)

theorem settleGroup_of_ordered (h : ¬ Unordered group) :
    settleGroup conflictKey group = strongestOf conflictKey (sortById group) := by
  unfold settleGroup
  cases hpair : firstIncomparable (sortById group) with
  | some pair =>
      exact absurd
        (Unordered.of_perm (sortById_perm group) ⟨_, _, firstIncomparable_eq_some hpair⟩) h
  | none => rfl

variable {rest : List CodeRule} {refusal : ResolutionRefusal}

theorem strongestOf_cons {first : CodeRule} :
    strongestOf conflictKey (first :: rest) =
      (champion (meetRules conflictKey) first rest).map some := by
  cases h : champion (meetRules conflictKey) first rest with
  | ok outcome => simp [strongestOf, h, bind, Except.bind, Except.map]
  | error refusal => simp [strongestOf, h, bind, Except.bind, Except.map]

theorem meetRules_clash (conflictKey : String) {held challenger : CodeRule} :
    Clash held challenger <->
      exists refusal, meetRules conflictKey held challenger = .error refusal := by
  have hsettled := meetRules_settledBy conflictKey
  constructor
  · intro h
    exact hsettled.refused h.right h.left
  · intro h
    rcases h with ⟨refusal, hmeet⟩
    have hnot : ¬ exists outcome, meetRules conflictKey held challenger = .ok outcome := by
      rw [hmeet]
      intro hok
      rcases hok with ⟨outcome, hok⟩
      cases hok
    rw [hsettled.isOk_iff, not_or] at hnot
    exact And.intro hnot.right hnot.left

theorem meetRules_eq_error {held challenger : CodeRule}
    (hcompared : incomparableTo challenger held = false)
    (h : meetRules conflictKey held challenger = .error refusal) :
    exists rules, refusal = .conflict conflictKey rules := by
  unfold incomparableTo at hcompared
  unfold meetRules at h
  cases hdominance : dominance challenger.spec.selector held.spec.selector with
  | incomparable => simp [hdominance] at hcompared
  | dominates =>
      cases hcompare : compareRules challenger.spec held.spec <;>
        simp [hdominance, hcompare] at h
      · exact ⟨_, h.symm⟩
      · exact ⟨_, h.symm⟩
  | dominatedBy =>
      cases hcompare : compareRules held.spec challenger.spec <;>
        simp [hdominance, hcompare] at h
      · exact ⟨_, h.symm⟩
      · exact ⟨_, h.symm⟩
  | equal =>
      cases hcompare : compareRules challenger.spec held.spec <;>
        simp [hdominance, hcompare] at h
      exact ⟨_, h.symm⟩

/-- Where the rules that stand in order are refused: the champion so far clashes with the next. -/
structure RefusedAt (sorted : List CodeRule) (held challenger : CodeRule)
    (before after : List CodeRule) : Prop where
  split : sorted = before ++ challenger :: after
  mem : held ∈ before
  outdoes : forall rule, rule ∈ before -> rule = held ∨ AtLeast held rule
  clash : Clash held challenger

theorem refusedAt_of_strongestOf {sorted : List CodeRule}
    (h : strongestOf conflictKey sorted = .error refusal) :
    exists held challenger before after, RefusedAt sorted held challenger before after ∧
      meetRules conflictKey held challenger = .error refusal := by
  cases sorted with
  | nil => cases h
  | cons first rest =>
      rw [strongestOf_cons] at h
      cases hchampion : champion (meetRules conflictKey) first rest with
      | ok outcome =>
          rw [hchampion] at h
          cases h
      | error refused =>
          rw [hchampion] at h
          cases h
          rcases champion_eq_error hchampion with
            ⟨before, challenger, after, held, losers, hsplit, hbefore, hmeet⟩
          have hsettled := meetRules_settledBy conflictKey
          have hperm := hsettled.perm hbefore
          refine ⟨held, challenger, first :: before, after, ?_, hmeet⟩
          constructor
          · rw [hsplit]
            rfl
          · exact hperm.mem_iff.mp List.mem_cons_self
          · intro rule hrule
            rcases List.mem_cons.mp (hperm.mem_iff.mpr hrule) with heq | hloser
            · exact Or.inl heq
            · exact Or.inr ((hsettled.outdoes_losers AtLeast.trans hbefore).right rule hloser)
          · exact (meetRules_clash conflictKey).mpr ⟨_, hmeet⟩

theorem settleGroup_conflict (hordered : ¬ Unordered group)
    (h : settleGroup conflictKey group = .error refusal) :
    exists rules, refusal = .conflict conflictKey rules := by
  rw [settleGroup_of_ordered hordered] at h
  rcases refusedAt_of_strongestOf h with ⟨held, challenger, before, after, hat, hmeet⟩
  have hmembers : forall rule, rule ∈ before ++ challenger :: after -> rule ∈ group := by
    intro rule hrule
    exact (sortById_perm group).mem_iff.mp (hat.split ▸ hrule)
  have hcompared : incomparableTo challenger held = false := by
    apply Bool.eq_false_iff.mpr
    intro hpair
    have hchallenger := hmembers challenger (List.mem_append_right before List.mem_cons_self)
    have hheld := hmembers held (List.mem_append_left _ hat.mem)
    exact hordered ⟨challenger, held, hchallenger, hheld, hpair⟩
  exact meetRules_eq_error hcompared hmeet

/-!
## Groups that are settled
-/

theorem GroupSettled.leads {winner : CodeRule} {losers : List CodeRule}
    (h : GroupSettled group winner losers) : Leads group winner := by
  constructor
  · exact h.perm.mem_iff.mp List.mem_cons_self
  · intro other hother
    have hperm := h.perm.erase winner
    rw [List.erase_cons_head] at hperm
    exact h.outdone other (hperm.mem_iff.mpr hother)

theorem Settles.settleable (h : Settles conflictKey group) : Settleable group := by
  rcases h with ⟨outcome, h⟩
  constructor
  · intro hunordered
    rcases settleGroup_of_unordered hunordered with ⟨rules, hrefused⟩
    rw [hrefused] at h
    cases h
  · intro hgroup
    rcases exists_winner hgroup h with ⟨winner, losers, heq⟩
    subst heq
    exact ⟨winner, (groupSettled_of_settleGroup h).leads⟩

theorem Leads.operator {leader rule : CodeRule} (h : Leads group leader)
    (hmany : 1 < group.length) (hrule : rule ∈ group) : rule.spec.operator = "minimum" := by
  by_cases heq : rule = leader
  · have hothers : group.erase leader ≠ [] := by
      intro hnone
      have hlength := List.length_erase_of_mem h.left
      rw [hnone, List.length_nil] at hlength
      omega
    rcases List.exists_mem_of_ne_nil _ hothers with ⟨other, hother⟩
    exact heq ▸ (h.right other hother).left
  · have hmem : rule ∈ group.erase leader := (List.mem_erase_of_ne heq).mpr hrule
    exact (h.right rule hmem).right.left

theorem AtLeast.refl {rule : CodeRule} (h : rule.spec.operator = "minimum") :
    AtLeast rule rule :=
  ⟨h, h, containsSelector_refl _, Nat.le_refl _⟩

/-- Without a clash that comes first, the rules are settled in whatever order they stand. -/
theorem Settleable.settles (h : Settleable group) (hnever : ¬ MayClash group) :
    Settles conflictKey group := by
  cases hgroup : settleGroup conflictKey group with
  | ok outcome => exact ⟨outcome, hgroup⟩
  | error refusal =>
      apply absurd _ hnever
      rw [settleGroup_of_ordered h.left] at hgroup
      rcases refusedAt_of_strongestOf hgroup with ⟨held, challenger, before, after, hat, _⟩
      have hmembers : forall {rule}, rule ∈ before ++ challenger :: after <-> rule ∈ group := by
        intro rule
        rw [<- hat.split]
        exact (sortById_perm group).mem_iff
      have hheld : held ∈ group := hmembers.mp (List.mem_append_left _ hat.mem)
      have hchallenger : challenger ∈ group :=
        hmembers.mp (List.mem_append_right before List.mem_cons_self)
      rcases h.right (List.ne_nil_of_mem hheld) with ⟨leader, hleads⟩
      have hordered := sortById_pairwise group
      rw [hat.split] at hordered
      rcases List.pairwise_append.mp hordered with ⟨_, hlater, hacross⟩
      have hbelow : held.id <= challenger.id := hacross held hat.mem challenger List.mem_cons_self
      have hmany : 1 < group.length := by
        have hlength := (sortById_perm group).length_eq
        have hbefore := List.length_pos_of_mem hat.mem
        rw [hat.split, List.length_append, List.length_cons] at hlength
        omega
      have hreflexive : AtLeast held held := AtLeast.refl (hleads.operator hmany hheld)
      have hne : held ≠ challenger := fun heq => hat.clash.left (heq ▸ hreflexive)
      refine ⟨held, challenger, hheld, hchallenger, hne, hat.clash, ?_⟩
      by_cases hnames : held.id = challenger.id
      · exact Or.inl hnames
      · apply Or.inr
        intro other hother hsame _
        -- Whoever shares the name of the rule held stands before the challenger.
        rcases List.mem_append.mp (hmembers.mpr hother) with hbefore | hmem
        · rcases hat.outdoes other hbefore with heq | hstrong
          · exact heq ▸ hreflexive
          · exact hstrong
        · have habove : challenger.id <= other.id := by
            rcases List.mem_cons.mp hmem with heq | hafter
            · exact le_of_eq (heq ▸ rfl)
            · exact (List.pairwise_cons.mp hlater).left other hafter
          exact absurd (le_antisymm hbelow (hsame ▸ habove)) hnames

/-!
## Groups put in order
-/

theorem settles_of_leader_first {leader : CodeRule} (hordered : ¬ Unordered (leader :: rest))
    (hleads : Leads (leader :: rest) leader)
    (hfirst : forall rule, rule ∈ rest -> leader.id <= rule.id) :
    Settles conflictKey (leader :: rest) := by
  have hsorted : sortById (leader :: rest) = leader :: sortById rest :=
    List.insertionSort_cons_of_forall_rel _ hfirst
  have hothers : forall rule, rule ∈ sortById rest -> AtLeast leader rule := by
    intro rule hrule
    have hmem := (sortById_perm rest).mem_iff.mp hrule
    apply hleads.right
    rw [List.erase_cons_head]
    exact hmem
  rcases (meetRules_settledBy conflictKey).champion_of_strongest AtLeast.trans hothers with
    ⟨last, losers, hchampion⟩
  refine ⟨some (last, losers), ?_⟩
  rw [settleGroup_of_ordered hordered, hsorted, strongestOf_cons, hchampion]
  rfl

theorem not_settles_of_clash_first {held rule : CodeRule} (hclash : Clash held rule)
    (hfirst : forall other, other ∈ rule :: rest ->
      held.id <= other.id ∧ (other.id ≠ held.id -> rule.id <= other.id))
    (htop : held.id = rule.id ∨ forall other, other ∈ rest -> other.id = held.id ->
      AtLeast other held -> AtLeast held other) :
    ¬ Settles conflictKey (held :: rule :: rest) := by
  intro hsettles
  rcases hsettles with ⟨outcome, hgroup⟩
  have hsorted : sortById (held :: rule :: rest) = held :: sortById (rule :: rest) :=
    List.insertionSort_cons_of_forall_rel _ fun other hother => (hfirst other hother).left
  have hlater : exists before after, sortById (rule :: rest) = before ++ rule :: after ∧
      forall other, other ∈ before -> other ∈ rest ∧ other.id < rule.id := by
    refine ⟨_, _, List.insertionSort_cons_eq_take_drop _ rule rest, ?_⟩
    intro other hother
    constructor
    · exact (sortById_perm rest).mem_iff.mp ((List.takeWhile_sublist _).subset hother)
    · simpa using List.mem_takeWhile_imp hother
  rcases hlater with ⟨before, after, hsplit, hbefore⟩
  -- Only rules named like the first come between the two, and none of them outdoes it.
  have hbetween : forall other, other ∈ before -> AtLeast other held -> AtLeast held other := by
    intro other hother hstrong
    rcases hbefore other hother with ⟨hmem, hlt⟩
    rcases hfirst other (List.mem_cons_of_mem rule hmem) with ⟨hle, hsecond⟩
    have hname : other.id = held.id := by
      by_contra hne
      exact absurd hlt (not_lt.mpr (hsecond hne))
    rcases htop with hsame | htop
    · rw [hname, hsame] at hlt
      exact absurd hlt (lt_irrefl _)
    · exact htop other hmem hname hstrong
  have hsettled := meetRules_settledBy conflictKey
  rw [settleGroup_of_ordered (Settles.settleable ⟨outcome, hgroup⟩).left, hsorted, hsplit,
    strongestOf_cons, champion_append] at hgroup
  cases hchampion : champion (meetRules conflictKey) held before with
  | error refusal =>
      rw [hchampion] at hgroup
      cases hgroup
  | ok middle =>
      rcases middle with ⟨last, losers⟩
      have hmeet : ¬ Clash last rule := by
        intro hmeet
        rcases (meetRules_clash conflictKey).mp hmeet with ⟨refusal, hrefused⟩
        rw [hchampion] at hgroup
        simp [champion, hrefused, bind, Except.bind, Except.map] at hgroup
      have hlast : last = held ∨ AtLeast last held :=
        (hsettled.outdoes_losers AtLeast.trans hchampion).left
      rcases hlast with heq | hstrong
      · exact hmeet (heq ▸ hclash)
      · have hmem : last ∈ held :: before := (hsettled.perm hchampion).mem_iff.mp List.mem_cons_self
        have hequal : AtLeast held last := by
          rcases List.mem_cons.mp hmem with heq | hmem
          · exact heq ▸ heq ▸ hstrong
          · exact hbetween last hmem hstrong
        apply hmeet
        constructor
        · intro h
          exact hclash.left (hequal.trans h)
        · intro h
          exact hclash.right (h.trans hstrong)

end Groups

end GraphHelm
