import GraphHelm.Policy.Accounting

/-!
# Contracts only tighten

A code rule that is added, or that has not expired yet, can make a contract ask for more on a key
or refuse to answer, and never makes it ask for less.
-/

namespace GraphHelm

open Std (ExtTreeMap)

section Tightening

variable {instant : String -> Option Int} {now earlier : Int}
  {sources more : List DevelopmentEnvelope} {rule : CodeRule} {conflictKey : String}

theorem isExpired_earlier {spec : CodeRuleSpec} (hclock : earlier <= now)
    (h : isExpired now spec = false) : isExpired earlier spec = false := by
  unfold isExpired at h ⊢
  cases hvalid : spec.validUntil with
  | none => rfl
  | some until_ =>
      rw [hvalid] at h
      have hlater : ¬ until_ < now := of_decide_eq_false h
      exact decide_eq_false fun hpassed => hlater (Int.lt_of_lt_of_le hpassed hclock)

theorem fateOf_earlier {source : DevelopmentEnvelope} {spec : CodeRuleSpec} (hclock : earlier <= now)
    (h : fateOf instant now source = .live spec) : fateOf instant earlier source = .live spec := by
  unfold fateOf at h ⊢
  split at h
  · cases h
  · split at h
    · cases h
    · rename_i hkind _ _ _
      rw [if_neg hkind]
      unfold ruleFate at h ⊢
      split at h
      · cases h
      · rename_i hexpired
        rw [isExpired_earlier hclock (Bool.eq_false_iff.mpr hexpired)]
        exact h

theorem competing_mono (hclock : earlier <= now)
    (hlisted : forall source, source ∈ sources -> source ∈ more)
    (h : rule ∈ competing instant now sources conflictKey) :
    rule ∈ competing instant earlier more conflictKey := by
  rcases mem_rulesFor.mp h with ⟨hlive, hkey⟩
  rcases mem_liveRules.mp hlive with ⟨source, hsource, hfate, hid⟩
  refine mem_rulesFor.mpr (And.intro ?_ hkey)
  exact mem_liveRules.mpr ⟨source, hlisted source hsource, fateOf_earlier hclock hfate, hid⟩

theorem contract_tightens {contract wider : ResolvedCodeContract} {minimum : Nat}
    (hclock : earlier <= now) (hlisted : forall source, source ∈ sources -> source ∈ more)
    (h : resolveCodeContract instant sources now = .ok contract)
    (hwider : resolveCodeContract instant more earlier = .ok wider)
    (hrequired : contract.requirements[conflictKey]? = some minimum) :
    exists required, wider.requirements[conflictKey]? = some required ∧ minimum <= required := by
  have hanswers := answers_of_resolve hwider
  rcases ((answers_of_resolve h).requirement conflictKey minimum).mp hrequired with
    ⟨winner, losers, hsettled, rfl⟩
  have hwinner : winner ∈ competing instant earlier more conflictKey :=
    competing_mono hclock hlisted
      ((groupSettled_of_settleGroup hsettled).perm.mem_iff.mp List.mem_cons_self)
  rcases hanswers.settled conflictKey (List.ne_nil_of_mem hwinner) with ⟨best, others, hbest⟩
  have hgroup := groupSettled_of_settleGroup hbest
  refine ⟨best.spec.minimum, (hanswers.requirement conflictKey _).mpr ⟨best, others, hbest, rfl⟩, ?_⟩
  rcases List.mem_cons.mp (hgroup.perm.mem_iff.mpr hwinner) with rfl | hlost
  · exact Nat.le_refl _
  · exact (hgroup.outdone winner hlost).right.right.right

end Tightening

/-- The owner's rule comes to the team's, and asks for more. -/
theorem contract_tightens_to_the_owners : exists required,
    (reviewContract [ownerRule] [teamRule]).requirements["reviews"]? = some required ∧
      1 <= required := by
  let alone : ResolvedCodeContract :=
    { requirements := (∅ : ExtTreeMap String Nat).insert "reviews" 1
      record := (reviewContract [teamRule] []).record }
  have halone : resolveCodeContract (fun _ => none) [reviewRule teamRule 1] 0 = .ok alone := by
    decide
  have hboth : resolveCodeContract (fun _ => none) [reviewRule teamRule 1, reviewRule ownerRule 2]
      0 = .ok (reviewContract [ownerRule] [teamRule]) := by
    decide
  exact contract_tightens (Int.le_refl 0) (by decide) halone hboth (by decide)

end GraphHelm
