import GraphHelm.Policy.KeyOutcomes

/-!
# Which refusal a resolution gets

A resolution is refused by the first stage that finds a reason: a source that
cannot be read, a waiver that does not hold, and then the first key, in the order
of the keys, whose rules cannot be settled.
-/

namespace GraphHelm

open Std (ExtTreeMap ExtTreeSet)

inductive RefusalClass where
  | sourceUnavailable
  | conflict (conflictKey : String)
  | precedenceUnresolved (conflictKey : String)
  | waiverInvalid
deriving DecidableEq

/-- The kind of a refusal and the conflict key it is about, without the rules it names. -/
def ResolutionRefusal.refusalClass : ResolutionRefusal -> RefusalClass
  | .sourceUnavailable _ => .sourceUnavailable
  | .conflict conflictKey _ => .conflict conflictKey
  | .precedenceUnresolved conflictKey _ => .precedenceUnresolved conflictKey
  | .waiverInvalid _ _ => .waiverInvalid

/-!
## Sources that refuse
-/

variable {refusal : ResolutionRefusal}

section Sources

variable {instant : String -> Option Int} {now : Int} {sources : List DevelopmentEnvelope}

theorem ruleFate_ne_unreadable (spec : CodeRuleSpec) : ruleFate now spec ≠ .unreadable := by
  unfold ruleFate
  split
  · intro h
    cases h
  · split
    · intro h
      cases h
    · split
      · intro h
        cases h
      · intro h
        cases h

theorem readSources_eq_ok {read : ReadSources} (h : readSources instant sources = .ok read) :
    (forall source, source ∈ sources -> fateOf instant now source ≠ .unreadable) ∧
      forall rule, rule ∈ read.readable ->
        exists source, source ∈ sources ∧ fateOf instant now source = ruleFate now rule.spec := by
  induction sources generalizing read with
  | nil =>
      cases h
      simp
  | cons source rest ih =>
      by_cases hkind : source.kind = .codeRule
      · rcases readSources_cons_rule hkind h with ⟨spec, others, hspec, hrest, heq⟩
        subst heq
        rcases ih hrest with ⟨hreadable, hrules⟩
        have hfate : fateOf instant now source = ruleFate now spec := by
          simp [fateOf, hkind, hspec]
        constructor
        · intro other hother
          rcases List.mem_cons.mp hother with heq | hother
          · rw [heq, hfate]
            exact ruleFate_ne_unreadable spec
          · exact hreadable other hother
        · intro rule hrule
          rcases List.mem_cons.mp hrule with heq | hrule
          · exact ⟨source, List.mem_cons_self, heq ▸ hfate⟩
          · rcases hrules rule hrule with ⟨other, hother, hsame⟩
            exact ⟨other, List.mem_cons_of_mem source hother, hsame⟩
      · rcases readSources_cons_denied hkind h with ⟨others, hrest, heq⟩
        subst heq
        rcases ih hrest with ⟨hreadable, hrules⟩
        constructor
        · intro other hother
          rcases List.mem_cons.mp hother with heq | hother
          · simp [heq, fateOf, hkind]
          · exact hreadable other hother
        · intro rule hrule
          rcases hrules rule hrule with ⟨other, hother, hsame⟩
          exact ⟨other, List.mem_cons_of_mem source hother, hsame⟩

theorem readSources_eq_error (h : readSources instant sources = .error refusal) :
    refusal.refusalClass = .sourceUnavailable ∧
      exists source, source ∈ sources ∧ fateOf instant now source = .unreadable := by
  induction sources with
  | nil => cases h
  | cons source rest ih =>
      have hlater : readSources instant rest = .error refusal ->
          refusal.refusalClass = .sourceUnavailable ∧
            exists other, other ∈ source :: rest ∧ fateOf instant now other = .unreadable := by
        intro hrest
        rcases ih hrest with ⟨hclass, other, hother, hfate⟩
        exact ⟨hclass, other, List.mem_cons_of_mem source hother, hfate⟩
      unfold readSources at h
      by_cases hkind : source.kind = .codeRule
      · cases hspec : CodeRuleSpec.fromValue instant source.spec with
        | none =>
            simp [hkind, hspec, orRefuse, bind, Except.bind] at h
            subst h
            exact ⟨rfl, source, List.mem_cons_self, by simp [fateOf, hkind, hspec]⟩
        | some spec =>
            cases hrest : readSources instant rest with
            | ok others => simp [hkind, hspec, hrest, orRefuse, bind, Except.bind] at h
            | error refused =>
                simp [hkind, hspec, hrest, orRefuse, bind, Except.bind] at h
                exact hlater (h ▸ hrest)
      · cases hrest : readSources instant rest with
        | ok others => simp [hkind, hrest, bind, Except.bind] at h
        | error refused =>
            simp [hkind, hrest, bind, Except.bind] at h
            exact hlater (h ▸ hrest)

theorem settleRules_eq_error {rules : List CodeRule}
    (h : settleRules now rules = .error refusal) :
    refusal.refusalClass = .waiverInvalid ∧
      exists rule, rule ∈ rules ∧ (ruleFate now rule.spec).refuses = true := by
  induction rules with
  | nil => cases h
  | cons rule rest ih =>
      have hlater : settleRules now rest = .error refusal ->
          refusal.refusalClass = .waiverInvalid ∧
            exists other, other ∈ rule :: rest ∧ (ruleFate now other.spec).refuses = true := by
        intro hrest
        rcases ih hrest with ⟨hclass, other, hother, hfate⟩
        exact ⟨hclass, other, List.mem_cons_of_mem rule hother, hfate⟩
      unfold settleRules at h
      cases hrest : settleRules now rest with
      | error refused =>
          by_cases hexpired : isExpired now rule.spec = true
          · simp [hexpired, hrest, bind, Except.bind] at h
            exact hlater (h ▸ hrest)
          · cases hwaiver : waiverRefusal rule.spec with
            | some missing =>
                simp [hexpired, hwaiver] at h
                subst h
                refine ⟨rfl, rule, List.mem_cons_self, ?_⟩
                simp [ruleFate, hexpired, hwaiver, Fate.refuses]
            | none =>
                simp [hexpired, hwaiver, hrest, bind, Except.bind] at h
                exact hlater (h ▸ hrest)
      | ok others =>
          by_cases hexpired : isExpired now rule.spec = true
          · simp [hexpired, hrest, bind, Except.bind] at h
          · cases hwaiver : waiverRefusal rule.spec with
            | some missing =>
                simp [hexpired, hwaiver] at h
                subst h
                refine ⟨rfl, rule, List.mem_cons_self, ?_⟩
                simp [ruleFate, hexpired, hwaiver, Fate.refuses]
            | none =>
                by_cases hsome : rule.spec.waiver.isSome = true
                · simp [hexpired, hwaiver, hrest, hsome, bind, Except.bind] at h
                · simp [hexpired, hwaiver, hrest, hsome, bind, Except.bind] at h

end Sources

/-!
## Keys that refuse
-/

theorem settles_nil (conflictKey : String) : Settles conflictKey [] :=
  ⟨none, rfl⟩

/-- A loop over the keys that stops stops at the first entry that is not settled. -/
theorem foldlM_resolveGroup_eq_error {entries : List (String × List CodeRule)}
    {start : Resolution} (h : entries.foldlM resolveGroup start = .error refusal) :
    exists before entry after, entries = before ++ entry :: after ∧
      settleGroup entry.1 entry.2 = .error refusal ∧
        forall earlier, earlier ∈ before -> Settles earlier.1 earlier.2 := by
  induction entries generalizing start with
  | nil => cases h
  | cons entry rest ih =>
      rw [List.foldlM_cons] at h
      cases hgroup : settleGroup entry.1 entry.2 with
      | error refused =>
          simp [resolveGroup, hgroup, bind, Except.bind] at h
          exact ⟨[], entry, rest, rfl, h ▸ hgroup,
            fun earlier hearlier => absurd hearlier List.not_mem_nil⟩
      | ok outcome =>
          simp only [resolveGroup, hgroup, bind, Except.bind] at h
          rcases ih h with ⟨before, next, after, hsplit, hrefused, hbefore⟩
          refine ⟨entry :: before, next, after, by rw [hsplit]; rfl, hrefused, ?_⟩
          intro earlier hearlier
          rcases List.mem_cons.mp hearlier with heq | hearlier
          · exact heq ▸ ⟨outcome, hgroup⟩
          · exact hbefore earlier hearlier

structure FirstRefused (live : List CodeRule) (conflictKey : String)
    (refusal : ResolutionRefusal) : Prop where
  refused : settleGroup conflictKey (rulesFor conflictKey live) = .error refusal
  before : forall earlier, earlier < conflictKey -> Settles earlier (rulesFor earlier live)

theorem firstRefused_of_foldlM {live : List CodeRule} {start : Resolution}
    (h : (groupByKey live).toList.foldlM resolveGroup start = .error refusal) :
    exists conflictKey, FirstRefused live conflictKey refusal := by
  rcases foldlM_resolveGroup_eq_error h with ⟨before, entry, after, hsplit, hrefused, hbefore⟩
  rcases entry with ⟨conflictKey, group⟩
  have hentry : (conflictKey, group) ∈ (groupByKey live).toList := by
    rw [hsplit]
    exact List.mem_append_right before List.mem_cons_self
  have hgroup := (mem_groupByKey.mp hentry).left
  subst hgroup
  exists conflictKey
  constructor
  · exact hrefused
  · intro earlier hlt
    by_cases hempty : rulesFor earlier live = []
    · rw [hempty]
      exact settles_nil earlier
    · have hmem : (earlier, rulesFor earlier live) ∈ (groupByKey live).toList :=
        mem_groupByKey.mpr ⟨rfl, hempty⟩
      have hordered : (groupByKey live).toList.Pairwise fun a b => a.1 < b.1 :=
        ExtTreeMap.ordered_keys_toList.imp fun hcompare => compare_lt_iff_lt.mp hcompare
      rw [hsplit] at hmem hordered
      rcases List.mem_append.mp hmem with hmem | hmem
      · exact hbefore _ hmem
      · have hle : conflictKey <= earlier := by
          rcases List.mem_cons.mp hmem with heq | hafter
          · exact le_of_eq (Prod.mk.inj heq).left.symm
          · have hlater := (List.pairwise_append.mp hordered).right.left
            exact le_of_lt ((List.pairwise_cons.mp hlater).left _ hafter)
        exact absurd hlt (not_lt.mpr hle)

/-!
## The whole resolution
-/

section Whole

variable {instant : String -> Option Int} {now : Int} {sources : List DevelopmentEnvelope}

theorem resolve_of_refused
    (h : exists source, source ∈ sources ∧ (fateOf instant now source).refuses = true) :
    exists refusal, resolveCodeContract instant sources now = .error refusal ∧
      ((refusal.refusalClass = .sourceUnavailable ∧
          exists source, source ∈ sources ∧ fateOf instant now source = .unreadable) ∨
        (refusal.refusalClass = .waiverInvalid ∧
          forall source, source ∈ sources -> fateOf instant now source ≠ .unreadable)) := by
  cases hread : readSources instant sources with
  | error refusal =>
      refine ⟨refusal, ?_, Or.inl (readSources_eq_error hread)⟩
      simp [resolveCodeContract, hread, bind, Except.bind]
  | ok read =>
      cases hsettled : settleRules now read.readable with
      | error refusal =>
          refine ⟨refusal, ?_, Or.inr ⟨(settleRules_eq_error hsettled).left,
            (readSources_eq_ok hread).left⟩⟩
          simp [resolveCodeContract, hread, hsettled, bind, Except.bind]
      | ok settled =>
          rcases h with ⟨source, hsource, hrefuses⟩
          have haccepted := (sourcesSettled_of_loops hread hsettled).accepted source hsource
          rw [hrefuses] at haccepted
          cases haccepted

theorem resolve_of_accepted
    (h : forall source, source ∈ sources -> (fateOf instant now source).refuses = false) :
    (exists contract, resolveCodeContract instant sources now = .ok contract) ∨
      exists conflictKey refusal, resolveCodeContract instant sources now = .error refusal ∧
        FirstRefused (liveRules instant now sources) conflictKey refusal := by
  cases hread : readSources instant sources with
  | error refusal =>
      rcases (readSources_eq_error hread).right with ⟨source, hsource, hfate⟩
      have haccepted := h source hsource
      rw [hfate] at haccepted
      cases haccepted
  | ok read =>
      cases hsettled : settleRules now read.readable with
      | error refusal =>
          rcases (settleRules_eq_error hsettled).right with ⟨rule, hrule, hrefuses⟩
          rcases (readSources_eq_ok hread).right rule hrule with ⟨source, hsource, hfate⟩
          have haccepted := h source hsource
          rw [hfate, hrefuses] at haccepted
          cases haccepted
      | ok settled =>
          have hlive := (sourcesSettled_of_loops hread hsettled).live
          cases hloop : (groupByKey settled.live).toList.foldlM resolveGroup Resolution.empty with
          | ok final =>
              apply Or.inl
              unfold Resolution.empty at hloop
              simp [resolveCodeContract, hread, hsettled, hloop, bind, Except.bind]
          | error refusal =>
              apply Or.inr
              rcases firstRefused_of_foldlM hloop with ⟨conflictKey, hfirst⟩
              refine ⟨conflictKey, refusal, ?_, hlive ▸ hfirst⟩
              unfold Resolution.empty at hloop
              simp [resolveCodeContract, hread, hsettled, hloop, bind, Except.bind]

theorem Answers.settles {contract : ResolvedCodeContract}
    (h : Answers instant now sources contract) (conflictKey : String) :
    Settles conflictKey (competing instant now sources conflictKey) := by
  by_cases hempty : competing instant now sources conflictKey = []
  · rw [hempty]
    exact settles_nil conflictKey
  · rcases h.settled conflictKey hempty with ⟨winner, losers, hgroup⟩
    exact ⟨_, hgroup⟩

end Whole

end GraphHelm
