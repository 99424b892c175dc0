import GraphHelm.Policy.RuleFates
import Mathlib.Data.List.Pairwise

/-!
# The record of a resolution accounts for its sources

A contract is read by identifier: an identifier is included when some rule under
it was seen and none was shadowed.  Where two sources share an identifier, one
may be set aside, or lose on its key, under the name the other wins under.  The
record accounts for every source exactly when no shared identifier is used so.
-/

namespace GraphHelm

open Std (ExtTreeMap)

/-!
## What a record should say
-/

inductive RecordField where
  | included
  | shadowed
  | waived
  | expired
  | denied
deriving DecidableEq

def RuleRecord.list (record : RuleRecord) : RecordField -> List ArtifactId
  | .included => record.included
  | .shadowed => record.shadowed
  | .waived => record.waived
  | .expired => record.expired
  | .denied => record.denied

section Accounts

variable (instant : String -> Option Int) (now : Int) (sources : List DevelopmentEnvelope)

structure Accounts (contract : ResolvedCodeContract) : Prop where
  once : forall source, source ∈ sources ->
    exists field, source.id ∈ contract.record.list field ∧
      forall other, source.id ∈ contract.record.list other -> other = field
  covered : forall rule, rule ∈ liveRules instant now sources ->
    exists minimum, contract.requirements[rule.spec.conflictKey]? = some minimum ∧
      rule.spec.minimum <= minimum
  carried : forall (conflictKey : String) minimum,
    contract.requirements[conflictKey]? = some minimum ->
      exists rule, rule ∈ competing instant now sources conflictKey ∧
        rule.id ∈ contract.record.included ∧ rule.spec.minimum = minimum
  unique : forall (conflictKey : String) minimum,
    contract.requirements[conflictKey]? = some minimum ->
      (competing instant now sources conflictKey).countP
        (fun rule => rule.id ∈ contract.record.included) = 1

end Accounts

/-!
## When identifiers are shared
-/

/--
Whether `rival` is held against `rule`: it is the more specific, or of equal
selectors the one that asks for more, or of equal requirements the later named.
-/
def preferred (rival rule : CodeRule) : Bool :=
  match dominance rival.spec.selector rule.spec.selector with
  | .dominates => true
  | .equal =>
      rule.spec.minimum < rival.spec.minimum ||
        (rule.spec.minimum = rival.spec.minimum && decide (rule.id < rival.id))
  | .dominatedBy | .incomparable => false

def Unbeaten (live : List CodeRule) (rule : CodeRule) : Prop :=
  forall rival, rival ∈ live -> rival.spec.conflictKey = rule.spec.conflictKey ->
    preferred rival rule = false

/-- Whether two fates put a source in the same part of the record. -/
def Fate.sameKind : Fate -> Fate -> Bool
  | .live _, .live _ => true
  | fate, other => fate = other

def WinApart (live : List CodeRule) (rule other : CodeRule) : Prop :=
  rule.id = other.id -> Unbeaten live rule ∨ Unbeaten live other ->
    Unbeaten live rule ∧ Unbeaten live other ∧
      rule.spec.conflictKey ≠ other.spec.conflictKey

structure FatesAgree (instant : String -> Option Int) (now : Int)
    (sources : List DevelopmentEnvelope) : Prop where
  alike : sources.Pairwise fun source other =>
    source.id = other.id ->
      (fateOf instant now source).sameKind (fateOf instant now other) = true
  apart : (liveRules instant now sources).Pairwise (WinApart (liveRules instant now sources))

theorem Fate.sameKind_refl (fate : Fate) : fate.sameKind fate = true := by
  cases fate <;> simp [Fate.sameKind]

variable {fate : Fate} {rule : CodeRule}

theorem Fate.sameKind_symm {other : Fate} (h : fate.sameKind other = true) :
    other.sameKind fate = true := by
  cases fate <;> cases other <;> simp_all [Fate.sameKind]

theorem WinApart.symm {live : List CodeRule} {other : CodeRule} (h : WinApart live rule other) :
    WinApart live other rule := by
  intro hid hunbeaten
  rcases h hid.symm hunbeaten.symm with ⟨hrule, hother, hkeys⟩
  exact ⟨hother, hrule, hkeys.symm⟩

/-!
## Winners
-/

section Winners

variable {live : List CodeRule} {conflictKey : String} {winner : CodeRule}
  {losers : List CodeRule}

theorem GroupSettled.winner_mem (h : GroupSettled (rulesFor conflictKey live) winner losers) :
    winner ∈ live ∧ winner.spec.conflictKey = conflictKey :=
  mem_rulesFor.mp (h.perm.mem_iff.mp List.mem_cons_self)

theorem GroupSettled.loser_mem (h : GroupSettled (rulesFor conflictKey live) winner losers)
    (hrule : rule ∈ losers) :
    rule ∈ live ∧ rule.spec.conflictKey = conflictKey :=
  mem_rulesFor.mp (h.perm.mem_iff.mp (List.mem_cons_of_mem winner hrule))

theorem GroupSettled.unbeaten (h : GroupSettled (rulesFor conflictKey live) winner losers) :
    Unbeaten live winner := by
  intro rival hrival hkey
  have hgroup : rival ∈ rulesFor conflictKey live :=
    mem_rulesFor.mpr ⟨hrival, hkey.trans h.winner_mem.right⟩
  rcases List.mem_cons.mp (h.perm.mem_iff.mpr hgroup) with heq | hloser
  · subst heq
    simp [preferred, dominance, containsSelector_refl]
  · have hstrong := h.outdone rival hloser
    rcases hstrong with ⟨hoperator, hrivalOperator, hselector, hminimum⟩
    cases hother : containsSelector rival.spec.selector winner.spec.selector with
    | false => simp [preferred, dominance, hselector, hother]
    | true =>
        by_cases hequal : winner.spec.minimum = rival.spec.minimum
        · have hlatest : rival.id <= winner.id :=
            h.latest rival hgroup ⟨hrivalOperator, hoperator, hother, hequal.le⟩
          simp [preferred, dominance, hselector, hother, hequal, hlatest]
        · simp [preferred, dominance, hselector, hother, hequal, hminimum]

theorem GroupSettled.id_eq_of_unbeaten
    (h : GroupSettled (rulesFor conflictKey live) winner losers) (hrule : rule ∈ losers)
    (hunbeaten : Unbeaten live rule) : rule.id = winner.id := by
  have hpreferred := hunbeaten winner h.winner_mem.left
    (h.winner_mem.right.trans (h.loser_mem hrule).right.symm)
  rcases h.outdone rule hrule with ⟨hoperator, hruleOperator, hselector, hminimum⟩
  cases hother : containsSelector rule.spec.selector winner.spec.selector with
  | false => simp [preferred, dominance, hselector, hother] at hpreferred
  | true =>
      simp only [preferred, dominance, hselector, hother, Bool.or_eq_false_iff,
        decide_eq_false_iff_not, Nat.not_lt, Bool.and_eq_false_iff] at hpreferred
      have hequal : rule.spec.minimum = winner.spec.minimum :=
        Nat.le_antisymm hminimum hpreferred.left
      have hearlier : rule.id <= winner.id :=
        h.latest rule (mem_rulesFor.mpr (h.loser_mem hrule))
          ⟨hruleOperator, hoperator, hother, hpreferred.left⟩
      have hlater : winner.id <= rule.id :=
        not_lt.mp (hpreferred.right.resolve_left (not_not_intro hequal))
      exact le_antisymm hearlier hlater

end Winners

/-!
## Reading the record
-/

section Record

variable {instant : String -> Option Int} {now : Int} {sources : List DevelopmentEnvelope}
  {contract : ResolvedCodeContract}

def Fate.listedIn : Fate -> RecordField -> Bool
  | .denied, field => field = .denied
  | .expired, field => field = .expired
  | .waived, field => field = .waived
  | .live _, field => field = .included || field = .shadowed
  | _, _ => false

theorem mem_idsOf {id : ArtifactId} :
    id ∈ idsOf instant now fate sources <->
      exists source, source ∈ sources ∧ fateOf instant now source = fate ∧ source.id = id := by
  simp [idsOf, and_assoc]

theorem liveRule_eq_some {source : DevelopmentEnvelope} :
    liveRule instant now source = some rule <->
      fateOf instant now source = .live rule.spec ∧ source.id = rule.id := by
  unfold liveRule
  cases hfate : fateOf instant now source with
  | live spec =>
      constructor
      · intro h
        cases h
        exact ⟨rfl, rfl⟩
      · intro h
        rcases h with ⟨hspec, hid⟩
        injection hspec with hspec
        rw [hspec, hid]
  | denied => simp
  | unreadable => simp
  | expired => simp
  | waiverRefused missing => simp
  | waived => simp

theorem mem_liveRules :
    rule ∈ liveRules instant now sources <->
      exists source, source ∈ sources ∧ fateOf instant now source = .live rule.spec ∧
        source.id = rule.id := by
  simp only [liveRules, List.mem_filterMap, liveRule_eq_some]

variable {field : RecordField}

theorem Answers.mem_list_iff (h : Answers instant now sources contract) {id : ArtifactId}
    (hlist : id ∈ contract.record.list field) :
    exists source, source ∈ sources ∧ source.id = id ∧
      (fateOf instant now source).listedIn field = true := by
  cases field with
  | included =>
      rcases ((h.included id).mp hlist).left with ⟨rule, hrule, hid⟩
      rcases mem_liveRules.mp hrule with ⟨source, hsource, hfate, hsourceId⟩
      exact ⟨source, hsource, hsourceId.trans hid, by simp [hfate, Fate.listedIn]⟩
  | shadowed =>
      rcases (h.shadowed id).mp hlist with ⟨key, winner, losers, rule, hgroup, hrule, hid⟩
      have hlive := (groupSettled_of_settleGroup hgroup).loser_mem hrule
      rcases mem_liveRules.mp hlive.left with ⟨source, hsource, hfate, hsourceId⟩
      exact ⟨source, hsource, hsourceId.trans hid, by simp [hfate, Fate.listedIn]⟩
  | waived =>
      rcases mem_idsOf.mp ((h.waived id).mp hlist) with ⟨source, hsource, hfate, hid⟩
      exact ⟨source, hsource, hid, by simp [hfate, Fate.listedIn]⟩
  | expired =>
      rcases mem_idsOf.mp ((h.expired id).mp hlist) with ⟨source, hsource, hfate, hid⟩
      exact ⟨source, hsource, hid, by simp [hfate, Fate.listedIn]⟩
  | denied =>
      rcases mem_idsOf.mp ((h.denied id).mp hlist) with ⟨source, hsource, hfate, hid⟩
      exact ⟨source, hsource, hid, by simp [hfate, Fate.listedIn]⟩

theorem Answers.exists_list (h : Answers instant now sources contract)
    {source : DevelopmentEnvelope} (hsource : source ∈ sources) :
    exists field, source.id ∈ contract.record.list field ∧
      (fateOf instant now source).listedIn field = true := by
  have haccepted := h.accepted source hsource
  cases hfate : fateOf instant now source with
  | denied =>
      exact ⟨.denied, (h.denied _).mpr (mem_idsOf.mpr ⟨source, hsource, hfate, rfl⟩), rfl⟩
  | expired =>
      exact ⟨.expired, (h.expired _).mpr (mem_idsOf.mpr ⟨source, hsource, hfate, rfl⟩), rfl⟩
  | waived =>
      exact ⟨.waived, (h.waived _).mpr (mem_idsOf.mpr ⟨source, hsource, hfate, rfl⟩), rfl⟩
  | live spec =>
      by_cases hshadowed : source.id ∈ contract.record.shadowed
      · exact ⟨.shadowed, hshadowed, rfl⟩
      · have hrule : { id := source.id, spec := spec } ∈ liveRules instant now sources :=
          mem_liveRules.mpr ⟨source, hsource, hfate, rfl⟩
        exact ⟨.included, (h.included _).mpr ⟨⟨_, hrule, rfl⟩, hshadowed⟩, rfl⟩
  | unreadable =>
      rw [hfate] at haccepted
      cases haccepted
  | waiverRefused missing =>
      rw [hfate] at haccepted
      cases haccepted

theorem Fate.listedIn_of_sameKind {other : Fate} (h : fate.sameKind other = true)
    (hfield : fate.listedIn field = true) :
    other.listedIn field = true := by
  cases fate <;> cases other <;> simp_all [Fate.sameKind, Fate.listedIn]

theorem Fate.sameKind_of_listedIn {other : Fate} (hfate : fate.listedIn field = true)
    (hother : other.listedIn field = true) :
    fate.sameKind other = true := by
  cases fate <;> cases other <;> cases field <;> simp_all [Fate.sameKind, Fate.listedIn]

/-- No identifier is both included and shadowed. -/
theorem Answers.field_unique (h : Answers instant now sources contract) {id : ArtifactId}
    {other : RecordField} (hfield : fate.listedIn field = true)
    (hother : fate.listedIn other = true) (hmem : id ∈ contract.record.list field)
    (hmem' : id ∈ contract.record.list other) : other = field := by
  have hsplit : id ∈ contract.record.included -> id ∉ contract.record.shadowed := fun hid =>
    ((h.included id).mp hid).right
  cases fate <;> cases field <;> cases other <;>
    simp_all [Fate.listedIn, RuleRecord.list]

end Record

/-!
## Accounting for every source
-/

section Accounting

variable {instant : String -> Option Int} {now : Int} {sources : List DevelopmentEnvelope}
  {contract : ResolvedCodeContract}

theorem Accounts.winner_included (h : Accounts instant now sources contract)
    (hanswers : Answers instant now sources contract) {conflictKey : String}
    {winner : CodeRule} {losers : List CodeRule}
    (hgroup : settleGroup conflictKey (competing instant now sources conflictKey) =
      .ok (some (winner, losers))) : winner.id ∉ contract.record.shadowed := by
  have hsettled := groupSettled_of_settleGroup hgroup
  have hrequired := (hanswers.requirement conflictKey winner.spec.minimum).mpr
    ⟨winner, losers, hgroup, rfl⟩
  rcases h.carried conflictKey _ hrequired with ⟨rule, hrule, hincluded, _⟩
  have hnot := ((hanswers.included rule.id).mp hincluded).right
  rcases List.mem_cons.mp (hsettled.perm.mem_iff.mpr hrule) with heq | hloser
  · exact heq ▸ hnot
  · exact absurd ((hanswers.shadowed rule.id).mpr
      ⟨conflictKey, winner, losers, rule, hgroup, hloser, rfl⟩) hnot

theorem Accounts.unbeaten_included (h : Accounts instant now sources contract)
    (hanswers : Answers instant now sources contract)
    (hrule : rule ∈ liveRules instant now sources)
    (hunbeaten : Unbeaten (liveRules instant now sources) rule) :
    rule.id ∉ contract.record.shadowed := by
  have hcompeting : rule ∈ competing instant now sources rule.spec.conflictKey :=
    mem_rulesFor.mpr ⟨hrule, rfl⟩
  rcases hanswers.settled _ (List.ne_nil_of_mem hcompeting) with ⟨winner, losers, hgroup⟩
  have hsettled := groupSettled_of_settleGroup hgroup
  have hwinner := h.winner_included hanswers hgroup
  rcases List.mem_cons.mp (hsettled.perm.mem_iff.mpr hcompeting) with heq | hloser
  · exact heq ▸ hwinner
  · exact hsettled.id_eq_of_unbeaten hloser hunbeaten ▸ hwinner

theorem Answers.unbeaten_of_not_shadowed (h : Answers instant now sources contract)
    (hrule : rule ∈ liveRules instant now sources) (hnot : rule.id ∉ contract.record.shadowed) :
    Unbeaten (liveRules instant now sources) rule := by
  have hcompeting : rule ∈ competing instant now sources rule.spec.conflictKey :=
    mem_rulesFor.mpr ⟨hrule, rfl⟩
  rcases h.settled _ (List.ne_nil_of_mem hcompeting) with ⟨winner, losers, hgroup⟩
  have hsettled := groupSettled_of_settleGroup hgroup
  rcases List.mem_cons.mp (hsettled.perm.mem_iff.mpr hcompeting) with heq | hloser
  · exact heq ▸ hsettled.unbeaten
  · exact absurd ((h.shadowed rule.id).mpr ⟨_, winner, losers, rule, hgroup, hloser, rfl⟩) hnot

theorem Answers.shadowed_of_twice (h : Answers instant now sources contract) {other : CodeRule}
    (hrules : [rule, other].Sublist (liveRules instant now sources))
    (hkey : rule.spec.conflictKey = other.spec.conflictKey) (hid : rule.id = other.id) :
    rule.id ∈ contract.record.shadowed := by
  have hgroupList : [rule, other].Sublist (competing instant now sources rule.spec.conflictKey) := by
    have hfiltered := hrules.filter fun item =>
      decide (item.spec.conflictKey = rule.spec.conflictKey)
    simpa [competing, rulesFor, hkey] using hfiltered
  have hcompeting := hgroupList.subset List.mem_cons_self
  rcases h.settled _ (List.ne_nil_of_mem hcompeting) with ⟨winner, losers, hgroup⟩
  have hsettled := groupSettled_of_settleGroup hgroup
  have hshadowed : forall loser, loser ∈ losers -> loser.id ∈ contract.record.shadowed :=
    fun loser hloser => (h.shadowed loser.id).mpr ⟨_, winner, losers, loser, hgroup, hloser, rfl⟩
  by_contra hnot
  -- If no loser had the name, it would stand at most once among the winner and the losers.
  have hlone : (winner :: losers).Pairwise fun a b => ¬ (a.id = rule.id ∧ b.id = rule.id) := by
    apply List.pairwise_cons.mpr
    constructor
    · intro loser hloser hboth
      exact hnot (hboth.right ▸ hshadowed loser hloser)
    · apply List.pairwise_of_forall_mem_list
      intro a ha b _ hboth
      exact hnot (hboth.left ▸ hshadowed a ha)
  have hgroupLone := (hsettled.perm.pairwise_iff fun hab hba => hab ⟨hba.right, hba.left⟩).mp hlone
  have hpair := hgroupLone.sublist hgroupList
  exact List.rel_of_pairwise_cons hpair (by simp) ⟨rfl, hid.symm⟩

theorem fatesAgree_of_accounts (hanswers : Answers instant now sources contract)
    (h : Accounts instant now sources contract) : FatesAgree instant now sources := by
  constructor
  · apply List.pairwise_iff_forall_sublist.mpr
    intro source other hpair hid
    have hsource := hpair.subset List.mem_cons_self
    have hother := hpair.subset (List.mem_cons_of_mem source List.mem_cons_self)
    rcases hanswers.exists_list hsource with ⟨field, hfield, hallowed⟩
    rcases hanswers.exists_list hother with ⟨field', hfield', hallowed'⟩
    rcases h.once source hsource with ⟨only, _, honly⟩
    have heq : field' = field :=
      (honly field' (hid ▸ hfield')).trans (honly field hfield).symm
    exact Fate.sameKind_of_listedIn hallowed (heq ▸ hallowed')
  · apply List.pairwise_iff_forall_sublist.mpr
    intro rule other hpair hid hunbeaten
    have hrule := hpair.subset List.mem_cons_self
    have hother := hpair.subset (List.mem_cons_of_mem rule List.mem_cons_self)
    have hnot : rule.id ∉ contract.record.shadowed := by
      rcases hunbeaten with hunbeaten | hunbeaten
      · exact h.unbeaten_included hanswers hrule hunbeaten
      · exact hid ▸ h.unbeaten_included hanswers hother hunbeaten
    constructor
    · exact hanswers.unbeaten_of_not_shadowed hrule hnot
    · constructor
      · exact hanswers.unbeaten_of_not_shadowed hother (hid ▸ hnot)
      · intro hkey
        exact hnot (hanswers.shadowed_of_twice hpair hkey hid)

theorem FatesAgree.winner_not_shadowed (h : FatesAgree instant now sources)
    (hanswers : Answers instant now sources contract) {conflictKey : String}
    {winner : CodeRule} {losers : List CodeRule}
    (hgroup : settleGroup conflictKey (competing instant now sources conflictKey) =
      .ok (some (winner, losers))) : winner.id ∉ contract.record.shadowed := by
  intro hshadowed
  have hsettled := groupSettled_of_settleGroup hgroup
  rcases (hanswers.shadowed _).mp hshadowed with ⟨key, held, others, loser, hother, hloser, hid⟩
  have hotherSettled := groupSettled_of_settleGroup hother
  -- Within one key, winner and losers stand at different places of the live rules.
  have hwithin : forall {key winner losers},
      GroupSettled (competing instant now sources key) winner losers ->
        forall loser, loser ∈ losers -> WinApart (liveRules instant now sources) winner loser := by
    intro key winner losers hsettled loser hloser
    have hgroupApart := h.apart.sublist (List.filter_sublist (p := fun rule =>
      decide (rule.spec.conflictKey = key)))
    have hapart := (hsettled.perm.pairwise_iff WinApart.symm).mpr hgroupApart
    exact (List.pairwise_cons.mp hapart).left loser hloser
  have hunbeaten : Unbeaten (liveRules instant now sources) loser := by
    by_cases hkey : key = conflictKey
    · subst hkey
      rw [hgroup] at hother
      cases hother
      exact (hwithin hsettled loser hloser hid.symm (Or.inl hsettled.unbeaten)).right.left
    · have hne : winner ≠ loser := by
        intro heq
        subst heq
        exact hkey ((hotherSettled.loser_mem hloser).right.symm.trans hsettled.winner_mem.right)
      have : Std.Symm (WinApart (liveRules instant now sources)) := ⟨fun _ _ => WinApart.symm⟩
      have hapart := h.apart.forall hsettled.winner_mem.left
        (hotherSettled.loser_mem hloser).left hne
      exact (hapart hid.symm (Or.inl hsettled.unbeaten)).right.left
  -- The loser has the name of the winner of its own key, which is of the same key.
  have hname := hotherSettled.id_eq_of_unbeaten hloser hunbeaten
  have hapart := hwithin hotherSettled loser hloser hname.symm (Or.inr hunbeaten)
  exact hapart.right.right
    (hotherSettled.winner_mem.right.trans (hotherSettled.loser_mem hloser).right.symm)

theorem accounts_of_fatesAgree (hanswers : Answers instant now sources contract)
    (h : FatesAgree instant now sources) : Accounts instant now sources contract := by
  have hwinner : forall {conflictKey : String} {minimum},
      contract.requirements[conflictKey]? = some minimum ->
        exists winner losers,
          GroupSettled (competing instant now sources conflictKey) winner losers ∧
            winner.spec.minimum = minimum ∧ winner.id ∈ contract.record.included ∧
              forall loser, loser ∈ losers -> loser.id ∉ contract.record.included := by
    intro conflictKey minimum hrequired
    rcases (hanswers.requirement conflictKey minimum).mp hrequired with
      ⟨winner, losers, hgroup, hminimum⟩
    have hsettled := groupSettled_of_settleGroup hgroup
    refine ⟨winner, losers, hsettled, hminimum, ?_, ?_⟩
    · exact (hanswers.included _).mpr
        ⟨⟨winner, hsettled.winner_mem.left, rfl⟩, h.winner_not_shadowed hanswers hgroup⟩
    · intro loser hloser hincluded
      exact ((hanswers.included _).mp hincluded).right
        ((hanswers.shadowed _).mpr ⟨conflictKey, winner, losers, loser, hgroup, hloser, rfl⟩)
  constructor
  · intro source hsource
    rcases hanswers.exists_list hsource with ⟨field, hfield, hallowed⟩
    refine ⟨field, hfield, ?_⟩
    intro other hother
    rcases hanswers.mem_list_iff hother with ⟨source', hsource', hid, hallowed'⟩
    have hkind : (fateOf instant now source').sameKind (fateOf instant now source) = true := by
      by_cases heq : source' = source
      · exact heq ▸ Fate.sameKind_refl _
      · have : Std.Symm fun source other : DevelopmentEnvelope =>
            source.id = other.id ->
              (fateOf instant now source).sameKind (fateOf instant now other) = true :=
          ⟨fun _ _ hrel hids => Fate.sameKind_symm (hrel hids.symm)⟩
        exact h.alike.forall hsource' hsource heq hid
    exact hanswers.field_unique hallowed (Fate.listedIn_of_sameKind hkind hallowed') hfield hother
  · intro rule hrule
    have hcompeting : rule ∈ competing instant now sources rule.spec.conflictKey :=
      mem_rulesFor.mpr ⟨hrule, rfl⟩
    rcases hanswers.settled _ (List.ne_nil_of_mem hcompeting) with ⟨winner, losers, hgroup⟩
    have hsettled := groupSettled_of_settleGroup hgroup
    refine ⟨winner.spec.minimum, (hanswers.requirement _ _).mpr ⟨winner, losers, hgroup, rfl⟩, ?_⟩
    rcases List.mem_cons.mp (hsettled.perm.mem_iff.mpr hcompeting) with heq | hloser
    · exact heq ▸ Nat.le_refl _
    · exact (hsettled.outdone rule hloser).right.right.right
  · intro conflictKey minimum hrequired
    rcases hwinner hrequired with ⟨winner, losers, hsettled, hminimum, hincluded, _⟩
    exact ⟨winner, hsettled.perm.mem_iff.mp List.mem_cons_self, hincluded, hminimum⟩
  · intro conflictKey minimum hrequired
    rcases hwinner hrequired with ⟨winner, losers, hsettled, _, hincluded, hlosers⟩
    rw [<- hsettled.perm.countP_eq, List.countP_cons_of_pos (by simpa using hincluded)]
    have hnone : losers.countP (fun rule => decide (rule.id ∈ contract.record.included)) = 0 := by
      rw [List.countP_eq_zero]
      intro loser hloser
      simpa using hlosers loser hloser
    rw [hnone]

/--
A resolution that answers accounts for its sources exactly when their
identifiers are shared harmlessly.
-/
theorem contract_accounts_iff (h : resolveCodeContract instant sources now = .ok contract) :
    Accounts instant now sources contract <-> FatesAgree instant now sources :=
  Iff.intro (fatesAgree_of_accounts (answers_of_resolve h))
    (accounts_of_fatesAgree (answers_of_resolve h))

/-- Sources that have identifiers of their own share none of them harmfully. -/
theorem FatesAgree.of_distinct
    (h : sources.Pairwise fun source other => source.id ≠ other.id) :
    FatesAgree instant now sources := by
  constructor
  · exact h.imp fun hne hid => absurd hid hne
  · apply List.pairwise_filterMap.mpr
    apply h.imp
    intro source other hne rule hrule rule' hrule' hid
    have hsource := (liveRule_eq_some.mp hrule).right
    have hother := (liveRule_eq_some.mp hrule').right
    exact absurd (hsource.trans (hid.trans hother.symm)) hne

end Accounting

/-!
## Two rules of one key
-/

def reviewRule (id : ArtifactId) (minimum : Int) : DevelopmentEnvelope :=
  { id := id
    kind := .codeRule
    spec := .object [("conflictKey", .string "reviews"), ("minimum", .number (.integer minimum))] }

def reviewContract (included shadowed : List ArtifactId) : ResolvedCodeContract :=
  { requirements := (∅ : ExtTreeMap String Nat).insert "reviews" 2
    record :=
      { included := included, shadowed := shadowed, waived := [], expired := [], denied := [] } }

def teamRule : ArtifactId :=
  { text := "team", valid := by decide }

def ownerRule : ArtifactId :=
  { text := "owner", valid := by decide }

/-- Under names of their own, both rules are accounted for. -/
theorem contract_accounts_distinct :
    Accounts (fun _ => none) 0 [reviewRule teamRule 1, reviewRule ownerRule 2]
      (reviewContract [ownerRule] [teamRule]) := by
  apply (contract_accounts_iff (by decide)).mpr
  exact FatesAgree.of_distinct (by decide)

/-- Under one name, the rule that wins is listed as shadowed only. -/
theorem contract_accounts_shared :
    ¬ forall (instant : String -> Option Int) (now : Int) (sources : List DevelopmentEnvelope)
        (contract : ResolvedCodeContract),
      resolveCodeContract instant sources now = .ok contract ->
        Accounts instant now sources contract := by
  intro hall
  have hresolved :
      resolveCodeContract (fun _ => none) [reviewRule teamRule 1, reviewRule teamRule 2] 0 =
        .ok (reviewContract [] [teamRule]) := by
    decide
  have haccounts := hall (fun _ => none) 0 _ _ hresolved
  rcases haccounts.carried "reviews" 2 (by decide) with ⟨rule, _, hincluded, _⟩
  exact absurd hincluded List.not_mem_nil

end GraphHelm
