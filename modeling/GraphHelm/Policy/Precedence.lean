import GraphHelm.Policy.Refusals

/-!
# What precedence depends on

The rules of a key are folded in the order of their identifiers, the sources of
equal identifiers in the order they were listed.  This module says when neither
shows: permuting the sources and renaming their identifiers changes nothing but
the names.
-/

namespace GraphHelm

open Std (ExtTreeMap ExtTreeSet)

/-!
## Agreement up to names
-/

def DevelopmentEnvelope.rename (f : ArtifactId -> ArtifactId) (source : DevelopmentEnvelope) :
    DevelopmentEnvelope :=
  { source with id := f source.id }

def CodeRule.rename (f : ArtifactId -> ArtifactId) (rule : CodeRule) : CodeRule :=
  { rule with id := f rule.id }

def Agrees (f : ArtifactId -> ArtifactId) :
    Except ResolutionRefusal ResolvedCodeContract ->
      Except ResolutionRefusal ResolvedCodeContract -> Prop
  | .ok contract, .ok renamed =>
      renamed.requirements = contract.requirements ∧
        forall field id, id ∈ renamed.record.list field <->
          exists before, before ∈ contract.record.list field ∧ f before = id
  | .error refusal, .error renamed => renamed.refusalClass = refusal.refusalClass
  | _, _ => False

/-- Neither the order nor the names of the sources show in what they resolve to. -/
def Insensitive (instant : String -> Option Int) (now : Int)
    (sources : List DevelopmentEnvelope) : Prop :=
  forall (listed : List DevelopmentEnvelope) (f : ArtifactId -> ArtifactId),
    listed.Perm sources -> Function.Injective f ->
      Agrees f (resolveCodeContract instant sources now)
        (resolveCodeContract instant (listed.map (DevelopmentEnvelope.rename f)) now)

/-!
## What order and names could decide
-/

/-- Under this identifier some rule is outdone, whatever the names. -/
def Outdone (live : List CodeRule) (id : ArtifactId) : Prop :=
  exists rule, rule ∈ live ∧ rule.id = id ∧
    (¬ Leads (rulesFor rule.spec.conflictKey live) rule ∨
      1 < (rulesFor rule.spec.conflictKey live).countP fun other => other.id = id)

/-- Whether an identifier is included hangs on which of two leaders comes last. -/
def Tied (live : List CodeRule) : Prop :=
  exists rule rival, rule ∈ live ∧ Leads (rulesFor rule.spec.conflictKey live) rival ∧
    rule.id ≠ rival.id ∧ ¬ Outdone live rule.id

/-- Nothing is left to the order of the sources or of their names. -/
structure OrderFree (live : List CodeRule) : Prop where
  clashless : forall conflictKey,
    (forall earlier, earlier < conflictKey -> Settleable (rulesFor earlier live)) ->
      Settleable (rulesFor conflictKey live) -> ¬ MayClash (rulesFor conflictKey live)
  untied : (forall conflictKey, Settleable (rulesFor conflictKey live)) -> ¬ Tied live

/-- A source refuses the resolution by itself, or nothing is left to order and names. -/
def PrecedenceDetermined (instant : String -> Option Int) (now : Int)
    (sources : List DevelopmentEnvelope) : Prop :=
  (exists source, source ∈ sources ∧ (fateOf instant now source).refuses = true) ∨
    OrderFree (liveRules instant now sources)

/-!
## Rearrangements
-/

/-- The same rules, under new names and in another order. -/
def Rearranged (f : ArtifactId -> ArtifactId) (group arranged : List CodeRule) : Prop :=
  arranged.Perm (group.map (CodeRule.rename f))

variable {rule : CodeRule} {live : List CodeRule} {id : ArtifactId} {conflictKey : String}
    {refusal : ResolutionRefusal}

section Rearrangements

variable {f : ArtifactId -> ArtifactId} {group arranged : List CodeRule}

theorem CodeRule.rename_injective (hf : Function.Injective f) :
    Function.Injective (CodeRule.rename f) := by
  intro rule other h
  cases rule
  cases other
  simp only [CodeRule.rename, CodeRule.mk.injEq] at h
  rw [hf h.left, h.right]

theorem Rearranged.mem (h : Rearranged f group arranged) :
    rule ∈ arranged <-> exists before, before ∈ group ∧ before.rename f = rule := by
  rw [h.mem_iff, List.mem_map]

theorem Rearranged.mem_rename (h : Rearranged f group arranged) (hf : Function.Injective f) :
    rule.rename f ∈ arranged <-> rule ∈ group := by
  rw [h.mem_iff, List.mem_map_of_injective (CodeRule.rename_injective hf)]

theorem Rearranged.rulesFor {arranged : List CodeRule} (h : Rearranged f live arranged)
    (conflictKey : String) :
    Rearranged f (rulesFor conflictKey live) (rulesFor conflictKey arranged) := by
  unfold Rearranged GraphHelm.rulesFor
  have hfiltered := h.filter fun rule => decide (rule.spec.conflictKey = conflictKey)
  rw [List.filter_map] at hfiltered
  exact hfiltered

theorem Rearranged.leads (h : Rearranged f group arranged) (hf : Function.Injective f) :
    Leads arranged (rule.rename f) <-> Leads group rule := by
  have hothers : (arranged.erase (rule.rename f)).Perm
      ((group.erase rule).map (CodeRule.rename f)) := by
    rw [List.map_erase (CodeRule.rename_injective hf)]
    exact h.erase _
  unfold Leads
  rw [h.mem_rename hf]
  constructor
  · intro hleads
    refine ⟨hleads.left, ?_⟩
    intro other hother
    exact hleads.right (other.rename f) (hothers.mem_iff.mpr (List.mem_map_of_mem hother))
  · intro hleads
    refine ⟨hleads.left, ?_⟩
    intro other hother
    rcases List.mem_map.mp (hothers.mem_iff.mp hother) with ⟨before, hbefore, heq⟩
    exact heq ▸ hleads.right before hbefore

theorem Rearranged.unordered (h : Rearranged f group arranged) :
    Unordered arranged <-> Unordered group := by
  constructor
  · intro hunordered
    rcases hunordered with ⟨left, right, hleft, hright, hpair⟩
    rcases h.mem.mp hleft with ⟨left, hleftBefore, heq⟩
    rcases h.mem.mp hright with ⟨right, hrightBefore, heq'⟩
    subst heq
    subst heq'
    exact ⟨left, right, hleftBefore, hrightBefore, hpair⟩
  · intro hunordered
    rcases hunordered with ⟨left, right, hleft, hright, hpair⟩
    exact ⟨left.rename f, right.rename f, h.mem.mpr ⟨left, hleft, rfl⟩,
      h.mem.mpr ⟨right, hright, rfl⟩, hpair⟩

theorem Rearranged.settleable (h : Rearranged f group arranged) (hf : Function.Injective f) :
    Settleable arranged <-> Settleable group := by
  have hempty : arranged = [] <-> group = [] := by
    rw [<- List.length_eq_zero_iff, h.length_eq, List.length_map, List.length_eq_zero_iff]
  unfold Settleable
  rw [h.unordered, Ne, hempty]
  constructor
  · intro hsettleable
    refine ⟨hsettleable.left, ?_⟩
    intro hgroup
    rcases hsettleable.right hgroup with ⟨leader, hleads⟩
    rcases h.mem.mp hleads.left with ⟨before, _, heq⟩
    subst heq
    exact ⟨before, (h.leads hf).mp hleads⟩
  · intro hsettleable
    refine ⟨hsettleable.left, ?_⟩
    intro hgroup
    rcases hsettleable.right hgroup with ⟨leader, hleads⟩
    exact ⟨leader.rename f, (h.leads hf).mpr hleads⟩

theorem Rearranged.mayClash (h : Rearranged f group arranged) (hf : Function.Injective f)
    (hclash : MayClash arranged) : MayClash group := by
  rcases hclash with ⟨held, rule, hheld, hrule, hne, hclash, htop⟩
  rcases h.mem.mp hheld with ⟨held, hheldBefore, heq⟩
  rcases h.mem.mp hrule with ⟨rule, hruleBefore, heq'⟩
  subst heq
  subst heq'
  refine ⟨held, rule, hheldBefore, hruleBefore, fun heq => hne (heq ▸ rfl), hclash, ?_⟩
  rcases htop with hsame | htop
  · exact Or.inl (hf hsame)
  · apply Or.inr
    intro other hother hname hstrong
    exact htop (other.rename f) (h.mem.mpr ⟨other, hother, rfl⟩) (congrArg f hname) hstrong

theorem Rearranged.countP (h : Rearranged f group arranged) (hf : Function.Injective f)
    (id : ArtifactId) :
    (arranged.countP fun other => other.id = f id) = group.countP fun other => other.id = id := by
  rw [h.countP_eq, List.countP_map]
  apply List.countP_congr
  intro rule _
  simp [CodeRule.rename, hf.eq_iff]

theorem Rearranged.outdone {arranged : List CodeRule} (h : Rearranged f live arranged)
    (hf : Function.Injective f) :
    Outdone arranged (f id) <-> Outdone live id := by
  constructor
  · intro houtdone
    rcases houtdone with ⟨rule, hrule, hname, hcases⟩
    rcases h.mem.mp hrule with ⟨rule, hruleBefore, heq⟩
    subst heq
    have hgroup := h.rulesFor rule.spec.conflictKey
    refine ⟨rule, hruleBefore, hf hname, ?_⟩
    rw [<- hgroup.leads hf, <- hgroup.countP hf]
    exact hcases
  · intro houtdone
    rcases houtdone with ⟨rule, hrule, hname, hcases⟩
    have hgroup := h.rulesFor rule.spec.conflictKey
    refine ⟨rule.rename f, h.mem.mpr ⟨rule, hrule, rfl⟩, congrArg f hname, ?_⟩
    rw [<- hgroup.leads hf, <- hgroup.countP hf] at hcases
    exact hcases

theorem Rearranged.tied {arranged : List CodeRule} (h : Rearranged f live arranged)
    (hf : Function.Injective f) (htied : Tied arranged) : Tied live := by
  rcases htied with ⟨rule, rival, hrule, hleads, hne, houtdone⟩
  rcases h.mem.mp hrule with ⟨rule, hruleBefore, heq⟩
  subst heq
  have hgroup := h.rulesFor rule.spec.conflictKey
  rcases hgroup.mem.mp hleads.left with ⟨rival, _, heq⟩
  subst heq
  exact ⟨rule, rival, hruleBefore, (hgroup.leads hf).mp hleads, fun heq => hne (congrArg f heq),
    fun hlost => houtdone ((h.outdone hf).mpr hlost)⟩

end Rearrangements

/-!
## Rearranged sources
-/

section Sources

variable {instant : String -> Option Int} {now : Int} {sources listed : List DevelopmentEnvelope}
  {f : ArtifactId -> ArtifactId}

theorem liveRule_rename (source : DevelopmentEnvelope) :
    liveRule instant now (source.rename f) =
      (liveRule instant now source).map (CodeRule.rename f) := by
  have hfate : fateOf instant now (source.rename f) = fateOf instant now source := rfl
  unfold liveRule
  rw [hfate]
  cases fateOf instant now source <;> rfl

theorem liveRules_rename (sources : List DevelopmentEnvelope) :
    liveRules instant now (sources.map (DevelopmentEnvelope.rename f)) =
      (liveRules instant now sources).map (CodeRule.rename f) := by
  unfold liveRules
  rw [List.filterMap_map, List.map_filterMap]
  congr 1
  funext source
  exact liveRule_rename source

theorem rearranged_liveRules (hlisted : listed.Perm sources) :
    Rearranged f (liveRules instant now sources)
      (liveRules instant now (listed.map (DevelopmentEnvelope.rename f))) := by
  unfold Rearranged
  rw [liveRules_rename]
  exact (hlisted.filterMap _).map _

theorem mem_map_rename (hlisted : listed.Perm sources) {source : DevelopmentEnvelope} :
    source ∈ listed.map (DevelopmentEnvelope.rename f) <->
      exists before, before ∈ sources ∧ before.rename f = source := by
  simp only [List.mem_map, hlisted.mem_iff]

theorem exists_fate_rename (instant : String -> Option Int) (now : Int)
    (hlisted : listed.Perm sources) (P : Fate -> Prop) :
    (exists source, source ∈ listed.map (DevelopmentEnvelope.rename f) ∧
        P (fateOf instant now source)) <->
      exists source, source ∈ sources ∧ P (fateOf instant now source) := by
  constructor
  · intro h
    rcases h with ⟨source, hsource, hfate⟩
    rcases (mem_map_rename hlisted).mp hsource with ⟨before, hbefore, heq⟩
    subst heq
    exact ⟨before, hbefore, hfate⟩
  · intro h
    rcases h with ⟨source, hsource, hfate⟩
    exact ⟨source.rename f, (mem_map_rename hlisted).mpr ⟨source, hsource, rfl⟩, hfate⟩

theorem mem_idsOf_rename (hlisted : listed.Perm sources) {fate : Fate} :
    id ∈ idsOf instant now fate (listed.map (DevelopmentEnvelope.rename f)) <->
      exists before, before ∈ idsOf instant now fate sources ∧ f before = id := by
  simp only [mem_idsOf]
  constructor
  · intro h
    rcases h with ⟨source, hsource, hfate, hid⟩
    rcases (mem_map_rename hlisted).mp hsource with ⟨before, hbefore, heq⟩
    subst heq
    exact ⟨before.id, ⟨before, hbefore, hfate, rfl⟩, hid⟩
  · intro h
    rcases h with ⟨_, ⟨source, hsource, hfate, hid⟩, hrenamed⟩
    subst hid
    exact ⟨source.rename f, (mem_map_rename hlisted).mpr ⟨source, hsource, rfl⟩, hfate, hrenamed⟩

end Sources

/-!
## What an answer says whatever the order
-/

section Answered

variable {instant : String -> Option Int} {now : Int} {sources : List DevelopmentEnvelope}
  {contract : ResolvedCodeContract}

variable {group : List CodeRule}

theorem Leads.minimum_eq {leader other : CodeRule} (h : Leads group leader)
    (hother : Leads group other) :
    leader.spec.minimum = other.spec.minimum := by
  by_cases heq : leader = other
  · rw [heq]
  · have hbelow := h.right other ((List.mem_erase_of_ne (Ne.symm heq)).mpr hother.left)
    have habove := hother.right leader ((List.mem_erase_of_ne heq).mpr h.left)
    exact Nat.le_antisymm habove.right.right.right hbelow.right.right.right

theorem Answers.requirement_iff (h : Answers instant now sources contract) {minimum : Nat} :
    contract.requirements[conflictKey]? = some minimum <->
      exists leader, Leads (competing instant now sources conflictKey) leader ∧
        leader.spec.minimum = minimum := by
  rw [h.requirement]
  constructor
  · intro hwinner
    rcases hwinner with ⟨winner, losers, hgroup, hminimum⟩
    exact ⟨winner, (groupSettled_of_settleGroup hgroup).leads, hminimum⟩
  · intro hleader
    rcases hleader with ⟨leader, hleads, hminimum⟩
    rcases h.settled conflictKey (List.ne_nil_of_mem hleads.left) with ⟨winner, losers, hgroup⟩
    have hwinner := (groupSettled_of_settleGroup hgroup).leads
    exact ⟨winner, losers, hgroup, (hwinner.minimum_eq hleads).trans hminimum⟩

theorem GroupSettled.countP_of_loser {winner loser : CodeRule} {losers : List CodeRule}
    (h : GroupSettled group winner losers) (hloser : loser ∈ losers)
    (hname : winner.id = loser.id) : 1 < group.countP fun other => other.id = loser.id := by
  rw [<- h.perm.countP_eq, List.countP_cons_of_pos (by simpa using hname)]
  have hpos : 0 < losers.countP fun other => decide (other.id = loser.id) :=
    List.countP_pos_iff.mpr ⟨loser, hloser, by simp⟩
  omega

theorem GroupSettled.exists_loser {winner : CodeRule} {losers : List CodeRule}
    (h : GroupSettled group winner losers)
    (htwice : 1 < group.countP fun other => other.id = id) :
    exists loser, loser ∈ losers ∧ loser.id = id := by
  rw [<- h.perm.countP_eq, List.countP_cons] at htwice
  have hpos : 0 < losers.countP fun other => decide (other.id = id) := by
    by_contra hnone
    split at htwice <;> omega
  rcases List.countP_pos_iff.mp hpos with ⟨loser, hloser, hname⟩
  exact ⟨loser, hloser, by simpa using hname⟩

theorem Answers.shadowed_of_outdone (h : Answers instant now sources contract)
    (houtdone : Outdone (liveRules instant now sources) id) :
    id ∈ contract.record.shadowed := by
  rcases houtdone with ⟨rule, hrule, hname, hcases⟩
  have hmem : rule ∈ competing instant now sources rule.spec.conflictKey :=
    mem_rulesFor.mpr ⟨hrule, rfl⟩
  rcases h.settled _ (List.ne_nil_of_mem hmem) with ⟨winner, losers, hgroup⟩
  have hsettled := groupSettled_of_settleGroup hgroup
  rw [h.shadowed]
  rcases hcases with hnot | htwice
  · rcases List.mem_cons.mp (hsettled.perm.mem_iff.mpr hmem) with heq | hloser
    · exact absurd (heq ▸ hsettled.leads) hnot
    · exact ⟨_, winner, losers, rule, hgroup, hloser, hname⟩
  · rcases hsettled.exists_loser htwice with ⟨loser, hloser, hid⟩
    exact ⟨_, winner, losers, loser, hgroup, hloser, hid⟩

theorem Answers.outdone_of_shadowed (h : Answers instant now sources contract)
    (hshadowed : id ∈ contract.record.shadowed)
    (hfree : ¬ Outdone (liveRules instant now sources) id) :
    exists rule rival, rule ∈ liveRules instant now sources ∧ rule.id = id ∧
      Leads (competing instant now sources rule.spec.conflictKey) rival ∧ rival.id ≠ id ∧
        id <= rival.id := by
  rcases (h.shadowed id).mp hshadowed with
    ⟨conflictKey, winner, losers, loser, hgroup, hloser, hname⟩
  have hsettled := groupSettled_of_settleGroup hgroup
  rcases hsettled.loser_mem hloser with ⟨hlive, hkey⟩
  subst hkey
  subst hname
  have hunlike : winner.id ≠ loser.id := by
    intro hname
    exact hfree ⟨loser, hlive, rfl, Or.inr (hsettled.countP_of_loser hloser hname)⟩
  have hleads : Leads (competing instant now sources loser.spec.conflictKey) loser := by
    by_contra hnot
    exact hfree ⟨loser, hlive, rfl, Or.inl hnot⟩
  have hne : winner ≠ loser := fun heq => hunlike (heq ▸ rfl)
  have hstrong : AtLeast loser winner :=
    hleads.right winner ((List.mem_erase_of_ne hne).mpr hsettled.leads.left)
  exact ⟨loser, winner, hlive, rfl, hsettled.leads, hunlike,
    hsettled.latest loser hleads.left hstrong⟩

theorem Answers.shadowed_iff (h : Answers instant now sources contract)
    (huntied : ¬ Tied (liveRules instant now sources)) :
    id ∈ contract.record.shadowed <-> Outdone (liveRules instant now sources) id := by
  constructor
  · intro hshadowed
    by_contra hfree
    rcases h.outdone_of_shadowed hshadowed hfree with ⟨rule, rival, hrule, hname, hleads, hne, _⟩
    exact huntied ⟨rule, rival, hrule, hleads, hname ▸ hne.symm, hname ▸ hfree⟩
  · exact h.shadowed_of_outdone

end Answered

/-!
## Nothing left to the order
-/

section Determined

variable {instant : String -> Option Int} {now : Int} {sources listed : List DevelopmentEnvelope}
  {f : ArtifactId -> ArtifactId}

theorem agrees_of_answers {contract renamed : ResolvedCodeContract}
    (hlisted : listed.Perm sources) (hf : Function.Injective f)
    (huntied : ¬ Tied (liveRules instant now sources))
    (h : Answers instant now sources contract)
    (hrenamed : Answers instant now (listed.map (DevelopmentEnvelope.rename f)) renamed) :
    Agrees f (.ok contract) (.ok renamed) := by
  have hlive : Rearranged f (liveRules instant now sources)
      (liveRules instant now (listed.map (DevelopmentEnvelope.rename f))) :=
    rearranged_liveRules hlisted
  have hshadowed : forall id, f id ∈ renamed.record.shadowed <-> id ∈ contract.record.shadowed := by
    intro id
    rw [h.shadowed_iff huntied, hrenamed.shadowed_iff fun htied => huntied (hlive.tied hf htied)]
    exact hlive.outdone hf
  constructor
  · apply ExtTreeMap.ext_getElem?
    intro conflictKey
    apply Option.ext
    intro minimum
    rw [h.requirement_iff, hrenamed.requirement_iff]
    have hgroup := hlive.rulesFor conflictKey
    constructor
    · intro hleader
      rcases hleader with ⟨leader, hleads, hminimum⟩
      rcases hgroup.mem.mp hleads.left with ⟨before, _, heq⟩
      subst heq
      exact ⟨before, (hgroup.leads hf).mp hleads, hminimum⟩
    · intro hleader
      rcases hleader with ⟨leader, hleads, hminimum⟩
      exact ⟨leader.rename f, (hgroup.leads hf).mpr hleads, hminimum⟩
  · intro field id
    cases field with
    | included =>
        simp only [RuleRecord.list, hrenamed.included, h.included]
        constructor
        · intro hid
          rcases hid with ⟨⟨rule, hrule, hname⟩, hnot⟩
          rcases hlive.mem.mp hrule with ⟨before, hbefore, heq⟩
          subst heq
          subst hname
          exact ⟨before.id, ⟨⟨before, hbefore, rfl⟩, fun hin => hnot ((hshadowed _).mpr hin)⟩, rfl⟩
        · intro hid
          rcases hid with ⟨before, ⟨⟨rule, hrule, hname⟩, hnot⟩, heq⟩
          subst heq
          subst hname
          exact ⟨⟨rule.rename f, hlive.mem.mpr ⟨rule, hrule, rfl⟩, rfl⟩,
            fun hin => hnot ((hshadowed _).mp hin)⟩
    | shadowed =>
        simp only [RuleRecord.list]
        constructor
        · intro hid
          rcases (hrenamed.shadowed id).mp hid with ⟨_, _, losers, rule, hgroup, hrule, hname⟩
          rcases hlive.mem.mp ((groupSettled_of_settleGroup hgroup).loser_mem hrule).left with
            ⟨before, _, heq⟩
          subst heq
          subst hname
          exact ⟨before.id, (hshadowed _).mp hid, rfl⟩
        · intro hid
          rcases hid with ⟨before, hbefore, heq⟩
          exact heq ▸ (hshadowed before).mpr hbefore
    | waived =>
        simp only [RuleRecord.list, hrenamed.waived, h.waived]
        exact mem_idsOf_rename hlisted
    | expired =>
        simp only [RuleRecord.list, hrenamed.expired, h.expired]
        exact mem_idsOf_rename hlisted
    | denied =>
        simp only [RuleRecord.list, hrenamed.denied, h.denied]
        exact mem_idsOf_rename hlisted

theorem exists_first_key {P : String -> Prop}
    (hrules : forall conflictKey, P conflictKey -> rulesFor conflictKey live ≠ [])
    (h : exists conflictKey, P conflictKey) :
    exists conflictKey, P conflictKey ∧ forall earlier, earlier < conflictKey -> ¬ P earlier := by
  classical
  have hkeys : forall conflictKey, P conflictKey ->
      conflictKey ∈ ((live.map fun rule => rule.spec.conflictKey).toFinset.filter P) := by
    intro conflictKey hP
    rcases List.exists_mem_of_ne_nil _ (hrules conflictKey hP) with ⟨rule, hrule⟩
    rcases mem_rulesFor.mp hrule with ⟨hlive, hkey⟩
    rw [Finset.mem_filter, List.mem_toFinset, List.mem_map]
    exact ⟨⟨rule, hlive, hkey⟩, hP⟩
  rcases h with ⟨conflictKey, hP⟩
  rcases Finset.exists_min_image _ id ⟨conflictKey, hkeys conflictKey hP⟩ with
    ⟨first, hfirst, hleast⟩
  refine ⟨first, (Finset.mem_filter.mp hfirst).right, ?_⟩
  intro earlier hlt hearlier
  exact absurd hlt (not_lt.mpr (hleast earlier (hkeys earlier hearlier)))

theorem settleable_nil : Settleable [] := by
  constructor
  · intro hunordered
    rcases hunordered with ⟨_, _, hleft, _⟩
    exact List.not_mem_nil hleft
  · intro hne
    exact absurd rfl hne

theorem refusalClass_eq {group arranged : List CodeRule} {renamed : ResolutionRefusal}
    (hgroup : Rearranged f group arranged) (h : settleGroup conflictKey group = .error refusal)
    (hrenamed : settleGroup conflictKey arranged = .error renamed) :
    renamed.refusalClass = refusal.refusalClass := by
  by_cases hunordered : Unordered group
  · rcases settleGroup_of_unordered hunordered with ⟨rules, hrefused⟩
    rcases settleGroup_of_unordered (hgroup.unordered.mpr hunordered) with ⟨rules', hrefused'⟩
    rw [hrefused] at h
    rw [hrefused'] at hrenamed
    cases h
    cases hrenamed
    rfl
  · rcases settleGroup_conflict hunordered h with ⟨rules, heq⟩
    rcases settleGroup_conflict (fun h => hunordered (hgroup.unordered.mp h)) hrenamed with
      ⟨rules', heq'⟩
    rw [heq, heq']
    rfl

theorem FirstRefused.eq_key {first : String} (h : FirstRefused live first refusal)
    (hnot : ¬ Settles conflictKey (rulesFor conflictKey live))
    (hbefore : forall earlier, earlier < conflictKey -> Settles earlier (rulesFor earlier live)) :
    first = conflictKey := by
  rcases lt_trichotomy first conflictKey with hlt | heq | hlt
  · rcases hbefore first hlt with ⟨outcome, hok⟩
    rw [h.refused] at hok
    cases hok
  · exact heq
  · exact absurd (h.before conflictKey hlt) hnot

theorem FirstRefused.not_settles (h : FirstRefused live conflictKey refusal) :
    ¬ Settles conflictKey (rulesFor conflictKey live) := by
  intro hsettles
  rcases hsettles with ⟨outcome, hok⟩
  rw [h.refused] at hok
  cases hok

theorem OrderFree.rearranged {arranged : List CodeRule} (h : OrderFree live)
    (hlive : Rearranged f live arranged) (hf : Function.Injective f) : OrderFree arranged := by
  constructor
  · intro conflictKey hbefore hgroup hclash
    apply h.clashless conflictKey
    · intro earlier hlt
      exact ((hlive.rulesFor earlier).settleable hf).mp (hbefore earlier hlt)
    · exact ((hlive.rulesFor conflictKey).settleable hf).mp hgroup
    · exact (hlive.rulesFor conflictKey).mayClash hf hclash
  · intro hall htied
    apply h.untied
    · intro conflictKey
      exact ((hlive.rulesFor conflictKey).settleable hf).mp (hall conflictKey)
    · exact hlive.tied hf htied

theorem OrderFree.resolve_ok (h : OrderFree (liveRules instant now sources))
    (haccepted : forall source, source ∈ sources -> (fateOf instant now source).refuses = false)
    (hall : forall conflictKey, Settleable (competing instant now sources conflictKey)) :
    exists contract, resolveCodeContract instant sources now = .ok contract := by
  rcases resolve_of_accepted haccepted with hok | hrefused
  · exact hok
  · rcases hrefused with ⟨conflictKey, refusal, _, hfirst⟩
    have hclashless := h.clashless conflictKey (fun earlier _ => hall earlier) (hall conflictKey)
    exact absurd ((hall conflictKey).settles hclashless) hfirst.not_settles

theorem OrderFree.resolve_error (h : OrderFree (liveRules instant now sources))
    (haccepted : forall source, source ∈ sources -> (fateOf instant now source).refuses = false)
    (hnot : ¬ Settleable (competing instant now sources conflictKey))
    (hbefore : forall earlier, earlier < conflictKey ->
      Settleable (competing instant now sources earlier)) :
    exists refusal, resolveCodeContract instant sources now = .error refusal ∧
      settleGroup conflictKey (competing instant now sources conflictKey) = .error refusal := by
  rcases resolve_of_accepted haccepted with hok | hrefused
  · rcases hok with ⟨contract, hok⟩
    exact absurd ((answers_of_resolve hok).settles conflictKey).settleable hnot
  · rcases hrefused with ⟨first, refusal, hresolve, hfirst⟩
    have hkey : first = conflictKey := by
      apply hfirst.eq_key fun hsettles => hnot hsettles.settleable
      intro earlier hlt
      apply (hbefore earlier hlt).settles
      exact h.clashless earlier (fun other hother => hbefore other (lt_trans hother hlt))
        (hbefore earlier hlt)
    subst hkey
    exact ⟨refusal, hresolve, hfirst.refused⟩

theorem agrees_of_refused (hlisted : listed.Perm sources)
    (h : exists source, source ∈ sources ∧ (fateOf instant now source).refuses = true) :
    Agrees f (resolveCodeContract instant sources now)
      (resolveCodeContract instant (listed.map (DevelopmentEnvelope.rename f)) now) := by
  have hrenamed :=
    (exists_fate_rename (f := f) instant now hlisted fun fate => fate.refuses = true).mpr h
  have hunreadable :=
    exists_fate_rename (f := f) instant now hlisted fun fate => fate = .unreadable
  rcases resolve_of_refused h with ⟨refusal, hresolve, hclass⟩
  rcases resolve_of_refused hrenamed with ⟨refusal', hresolve', hclass'⟩
  rw [hresolve, hresolve']
  change refusal'.refusalClass = refusal.refusalClass
  rcases hclass with ⟨hclass, hsome⟩ | ⟨hclass, hnone⟩
  · rcases hclass' with ⟨hclass', _⟩ | ⟨_, hnone'⟩
    · rw [hclass, hclass']
    · rcases hunreadable.mpr hsome with ⟨source, hsource, hfate⟩
      exact absurd hfate (hnone' source hsource)
  · rcases hclass' with ⟨_, hsome'⟩ | ⟨hclass', _⟩
    · rcases hunreadable.mp hsome' with ⟨source, hsource, hfate⟩
      exact absurd hfate (hnone source hsource)
    · rw [hclass, hclass']

theorem accepted_of_not_refused
    (h : ¬ exists source, source ∈ sources ∧ (fateOf instant now source).refuses = true)
    (source : DevelopmentEnvelope) (hsource : source ∈ sources) :
    (fateOf instant now source).refuses = false := by
  apply Bool.eq_false_iff.mpr
  intro hrefuses
  exact h ⟨source, hsource, hrefuses⟩

theorem accepted_rename (hlisted : listed.Perm sources)
    (h : forall source, source ∈ sources -> (fateOf instant now source).refuses = false)
    (source : DevelopmentEnvelope)
    (hsource : source ∈ listed.map (DevelopmentEnvelope.rename f)) :
    (fateOf instant now source).refuses = false := by
  rcases (mem_map_rename hlisted).mp hsource with ⟨before, hbefore, heq⟩
  exact heq ▸ h before hbefore

theorem OrderFree.agrees (h : OrderFree (liveRules instant now sources))
    (hlisted : listed.Perm sources) (hf : Function.Injective f)
    (haccepted : forall source, source ∈ sources -> (fateOf instant now source).refuses = false) :
    Agrees f (resolveCodeContract instant sources now)
      (resolveCodeContract instant (listed.map (DevelopmentEnvelope.rename f)) now) := by
  have hlive : Rearranged f (liveRules instant now sources)
      (liveRules instant now (listed.map (DevelopmentEnvelope.rename f))) :=
    rearranged_liveRules hlisted
  have hrenamed := h.rearranged hlive hf
  have haccepted' := accepted_rename (f := f) hlisted haccepted
  have hsettleable : forall conflictKey,
      Settleable (competing instant now (listed.map (DevelopmentEnvelope.rename f)) conflictKey) <->
        Settleable (competing instant now sources conflictKey) :=
    fun conflictKey => (hlive.rulesFor conflictKey).settleable hf
  by_cases hall : forall conflictKey, Settleable (competing instant now sources conflictKey)
  · rcases h.resolve_ok haccepted hall with ⟨contract, hok⟩
    rcases hrenamed.resolve_ok haccepted' fun key => (hsettleable key).mpr (hall key) with
      ⟨renamed, hok'⟩
    rw [hok, hok']
    exact agrees_of_answers hlisted hf (h.untied hall) (answers_of_resolve hok)
      (answers_of_resolve hok')
  · have hrules : forall conflictKey,
        ¬ Settleable (competing instant now sources conflictKey) ->
          rulesFor conflictKey (liveRules instant now sources) ≠ [] := by
      intro conflictKey hnot hempty
      apply hnot
      unfold competing
      rw [hempty]
      exact settleable_nil
    rcases exists_first_key hrules (not_forall.mp hall) with ⟨conflictKey, hnot, hfirst⟩
    have hbefore : forall earlier, earlier < conflictKey ->
        Settleable (competing instant now sources earlier) := fun earlier hlt =>
      not_not.mp (hfirst earlier hlt)
    rcases h.resolve_error haccepted hnot hbefore with ⟨refusal, hresolve, hgroup⟩
    rcases hrenamed.resolve_error haccepted' (fun hgroup' => hnot ((hsettleable _).mp hgroup'))
        (fun earlier hlt => (hsettleable earlier).mpr (hbefore earlier hlt)) with
      ⟨refusal', hresolve', hgroup'⟩
    rw [hresolve, hresolve']
    exact refusalClass_eq (hlive.rulesFor conflictKey) hgroup hgroup'

theorem PrecedenceDetermined.insensitive (h : PrecedenceDetermined instant now sources) :
    Insensitive instant now sources := by
  intro listed f hlisted hf
  by_cases hrefuses : exists source, source ∈ sources ∧ (fateOf instant now source).refuses = true
  · exact agrees_of_refused hlisted hrefuses
  · exact (h.resolve_left hrefuses).agrees hlisted hf (accepted_of_not_refused hrefuses)

end Determined

/-!
## What the order decides otherwise
-/

section Decided

variable {instant : String -> Option Int} {now : Int} {sources listed : List DevelopmentEnvelope}
  {f : ArtifactId -> ArtifactId}

theorem FirstRefused.refusalClass (h : FirstRefused live conflictKey refusal) :
    refusal.refusalClass = .conflict conflictKey ∨
      refusal.refusalClass = .precedenceUnresolved conflictKey := by
  by_cases hunordered : Unordered (rulesFor conflictKey live)
  · rcases settleGroup_of_unordered hunordered with ⟨rules, hrefused⟩
    have heq := h.refused.symm.trans hrefused
    cases heq
    exact Or.inr rfl
  · rcases settleGroup_conflict hunordered h.refused with ⟨rules, heq⟩
    subst heq
    exact Or.inl rfl

theorem perm_two_first {first second : DevelopmentEnvelope} (hfirst : first ∈ sources)
    (hsecond : second ∈ sources) (hne : second ≠ first) :
    (first :: second :: (sources.erase first).erase second).Perm sources := by
  have hmem : second ∈ sources.erase first := (List.mem_erase_of_ne hne).mpr hsecond
  exact ((List.perm_cons_erase hmem).symm.cons first).trans (List.perm_cons_erase hfirst).symm

theorem competing_cons {source : DevelopmentEnvelope} {rest : List DevelopmentEnvelope}
    (h : liveRule instant now source = some rule) (hkey : rule.spec.conflictKey = conflictKey) :
    competing instant now (source :: rest) conflictKey =
      rule :: competing instant now rest conflictKey := by
  unfold competing
  rw [liveRules_cons, h]
  simp [rulesFor, hkey]

theorem competing_rename (conflictKey : String) :
    competing instant now (listed.map (DevelopmentEnvelope.rename f)) conflictKey =
      (competing instant now listed conflictKey).map (CodeRule.rename f) := by
  unfold competing rulesFor
  rw [liveRules_rename, List.filter_map]
  rfl

theorem exists_source (h : rule ∈ competing instant now sources conflictKey) :
    rule.spec.conflictKey = conflictKey ∧
      exists source, source ∈ sources ∧ liveRule instant now source = some rule := by
  rcases mem_rulesFor.mp h with ⟨hlive, hkey⟩
  exact ⟨hkey, List.mem_filterMap.mp hlive⟩

theorem competing_perm (instant : String -> Option Int) (now : Int) (h : listed.Perm sources)
    (conflictKey : String) :
    (competing instant now listed conflictKey).Perm (competing instant now sources conflictKey) :=
  (h.filterMap _).filter _

theorem MayClash.exists_not_settles (h : MayClash (competing instant now sources conflictKey)) :
    exists (listed : List DevelopmentEnvelope) (f : ArtifactId -> ArtifactId),
      listed.Perm sources ∧ Function.Injective f ∧
        ¬ Settles conflictKey
          (competing instant now (listed.map (DevelopmentEnvelope.rename f)) conflictKey) := by
  rcases h with ⟨held, rule, hheld, hrule, hne, hclash, htop⟩
  rcases exists_source hheld with ⟨hheldKey, first, hfirst, hheldOf⟩
  rcases exists_source hrule with ⟨hruleKey, second, hsecond, hruleOf⟩
  have hdistinct : second ≠ first := by
    intro heq
    rw [heq, hheldOf] at hruleOf
    injection hruleOf with hruleOf
    exact hne hruleOf
  have hperm := perm_two_first hfirst hsecond hdistinct
  have hgroup := competing_perm instant now hperm conflictKey
  rw [competing_cons hheldOf hheldKey, competing_cons hruleOf hruleKey] at hgroup
  rcases exists_renamed_first held.id rule.id
    ((competing instant now sources conflictKey).map CodeRule.id) with ⟨rename, hrename⟩
  refine ⟨_, rename, hperm, rename.injective, ?_⟩
  rw [competing_rename, competing_cons hheldOf hheldKey, competing_cons hruleOf hruleKey]
  apply not_settles_of_clash_first
  · exact hclash
  · intro other hother
    rcases List.mem_map.mp (List.map_cons ▸ hother) with ⟨before, hbefore, heq⟩
    subst heq
    have hmem : before ∈ competing instant now sources conflictKey :=
      hgroup.mem_iff.mp (List.mem_cons_of_mem held hbefore)
    rcases hrename before.id (List.mem_cons_of_mem _ (List.mem_map_of_mem hmem)) with
      ⟨hle, hlater⟩
    exact ⟨hle, fun hname => hlater fun heq => hname (congrArg rename heq)⟩
  · rcases htop with hsame | htop
    · exact Or.inl (congrArg rename hsame)
    · apply Or.inr
      intro other hother hname hstrong
      rcases List.mem_map.mp hother with ⟨before, hbefore, heq⟩
      subst heq
      have hmem : before ∈ competing instant now sources conflictKey :=
        hgroup.mem_iff.mp (List.mem_cons_of_mem held (List.mem_cons_of_mem rule hbefore))
      exact htop before hmem (rename.injective hname) hstrong

/-- Some order and naming puts a leader before its group. -/
theorem Settleable.exists_settles (h : Settleable (competing instant now sources conflictKey))
    (hgroup : competing instant now sources conflictKey ≠ []) :
    exists (listed : List DevelopmentEnvelope) (f : ArtifactId -> ArtifactId),
      listed.Perm sources ∧ Function.Injective f ∧
        Settles conflictKey
          (competing instant now (listed.map (DevelopmentEnvelope.rename f)) conflictKey) := by
  rcases h.right hgroup with ⟨leader, hleads⟩
  rcases exists_source hleads.left with ⟨hkey, source, hsource, hleaderOf⟩
  have hperm : (source :: sources.erase source).Perm sources :=
    (List.perm_cons_erase hsource).symm
  rcases exists_renamed_first leader.id leader.id
    ((competing instant now sources conflictKey).map CodeRule.id) with ⟨rename, hrename⟩
  have harranged : Rearranged rename (competing instant now sources conflictKey)
      (competing instant now ((source :: sources.erase source).map
        (DevelopmentEnvelope.rename rename)) conflictKey) :=
    (rearranged_liveRules hperm).rulesFor conflictKey
  have hordered := harranged.unordered.not.mpr h.left
  have hleader := (harranged.leads rename.injective).mpr hleads
  refine ⟨_, rename, hperm, rename.injective, ?_⟩
  have hgroup := competing_perm instant now hperm conflictKey
  rw [competing_cons hleaderOf hkey] at hgroup
  rw [competing_rename, competing_cons hleaderOf hkey, List.map_cons] at hordered hleader ⊢
  apply settles_of_leader_first hordered hleader
  intro other hother
  rcases List.mem_map.mp hother with ⟨before, hbefore, heq⟩
  subst heq
  have hmem := hgroup.mem_iff.mp (List.mem_cons_of_mem leader hbefore)
  exact (hrename before.id (List.mem_cons_of_mem _ (List.mem_map_of_mem hmem))).left

variable {contract : ResolvedCodeContract}

/-- A tied leader whose name comes first is shadowed. -/
theorem Answers.shadowed_of_first (h : Answers instant now sources contract)
    (rule rival : CodeRule) (hrule : rule ∈ liveRules instant now sources)
    (hrival : Leads (competing instant now sources rule.spec.conflictKey) rival)
    (hname : rule.id ≠ rival.id) (hfirst : rule.id <= rival.id) :
    rule.id ∈ contract.record.shadowed := by
  have hmem : rule ∈ competing instant now sources rule.spec.conflictKey :=
    mem_rulesFor.mpr ⟨hrule, rfl⟩
  rcases h.settled _ (List.ne_nil_of_mem hmem) with ⟨winner, losers, hgroup⟩
  have hsettled := groupSettled_of_settleGroup hgroup
  have hwinner : rule ≠ winner := by
    intro heq
    subst heq
    have hne : rule ≠ rival := fun heq => hname (heq ▸ rfl)
    have hstrong := hrival.right rule ((List.mem_erase_of_ne hne).mpr hmem)
    exact hname (le_antisymm hfirst (hsettled.latest rival hrival.left hstrong))
  have hloser := (List.mem_cons.mp (hsettled.perm.mem_iff.mpr hmem)).resolve_left hwinner
  exact (h.shadowed rule.id).mpr ⟨_, winner, losers, rule, hgroup, hloser, rfl⟩

/-- A leader whose name comes last is included, unless it is outdone under that name. -/
theorem Answers.included_of_last (h : Answers instant now sources contract) (rule : CodeRule)
    (hrule : rule ∈ liveRules instant now sources)
    (hlast : forall other, other ∈ liveRules instant now sources -> other.id <= rule.id)
    (hfree : ¬ Outdone (liveRules instant now sources) rule.id) :
    rule.id ∈ contract.record.included := by
  apply (h.included rule.id).mpr
  constructor
  · exact ⟨rule, hrule, rfl⟩
  · intro hshadowed
    rcases h.outdone_of_shadowed hshadowed hfree with ⟨other, rival, _, _, hleads, hne, hle⟩
    exact hne (le_antisymm (hlast rival (mem_rulesFor.mp hleads.left).left) hle)

/-- What resolves to an answer under one naming does so under every other. -/
theorem Insensitive.ok (h : Insensitive instant now sources) (hlisted : listed.Perm sources)
    (hf : Function.Injective f)
    (hok : resolveCodeContract instant (listed.map (DevelopmentEnvelope.rename f)) now =
      .ok contract) :
    exists base, resolveCodeContract instant sources now = .ok base ∧
      forall field id, id ∈ contract.record.list field <->
        exists before, before ∈ base.record.list field ∧ f before = id := by
  have hagrees := h listed f hlisted hf
  rw [hok] at hagrees
  cases hbase : resolveCodeContract instant sources now with
  | ok base =>
      rw [hbase] at hagrees
      exact ⟨base, rfl, hagrees.right⟩
  | error refusal =>
      rw [hbase] at hagrees
      exact absurd hagrees id

theorem Insensitive.error (h : Insensitive instant now sources) (hlisted : listed.Perm sources)
    (hf : Function.Injective f)
    (hrefused : resolveCodeContract instant (listed.map (DevelopmentEnvelope.rename f)) now =
      .error refusal) :
    exists base, resolveCodeContract instant sources now = .error base ∧
      refusal.refusalClass = base.refusalClass := by
  have hagrees := h listed f hlisted hf
  rw [hrefused] at hagrees
  cases hbase : resolveCodeContract instant sources now with
  | ok base =>
      rw [hbase] at hagrees
      exact absurd hagrees id
  | error base =>
      rw [hbase] at hagrees
      exact ⟨base, rfl, hagrees⟩

theorem mayClash_nil : ¬ MayClash [] := by
  intro h
  rcases h with ⟨held, _, hheld, _⟩
  exact List.not_mem_nil hheld

theorem settles_before (hlisted : listed.Perm sources) (hf : Function.Injective f)
    (hbefore : forall earlier, earlier < conflictKey ->
      Settleable (competing instant now sources earlier) ∧
        ¬ MayClash (competing instant now sources earlier)) (earlier : String)
    (hlt : earlier < conflictKey) :
    Settles earlier (competing instant now (listed.map (DevelopmentEnvelope.rename f)) earlier) := by
  have hgroup : Rearranged f (competing instant now sources earlier)
      (competing instant now (listed.map (DevelopmentEnvelope.rename f)) earlier) :=
    (rearranged_liveRules hlisted).rulesFor earlier
  apply ((hgroup.settleable hf).mpr (hbefore earlier hlt).left).settles
  intro hclash
  exact (hbefore earlier hlt).right (hgroup.mayClash hf hclash)

theorem Insensitive.not_mayClash (h : Insensitive instant now sources)
    (haccepted : forall source, source ∈ sources -> (fateOf instant now source).refuses = false)
    (hgroup : Settleable (competing instant now sources conflictKey))
    (hbefore : forall earlier, earlier < conflictKey ->
      Settleable (competing instant now sources earlier) ∧
        ¬ MayClash (competing instant now sources earlier)) :
    ¬ MayClash (competing instant now sources conflictKey) := by
  intro hclash
  have hrules : competing instant now sources conflictKey ≠ [] := by
    intro hempty
    exact mayClash_nil (hempty ▸ hclash)
  rcases hclash.exists_not_settles with ⟨listed, f, hlisted, hf, hnot⟩
  rcases hgroup.exists_settles hrules with ⟨calm, g, hcalm, hg, hsettles⟩
  rcases resolve_of_accepted (accepted_rename (f := f) hlisted haccepted) with hok | hrefused
  · rcases hok with ⟨contract, hok⟩
    exact hnot ((answers_of_resolve hok).settles conflictKey)
  · rcases hrefused with ⟨key, refusal, hresolve, hfirst⟩
    have hkey := hfirst.eq_key hnot (settles_before hlisted hf hbefore)
    subst hkey
    rcases h.error hlisted hf hresolve with ⟨base, hbase, hclass⟩
    rcases resolve_of_accepted (accepted_rename (f := g) hcalm haccepted) with hok | hrefused
    · rcases hok with ⟨contract, hok⟩
      rcases h.ok hcalm hg hok with ⟨contract, hbase', _⟩
      rw [hbase] at hbase'
      cases hbase'
    · rcases hrefused with ⟨other, refusal', hresolve', hfirst'⟩
      rcases h.error hcalm hg hresolve' with ⟨base', hbase', hclass'⟩
      rw [hbase] at hbase'
      cases hbase'
      -- The refusals are of one class, so they are about one key, which settles here.
      have hsame : other = key := by
        rw [<- hclass] at hclass'
        rcases hfirst.refusalClass with hkey | hkey
        · rcases hfirst'.refusalClass with hkey' | hkey'
          · rw [hkey, hkey'] at hclass'
            injection hclass'
          · rw [hkey, hkey'] at hclass'
            cases hclass'
        · rcases hfirst'.refusalClass with hkey' | hkey'
          · rw [hkey, hkey'] at hclass'
            cases hclass'
          · rw [hkey, hkey'] at hclass'
            injection hclass'
      subst hsame
      exact hfirst'.not_settles hsettles

theorem Insensitive.not_tied (h : Insensitive instant now sources)
    (haccepted : forall source, source ∈ sources -> (fateOf instant now source).refuses = false)
    (hfree : forall conflictKey, Settleable (competing instant now sources conflictKey) ∧
      ¬ MayClash (competing instant now sources conflictKey)) :
    ¬ Tied (liveRules instant now sources) := by
  intro htied
  rcases htied with ⟨rule, rival, hrule, hrival, hname, houtdone⟩
  have hanswered : forall rename : Equiv.Perm ArtifactId, exists contract,
      resolveCodeContract instant (sources.map (DevelopmentEnvelope.rename rename)) now =
        .ok contract := by
    intro rename
    rcases resolve_of_accepted (accepted_rename (f := rename) (List.Perm.refl sources) haccepted)
      with hok | hrefused
    · exact hok
    · rcases hrefused with ⟨key, refusal, _, hfirst⟩
      have hgroup : Rearranged rename (competing instant now sources key)
          (competing instant now (sources.map (DevelopmentEnvelope.rename rename)) key) :=
        (rearranged_liveRules (List.Perm.refl sources)).rulesFor key
      apply absurd (((hgroup.settleable rename.injective).mpr (hfree key).left).settles _)
        hfirst.not_settles
      intro hclash
      exact (hfree key).right (hgroup.mayClash rename.injective hclash)
  have hlive : forall rename : Equiv.Perm ArtifactId,
      Rearranged rename (liveRules instant now sources)
        (liveRules instant now (sources.map (DevelopmentEnvelope.rename rename))) :=
    fun rename => rearranged_liveRules (List.Perm.refl sources)
  have hnames : forall other, other ∈ liveRules instant now sources ->
      other.id ∈ (liveRules instant now sources).map CodeRule.id :=
    fun other hother => List.mem_map_of_mem hother
  rcases exists_renamed_last rule.id ((liveRules instant now sources).map CodeRule.id) with
    ⟨last, hlast⟩
  rcases exists_renamed_first rule.id rule.id ((liveRules instant now sources).map CodeRule.id)
    with ⟨first, hfirst⟩
  rcases hanswered last with ⟨contract, hok⟩
  rcases hanswered first with ⟨contract', hok'⟩
  rcases h.ok (List.Perm.refl sources) last.injective hok with ⟨base, hbase, hrecord⟩
  rcases h.ok (List.Perm.refl sources) first.injective hok' with ⟨base', hbase', hrecord'⟩
  rw [hbase] at hbase'
  cases hbase'
  have hincluded : rule.id ∈ base.record.included := by
    have hmem : last rule.id ∈ contract.record.included := by
      apply (answers_of_resolve hok).included_of_last (rule.rename last)
      · exact (hlive last).mem.mpr ⟨rule, hrule, rfl⟩
      · intro other hother
        rcases (hlive last).mem.mp hother with ⟨before, hbefore, heq⟩
        subst heq
        exact hlast before.id (hnames before hbefore)
      · exact fun hlost => houtdone (((hlive last).outdone last.injective).mp hlost)
    rcases (hrecord .included _).mp hmem with ⟨before, hbefore, heq⟩
    exact last.injective heq ▸ hbefore
  have hshadowed : first rule.id ∈ contract'.record.shadowed := by
    have hgroup := (hlive first).rulesFor rule.spec.conflictKey
    apply (answers_of_resolve hok').shadowed_of_first (rule.rename first) (rival.rename first)
    · exact (hlive first).mem.mpr ⟨rule, hrule, rfl⟩
    · exact (hgroup.leads first.injective).mpr hrival
    · exact fun heq => hname (first.injective heq)
    · have hmem := (mem_rulesFor.mp hrival.left).left
      exact (hfirst rival.id (List.mem_cons_of_mem _ (hnames rival hmem))).left
  have hincluded' := (hrecord' .included (first rule.id)).mpr ⟨rule.id, hincluded, rfl⟩
  exact (((answers_of_resolve hok').included _).mp hincluded').right hshadowed

theorem Insensitive.determined (h : Insensitive instant now sources) :
    PrecedenceDetermined instant now sources := by
  by_cases hrefuses : exists source, source ∈ sources ∧ (fateOf instant now source).refuses = true
  · exact Or.inl hrefuses
  · apply Or.inr
    have haccepted := accepted_of_not_refused hrefuses
    have hclashless : forall conflictKey,
        (forall earlier, earlier < conflictKey ->
          Settleable (competing instant now sources earlier)) ->
            Settleable (competing instant now sources conflictKey) ->
              ¬ MayClash (competing instant now sources conflictKey) := by
      intro conflictKey hbefore hgroup hclash
      have hrules : forall key, MayClash (competing instant now sources key) ->
          rulesFor key (liveRules instant now sources) ≠ [] := by
        intro key hclash hempty
        unfold competing at hclash
        exact mayClash_nil (hempty ▸ hclash)
      rcases exists_first_key hrules ⟨conflictKey, hclash⟩ with ⟨first, hfirst, hnone⟩
      have hle : first <= conflictKey := not_lt.mp fun hlt => hnone conflictKey hlt hclash
      have hsettleable : Settleable (competing instant now sources first) := by
        rcases lt_or_eq_of_le hle with hlt | heq
        · exact hbefore first hlt
        · exact heq ▸ hgroup
      apply h.not_mayClash haccepted hsettleable _ hfirst
      intro earlier hlt
      exact ⟨hbefore earlier (lt_of_lt_of_le hlt hle), hnone earlier hlt⟩
    constructor
    · exact hclashless
    · intro hall
      apply h.not_tied haccepted
      intro conflictKey
      exact ⟨hall conflictKey, hclashless conflictKey (fun earlier _ => hall earlier)
        (hall conflictKey)⟩

/-- Order and names show in a resolution exactly when precedence leaves something to them. -/
theorem insensitive_iff_determined :
    Insensitive instant now sources <-> PrecedenceDetermined instant now sources :=
  Iff.intro Insensitive.determined PrecedenceDetermined.insensitive

end Decided

/-!
## Three rules of one key
-/

def coverageRule (id : ArtifactId) (minimum : Int) (selector : List (String × Json)) :
    DevelopmentEnvelope :=
  { id := id
    kind := .codeRule
    spec := .object
      [("conflictKey", .string "coverage"), ("minimum", .number (.integer minimum)),
        ("selector", .object selector)] }

def artifactA : ArtifactId :=
  { text := "a", valid := by decide }

def artifactB : ArtifactId :=
  { text := "b", valid := by decide }

def artifactC : ArtifactId :=
  { text := "c", valid := by decide }

/--
A general rule, a module rule that asks for more and one that asks for less: the
weaker module rule conflicts with the general one only where it meets it first.
-/
def coverageRules : List DevelopmentEnvelope :=
  [coverageRule artifactA 90 [], coverageRule artifactB 95 [("module", .string "billing")],
    coverageRule artifactC 80 [("module", .string "billing")]]

theorem resolution_not_insensitive :
    ¬ forall (instant : String -> Option Int) (now : Int) (sources : List DevelopmentEnvelope),
      Insensitive instant now sources := by
  intro h
  have hagrees := h (fun _ => none) 0 coverageRules coverageRules
    (Equiv.swap artifactB artifactC) (List.Perm.refl _) (Equiv.injective _)
  have hanswered : exists contract,
      resolveCodeContract (fun _ => none) coverageRules 0 = .ok contract := by
    refine ⟨?contract, ?_⟩
    case contract =>
      exact
        { requirements := (∅ : ExtTreeMap String Nat).insert "coverage" 95
          record :=
            { included := [artifactB]
              shadowed := [artifactA, artifactC]
              waived := []
              expired := []
              denied := [] } }
    decide
  have hrefused :
      resolveCodeContract (fun _ => none)
        (coverageRules.map (DevelopmentEnvelope.rename (Equiv.swap artifactB artifactC))) 0 =
          .error (.conflict "coverage" [artifactA, artifactB]) := by
    decide
  rcases hanswered with ⟨contract, hok⟩
  rw [hok, hrefused] at hagrees
  exact hagrees

end GraphHelm
