import GraphHelm.Policy.CodeContract
import Mathlib.Data.List.Induction

/-!
# The fates of development sources

What becomes of each source a resolution is given, and what an answered
resolution records of it: the sources fall into the denied, the expired, the
waived and the live ones, and the live rules of a key into the one that is held
at the end and those it shadows.
-/

namespace GraphHelm

open Std (ExtTreeMap ExtTreeSet)

/-!
## Fates
-/

/-- What the first two loops make of a source. -/
inductive Fate where
  | denied
  | unreadable
  | expired
  | waiverRefused (missing : String)
  | waived
  | live (spec : CodeRuleSpec)
deriving DecidableEq

/-- Whether a source with this fate refuses the whole resolution. -/
def Fate.refuses : Fate -> Bool
  | .unreadable | .waiverRefused _ => true
  | _ => false

section Fates

variable (instant : String -> Option Int) (now : Int)

def ruleFate (spec : CodeRuleSpec) : Fate :=
  if isExpired now spec then
    .expired
  else
    match waiverRefusal spec with
    | some missing => .waiverRefused missing
    | none => if spec.waiver.isSome then .waived else .live spec

def fateOf (source : DevelopmentEnvelope) : Fate :=
  if source.kind ≠ .codeRule then
    .denied
  else
    match CodeRuleSpec.fromValue instant source.spec with
    | none => .unreadable
    | some spec => ruleFate now spec

def liveRule (source : DevelopmentEnvelope) : Option CodeRule :=
  match fateOf instant now source with
  | .live spec => some { id := source.id, spec := spec }
  | _ => none

def liveRules (sources : List DevelopmentEnvelope) : List CodeRule :=
  sources.filterMap (liveRule instant now)

def idsOf (fate : Fate) (sources : List DevelopmentEnvelope) : List ArtifactId :=
  (sources.filter fun source => fateOf instant now source = fate).map DevelopmentEnvelope.id

end Fates

/-!
## The two loops
-/

section Loops

variable {instant : String -> Option Int} {now : Int}

/-- What the two loops leave, when neither refuses. -/
structure SourcesSettled (instant : String -> Option Int) (now : Int)
    (sources : List DevelopmentEnvelope) (denied : List ArtifactId) (settled : SettledRules) :
    Prop where
  accepted : forall source, source ∈ sources -> (fateOf instant now source).refuses = false
  denied : denied = idsOf instant now .denied sources
  expired : settled.expired = idsOf instant now .expired sources
  waived : settled.waived = idsOf instant now .waived sources
  live : settled.live = liveRules instant now sources

theorem readSources_cons_denied {source : DevelopmentEnvelope} {rest : List DevelopmentEnvelope}
    {read : ReadSources} (hkind : source.kind ≠ .codeRule)
    (h : readSources instant (source :: rest) = .ok read) :
    exists others, readSources instant rest = .ok others ∧
      read = { others with denied := source.id :: others.denied } := by
  rw [readSources, if_pos hkind] at h
  rcases bind_ok h with ⟨others, hrest, h⟩
  cases h
  exact ⟨others, hrest, rfl⟩

theorem readSources_cons_rule {source : DevelopmentEnvelope} {rest : List DevelopmentEnvelope}
    {read : ReadSources} (hkind : source.kind = .codeRule)
    (h : readSources instant (source :: rest) = .ok read) :
    exists spec others, CodeRuleSpec.fromValue instant source.spec = some spec ∧
      readSources instant rest = .ok others ∧
        read = { others with readable := { id := source.id, spec := spec } :: others.readable } := by
  rw [readSources, if_neg (not_not_intro hkind)] at h
  rcases bind_ok h with ⟨spec, hspec, h⟩
  rcases bind_ok h with ⟨others, hrest, h⟩
  cases h
  exact ⟨spec, others, orRefuse_eq_ok.mp hspec, hrest, rfl⟩

theorem settleRules_cons {rule : CodeRule} {rest : List CodeRule} {settled : SettledRules}
    (h : settleRules now (rule :: rest) = .ok settled) :
    exists others, settleRules now rest = .ok others ∧
      ((ruleFate now rule.spec = .expired ∧
          settled = { others with expired := rule.id :: others.expired }) ∨
        (ruleFate now rule.spec = .waived ∧
          settled = { others with waived := rule.id :: others.waived }) ∨
        (ruleFate now rule.spec = .live rule.spec ∧
          settled = { others with live := rule :: others.live })) := by
  rw [settleRules] at h
  unfold ruleFate
  by_cases hexpired : isExpired now rule.spec = true
  · rw [if_pos hexpired] at h
    rcases bind_ok h with ⟨others, hrest, h⟩
    cases h
    exact ⟨others, hrest, Or.inl ⟨if_pos hexpired, rfl⟩⟩
  · rw [if_neg hexpired] at h
    rw [if_neg hexpired]
    cases hwaiver : waiverRefusal rule.spec with
    | some missing =>
        rw [hwaiver] at h
        cases h
    | none =>
        rw [hwaiver] at h
        rcases bind_ok h with ⟨others, hrest, h⟩
        by_cases hsome : rule.spec.waiver.isSome = true
        · rw [if_pos hsome] at h
          cases h
          exact ⟨others, hrest, Or.inr (Or.inl ⟨if_pos hsome, rfl⟩)⟩
        · rw [if_neg hsome] at h
          cases h
          exact ⟨others, hrest, Or.inr (Or.inr ⟨if_neg hsome, rfl⟩)⟩

theorem idsOf_cons (fate : Fate) (source : DevelopmentEnvelope)
    (rest : List DevelopmentEnvelope) :
    idsOf instant now fate (source :: rest) =
      if fateOf instant now source = fate then source.id :: idsOf instant now fate rest
      else idsOf instant now fate rest := by
  by_cases h : fateOf instant now source = fate
  · simp [idsOf, h]
  · simp [idsOf, h]

theorem liveRules_cons (source : DevelopmentEnvelope) (rest : List DevelopmentEnvelope) :
    liveRules instant now (source :: rest) =
      (liveRule instant now source).toList ++ liveRules instant now rest := by
  cases h : liveRule instant now source with
  | none => exact List.filterMap_cons_none h
  | some rule => exact List.filterMap_cons_some h

theorem SourcesSettled.cons {source : DevelopmentEnvelope} {rest : List DevelopmentEnvelope}
    {denied denied' : List ArtifactId} {settled settled' : SettledRules}
    (h : SourcesSettled instant now rest denied settled)
    (haccepted : (fateOf instant now source).refuses = false)
    (hdenied : denied' =
      if fateOf instant now source = .denied then source.id :: denied else denied)
    (hexpired : settled'.expired =
      if fateOf instant now source = .expired then source.id :: settled.expired
      else settled.expired)
    (hwaived : settled'.waived =
      if fateOf instant now source = .waived then source.id :: settled.waived
      else settled.waived)
    (hlive : settled'.live = (liveRule instant now source).toList ++ settled.live) :
    SourcesSettled instant now (source :: rest) denied' settled' := by
  constructor
  · intro other hother
    rcases List.mem_cons.mp hother with heq | hother
    · exact heq ▸ haccepted
    · exact h.accepted other hother
  · rw [hdenied, idsOf_cons, h.denied]
  · rw [hexpired, idsOf_cons, h.expired]
  · rw [hwaived, idsOf_cons, h.waived]
  · rw [hlive, liveRules_cons, h.live]

theorem sourcesSettled_of_loops {sources : List DevelopmentEnvelope} {read : ReadSources}
    {settled : SettledRules} (hread : readSources instant sources = .ok read)
    (hsettled : settleRules now read.readable = .ok settled) :
    SourcesSettled instant now sources read.denied settled := by
  induction sources generalizing read settled with
  | nil =>
      cases hread
      cases hsettled
      exact
        { accepted := fun source hsource => absurd hsource List.not_mem_nil
          denied := rfl
          expired := rfl
          waived := rfl
          live := rfl }
  | cons source rest ih =>
      by_cases hkind : source.kind = .codeRule
      · rcases readSources_cons_rule hkind hread with ⟨spec, others, hspec, hrest, heq⟩
        subst heq
        rcases settleRules_cons hsettled with ⟨later, hlater, hcases⟩
        have hfate : fateOf instant now source = ruleFate now spec := by
          simp [fateOf, hkind, hspec]
        have hothers := ih hrest hlater
        rcases hcases with ⟨hrule, heq⟩ | ⟨hrule, heq⟩ | ⟨hrule, heq⟩
        · have hsource : fateOf instant now source = .expired := hfate.trans hrule
          subst heq
          apply hothers.cons <;> simp [liveRule, hsource, Fate.refuses]
        · have hsource : fateOf instant now source = .waived := hfate.trans hrule
          subst heq
          apply hothers.cons <;> simp [liveRule, hsource, Fate.refuses]
        · have hsource : fateOf instant now source = .live spec := hfate.trans hrule
          subst heq
          apply hothers.cons <;> simp [liveRule, hsource, Fate.refuses]
      · rcases readSources_cons_denied hkind hread with ⟨others, hrest, heq⟩
        have hsource : fateOf instant now source = .denied := by simp [fateOf, hkind]
        subst heq
        apply (ih hrest hsettled).cons <;> simp [liveRule, hsource, Fate.refuses]

end Loops

/-!
## The rules of a key
-/

def rulesFor (conflictKey : String) (live : List CodeRule) : List CodeRule :=
  live.filter fun rule => rule.spec.conflictKey = conflictKey

variable {conflictKey : String} {group losers : List CodeRule}

theorem mem_rulesFor {live : List CodeRule} {rule : CodeRule} :
    rule ∈ rulesFor conflictKey live <-> rule ∈ live ∧ rule.spec.conflictKey = conflictKey := by
  simp [rulesFor]

theorem getElem?_groupByKey (live : List CodeRule) (conflictKey : String) :
    (groupByKey live)[conflictKey]? =
      if rulesFor conflictKey live = [] then none else some (rulesFor conflictKey live) := by
  induction live using List.reverseRecOn with
  | nil =>
      simp [groupByKey, rulesFor]
  | append_singleton live rule ih =>
      have hstep : groupByKey (live ++ [rule]) =
          (groupByKey live).insert rule.spec.conflictKey
            (((groupByKey live)[rule.spec.conflictKey]?).getD [] ++ [rule]) := by
        simp [groupByKey, List.foldl_append]
      rw [hstep]
      by_cases hkey : rule.spec.conflictKey = conflictKey
      · have hrules : rulesFor conflictKey (live ++ [rule]) =
            rulesFor conflictKey live ++ [rule] := by
          simp [rulesFor, List.filter_append, hkey]
        have hsome : rulesFor conflictKey live ++ [rule] ≠ [] := by simp
        rw [hkey, ExtTreeMap.getElem?_insert_self, ih, hrules, if_neg hsome]
        by_cases hempty : rulesFor conflictKey live = []
        · simp [hempty]
        · simp [hempty]
      · have hrules : rulesFor conflictKey (live ++ [rule]) = rulesFor conflictKey live := by
          simp [rulesFor, List.filter_append, hkey]
        rw [OrderedMap.getElem?_insert_of_ne hkey, hrules]
        exact ih

theorem mem_groupByKey {live : List CodeRule} :
    (conflictKey, group) ∈ (groupByKey live).toList <->
      group = rulesFor conflictKey live ∧ group ≠ [] := by
  rw [ExtTreeMap.mem_toList_iff_getElem?_eq_some, getElem?_groupByKey]
  by_cases hempty : rulesFor conflictKey live = []
  · rw [if_pos hempty]
    constructor
    · intro h
      cases h
    · intro h
      exact absurd (h.left.trans hempty) h.right
  · rw [if_neg hempty]
    constructor
    · intro h
      cases h
      exact ⟨rfl, hempty⟩
    · intro h
      rw [h.left]

/-!
## Strength
-/

/-- Both under the one registered operator, and `left` asks no less of no fewer predicates. -/
def AtLeast (left right : CodeRule) : Prop :=
  left.spec.operator = "minimum" ∧ right.spec.operator = "minimum" ∧
    containsSelector left.spec.selector right.spec.selector = true ∧
      right.spec.minimum <= left.spec.minimum

theorem containsSelector_iff {left right : Selector} :
    containsSelector left right = true <->
      forall key text : String, right[key]? = some text -> left[key]? = some text := by
  simp only [containsSelector, List.all_eq_true, decide_eq_true_eq, Prod.forall,
    ExtTreeMap.mem_toList_iff_getElem?_eq_some]

theorem containsSelector_refl (selector : Selector) : containsSelector selector selector = true :=
  containsSelector_iff.mpr fun _ _ h => h

theorem containsSelector_trans {a b c : Selector} (hab : containsSelector a b = true)
    (hbc : containsSelector b c = true) : containsSelector a c = true :=
  containsSelector_iff.mpr fun key text h =>
    containsSelector_iff.mp hab key text (containsSelector_iff.mp hbc key text h)

theorem AtLeast.trans {a b c : CodeRule} (hab : AtLeast a b) (hbc : AtLeast b c) :
    AtLeast a c := by
  rcases hab with ⟨hoperator, _, hselector, hminimum⟩
  rcases hbc with ⟨_, hlast, hselector', hminimum'⟩
  exact ⟨hoperator, hlast, containsSelector_trans hselector hselector',
    hminimum'.trans hminimum⟩

theorem meetRules_settledBy (conflictKey : String) :
    SettledBy (meetRules conflictKey) AtLeast := by
  constructor
  · intro held challenger h
    rcases h with ⟨hoperator, hheld, hselector, hminimum⟩
    cases hother : containsSelector held.spec.selector challenger.spec.selector with
    | true => simp [meetRules, dominance, compareRules, hselector, hother, hoperator, hheld, hminimum]
    | false =>
        simp [meetRules, dominance, compareRules, hselector, hother, hoperator, hheld, hminimum]
  · intro held challenger hnot h
    rcases h with ⟨hheld, hoperator, hselector, hminimum⟩
    cases hother : containsSelector challenger.spec.selector held.spec.selector with
    | true =>
        have hweaker : ¬ held.spec.minimum <= challenger.spec.minimum := fun hle =>
          hnot ⟨hoperator, hheld, hother, hle⟩
        simp [meetRules, dominance, compareRules, hselector, hother, hoperator, hheld, hweaker]
    | false =>
        simp [meetRules, dominance, compareRules, hselector, hother, hoperator, hheld, hminimum]
  · intro held challenger hnot hnot'
    cases hleft : containsSelector challenger.spec.selector held.spec.selector with
    | true =>
        cases hright : containsSelector held.spec.selector challenger.spec.selector with
        | true =>
            by_cases hoperators : challenger.spec.operator = "minimum" ∧
                held.spec.operator = "minimum"
            · -- The selectors are equal, so one of the two minimums settles the meeting.
              rcases Nat.le_total held.spec.minimum challenger.spec.minimum with hle | hle
              · exact absurd ⟨hoperators.left, hoperators.right, hleft, hle⟩ hnot
              · exact absurd ⟨hoperators.right, hoperators.left, hright, hle⟩ hnot'
            · simp [meetRules, dominance, compareRules, hleft, hright, hoperators]
        | false =>
            by_cases hoperators : challenger.spec.operator = "minimum" ∧
                held.spec.operator = "minimum"
            · have hweaker : ¬ held.spec.minimum <= challenger.spec.minimum := fun hle =>
                hnot ⟨hoperators.left, hoperators.right, hleft, hle⟩
              simp [meetRules, dominance, compareRules, hleft, hright, hoperators, hweaker]
            · simp [meetRules, dominance, compareRules, hleft, hright, hoperators]
    | false =>
        cases hright : containsSelector held.spec.selector challenger.spec.selector with
        | true =>
            by_cases hoperators : held.spec.operator = "minimum" ∧
                challenger.spec.operator = "minimum"
            · have hweaker : ¬ challenger.spec.minimum <= held.spec.minimum := fun hle =>
                hnot' ⟨hoperators.left, hoperators.right, hright, hle⟩
              simp [meetRules, dominance, compareRules, hleft, hright, hoperators, hweaker]
            · simp [meetRules, dominance, compareRules, hleft, hright, hoperators]
        | false => simp [meetRules, dominance, hleft, hright]

/-!
## Settled keys
-/

theorem sortById_perm (group : List CodeRule) : (sortById group).Perm group :=
  List.perm_insertionSort _ group

theorem sortById_pairwise (group : List CodeRule) :
    (sortById group).Pairwise fun left right => left.id <= right.id :=
  haveI : IsTrans CodeRule fun left right => left.id <= right.id :=
    ⟨fun _ _ _ hab hbc => le_trans hab hbc⟩
  haveI : Std.Total fun left right : CodeRule => left.id <= right.id :=
    ⟨fun left right => le_total left.id right.id⟩
  List.pairwise_insertionSort _ group

/-- What is known of the rule that is held at the end, and of those it shadows. -/
structure GroupSettled (group : List CodeRule) (winner : CodeRule) (losers : List CodeRule) :
    Prop where
  perm : (winner :: losers).Perm group
  outdone : forall rule, rule ∈ losers -> AtLeast winner rule
  latest : forall rule, rule ∈ group -> AtLeast rule winner -> rule.id <= winner.id

theorem strongestOf_eq_ok {winner : CodeRule}
    (h : strongestOf conflictKey group = .ok (some (winner, losers))) :
    exists first rest, group = first :: rest ∧
      champion (meetRules conflictKey) first rest = .ok (winner, losers) := by
  cases group with
  | nil => cases h
  | cons first rest =>
      rcases bind_ok h with ⟨outcome, hchampion, h⟩
      cases h
      exact ⟨first, rest, rfl, hchampion⟩

theorem settleGroup_eq_ok {outcome : Option (CodeRule × List CodeRule)}
    (h : settleGroup conflictKey group = .ok outcome) :
    firstIncomparable (sortById group) = none ∧
      strongestOf conflictKey (sortById group) = .ok outcome := by
  unfold settleGroup at h
  cases hpair : firstIncomparable (sortById group) with
  | none =>
      rw [hpair] at h
      exact ⟨rfl, h⟩
  | some pair =>
      rw [hpair] at h
      cases h

theorem groupSettled_of_settleGroup {winner : CodeRule}
    (h : settleGroup conflictKey group = .ok (some (winner, losers))) :
    GroupSettled group winner losers := by
  rcases strongestOf_eq_ok (settleGroup_eq_ok h).right with ⟨first, rest, hsorted, hchampion⟩
  have hsettled := meetRules_settledBy conflictKey
  constructor
  · exact (hsettled.perm hchampion).trans (hsorted ▸ sortById_perm group)
  · exact (hsettled.outdoes_losers AtLeast.trans hchampion).right
  · intro rule hrule hstrong
    rcases hsettled.last_of_equals hchampion with ⟨before, after, hsplit, hafter⟩
    have hordered := sortById_pairwise group
    rw [hsorted, hsplit] at hordered
    have hmem : rule ∈ before ++ winner :: after := by
      rw [<- hsplit, <- hsorted]
      exact (sortById_perm group).mem_iff.mpr hrule
    rcases List.mem_append.mp hmem with hbefore | hmem
    · exact (List.pairwise_append.mp hordered).right.right rule hbefore winner
        List.mem_cons_self
    · rcases List.mem_cons.mp hmem with heq | hlater
      · exact le_of_eq (heq ▸ rfl)
      · exact absurd hstrong (hafter rule hlater)

theorem exists_winner {outcome : Option (CodeRule × List CodeRule)} (hgroup : group ≠ [])
    (h : settleGroup conflictKey group = .ok outcome) :
    exists winner losers, outcome = some (winner, losers) := by
  have hstrongest := (settleGroup_eq_ok h).right
  cases hsorted : sortById group with
  | nil =>
      have hperm := sortById_perm group
      rw [hsorted] at hperm
      exact absurd (List.nil_perm.mp hperm) hgroup
  | cons first rest =>
      rw [hsorted] at hstrongest
      rcases bind_ok hstrongest with ⟨⟨winner, losers⟩, _, h⟩
      cases h
      exact ⟨winner, losers, rfl⟩

/-!
## The loop over the keys
-/

/-- What the loop over the keys has come to after the given entries. -/
structure ResolvedBy (entries : List (String × List CodeRule)) (final : Resolution) :
    Prop where
  settled : forall conflictKey group, (conflictKey, group) ∈ entries ->
    exists winner losers, settleGroup conflictKey group = .ok (some (winner, losers))
  requirement : forall (conflictKey : String) minimum,
    final.requirements[conflictKey]? = some minimum <->
      exists group winner losers, (conflictKey, group) ∈ entries ∧
        settleGroup conflictKey group = .ok (some (winner, losers)) ∧
          winner.spec.minimum = minimum
  seen : forall id, id ∈ final.seen <->
    exists conflictKey group rule, (conflictKey, group) ∈ entries ∧ rule ∈ group ∧ rule.id = id
  shadowed : forall id, id ∈ final.shadowed <->
    exists conflictKey group winner losers rule, (conflictKey, group) ∈ entries ∧
      settleGroup conflictKey group = .ok (some (winner, losers)) ∧ rule ∈ losers ∧
        rule.id = id

def Resolution.empty : Resolution :=
  { requirements := ∅, seen := ∅, shadowed := ∅ }

theorem resolvedBy_of_foldlM {entries : List (String × List CodeRule)} {final : Resolution}
    (hkeys : (entries.map Prod.fst).Nodup)
    (hgroups : forall conflictKey group, (conflictKey, group) ∈ entries -> group ≠ [])
    (h : entries.foldlM resolveGroup Resolution.empty = .ok final) :
    ResolvedBy entries final := by
  induction entries using List.reverseRecOn generalizing final with
  | nil =>
      cases h
      constructor <;> simp [Resolution.empty]
  | append_singleton entries entry ih =>
      rw [List.foldlM_append] at h
      rcases bind_ok h with ⟨middle, hmiddle, h⟩
      rw [List.foldlM_cons] at h
      rcases bind_ok h with ⟨last, hlast, h⟩
      cases h
      rcases bind_ok hlast with ⟨outcome, houtcome, hlast⟩
      rcases entry with ⟨key, group⟩
      rw [List.map_append, List.nodup_append] at hkeys
      have hfresh : forall other, (key, other) ∉ entries := by
        intro other hmem
        exact hkeys.right.right key (List.mem_map_of_mem hmem) key (by simp) rfl
      have hbefore := ih hkeys.left
        (fun conflictKey group hmem => hgroups conflictKey group (List.mem_append_left _ hmem))
        hmiddle
      rcases exists_winner (hgroups key group (by simp)) houtcome with ⟨winner, losers, heq⟩
      subst heq
      cases hlast
      constructor
      · intro conflictKey other hmem
        rcases List.mem_append.mp hmem with hmem | hmem
        · exact hbefore.settled conflictKey other hmem
        · cases List.mem_singleton.mp hmem
          exact ⟨winner, losers, houtcome⟩
      · intro conflictKey minimum
        by_cases hkey : key = conflictKey
        · subst hkey
          simp only [Resolution.absorb, ExtTreeMap.getElem?_insert_self, Option.some.injEq,
            List.mem_append, List.mem_singleton, Prod.mk.injEq]
          constructor
          · intro hminimum
            exact ⟨group, winner, losers, Or.inr ⟨trivial, rfl⟩, houtcome, hminimum⟩
          · intro hother
            rcases hother with ⟨other, winner', losers', hmem | ⟨_, heq⟩, hsettled, hminimum⟩
            · exact absurd hmem (hfresh other)
            · subst heq
              rw [houtcome] at hsettled
              cases hsettled
              exact hminimum
        · simp only [Resolution.absorb, OrderedMap.getElem?_insert_of_ne hkey,
            hbefore.requirement, List.mem_append, List.mem_singleton, Prod.mk.injEq,
            Ne.symm hkey, false_and, or_false]
      · intro id
        simp only [Resolution.absorb, OrderedMap.mem_foldl_insert, hbefore.seen,
          List.mem_append, List.mem_singleton, Prod.mk.injEq]
        constructor
        · intro hid
          rcases hid with ⟨conflictKey, other, rule, hmem, hrule⟩ | ⟨rule, hrule, hid⟩
          · exact ⟨conflictKey, other, rule, Or.inl hmem, hrule⟩
          · exact ⟨key, group, rule, Or.inr ⟨rfl, rfl⟩, hrule, hid⟩
        · intro hid
          rcases hid with ⟨conflictKey, other, rule, hmem | ⟨_, heq⟩, hrule, hid⟩
          · exact Or.inl ⟨conflictKey, other, rule, hmem, hrule, hid⟩
          · exact Or.inr ⟨rule, heq ▸ hrule, hid⟩
      · intro id
        simp only [Resolution.absorb, OrderedMap.mem_foldl_insert, hbefore.shadowed,
          List.mem_append, List.mem_singleton, Prod.mk.injEq]
        constructor
        · intro hid
          rcases hid with ⟨conflictKey, other, winner', losers', rule, hmem, hrule⟩ |
            ⟨rule, hrule, hid⟩
          · exact ⟨conflictKey, other, winner', losers', rule, Or.inl hmem, hrule⟩
          · exact ⟨key, group, winner, losers, rule, Or.inr ⟨rfl, rfl⟩, houtcome, hrule, hid⟩
        · intro hid
          rcases hid with
            ⟨conflictKey, other, winner', losers', rule, hmem | ⟨hkey, heq⟩, hsettled, hrule, hid⟩
          · exact Or.inl ⟨conflictKey, other, winner', losers', rule, hmem, hsettled, hrule, hid⟩
          · subst hkey
            subst heq
            rw [houtcome] at hsettled
            cases hsettled
            exact Or.inr ⟨rule, hrule, hid⟩

/-!
## An answered resolution
-/

section Answered

variable {instant : String -> Option Int} {now : Int} {sources : List DevelopmentEnvelope}
  {contract : ResolvedCodeContract}

def competing (instant : String -> Option Int) (now : Int) (sources : List DevelopmentEnvelope)
    (conflictKey : String) : List CodeRule :=
  rulesFor conflictKey (liveRules instant now sources)

structure Answers (instant : String -> Option Int) (now : Int)
    (sources : List DevelopmentEnvelope) (contract : ResolvedCodeContract) : Prop where
  accepted : forall source, source ∈ sources -> (fateOf instant now source).refuses = false
  settled : forall conflictKey, competing instant now sources conflictKey ≠ [] ->
    exists winner losers,
      settleGroup conflictKey (competing instant now sources conflictKey) =
        .ok (some (winner, losers))
  requirement : forall (conflictKey : String) minimum,
    contract.requirements[conflictKey]? = some minimum <->
      exists winner losers,
        settleGroup conflictKey (competing instant now sources conflictKey) =
          .ok (some (winner, losers)) ∧ winner.spec.minimum = minimum
  shadowed : forall id, id ∈ contract.record.shadowed <->
    exists conflictKey winner losers rule,
      settleGroup conflictKey (competing instant now sources conflictKey) =
        .ok (some (winner, losers)) ∧ rule ∈ losers ∧ rule.id = id
  included : forall id, id ∈ contract.record.included <->
    (exists rule, rule ∈ liveRules instant now sources ∧ rule.id = id) ∧
      id ∉ contract.record.shadowed
  waived : forall id, id ∈ contract.record.waived <-> id ∈ idsOf instant now .waived sources
  expired : forall id, id ∈ contract.record.expired <-> id ∈ idsOf instant now .expired sources
  denied : forall id, id ∈ contract.record.denied <-> id ∈ idsOf instant now .denied sources

theorem mem_sortedIds {ids : List ArtifactId} {id : ArtifactId} :
    id ∈ sortedIds ids <-> id ∈ ids := by
  unfold sortedIds
  rw [ExtTreeSet.mem_toList, OrderedMap.mem_foldl_insert]
  simp

theorem ne_nil_of_winner {winner : CodeRule}
    (h : settleGroup conflictKey group = .ok (some (winner, losers))) : group ≠ [] := by
  intro hempty
  subst hempty
  cases h

theorem answers_of_resolve (h : resolveCodeContract instant sources now = .ok contract) :
    Answers instant now sources contract := by
  rcases bind_ok h with ⟨read, hread, h⟩
  rcases bind_ok h with ⟨settled, hsettled, h⟩
  rcases bind_ok h with ⟨final, hfinal, h⟩
  cases h
  have hsources := sourcesSettled_of_loops hread hsettled
  rw [hsources.live] at hfinal
  have hkeys : ((groupByKey (liveRules instant now sources)).toList.map Prod.fst).Nodup := by
    rw [ExtTreeMap.map_fst_toList_eq_keys]
    exact ExtTreeMap.nodup_keys
  have hresolved := resolvedBy_of_foldlM hkeys
    (fun conflictKey group hmem => (mem_groupByKey.mp hmem).right) hfinal
  have hentry : forall conflictKey, competing instant now sources conflictKey ≠ [] ->
      (conflictKey, competing instant now sources conflictKey) ∈
        (groupByKey (liveRules instant now sources)).toList := fun conflictKey hne =>
    mem_groupByKey.mpr ⟨rfl, hne⟩
  have hshadowed : forall id, id ∈ final.shadowed <->
      exists conflictKey winner losers rule,
        settleGroup conflictKey (competing instant now sources conflictKey) =
          .ok (some (winner, losers)) ∧ rule ∈ losers ∧ rule.id = id := by
    intro id
    rw [hresolved.shadowed]
    constructor
    · intro hid
      rcases hid with ⟨conflictKey, group, winner, losers, rule, hmem, hgroup, hrule⟩
      rw [(mem_groupByKey.mp hmem).left] at hgroup
      exact ⟨conflictKey, winner, losers, rule, hgroup, hrule⟩
    · intro hid
      rcases hid with ⟨conflictKey, winner, losers, rule, hgroup, hrule⟩
      exact ⟨conflictKey, _, winner, losers, rule, hentry conflictKey (ne_nil_of_winner hgroup),
        hgroup, hrule⟩
  constructor
  · exact hsources.accepted
  · intro conflictKey hne
    exact hresolved.settled conflictKey _ (hentry conflictKey hne)
  · intro conflictKey minimum
    rw [hresolved.requirement]
    constructor
    · intro hminimum
      rcases hminimum with ⟨group, winner, losers, hmem, hgroup, hminimum⟩
      rw [(mem_groupByKey.mp hmem).left] at hgroup
      exact ⟨winner, losers, hgroup, hminimum⟩
    · intro hminimum
      rcases hminimum with ⟨winner, losers, hgroup, hminimum⟩
      exact ⟨_, winner, losers, hentry conflictKey (ne_nil_of_winner hgroup), hgroup, hminimum⟩
  · intro id
    rw [ExtTreeSet.mem_toList]
    exact hshadowed id
  · intro id
    have hseen : id ∈ final.seen <->
        exists rule, rule ∈ liveRules instant now sources ∧ rule.id = id := by
      rw [hresolved.seen]
      constructor
      · intro hid
        rcases hid with ⟨conflictKey, group, rule, hmem, hrule, hid⟩
        rw [(mem_groupByKey.mp hmem).left] at hrule
        exact ⟨rule, (mem_rulesFor.mp hrule).left, hid⟩
      · intro hid
        rcases hid with ⟨rule, hrule, hid⟩
        have hcompeting : rule ∈ competing instant now sources rule.spec.conflictKey :=
          mem_rulesFor.mpr ⟨hrule, rfl⟩
        exact ⟨_, _, rule, hentry _ (List.ne_nil_of_mem hcompeting), hcompeting, hid⟩
    rw [List.mem_filter, ExtTreeSet.mem_toList, ExtTreeSet.mem_toList, hseen,
      Bool.not_eq_true', <- Bool.not_eq_true, ExtTreeSet.contains_iff_mem]
  · intro id
    rw [mem_sortedIds, hsources.waived]
  · intro id
    rw [mem_sortedIds, hsources.expired]
  · intro id
    exact mem_sortedIds.trans (by rw [hsources.denied])

end Answered

end GraphHelm
