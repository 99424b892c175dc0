import GraphHelm.Governor.Protection

/-!
# Declared bypasses

A requirement that the policies of a candidate declare bypassed, at any depth, is owed until
the owner waives it, unless a node that the base requires and the candidate keeps has its
name: that obligation is satisfied, and the bypass is not entered beside it.
-/

namespace GraphHelm

open Std

/-!
## What a policy declares
-/

inductive Declares (requirement : String) : Json -> Prop where
  | here {members : List (String × Json)} {items : List Json} :
      (members.lookup "bypassedRequirements").bind Json.asArray = some items ->
        .string requirement ∈ items -> Declares requirement (.object members)
  | member {members : List (String × Json)} {name : String} {value : Json} :
      (name, value) ∈ members -> Declares requirement value ->
        Declares requirement (.object members)
  | item {items : List Json} {value : Json} :
      value ∈ items -> Declares requirement value -> Declares requirement (.array items)

section Collecting

variable {requirement : String}

theorem mem_collectBypassedMembers {members : List (String × Json)} {name : String} {value : Json}
    (hmember : (name, value) ∈ members) (h : requirement ∈ collectBypassed value) :
    requirement ∈ collectBypassedMembers members := by
  induction members with
  | nil => cases hmember
  | cons first rest ih =>
      simp only [collectBypassedMembers, List.mem_append]
      rcases List.mem_cons.mp hmember with heq | hlater
      · subst heq
        exact Or.inl h
      · exact Or.inr (ih hlater)

theorem mem_collectBypassedItems {items : List Json} {value : Json} (hitem : value ∈ items)
    (h : requirement ∈ collectBypassed value) : requirement ∈ collectBypassedItems items := by
  induction items with
  | nil => cases hitem
  | cons first rest ih =>
      simp only [collectBypassedItems, List.mem_append]
      rcases List.mem_cons.mp hitem with heq | hlater
      · subst heq
        exact Or.inl h
      · exact Or.inr (ih hlater)

theorem mem_collectBypassed {policy : Json} (h : Declares requirement policy) :
    requirement ∈ collectBypassed policy := by
  induction h with
  | here hlist hmem =>
      simp only [collectBypassed, hlist, Option.getD_some, List.mem_append]
      exact Or.inl (List.mem_filterMap.mpr ⟨_, hmem, rfl⟩)
  | member hmember _ ih =>
      simp only [collectBypassed, List.mem_append]
      exact Or.inr (mem_collectBypassedMembers hmember ih)
  | item hitem _ ih =>
      simp only [collectBypassed]
      exact mem_collectBypassedItems hitem ih

end Collecting

/-!
## What is discovered under a name
-/

section Discovering

variable {env : GovernorEnvironment} {base : GraphVersion} {candidate : ExecutionGraph}
  {requirement : String} {obligations : Obligations}

def GraphVersion.requires (base : GraphVersion) (id : String) : Bool :=
  base.graph.nodes[id]?.any fun node =>
    (node.nodeType = .gate || node.optionality = .required : Bool)

theorem getElem?_foldl_oweNode {entries : List (String × AuthoredNode)}
    (h : forall node, (requirement, node) ∈ entries ->
      (node.nodeType = .gate || node.optionality = .required : Bool) = false) :
    (entries.foldl (oweNode candidate) obligations)[requirement]? = obligations[requirement]? := by
  induction entries generalizing obligations with
  | nil => rfl
  | cons entry rest ih =>
      rw [List.foldl_cons, ih fun node hmem => h node (List.mem_cons_of_mem _ hmem)]
      simp only [oweNode]
      split
      · rename_i hprotected
        have hne : entry.1 ≠ requirement := by
          intro heq
          have hnone := h entry.2 (List.mem_cons.mpr (Or.inl (by rw [← heq])))
          rw [hprotected] at hnone
          cases hnone
        exact OrderedMap.getElem?_insert_of_ne hne
      · rfl

/-- What stands under a name before the errors of the lint are entered. -/
def declaredObligation (base : GraphVersion) (candidate : ExecutionGraph)
    (requirement : String) : PolicyObligation :=
  if base.requires requirement then
    requiredObligation candidate requirement
  else
    bypassedObligation requirement

theorem getElem?_required :
    (base.graph.nodes.toList.foldl (oweNode candidate) ∅)[requirement]? =
      if base.requires requirement then some (requiredObligation candidate requirement)
      else none := by
  cases hnode : base.graph.nodes[requirement]? with
  | none =>
      have hrequires : base.requires requirement = false := by
        simp [GraphVersion.requires, hnode]
      rw [hrequires, getElem?_foldl_oweNode]
      · simp
      · intro node hmem
        rw [ExtTreeMap.mem_toList_iff_getElem?_eq_some, hnode] at hmem
        cases hmem
  | some node =>
      have hmem := ExtTreeMap.mem_toList_iff_getElem?_eq_some.mpr hnode
      cases hprotected : (node.nodeType = .gate || node.optionality = .required : Bool) with
      | true =>
          have hrequires : base.requires requirement = true := by
            simpa [GraphVersion.requires, hnode] using hprotected
          rw [hrequires, owed_foldl_oweNode hmem hprotected]
          rfl
      | false =>
          have hrequires : base.requires requirement = false := by
            simpa [GraphVersion.requires, hnode] using hprotected
          rw [hrequires, getElem?_foldl_oweNode]
          · simp
          · intro other hother
            rw [ExtTreeMap.mem_toList_iff_getElem?_eq_some, hnode] at hother
            cases hother
            exact hprotected

/-- Under a bypassed requirement stands the last error of its name, and without one what the
base or the policy entered. -/
theorem discovered_of_bypassed (h : requirement ∈ bypassedRequirements candidate) :
    (discoveredObligations env base candidate)[requirement]? =
      (((env.lint candidate "candidate").map structuralObligation).reverse.find? fun obligation =>
          decide (obligation.requirement = requirement)).or
        (some (declaredObligation base candidate requirement)) := by
  have hentered :
      ((bypassedRequirements candidate).foldl
          (fun obligations name => obligations.insertIfNew name (bypassedObligation name))
          (base.graph.nodes.toList.foldl (oweNode candidate) ∅))[requirement]? =
        some (declaredObligation base candidate requirement) := by
    rw [OrderedMap.getElem?_foldl_insertIfNew, getElem?_required, if_pos h]
    unfold declaredObligation
    split
    · rfl
    · rfl
  rw [<- hentered, <- OrderedMap.getElem?_foldl_insert, List.foldl_map]
  rfl

end Discovering

/-!
## Who answers for a bypass
-/

def PolicyReport.Owes (report : PolicyReport) (requirement : String) : Prop :=
  (report.status? requirement = some .unsatisfied ∨
      report.status? requirement = some .impossible) ∧
    report.resultStatus = "blocked"

def BypassHeard (env : GovernorEnvironment) (base : GraphVersion) (candidate : ExecutionGraph)
    (manualOverride : Option ManualOverride) (requirement : String) : Prop :=
  match manualOverride.bind overrideLimitPath with
  | some _ => requirement = "manual_override_limits"
  | none =>
      base.requires requirement = true -> candidate.nodes.contains requirement = true ->
        exists diagnostic, diagnostic ∈ env.lint candidate "candidate" ∧
          structuralRequirement diagnostic.code = requirement

section Answering

variable {env : GovernorEnvironment} {base : GraphVersion} {candidate : ExecutionGraph}
  {manualOverride : Option ManualOverride} {requirement : String}

theorem blocked_of_status (hlimits : manualOverride.bind overrideLimitPath = none)
    (h : (evaluateTransition env base candidate manualOverride).status? requirement =
        some .unsatisfied ∨
      (evaluateTransition env base candidate manualOverride).status? requirement =
        some .impossible) :
    (evaluateTransition env base candidate manualOverride).resultStatus = "blocked" := by
  have hlisted : exists obligation,
      obligation ∈ (evaluateTransition env base candidate manualOverride).obligations ∧
        (isUnsatisfied obligation || isImpossible obligation) = true := by
    rcases h with h | h
    · rcases Option.map_eq_some_iff.mp h with ⟨obligation, hfound, hstatus⟩
      exact ⟨obligation, List.mem_of_find?_eq_some hfound, by simp [isUnsatisfied, hstatus]⟩
    · rcases Option.map_eq_some_iff.mp h with ⟨obligation, hfound, hstatus⟩
      exact ⟨obligation, List.mem_of_find?_eq_some hfound, by simp [isImpossible, hstatus]⟩
  have hany := List.any_eq_true.mpr hlisted
  revert hany
  unfold evaluateTransition
  rw [hlimits]
  intro hany
  exact if_pos hany

theorem status?_of_bypassed (hlimits : manualOverride.bind overrideLimitPath = none)
    (hunwaived : manualOverride.filter completeOwnerOverride = none)
    (h : requirement ∈ bypassedRequirements candidate) :
    (evaluateTransition env base candidate manualOverride).status? requirement =
      some (if requirement ∈ (env.lint candidate "candidate").map fun diagnostic =>
          structuralRequirement diagnostic.code then
        .impossible
      else
        (declaredObligation base candidate requirement).status) := by
  have hdecided : decidedObligations env base candidate manualOverride =
      discoveredObligations env base candidate := by
    unfold decidedObligations
    rw [hunwaived]
  unfold PolicyReport.status?
  rw [obligation?_evaluateTransition hlimits, hdecided, discovered_of_bypassed h]
  cases hfound : ((env.lint candidate "candidate").map structuralObligation).reverse.find?
      fun obligation => decide (obligation.requirement = requirement) with
  | some obligation =>
      have hmem := List.mem_reverse.mp (List.mem_of_find?_eq_some hfound)
      have hname : obligation.requirement = requirement := by
        simpa using List.find?_some hfound
      rcases List.mem_map.mp hmem with ⟨diagnostic, hdiagnostic, heq⟩
      subst heq
      rw [if_pos (List.mem_map.mpr ⟨diagnostic, hdiagnostic, hname⟩)]
      rfl
  | none =>
      rw [if_neg]
      · rfl
      · intro hmem
        rcases List.mem_map.mp hmem with ⟨diagnostic, hdiagnostic, hname⟩
        have hnot := List.find?_eq_none.mp hfound (structuralObligation diagnostic)
          (List.mem_reverse.mpr (List.mem_map_of_mem hdiagnostic))
        exact hnot (decide_eq_true hname)

theorem status_declaredObligation :
    (declaredObligation base candidate requirement).status =
      if base.requires requirement && candidate.nodes.contains requirement then
        .satisfied
      else
        .unsatisfied := by
  unfold declaredObligation requiredObligation bypassedObligation
  cases base.requires requirement with
  | false => rfl
  | true =>
      cases candidate.nodes.contains requirement with
      | false => rfl
      | true => rfl

theorem requirement_of_limitReport {path : String}
    (h : ((limitReport path).status? requirement).isSome = true) :
    requirement = "manual_override_limits" := by
  rcases Option.isSome_iff_exists.mp h with ⟨status, hstatus⟩
  rcases Option.map_eq_some_iff.mp hstatus with ⟨obligation, hfound, _⟩
  have hname : obligation.requirement = requirement := by
    unfold PolicyReport.obligation? at hfound
    simpa using List.find?_some hfound
  rw [<- hname, List.mem_singleton.mp (List.mem_of_find?_eq_some hfound)]

end Answering

/-- A declared bypass that no complete override of the owner answers for is owed exactly when
neither the size of an override nor a required node of its name hides it. -/
theorem bypass_owed_iff {env : GovernorEnvironment} {base : GraphVersion}
    {candidate : ExecutionGraph} {manualOverride : Option ManualOverride} {requirement : String}
    (hdeclared : exists policy, policy ∈ candidate.policies ∧ Declares requirement policy)
    (hunwaived : manualOverride.filter completeOwnerOverride = none) :
    (evaluateTransition env base candidate manualOverride).Owes requirement <->
      BypassHeard env base candidate manualOverride requirement := by
  rcases hdeclared with ⟨policy, hpolicy, hdeclares⟩
  have hbypassed : requirement ∈ bypassedRequirements candidate :=
    List.mem_flatMap.mpr ⟨policy, hpolicy, mem_collectBypassed hdeclares⟩
  unfold BypassHeard
  cases hlimits : manualOverride.bind overrideLimitPath with
  | some path =>
      have hreport : evaluateTransition env base candidate manualOverride = limitReport path := by
        unfold evaluateTransition
        rw [hlimits]
      rw [hreport]
      constructor
      · intro howes
        have hreported : ((limitReport path).status? requirement).isSome = true := by
          rcases howes.left with h | h
          · rw [h]
            rfl
          · rw [h]
            rfl
        exact requirement_of_limitReport hreported
      · intro heq
        rw [heq]
        exact ⟨Or.inr rfl, rfl⟩
  | none =>
      have hstatus := @status?_of_bypassed env base candidate manualOverride requirement hlimits
        hunwaived hbypassed
      rw [status_declaredObligation] at hstatus
      constructor
      · intro howes hrequires hcontains
        by_contra hunheard
        have hnot : ¬ requirement ∈ (env.lint candidate "candidate").map fun diagnostic =>
            structuralRequirement diagnostic.code := by
          intro hmem
          rcases List.mem_map.mp hmem with ⟨diagnostic, hdiagnostic, hname⟩
          exact hunheard ⟨diagnostic, hdiagnostic, hname⟩
        rw [if_neg hnot, hrequires, hcontains] at hstatus
        rcases howes.left with h | h
        · rw [hstatus] at h
          cases h
        · rw [hstatus] at h
          cases h
      · intro hheard
        have hheld :
            (evaluateTransition env base candidate manualOverride).status? requirement =
                some .unsatisfied ∨
              (evaluateTransition env base candidate manualOverride).status? requirement =
                some .impossible := by
          rw [hstatus]
          split
          · exact Or.inr rfl
          · rename_i hnot
            split
            · rename_i hkept
              rw [Bool.and_eq_true] at hkept
              rcases hheard hkept.left hkept.right with ⟨diagnostic, hdiagnostic, hname⟩
              exact absurd (List.mem_map.mpr ⟨diagnostic, hdiagnostic, hname⟩) hnot
            · exact Or.inl rfl
        exact ⟨hheld, blocked_of_status hlimits hheld⟩

namespace Sample

/-- A policy that declares two requirements bypassed below its top level. -/
def bypassing : Json :=
  .object
    [("manualOverride",
      .object [("bypassedRequirements", .array [.string "review", .string "benchmark"])])]

def bypassed : ExecutionGraph := { planned with policies := [bypassing] }

theorem bypassing_declares {requirement : String}
    (h : Json.string requirement ∈ [Json.string "review", Json.string "benchmark"]) :
    Declares requirement bypassing :=
  Declares.member List.mem_cons_self (Declares.here rfl h)

end Sample

/-- A bypassed requirement that no node of the base is named after is owed. -/
theorem bypass_owed_without_a_node :
    (evaluateTransition Sample.governorEnv Sample.plannedVersion Sample.bypassed none).Owes
      "benchmark" := by
  have hdeclared : exists policy, policy ∈ Sample.bypassed.policies ∧
      Declares "benchmark" policy :=
    ⟨Sample.bypassing, List.mem_cons_self, Sample.bypassing_declares (by simp)⟩
  apply (bypass_owed_iff hdeclared rfl).mpr
  intro hrequires
  revert hrequires
  decide +kernel

/-- A required node that the candidate keeps hides the bypass of its name. -/
theorem bypass_hidden_by_a_node :
    ¬ (forall (env : GovernorEnvironment) (base : GraphVersion) (candidate : ExecutionGraph)
        (manualOverride : Option ManualOverride) (requirement : String),
        (exists policy, policy ∈ candidate.policies ∧ Declares requirement policy) ->
          manualOverride.filter completeOwnerOverride = none ->
            (evaluateTransition env base candidate manualOverride).Owes requirement) := by
  intro hclaim
  have howes := hclaim Sample.governorEnv Sample.plannedVersion Sample.bypassed none "review"
    ⟨Sample.bypassing, List.mem_cons_self, Sample.bypassing_declares (by simp)⟩ rfl
  have hstatus : (evaluateTransition Sample.governorEnv Sample.plannedVersion Sample.bypassed
      none).status? "review" = some .satisfied := by decide +kernel
  rcases howes.left with h | h
  · rw [hstatus] at h
    cases h
  · rw [hstatus] at h
    cases h

end GraphHelm
