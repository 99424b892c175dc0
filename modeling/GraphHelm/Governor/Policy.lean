import GraphHelm.Library.OrderedMap
import GraphHelm.Governor.Drafts

/-!
# Policy

`evaluate_transition` of `core/policy/src/evaluator.rs`: the obligations a
candidate graph owes the version it would succeed, and what an owner's override
waives of them.
-/

namespace GraphHelm

open Std

abbrev Obligations := ExtTreeMap String PolicyObligation

/-!
## Overrides
-/

/-- Unicode white space, which `str::trim` takes off. -/
def isWhiteSpace (c : Char) : Bool :=
  (9 <= c.toNat && c.toNat <= 13) || c.toNat = 0x20 || c.toNat = 0x85 || c.toNat = 0xa0 ||
    c.toNat = 0x1680 || (0x2000 <= c.toNat && c.toNat <= 0x200a) || c.toNat = 0x2028 ||
    c.toNat = 0x2029 || c.toNat = 0x202f || c.toNat = 0x205f || c.toNat = 0x3000

def overrideLimitPath (request : ManualOverride) : Option String :=
  if 64 < request.waivedRequirements.length then
    some "/manualOverride/waivedRequirements"
  else if 64 < request.acknowledgedRisks.length then
    some "/manualOverride/acknowledgedRisks"
  else if 256 < request.actor.id.length then
    some "/manualOverride/actor/id"
  else if 2048 < request.reason.length then
    some "/manualOverride/reason"
  else if request.waivedRequirements.any fun value => decide (128 < value.length) then
    some "/manualOverride/waivedRequirements"
  else if request.acknowledgedRisks.any fun value => decide (512 < value.length) then
    some "/manualOverride/acknowledgedRisks"
  else
    none

def overrideLimitDiagnostic (path : String) : Diagnostic :=
  Diagnostic.error "GHP001_OVERRIDE_LIMIT_EXCEEDED"
    "manual override exceeds the supported collection or text limit" path "manualOverride"

def completeOwnerOverride (request : ManualOverride) : Bool :=
  request.actor.isOwner && !request.reason.toList.all isWhiteSpace &&
    !request.waivedRequirements.isEmpty && !request.acknowledgedRisks.isEmpty

/-!
## Obligations
-/

def diagnosticEvidence (diagnostic : Diagnostic) : String :=
  s!"diagnostic:{diagnostic.code}:{diagnostic.path}"

/-- What the candidate owes a node of the base that no version may drop. -/
def requiredObligation (candidate : ExecutionGraph) (id : String) : PolicyObligation :=
  if candidate.nodes.contains id then
    { requirement := id
      status := .satisfied
      evidence := [s!"graph-node:{id}"]
      reason := "required predecessor obligation is preserved"
      overrideable := true }
  else
    { requirement := id
      status := .unsatisfied
      evidence := [s!"graph-node:{id}"]
      reason := "required predecessor obligation was removed"
      overrideable := true }

def bypassedObligation (requirement : String) : PolicyObligation :=
  { requirement := requirement
    status := .unsatisfied
    evidence := ["candidate-policy:bypassedRequirements"]
    reason := "candidate declares this quality requirement bypassed"
    overrideable := true }

def structuralRequirement (code : String) : String :=
  match code with
  | "GHG009_DEPLOY_TARGET_MISSING" => "deploy_target"
  | "GHG006_UNCONTROLLED_CYCLE" => "controlled_cycle"
  | "GHG010_COMPENSATION_MISSING" => "compensation"
  | "GHG008_INLINE_SECRET" => "inline_secret"
  | "GHG014_HARD_POLICY_DENIED" => "hard_policy"
  | other => other.map Char.toLower

def structuralObligation (diagnostic : Diagnostic) : PolicyObligation :=
  { requirement := structuralRequirement diagnostic.code
    status := .impossible
    evidence := [diagnosticEvidence diagnostic]
    reason := diagnostic.message
    overrideable := false }

def unknownObligation (requirement : String) : PolicyObligation :=
  { requirement := requirement
    status := .unsatisfied
    evidence := ["owner-override:unknown-requirement"]
    reason := "override names no discovered policy obligation"
    overrideable := false }

mutual

def collectBypassed : Json -> List String
  | .object members =>
      (((members.lookup "bypassedRequirements").bind Json.asArray).getD []).filterMap
          Json.asString ++
        collectBypassedMembers members
  | .array items => collectBypassedItems items
  | _ => []

def collectBypassedItems : List Json -> List String
  | [] => []
  | item :: rest => collectBypassed item ++ collectBypassedItems rest

def collectBypassedMembers : List (String × Json) -> List String
  | [] => []
  | (_, item) :: rest => collectBypassed item ++ collectBypassedMembers rest

end

def bypassedRequirements (graph : ExecutionGraph) : List String :=
  graph.policies.flatMap collectBypassed

def discoveredObligations (env : GovernorEnvironment) (base : GraphVersion)
    (candidate : ExecutionGraph) : Obligations :=
  let required :=
    base.graph.nodes.toList.foldl
      (fun obligations (id, node) =>
        if node.nodeType = .gate || node.optionality = .required then
          obligations.insert id (requiredObligation candidate id)
        else
          obligations)
      (∅ : Obligations)
  let bypassed :=
    (bypassedRequirements candidate).foldl
      (fun obligations requirement =>
        obligations.insertIfNew requirement (bypassedObligation requirement))
      required
  (env.lint candidate "candidate").foldl
    (fun obligations diagnostic =>
      let obligation := structuralObligation diagnostic
      obligations.insert obligation.requirement obligation)
    bypassed

def waive (request : ManualOverride) (obligation : PolicyObligation) : PolicyObligation :=
  if obligation.overrideable && obligation.status = .unsatisfied &&
      request.waivedRequirements.contains obligation.requirement then
    { obligation with
      status := .waived
      reason := request.reason
      evidence :=
        obligation.evidence ++
          s!"owner-override:{request.actor.id}" ::
            request.acknowledgedRisks.map fun risk =>
              s!"owner-override-acknowledged-risk:{risk}" }
  else
    obligation

def overriddenObligations (request : ManualOverride) (obligations : Obligations) :
    Obligations :=
  let named :=
    request.waivedRequirements.foldl
      (fun obligations requirement =>
        obligations.insertIfNew requirement (unknownObligation requirement))
      obligations
  named.map fun _ => waive request

/-!
## The decision
-/

def isImpossible (obligation : PolicyObligation) : Bool := obligation.status = .impossible

def isUnsatisfied (obligation : PolicyObligation) : Bool := obligation.status = .unsatisfied

def isWaived (obligation : PolicyObligation) : Bool := obligation.status = .waived

def limitReport (path : String) : PolicyReport :=
  let diagnostic := overrideLimitDiagnostic path
  { obligations :=
      [{ requirement := "manual_override_limits"
         status := .impossible
         evidence := [diagnosticEvidence diagnostic]
         reason := diagnostic.message
         overrideable := false }]
    diagnostics := [diagnostic]
    resultStatus := "blocked" }

def overridePolicyApplies (obligations : List PolicyObligation) (requirements : List Json) :
    Bool :=
  let names := requirements.filterMap Json.asString
  names.length = requirements.length && !names.isEmpty &&
    names.all fun name =>
      name != "" &&
        obligations.any fun obligation => obligation.requirement = name && isWaived obligation

def overridePolicy (members : List (String × Json)) :
    Option (List (String × Json) × Option (List Json)) :=
  ((members.lookup "manualOverride").bind Json.asObject).map fun policy =>
    (policy, (policy.lookup "bypassedRequirements").bind Json.asArray)

mutual

/-- `find` of `result_label`: the label of the first override policy that applies. -/
def findLabel (obligations : List PolicyObligation) : Json -> Option String
  | .object members =>
      match overridePolicy members with
      | some (_, none) => none
      | some (policy, some requirements) =>
          if overridePolicyApplies obligations requirements then
            (policy.lookup "resultLabel").bind Json.asString
          else
            findLabelMembers obligations members
      | none => findLabelMembers obligations members
  | .array items => findLabelItems obligations items
  | _ => none

def findLabelItems (obligations : List PolicyObligation) : List Json -> Option String
  | [] => none
  | item :: rest => (findLabel obligations item).or (findLabelItems obligations rest)

def findLabelMembers (obligations : List PolicyObligation) :
    List (String × Json) -> Option String
  | [] => none
  | (_, item) :: rest => (findLabel obligations item).or (findLabelMembers obligations rest)

end

def resultLabel (graph : ExecutionGraph) (obligations : List PolicyObligation) :
    Option String :=
  graph.policies.findSome? (findLabel obligations)

def resultStatus (candidate : ExecutionGraph) (obligations : List PolicyObligation) : String :=
  if obligations.any fun item => isUnsatisfied item || isImpossible item then
    "blocked"
  else if obligations.any isWaived then
    (resultLabel candidate obligations).getD "completed_with_waivers"
  else
    "ready"

def evaluateTransition (env : GovernorEnvironment) (base : GraphVersion)
    (candidate : ExecutionGraph) (manualOverride : Option ManualOverride) : PolicyReport :=
  match manualOverride.bind overrideLimitPath with
  | some path => limitReport path
  | none =>
      let discovered := discoveredObligations env base candidate
      let decided :=
        match manualOverride.filter completeOwnerOverride with
        | some request => overriddenObligations request discovered
        | none => discovered
      let obligations := decided.toList.map Prod.snd
      { obligations := obligations
        diagnostics := env.lint candidate "candidate"
        resultStatus := resultStatus candidate obligations }

/-!
## Only an override waives
-/

theorem requiredObligation_not_waived (candidate : ExecutionGraph) (id : String) :
    isWaived (requiredObligation candidate id) = false := by
  unfold requiredObligation
  split <;> rfl

theorem discoveredObligations_not_waived (env : GovernorEnvironment) (base : GraphVersion)
    (candidate : ExecutionGraph) :
    OrderedMap.AllValues (fun obligation => isWaived obligation = false)
      (discoveredObligations env base candidate) := by
  unfold discoveredObligations
  refine OrderedMap.AllValues.foldl ?_ (OrderedMap.AllValues.foldl ?_
    (OrderedMap.AllValues.foldl ?_ OrderedMap.AllValues.empty))
  · intro obligations diagnostic h
    exact h.insert rfl
  · intro obligations requirement h
    exact h.insertIfNew rfl
  · rintro obligations ⟨id, node⟩ h
    dsimp only
    split
    · exact h.insert (requiredObligation_not_waived candidate id)
    · exact h

theorem evaluateTransition_not_waived {env : GovernorEnvironment} {base : GraphVersion}
    {candidate : ExecutionGraph} {obligation : PolicyObligation}
    (h : obligation ∈ (evaluateTransition env base candidate none).obligations) :
    isWaived obligation = false := by
  have hlisted : obligation ∈ (discoveredObligations env base candidate).toList.map Prod.snd := h
  rcases List.mem_map.mp hlisted with ⟨⟨requirement, found⟩, hmem, hfound⟩
  have hget := ExtTreeMap.mem_toList_iff_getElem?_eq_some.mp hmem
  exact hfound ▸ discoveredObligations_not_waived env base candidate requirement found hget

end GraphHelm
