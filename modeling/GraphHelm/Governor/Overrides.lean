import GraphHelm.Governor.Calls

/-!
# What an owner's override can do

An override whose size is within its limits changes the status of the
requirements it names and may waive, and of nothing else.  What it waives is on
record: a batch that publishes a version carries one waiver for each obligation
that was waived, and a batch that rejects a draft carries none.
-/

namespace GraphHelm

open Std

/-!
## Reports by requirement
-/

namespace PolicyReport

def obligation? (report : PolicyReport) (requirement : String) : Option PolicyObligation :=
  report.obligations.find? fun obligation => obligation.requirement = requirement

def status? (report : PolicyReport) (requirement : String) : Option ObligationStatus :=
  (report.obligation? requirement).map PolicyObligation.status

end PolicyReport

def ManualOverride.names (request : ManualOverride) (requirement : String) : Bool :=
  completeOwnerOverride request && request.waivedRequirements.contains requirement

def ManualOverride.statusAfter (request : ManualOverride) (requirement : String) :
    Option PolicyObligation -> Option ObligationStatus
  | some obligation =>
      if request.names requirement && obligation.overrideable &&
          obligation.status = .unsatisfied then
        some .waived
      else
        some obligation.status
  | none => if request.names requirement then some .unsatisfied else none

/-- An override changes what it is entitled to change, and nothing else. -/
structure OverrideAuthority (env : GovernorEnvironment) (base : GraphVersion)
    (candidate : ExecutionGraph) (request : ManualOverride) : Prop where
  statuses : forall requirement,
    (evaluateTransition env base candidate (some request)).status? requirement =
      request.statusAfter requirement
        ((evaluateTransition env base candidate none).obligation? requirement)
  impossible : forall obligation,
    obligation ∈ (evaluateTransition env base candidate none).obligations ->
      obligation.status = .impossible ->
        (evaluateTransition env base candidate (some request)).status? obligation.requirement =
          some .impossible
  powerless : completeOwnerOverride request = false ->
    evaluateTransition env base candidate (some request) =
      evaluateTransition env base candidate none

/-!
## Obligations under their requirements
-/

def Keyed (obligations : Obligations) : Prop :=
  forall (requirement : String) (obligation : PolicyObligation),
    obligations[requirement]? = some obligation -> obligation.requirement = requirement

variable {obligation : PolicyObligation} {acceptance : Option ExecutionDraftAcceptance}

section Keyed

variable {obligations : Obligations}

theorem Keyed.empty : Keyed (∅ : Obligations) := by
  intro requirement obligation h
  simp at h

theorem Keyed.insert (h : Keyed obligations) {requirement : String}
    (hkey : obligation.requirement = requirement) :
    Keyed (obligations.insert requirement obligation) := by
  intro other found hget
  by_cases heq : requirement = other
  · rw [heq, ExtTreeMap.getElem?_insert_self] at hget
    cases hget
    exact hkey.trans heq
  · rw [OrderedMap.getElem?_insert_of_ne heq] at hget
    exact h other found hget

theorem Keyed.insertIfNew (h : Keyed obligations) {requirement : String}
    (hkey : obligation.requirement = requirement) :
    Keyed (obligations.insertIfNew requirement obligation) := by
  intro other found hget
  rw [ExtTreeMap.getElem?_insertIfNew] at hget
  split at hget
  · rename_i hnew
    cases hget
    exact hkey.trans (LawfulEqOrd.eq_of_compare hnew.left)
  · exact h other found hget

theorem Keyed.foldl {α : Type} {step : Obligations -> α -> Obligations}
    (hstep : forall obligations x, Keyed obligations -> Keyed (step obligations x)) {xs : List α}
    (h : Keyed obligations) : Keyed (xs.foldl step obligations) := by
  induction xs generalizing obligations with
  | nil => exact h
  | cons x rest ih => exact ih (hstep obligations x h)

theorem requiredObligation_requirement (candidate : ExecutionGraph) (id : String) :
    (requiredObligation candidate id).requirement = id := by
  unfold requiredObligation
  split
  · rfl
  · rfl

theorem discoveredObligations_keyed (env : GovernorEnvironment) (base : GraphVersion)
    (candidate : ExecutionGraph) : Keyed (discoveredObligations env base candidate) := by
  unfold discoveredObligations
  apply Keyed.foldl
  · intro obligations diagnostic h
    exact h.insert rfl
  · apply Keyed.foldl
    · intro obligations requirement h
      exact h.insertIfNew rfl
    · apply Keyed.foldl
      · intro obligations entry h
        dsimp only
        split
        · exact h.insert (requiredObligation_requirement candidate entry.1)
        · exact h
      · exact Keyed.empty

theorem waive_requirement (request : ManualOverride) (obligation : PolicyObligation) :
    (waive request obligation).requirement = obligation.requirement := by
  unfold waive
  split
  · rfl
  · rfl

theorem getElem?_overriddenObligations (request : ManualOverride) (obligations : Obligations)
    (requirement : String) :
    (overriddenObligations request obligations)[requirement]? =
      match obligations[requirement]? with
      | some obligation => some (waive request obligation)
      | none =>
          if request.waivedRequirements.contains requirement then
            some (unknownObligation requirement)
          else
            none := by
  unfold overriddenObligations
  rw [ExtTreeMap.getElem?_map, OrderedMap.getElem?_foldl_insertIfNew]
  cases hget : obligations[requirement]? with
  | some obligation => rfl
  | none =>
      split
      · rename_i hnamed
        simp [waive, unknownObligation, hnamed]
      · rename_i hnamed
        simp [hnamed]

theorem overriddenObligations_keyed {request : ManualOverride} (h : Keyed obligations) :
    Keyed (overriddenObligations request obligations) := by
  intro requirement obligation hget
  rw [getElem?_overriddenObligations] at hget
  split at hget
  · rename_i found hfound
    cases hget
    rw [waive_requirement]
    exact h requirement found hfound
  · split at hget
    · cases hget
      rfl
    · cases hget

theorem requirements_nodup (h : Keyed obligations) :
    ((obligations.toList.map Prod.snd).map PolicyObligation.requirement).Nodup := by
  have hkeys : (obligations.toList.map Prod.snd).map PolicyObligation.requirement =
      obligations.keys := by
    rw [List.map_map, <- ExtTreeMap.map_fst_toList_eq_keys]
    apply List.map_congr_left
    intro entry hentry
    exact h entry.1 entry.2 (ExtTreeMap.mem_toList_iff_getElem?_eq_some.mp hentry)
  rw [hkeys]
  exact ExtTreeMap.nodup_keys

theorem mem_obligations (h : Keyed obligations) :
    obligation ∈ obligations.toList.map Prod.snd <->
      obligations[obligation.requirement]? = some obligation := by
  rw [List.mem_map]
  constructor
  · intro hmem
    rcases hmem with ⟨entry, hentry, heq⟩
    have hlisted := ExtTreeMap.mem_toList_iff_getElem?_eq_some.mp hentry
    have hkey := h entry.1 entry.2 hlisted
    subst heq
    rw [hkey]
    exact hlisted
  · intro hget
    exact ⟨(obligation.requirement, obligation),
      ExtTreeMap.mem_toList_iff_getElem?_eq_some.mpr hget, rfl⟩

end Keyed

/-!
## Reports with and without an override
-/

section Reports

variable {env : GovernorEnvironment} {base : GraphVersion} {candidate : ExecutionGraph}

/-- The obligations a report within the limits is made of. -/
def decidedObligations (env : GovernorEnvironment) (base : GraphVersion)
    (candidate : ExecutionGraph) (manualOverride : Option ManualOverride) : Obligations :=
  match manualOverride.filter completeOwnerOverride with
  | some request => overriddenObligations request (discoveredObligations env base candidate)
  | none => discoveredObligations env base candidate

theorem decidedObligations_keyed (manualOverride : Option ManualOverride) :
    Keyed (decidedObligations env base candidate manualOverride) := by
  unfold decidedObligations
  split
  · exact overriddenObligations_keyed (discoveredObligations_keyed env base candidate)
  · exact discoveredObligations_keyed env base candidate

variable {manualOverride : Option ManualOverride} {request : ManualOverride}

theorem evaluateTransition_obligations (h : manualOverride.bind overrideLimitPath = none) :
    (evaluateTransition env base candidate manualOverride).obligations =
      (decidedObligations env base candidate manualOverride).toList.map Prod.snd := by
  unfold evaluateTransition
  rw [h]
  rfl

theorem obligation?_evaluateTransition (h : manualOverride.bind overrideLimitPath = none)
    (requirement : String) :
    (evaluateTransition env base candidate manualOverride).obligation? requirement =
      (decidedObligations env base candidate manualOverride)[requirement]? := by
  have hkeyed := @decidedObligations_keyed env base candidate manualOverride
  apply Option.ext
  intro obligation
  unfold PolicyReport.obligation?
  rw [evaluateTransition_obligations h,
    OrderedMap.find?_key_eq_some (requirements_nodup hkeyed), mem_obligations hkeyed]
  constructor
  · intro hfound
    exact hfound.right ▸ hfound.left
  · intro hget
    have hname := hkeyed requirement obligation hget
    exact ⟨hname.symm ▸ hget, hname⟩

theorem evaluateTransition_nodup (manualOverride : Option ManualOverride) :
    ((evaluateTransition env base candidate manualOverride).obligations.map
      PolicyObligation.requirement).Nodup := by
  cases hlimit : manualOverride.bind overrideLimitPath with
  | none =>
      rw [evaluateTransition_obligations hlimit]
      exact requirements_nodup (decidedObligations_keyed manualOverride)
  | some path =>
      unfold evaluateTransition
      rw [hlimit]
      exact List.nodup_singleton _

theorem status_waive (request : ManualOverride) (hcomplete : completeOwnerOverride request = true)
    (obligation : PolicyObligation) :
    some (waive request obligation).status =
      request.statusAfter obligation.requirement (some obligation) := by
  unfold waive ManualOverride.statusAfter ManualOverride.names
  cases hoverrideable : obligation.overrideable with
  | false => simp [hoverrideable]
  | true =>
      cases hnamed : request.waivedRequirements.contains obligation.requirement with
      | false => simp [hcomplete]
      | true =>
          by_cases hstatus : obligation.status = .unsatisfied
          · simp [hcomplete, hoverrideable, hstatus]
          · simp [hcomplete, hstatus]

theorem powerless_override (hlimits : overrideLimitPath request = none)
    (hincomplete : completeOwnerOverride request = false) :
    evaluateTransition env base candidate (some request) =
      evaluateTransition env base candidate none := by
  unfold evaluateTransition
  simp [hlimits, Option.filter, hincomplete]

theorem status_after_override (hlimits : overrideLimitPath request = none)
    (requirement : String) :
    (evaluateTransition env base candidate (some request)).status? requirement =
      request.statusAfter requirement
        ((evaluateTransition env base candidate none).obligation? requirement) := by
  have hplain : (evaluateTransition env base candidate none).obligation? requirement =
      (discoveredObligations env base candidate)[requirement]? :=
    obligation?_evaluateTransition rfl requirement
  rw [hplain]
  cases hcomplete : completeOwnerOverride request with
  | false =>
      rw [powerless_override hlimits hcomplete]
      unfold PolicyReport.status?
      rw [hplain]
      cases (discoveredObligations env base candidate)[requirement]? with
      | none => simp [ManualOverride.statusAfter, ManualOverride.names, hcomplete]
      | some obligation => simp [ManualOverride.statusAfter, ManualOverride.names, hcomplete]
  | true =>
      unfold PolicyReport.status?
      rw [obligation?_evaluateTransition (by simpa using hlimits)]
      have hdecided : decidedObligations env base candidate (some request) =
          overriddenObligations request (discoveredObligations env base candidate) := by
        simp [decidedObligations, Option.filter, hcomplete]
      rw [hdecided, getElem?_overriddenObligations]
      cases hget : (discoveredObligations env base candidate)[requirement]? with
      | some obligation =>
          have hkey := discoveredObligations_keyed env base candidate requirement obligation hget
          exact hkey ▸ status_waive request hcomplete obligation
      | none =>
          by_cases hnamed : requirement ∈ request.waivedRequirements
          · simp [ManualOverride.statusAfter, ManualOverride.names, hcomplete, hnamed,
              unknownObligation]
          · simp [ManualOverride.statusAfter, ManualOverride.names, hcomplete, hnamed]

theorem obligation?_of_mem
    (h : obligation ∈ (evaluateTransition env base candidate manualOverride).obligations) :
    (evaluateTransition env base candidate manualOverride).obligation? obligation.requirement =
      some obligation :=
  (OrderedMap.find?_key_eq_some (evaluateTransition_nodup manualOverride)).mpr ⟨h, rfl⟩

theorem overrideAuthority (hlimits : overrideLimitPath request = none) :
    OverrideAuthority env base candidate request := by
  constructor
  · exact status_after_override hlimits
  · intro obligation hmem himpossible
    rw [status_after_override hlimits, obligation?_of_mem hmem]
    simp [ManualOverride.statusAfter, himpossible]
  · exact powerless_override hlimits

end Reports

/-!
## Batches
-/

def waiversIn (events : List EventEnvelope) : List PolicyWaiver :=
  events.filterMap fun event => createdWaiver event.toNewEvent

def PolicyReport.waivedRequirements (report : PolicyReport) : List String :=
  (report.obligations.filter isWaived).map PolicyObligation.requirement

/--
A batch that accepts a draft creates one waiver for each obligation its report
has waived; a batch that rejects one creates none.
-/
structure WaiversOnRecord (answer : Except ApplyError ApplyResult)
    (added : List EventEnvelope) : Prop where
  accepted : forall result, answer = .ok result -> added ≠ [] ->
    (waiversIn added).map PolicyWaiver.requirement = result.policyReport.waivedRequirements ∧
      result.policyReport.waivedRequirements.Nodup
  rejected : forall error, answer = .error error -> waiversIn added = []

section Batches

variable {env : GovernorEnvironment} {services : ApplyServices} {base : GraphVersion}
  {draft : GraphDraft} {candidate : ExecutionGraph}

variable {news : List NewEvent} {obligations : List PolicyObligation}
    {request : RequestIdentity}

theorem waiversIn_eq {added : List EventEnvelope}
    (h : added.map EventEnvelope.toNewEvent = news) :
    waiversIn added = news.filterMap createdWaiver := by
  rw [<- h, List.filterMap_map]
  rfl

theorem filterMap_createdWaiver_eq_nil
    (h : forall event, event ∈ news -> createdWaiver event = none) :
    news.filterMap createdWaiver = [] :=
  List.filterMap_eq_nil_iff.mpr h

theorem createdWaiver_of_obligations {evaluated : List NewEvent}
    (h : obligationEvents env request obligations = .ok evaluated) :
    evaluated.filterMap createdWaiver = [] := by
  apply filterMap_createdWaiver_eq_nil
  intro event hmem
  rcases obligationEvents_kind h hmem with ⟨payload, hkind⟩
  unfold createdWaiver
  rw [hkind]

theorem createdWaiver_of_proposed {proposal : NewEvent}
    (h : proposed env request = .ok proposal) : createdWaiver proposal = none := by
  rcases proposed_eq_ok h with ⟨payload, digest, hcarries, _⟩
  unfold createdWaiver
  rw [hcarries.kind_eq]

theorem waivers_of_rejection {error : ApplyError}
    (h : rejectionEvents env request obligations error = .ok news) :
    news.filterMap createdWaiver = [] := by
  unfold rejectionEvents at h
  rcases bind_ok h with ⟨proposal, hproposal, h⟩
  rcases bind_ok h with ⟨evaluated, hevaluated, h⟩
  rcases bind_ok h with ⟨draftId, _, h⟩
  rcases bind_ok h with ⟨rejected, hrejected, h⟩
  cases h
  have hlast : createdWaiver rejected = none := by
    unfold createdWaiver
    rw [(carriesPayload_of_governorEvent hrejected).kind_eq]
  rw [List.filterMap_cons_none (createdWaiver_of_proposed hproposal), List.filterMap_append,
    createdWaiver_of_obligations hevaluated, List.nil_append, List.filterMap_cons_none hlast,
    List.filterMap_nil]

theorem createdWaiver_of_ghosts {executionId : OpaqueId} {refs : List EvidenceReference}
    {index : Nat} {operations : List DraftOperation} {ghosts : List NewEvent}
    (h : ghostEvents env request executionId refs index operations = .ok ghosts) :
    ghosts.filterMap createdWaiver = [] := by
  induction operations generalizing index ghosts with
  | nil =>
      cases h
      rfl
  | cons operation rest ih =>
      cases hadded : operation.addedNode with
      | none =>
          rw [ghostEvents_skip hadded] at h
          exact ih h
      | some id =>
          rcases ghostEvents_cons hadded h with ⟨key, payload, more, _, _, _, _, heq, hmore⟩
          subst heq
          rw [List.filterMap_cons_none rfl]
          exact ih hmore

theorem createdWaiver_of_acceptance {executionId : OpaqueId} {number : Nat}
    {decided : List NewEvent}
    (h : acceptanceEvents env request executionId number acceptance = .ok decided) :
    decided.filterMap createdWaiver = [] := by
  cases acceptance with
  | none =>
      cases h
      rfl
  | some value =>
      rcases acceptanceEvents_eq_ok h with ⟨decisions, key, payload, hdecisions, _, _, _, _, _, heq⟩
      subst heq
      rw [List.filterMap_append, List.append_eq_nil_iff]
      constructor
      · apply filterMap_createdWaiver_eq_nil
        intro event hmem
        rcases decisions_kinds hdecisions hmem with ⟨entry, _, hcases⟩
        unfold createdWaiver
        rcases hcases with ⟨hkind, _⟩ | ⟨hkind, _⟩
        · rw [hkind]
          rfl
        · rw [hkind]
          rfl
      · rfl

theorem waivers_of_application {publication : Publication}
    (h : applicationEvents env request publication acceptance = .ok news) :
    news.filterMap createdWaiver = publication.waivers := by
  rcases applicationEvents_eq_ok h with ⟨parts, hbuilds, heq⟩
  have hpublished : createdWaiver parts.published = none := by
    unfold createdWaiver
    rw [hbuilds.published_kind]
    rfl
  have hsnapshot : createdWaiver parts.snapshot = none := by
    unfold createdWaiver
    rw [hbuilds.snapshot_kind]
    rfl
  have happlied : createdWaiver parts.applied = none := by
    unfold createdWaiver
    rw [hbuilds.applied.kind_eq]
  rw [heq, ApplicationParts.events, List.filterMap_append, List.filterMap_append,
    createdWaiver_of_obligations hbuilds.evaluated, createdWaivers_of_events hbuilds.waived,
    List.filterMap_cons_none hpublished, List.filterMap_cons_none hsnapshot,
    List.filterMap_append, ApplicationParts.middle, List.filterMap_append,
    createdWaiver_of_ghosts hbuilds.ghosts, createdWaiver_of_acceptance hbuilds.decided,
    List.filterMap_cons_none happlied]
  simp

theorem waiversFrom_requirements {call : ApplyCall} {request : ManualOverride} {index : Nat}
    {waivers : List PolicyWaiver}
    (h : waiversFrom env services call candidate request index obligations = .ok waivers) :
    waivers.map PolicyWaiver.requirement = obligations.map PolicyObligation.requirement := by
  induction obligations generalizing index waivers with
  | nil =>
      cases h
      rfl
  | cons obligation rest ih =>
      unfold waiversFrom at h
      rcases check_ok h with ⟨_, h⟩
      rcases bind_ok h with ⟨more, hmore, h⟩
      cases h
      rw [List.map_cons, List.map_cons, ih hmore]

theorem waivers_of_publication {baseSafeHash : WireHash} {publication : Publication}
    (hreport : publication.policyReport = candidateReport env services base draft candidate)
    (h : PreparesPublication env services base draft baseSafeHash candidate publication) :
    publication.waivers.map PolicyWaiver.requirement =
      publication.policyReport.waivedRequirements := by
  rcases h.waived with ⟨call, hwaivers⟩
  unfold createWaivers at hwaivers
  cases hoverride : authoritativeOverride draft services.actor with
  | none =>
      rw [hoverride] at hwaivers
      injection hwaivers with hwaivers
      have hnone : publication.policyReport.obligations.filter isWaived = [] := by
        rw [List.filter_eq_nil_iff, hreport, candidateReport, hoverride]
        intro obligation hmem hwaived
        rw [evaluateTransition_not_waived hmem] at hwaived
        cases hwaived
      rw [PolicyReport.waivedRequirements, hnone, <- hwaivers]
      rfl
  | some manualOverride =>
      rw [hoverride] at hwaivers
      exact waiversFrom_requirements hwaivers

theorem candidateReport_nodup :
    (candidateReport env services base draft candidate).waivedRequirements.Nodup := by
  unfold PolicyReport.waivedRequirements candidateReport
  exact (evaluateTransition_nodup _).sublist (List.filter_sublist.map _)

theorem LeavesAmong.waiversOnRecord {seen : Sightings env services}
    {stream : GovernedStream env.toEnvironment services.scope services.streamId}
    {applied : Applied env services} {added : List EventEnvelope}
    (h : LeavesAmong env services seen stream base draft acceptance applied)
    (hadded : applied.stream.events = stream.events ++ added) :
    WaiversOnRecord applied.answer added := by
  have hnothing : stream.events = stream.events ++ added -> added = [] := fun heq =>
    List.self_eq_append_right.mp heq
  cases h with
  | refused error =>
      rw [hnothing hadded]
      constructor
      · intro result h
        cases h
      · intro error h
        rfl
  | recovered events result hrecovered =>
      rw [hnothing hadded]
      constructor
      · intro result h hne
        exact absurd rfl hne
      · intro error h
        cases h
  | rejected identity actor error obligations news batch after hnews hafter =>
      have hbatch : batch = added := List.append_cancel_left (hafter.events.symm.trans hadded)
      subst hbatch
      constructor
      · intro result h
        cases h
      · intro _ _
        rw [waiversIn_eq hafter.carries]
        exact waivers_of_rejection hnews
  | published publication proposal news batch after hposition hpublishes hafter =>
      have hbatch : batch = added := List.append_cancel_left (hafter.events.symm.trans hadded)
      subst hbatch
      rcases hpublishes.prepared with ⟨baseSafeHash, graph, hjudged, hprepares⟩
      rcases hpublishes.requested with ⟨identity, actor, hproposal, hnews⟩
      have hreport : publication.policyReport =
          candidateReport env services base draft graph := by
        generalize publication.policyReport = report at hjudged
        cases hjudged with
        | governed => rfl
      have hlead : (proposalUnlessRecorded env services seen.recorded proposal).filterMap
          createdWaiver = [] := by
        rcases proposalUnlessRecorded_eq proposal with heq | heq
        · rw [heq]
          rfl
        · rw [heq, List.filterMap_cons_none (createdWaiver_of_proposed hproposal)]
          rfl
      constructor
      · intro result h _
        cases h
        constructor
        · rw [waiversIn_eq hafter.carries, List.filterMap_append, hlead, List.nil_append,
            waivers_of_application hnews]
          exact waivers_of_publication hreport hprepares
        · have hnodup := @candidateReport_nodup env services base draft graph
          rw [<- hreport] at hnodup
          exact hnodup
      · intro error h
        cases h

end Batches

/-!
## The authority of an override
-/

def committedBy {env : GovernorEnvironment} {services : ApplyServices}
    (stream : GovernedStream env.toEnvironment services.scope services.streamId)
    (applied : Applied env services) : List EventEnvelope :=
  applied.stream.events.drop stream.events.length

theorem LeavesAmong.extends {env : GovernorEnvironment} {services : ApplyServices}
    {seen : Sightings env services}
    {stream : GovernedStream env.toEnvironment services.scope services.streamId}
    {base : GraphVersion} {draft : GraphDraft} {applied : Applied env services}
    (h : LeavesAmong env services seen stream base draft acceptance applied) :
    applied.stream.events = stream.events ++ committedBy stream applied := by
  unfold committedBy
  cases h with
  | refused error => simp
  | recovered events result hrecovered => simp
  | rejected identity actor error obligations news added after hnews hafter =>
      rw [hafter.events, List.drop_left]
  | published publication proposal news added after hposition hpublishes hafter =>
      rw [hafter.events, List.drop_left]

theorem refused_override {env : GovernorEnvironment} {base : GraphVersion}
    {candidate : ExecutionGraph} {request : ManualOverride} {path : String}
    (h : overrideLimitPath request = some path) :
    (evaluateTransition env base candidate (some request)).waivedRequirements = [] ∧
      blockingError (evaluateTransition env base candidate (some request)) =
        some .structuralImpossible := by
  have hreport : evaluateTransition env base candidate (some request) = limitReport path := by
    unfold evaluateTransition
    rw [Option.bind_some, h]
  rw [hreport]
  constructor
  · rfl
  · rfl

/--
Within its limits an override turns the overrideable, unsatisfied requirements
that it names into waived ones and adds the requirements nobody knows as
unsatisfied; beyond them it blocks its draft.  A batch that publishes a version
has one waiver for each waived requirement; a batch that rejects a draft has none.
-/
theorem override_authority (env : GovernorEnvironment) :
    (forall base candidate request,
      (overrideLimitPath request = none -> OverrideAuthority env base candidate request) ∧
        forall path, overrideLimitPath request = some path ->
          (evaluateTransition env base candidate (some request)).waivedRequirements = [] ∧
            blockingError (evaluateTransition env base candidate (some request)) =
              some .structuralImpossible) ∧
      forall (services : ApplyServices)
        (stream : GovernedStream env.toEnvironment services.scope services.streamId)
        (call : ApplyCall) (base : GraphVersion) (draft : GraphDraft)
        (acceptance : Option ExecutionDraftAcceptance),
        WaiversOnRecord
          (applyDraftWithAcceptance env services stream call base draft acceptance).answer
          (committedBy stream
            (applyDraftWithAcceptance env services stream call base draft acceptance)) := by
  constructor
  · intro base candidate request
    constructor
    · exact overrideAuthority
    · intro path hpath
      exact refused_override hpath
  · intro services stream call base draft acceptance
    have hleaves := @leavesAmong_alone env services stream call base draft acceptance
    exact hleaves.waiversOnRecord hleaves.extends

namespace Sample

def overriding (names : List String) : ManualOverride :=
  { actor := owner
    reason := "covered elsewhere"
    waivedRequirements := names
    acknowledgedRisks := ["unreviewed"]
    scope := .execution }

def unplanned : ExecutionGraph :=
  candidateOf plannedVersion 2 { planned with nodes := planned.nodes.erase "review" }

def removing (names : List String) : GraphDraft :=
  draftOf "remove" [.removeNode "review"] (some (overriding names))

def removed (names : List String) : Applied governorEnv applyServices :=
  applyDraft governorEnv applyServices plannedStream (applyCall 1) plannedVersion (removing names)

end Sample

/-- The owner who waives the removed node has the removal published, with its one waiver. -/
theorem override_authority_over_a_removal :
    OverrideAuthority Sample.governorEnv Sample.plannedVersion Sample.unplanned
        (Sample.overriding ["review"]) ∧
      (waiversIn (committedBy Sample.plannedStream (Sample.removed ["review"]))).map
        PolicyWaiver.requirement = ["review"] := by
  constructor
  · exact ((override_authority Sample.governorEnv).left Sample.plannedVersion Sample.unplanned
      (Sample.overriding ["review"])).left (by decide +kernel)
  · decide +kernel

def recordedAsWaived (events : List EventEnvelope) : List String :=
  events.filterMap fun event =>
    match event.kind with
    | .policyObligationEvaluated payload =>
        if payload.status = .waived then some payload.requirementId.text else none
    | _ => none

/-- An oversized override unsettles what holds without it, and a batch that rejects a draft
records a waived requirement without a waiver. -/
theorem override_authority_fails_beyond_its_bounds :
    ¬ (forall (env : GovernorEnvironment) (base : GraphVersion) (candidate : ExecutionGraph)
        (request : ManualOverride) (requirement : String),
        (evaluateTransition env base candidate (some request)).status? requirement =
          request.statusAfter requirement
            ((evaluateTransition env base candidate none).obligation? requirement)) ∧
      ¬ (forall (env : GovernorEnvironment) (services : ApplyServices)
        (stream : GovernedStream env.toEnvironment services.scope services.streamId)
        (call : ApplyCall) (base : GraphVersion) (draft : GraphDraft),
        (waiversIn (committedBy stream (applyDraft env services stream call base draft))).map
            PolicyWaiver.requirement =
          recordedAsWaived (committedBy stream (applyDraft env services stream call base draft))) := by
  constructor
  · intro hclaim
    have hreview := hclaim Sample.governorEnv Sample.plannedVersion
      (candidateOf Sample.plannedVersion 2 Sample.planned)
      (Sample.overriding (List.replicate 65 "review")) "review"
    revert hreview
    decide +kernel
  · intro hclaim
    have hbatch := hclaim Sample.governorEnv Sample.applyServices Sample.plannedStream
      (Sample.applyCall 1) Sample.plannedVersion (Sample.removing ["review", "unheard"])
    revert hbatch
    decide +kernel

end GraphHelm
