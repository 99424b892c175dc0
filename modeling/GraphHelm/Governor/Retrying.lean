import GraphHelm.Governor.Rereading

/-!
# Retrying a draft

A call that committed a batch is made again.  Where the grammar reads the batch
back, the answer of the first call is derived anew and nothing is appended.
-/

namespace GraphHelm

open Std

/-!
## The answer, derived anew
-/

section Answers

variable {env : GovernorEnvironment} {services : ApplyServices} {base : GraphVersion}
  {draft : GraphDraft}

structure JudgedCandidate (env : GovernorEnvironment) (services : ApplyServices)
    (base : GraphVersion) (draft : GraphDraft) (graph : ExecutionGraph) (number : Nat) :
    Prop where
  applied : applyOperations env base.graph draft.operations = .ok graph
  numbered : checkedSuccessor base.number = some number
  preflighted : preflightCandidate env (candidateOf base number graph) = .ok ()

inductive Judged (env : GovernorEnvironment) (services : ApplyServices) (base : GraphVersion)
    (draft : GraphDraft) : Verdict -> Prop where
  | staleVersion (h : draft.expectedVersion ≠ base.number) :
      Judged env services base draft (.rejected .staleVersion [])
  | staleHash (h : draft.expectedVersion = base.number)
      (hbinds : draftBinds env services.scope base draft = .ok false) :
      Judged env services base draft (.rejected .staleHash [])
  | invalidOperation (h : draft.expectedVersion = base.number)
      (hbinds : draftBinds env services.scope base draft = .ok true) (message : String)
      (hfails : applyOperations env base.graph draft.operations = .error message) :
      Judged env services base draft (.rejected .invalidOperation [])
  | malformed (h : draft.expectedVersion = base.number)
      (hbinds : draftBinds env services.scope base draft = .ok true) (graph : ExecutionGraph)
      (number : Nat) (hjudged : JudgedCandidate env services base draft graph number)
      (hinvalid : env.validateGraphValue (candidateOf base number graph) = false) :
      Judged env services base draft (.rejected .structuralImpossible [])
  | blocked (h : draft.expectedVersion = base.number)
      (hbinds : draftBinds env services.scope base draft = .ok true) (graph : ExecutionGraph)
      (number : Nat) (hjudged : JudgedCandidate env services base draft graph number)
      (hvalid : env.validateGraphValue (candidateOf base number graph) = true)
      (error : ApplyError)
      (hblocks : blockingError
        (candidateReport env services base draft (candidateOf base number graph)) = some error) :
      Judged env services base draft
        (.rejected error
          (candidateReport env services base draft (candidateOf base number graph)).obligations)
  | governed (h : draft.expectedVersion = base.number)
      (hbinds : draftBinds env services.scope base draft = .ok true) (graph : ExecutionGraph)
      (number : Nat) (hjudged : JudgedCandidate env services base draft graph number)
      (hvalid : env.validateGraphValue (candidateOf base number graph) = true)
      (hfree : blockingError
        (candidateReport env services base draft (candidateOf base number graph)) = none) :
      Judged env services base draft
        (.governed (candidateOf base number graph)
          (candidateReport env services base draft (candidateOf base number graph)))

theorem judgeDraft_eq_ok {verdict : Verdict}
    (h : judgeDraft env services base draft = .ok verdict) :
    Judged env services base draft verdict := by
  unfold judgeDraft at h
  by_cases hversion : draft.expectedVersion = base.number
  · rw [if_neg (by simp [hversion])] at h
    rcases bind_ok h with ⟨binds, hbinds, h⟩
    have hbinds := Except.mapError_eq_ok.mp hbinds
    cases binds with
    | false =>
        cases h
        exact Judged.staleHash hversion hbinds
    | true =>
        rw [if_pos rfl] at h
        cases hgraph : applyOperations env base.graph draft.operations with
        | error message =>
            rw [hgraph] at h
            cases h
            exact Judged.invalidOperation hversion hbinds message hgraph
        | ok graph =>
            rw [hgraph] at h
            dsimp only at h
            unfold judgeCandidate at h
            rcases bind_ok h with ⟨number, hnumber, h⟩
            rcases bind_ok h with ⟨_, hpreflight, h⟩
            have hjudged : JudgedCandidate env services base draft graph number :=
              { applied := hgraph
                numbered := orRefuse_eq_ok.mp hnumber
                preflighted := hpreflight }
            cases hvalid : env.validateGraphValue (candidateOf base number graph) with
            | false =>
                rw [if_neg (by simp [hvalid])] at h
                cases h
                exact Judged.malformed hversion hbinds graph number hjudged hvalid
            | true =>
                rw [if_pos hvalid] at h
                cases hblocks : blockingError
                    (candidateReport env services base draft (candidateOf base number graph)) with
                | some error =>
                    simp only [hblocks] at h
                    cases h
                    exact Judged.blocked hversion hbinds graph number hjudged hvalid error hblocks
                | none =>
                    simp only [hblocks] at h
                    cases h
                    exact Judged.governed hversion hbinds graph number hjudged hvalid hblocks
  · rw [if_pos hversion] at h
    cases h
    exact Judged.staleVersion hversion

/-- How the publication of a governed draft came about. -/
structure PreparesPublication (env : GovernorEnvironment) (services : ApplyServices)
    (base : GraphVersion) (draft : GraphDraft) (baseSafeHash : WireHash)
    (candidate : ExecutionGraph) (publication : Publication) : Prop where
  waived : exists call, createWaivers env services call candidate
    (authoritativeOverride draft services.actor) publication.policyReport =
      .ok publication.waivers
  published : GraphVersion.publish env candidate
    (some { number := base.number, contentHash := base.contentHash }) services.actor
    publication.preparation.version.createdAt = .ok publication.version
  projected : projectedVersionFor env services.scope publication.version
    (some { number := base.number, semanticHash := baseSafeHash }) =
      .ok publication.preparation.version

theorem preparePublication_eq_ok {call : ApplyCall} {baseSafeHash : WireHash}
    {candidate : ExecutionGraph} {report : PolicyReport} {publication : Publication}
    (h : preparePublication env services base draft call baseSafeHash candidate report =
      .ok publication) :
    publication.policyReport = report ∧
      PreparesPublication env services base draft baseSafeHash candidate publication := by
  unfold preparePublication at h
  rcases bind_ok h with ⟨waivers, hwaivers, h⟩
  rcases bind_ok h with ⟨version, hversion, h⟩
  rcases bind_ok h with ⟨preparation, _, h⟩
  rcases bind_ok h with ⟨expected, hexpected, h⟩
  rcases check_ok h with ⟨hequal, h⟩
  cases h
  have hversion := Except.mapError_eq_ok.mp hversion
  have hexpected := Except.mapError_eq_ok.mp hexpected
  have hequal : preparation.version = expected := of_decide_eq_true hequal
  refine And.intro rfl ?_
  exact
    { waived := ⟨call, hwaivers⟩
      published := by
        have hpublished := (GraphVersion.publish_eq_ok hversion).right.right.right
        have hprojected := (projectedVersionFor_eq_ok hexpected).right.left
        show GraphVersion.publish env candidate _ services.actor preparation.version.createdAt = _
        rw [hequal, hprojected, hpublished]
        exact hversion
      projected := by rw [hequal]; exact hexpected }

end Answers

/-!
## The stream a batch was committed to
-/

section Committed

variable {env : StoreEnvironment} {scope : RepositoryScope} {streamId : OpaqueId}
  {stream after later : GovernedStream env.toEnvironment scope streamId}

structure AppendsBatch (stream after : GovernedStream env.toEnvironment scope streamId)
    (news : List NewEvent) (added : List EventEnvelope) : Prop where
  batches : after.batches = stream.batches ++ [added]
  events : after.events = stream.events ++ added
  carries : added.map EventEnvelope.toNewEvent = news
  distinct : (news.map NewEvent.idempotencyKey).Nodup
  owned : forall event, event ∈ added -> event.scope = scope ∧ event.streamId = streamId

theorem appendAtomic_eq_ok {stamps : Stamps} {position : Nat} {news : List NewEvent}
    {added : List EventEnvelope}
    (h : stream.appendAtomic stamps position news = .ok (after, added)) :
    AppendsBatch stream after news added := by
  unfold GovernedStream.appendAtomic at h
  rcases check_ok h with ⟨_, h⟩
  rcases bind_ok h with ⟨_, _, h⟩
  split at h
  · cases h
  · rename_i extended happend
    cases h
    rcases VerifiedStream.append_eq_ok happend with ⟨added, hadded⟩
    have hdrop : extended.events.drop stream.events.length = added := by
      rw [hadded.extended, List.drop_left]
    refine
      { batches := rfl
        events := GovernedStream.events_of_append happend
        carries := by rw [hdrop]; exact hadded.carries
        distinct := hadded.distinct
        owned := ?_ }
    intro event hmem
    have howned := extended.verified.owned event (List.mem_of_mem_drop hmem)
    exact And.intro howned.left (OpaqueId.text_injective howned.right)

end Committed

end GraphHelm
