import GraphHelm.Governor.Additive

/-!
# The line of published versions

An append is checked against the version that is active in the stream it is appended to.  The
versions of a stream form one line whoever appends to it, and a draft that was judged against a
version that is no longer active is not published, however stale the reads of its call were.
-/

namespace GraphHelm

open Std

section Lines

variable {event : EventEnvelope} {first second rest : List EventEnvelope}
  {active : Option (Nat × WireHash)}

/-- Every version that is published follows the one that is active before it. -/
def OneLine (events : List EventEnvelope) : Prop :=
  forall before event after version, events = before ++ event :: after ->
    event.kind = .graphVersionPublished version ->
      lineageAgrees (activeIdentity before) version = true

theorem activeIdentity_cons :
    activeIdentity (event :: rest) = (activeIdentity rest).or (publishedIdentity event) := by
  unfold activeIdentity
  rw [List.filterMap_cons]
  cases publishedIdentity event with
  | none => rw [Option.or_none]
  | some identity =>
      dsimp only
      rw [List.getLast?_cons]
      cases (rest.filterMap publishedIdentity).getLast? with
      | none => rfl
      | some last => rfl

theorem validateGraphLineage_cons :
    validateGraphLineage active ((event :: rest).map EventEnvelope.toNewEvent) = .ok () <->
      (forall version, event.kind = .graphVersionPublished version ->
        lineageAgrees active version = true) ∧
      validateGraphLineage ((publishedIdentity event).or active)
        (rest.map EventEnvelope.toNewEvent) = .ok () := by
  have hkind : event.toNewEvent.kind = event.kind := rfl
  rw [List.map_cons]
  by_cases hpublished : exists version, event.kind = .graphVersionPublished version
  · rcases hpublished with ⟨version, hversion⟩
    unfold publishedIdentity
    rw [validateGraphLineage, hkind, hversion]
    dsimp only
    rw [check_bind_eq_ok]
    apply and_congr_left
    intro _
    constructor
    · rintro h other ⟨⟩
      exact h
    · exact fun h => h version rfl
  · have hother : forall version, event.kind ≠ .graphVersionPublished version :=
      fun version hversion => hpublished ⟨version, hversion⟩
    have hskips : validateGraphLineage active
        (event.toNewEvent :: rest.map EventEnvelope.toNewEvent) =
          validateGraphLineage active (rest.map EventEnvelope.toNewEvent) := by
      rw [validateGraphLineage]
      split
      · rename_i version hversion
        exact absurd hversion (hother version)
      · rfl
    have hnone : publishedIdentity event = none := by
      unfold publishedIdentity
      split
      · rename_i version hversion
        exact absurd hversion (hother version)
      · rfl
    rw [hskips, hnone, Option.none_or]
    exact (and_iff_right fun version hversion => absurd hversion (hother version)).symm

/-- A list is one line when its parts are, the second behind what the first leaves active. -/
theorem validateGraphLineage_append :
    validateGraphLineage active ((first ++ second).map EventEnvelope.toNewEvent) = .ok () <->
      validateGraphLineage active (first.map EventEnvelope.toNewEvent) = .ok () ∧
        validateGraphLineage ((activeIdentity first).or active)
          (second.map EventEnvelope.toNewEvent) = .ok () := by
  induction first generalizing active with
  | nil => exact (and_iff_right rfl).symm
  | cons event rest ih =>
      rw [List.cons_append, validateGraphLineage_cons, ih, validateGraphLineage_cons,
        activeIdentity_cons, Option.or_assoc, and_assoc]

theorem oneLine_of_validated
    (h : validateGraphLineage none (rest.map EventEnvelope.toNewEvent) = .ok ()) :
    OneLine rest := by
  intro before event after version hsplit hkind
  rw [hsplit, validateGraphLineage_append, validateGraphLineage_cons, Option.or_none] at h
  exact h.right.left version hkind

end Lines

section Appended

variable {env : StoreEnvironment} {scope : RepositoryScope} {streamId : OpaqueId}

/-- The streams that appends lead to, whoever makes them. -/
inductive Appended : GovernedStream env.toEnvironment scope streamId -> Prop where
  | empty {stream : GovernedStream env.toEnvironment scope streamId} (h : stream.events = []) :
      Appended stream
  | append {stream after : GovernedStream env.toEnvironment scope streamId} {stamps : Stamps}
      {position : Nat} {news : List NewEvent} {added : List EventEnvelope} (h : Appended stream)
      (happend : stream.appendAtomic stamps position news = .ok (after, added)) : Appended after

theorem Appended.validated {stream : GovernedStream env.toEnvironment scope streamId}
    (h : Appended stream) :
    validateGraphLineage none (stream.events.map EventEnvelope.toNewEvent) = .ok () := by
  induction h with
  | empty h =>
      rw [h]
      rfl
  | @append stream after _ _ _ added _ happend ih =>
      have hafter := appendAtomic_eq_ok happend
      unfold GovernedStream.appendAtomic at happend
      rcases check_ok happend with ⟨_, happend⟩
      rcases bind_ok happend with ⟨_, hlineage, _⟩
      rw [hafter.events, validateGraphLineage_append, hafter.carries, Option.or_none]
      exact And.intro ih hlineage

end Appended

section Calls

variable {env : GovernorEnvironment} {services : ApplyServices} {seen : Sightings env services}
  {stream : GovernedStream env.toEnvironment services.scope services.streamId}
  {call : ApplyCall} {base : GraphVersion} {draft : GraphDraft}
  {acceptance : Option ExecutionDraftAcceptance}

theorem Appended.of_call (h : Appended stream) :
    Appended (applyDraftAmong env services seen stream call base draft acceptance).stream := by
  unfold applyDraftAmong
  cases prepareDraftAmong env services seen call base draft acceptance with
  | error error => exact h
  | ok prepared =>
      cases prepared with
      | recovered result => exact h
      | rejecting position news error =>
          dsimp only
          cases happend : stream.appendAtomic call.stamps position news with
          | error refusal => exact h
          | ok outcome => exact h.append happend
      | publishing position news publication =>
          dsimp only
          cases happend : stream.appendAtomic call.stamps position news with
          | error refusal => exact h
          | ok outcome => exact h.append happend

theorem projectedVersionFor_predecessor {scope : RepositoryScope} {version : GraphVersion}
    {predecessor : Option PersistedPredecessor} {persisted : PersistedGraphVersion}
    (h : projectedVersionFor env scope version predecessor = .ok persisted) :
    persisted.predecessor = predecessor := by
  unfold projectedVersionFor at h
  rcases check_ok h with ⟨_, h⟩
  rcases bind_ok h with ⟨material, _, h⟩
  rcases check_ok h with ⟨_, h⟩
  cases h
  rfl

/-- The first version a batch publishes is that of its publication. -/
theorem publication_of_application {identity : WireHash} {actor : PersistedActor}
    {publication : Publication} {proposal : NewEvent} {lead news : List NewEvent}
    {added : List EventEnvelope}
    (hproposal : proposed env (requestOf draft identity actor) = .ok proposal)
    (hnews : applicationEvents env (requestOf draft identity actor) publication acceptance =
      .ok news)
    (hlead : lead = [] ∨ lead = [proposal])
    (hcarries : added.map EventEnvelope.toNewEvent = lead ++ news) :
    exists before event after, added = before ++ event :: after ∧
      event.kind = .graphVersionPublished publication.preparation.version ∧
      activeIdentity before = none := by
  rcases applicationEvents_eq_ok hnews with ⟨parts, hparts, rfl⟩
  have hsplit : lead ++ parts.events = (lead ++ parts.evaluated ++ parts.waived) ++
      parts.published :: parts.snapshot :: (parts.middle ++ [parts.applied]) := by
    simp [ApplicationParts.events]
  rw [hsplit, List.map_eq_append_iff] at hcarries
  rcases hcarries with ⟨before, back, rfl, hbefore, hback⟩
  rcases List.map_eq_cons_iff.mp hback with ⟨event, after, rfl, hevent, _⟩
  refine ⟨before, event, after, rfl, ?_, ?_⟩
  · exact (congrArg NewEvent.kind hevent).trans hparts.published_kind
  · unfold activeIdentity
    rw [List.getLast?_eq_none_iff, List.filterMap_eq_nil_iff]
    intro other hmem
    have hcarried : other.toNewEvent ∈ before.map EventEnvelope.toNewEvent :=
      List.mem_map_of_mem hmem
    rw [hbefore] at hcarried
    have hkind : other.toNewEvent.kind = other.kind := rfl
    unfold publishedIdentity
    rcases List.mem_append.mp hcarried with hcarried | hwaived
    · rcases List.mem_append.mp hcarried with hfirst | hevaluated
      · rcases proposed_eq_ok hproposal with ⟨payload, _, hpayload, _⟩
        rcases hlead with rfl | rfl
        · cases hfirst
        · rw [← hkind, List.mem_singleton.mp hfirst, hpayload.kind_eq]
      · rcases obligationEvents_kind hparts.evaluated hevaluated with ⟨payload, hpayload⟩
        rw [← hkind, hpayload]
    · rcases waiverEvents_kind hparts.waived hwaived with ⟨payload, hpayload⟩
      rw [← hkind, hpayload]

variable (env services)

end Calls

end GraphHelm
