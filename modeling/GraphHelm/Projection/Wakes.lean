import GraphHelm.Projection.Ledgers

/-!
# Wake leases over whole histories

A session arms its lease again and again, under one rendezvous and often one
cursor, and a consumption may name an arming that has been replaced.  Which
arming a lease is, is read off the history: the newest lease event of the session,
unless a consumption of the session came after it.
-/

namespace GraphHelm

open Std
open OrderedMap

def EventKind.wakes : EventKind -> Option String
  | .wakeLease armed => some armed.sessionId.text
  | .wakeLeaseConsumed consumed => some consumed.sessionId.text
  | _ => none

/-- `arming` is the newest lease event of `session`, and no consumption came after it. -/
def LiveArming (events : List EventEnvelope) (session : String) (arming : EventEnvelope)
    (armed : WakeLease) : Prop :=
  exists before since,
    events = before ++ arming :: since ∧ arming.kind = .wakeLease armed ∧
      armed.sessionId.text = session ∧
      forall later, later ∈ since -> later.kind.wakes ≠ some session

def MisBurns (events : List EventEnvelope) (event : EventEnvelope) (session : String)
    (misBurn : WakeMisBurn) : Prop :=
  exists consumed arming armed,
    event.kind = .wakeLeaseConsumed consumed ∧ consumed.sessionId.text = session ∧
      LiveArming events session arming armed ∧
      consumed.capturedArming = some misBurn.capturedArming ∧
      misBurn.capturedArming ≠ arming.sequence ∧ misBurn.liveArming = arming.sequence ∧
      misBurn.atSequence = event.sequence

/-!
## The live arming of a session
-/

section Live

variable {events : List EventEnvelope} {event arming other : EventEnvelope} {session : String}
  {armed another : WakeLease}

theorem liveArming_concat :
    LiveArming (events ++ [event]) session arming armed <->
      event = arming ∧ arming.kind = .wakeLease armed ∧ armed.sessionId.text = session ∨
        event.kind.wakes ≠ some session ∧ LiveArming events session arming armed := by
  constructor
  · rintro ⟨before, since, hevents, hkind, hsession, hsince⟩
    rcases List.eq_nil_or_concat since with rfl | ⟨earlier, last, rfl⟩
    · have hlast := (List.append_inj' hevents rfl).right
      exact Or.inl ⟨List.singleton_inj.mp hlast, hkind, hsession⟩
    · rw [List.concat_eq_append, ← List.cons_append, ← List.append_assoc] at hevents
      rcases List.append_inj' hevents rfl with ⟨hbefore, hlast⟩
      rw [List.concat_eq_append] at hsince
      refine Or.inr (And.intro ?_ ⟨before, earlier, hbefore, hkind, hsession, ?_⟩)
      · rw [List.singleton_inj.mp hlast]
        exact hsince last (List.mem_append_right _ List.mem_cons_self)
      · intro later hmem
        exact hsince later (List.mem_append_left _ hmem)
  · rintro (⟨rfl, hkind, hsession⟩ | ⟨hapart, before, since, rfl, hkind, hsession, hsince⟩)
    · exact ⟨events, [], rfl, hkind, hsession, fun _ hmem => absurd hmem List.not_mem_nil⟩
    · refine ⟨before, since ++ [event], ?_, hkind, hsession, ?_⟩
      · rw [List.append_assoc, List.cons_append]
      · intro later hmem
        rcases List.mem_append.mp hmem with hold | hnew
        · exact hsince later hold
        · rw [List.mem_singleton.mp hnew]
          exact hapart

theorem not_liveArming_nil : ¬ LiveArming [] session arming armed := by
  rintro ⟨before, since, hevents, _⟩
  exact List.append_ne_nil_of_right_ne_nil before (List.cons_ne_nil arming since) hevents.symm

theorem LiveArming.unique (h : LiveArming events session arming armed)
    (hother : LiveArming events session other another) : arming = other ∧ armed = another := by
  induction events using List.reverseRecOn with
  | nil =>
      exact absurd h not_liveArming_nil
  | append_singleton earlier event ih =>
      have hwakes : forall {a : EventEnvelope} {p : WakeLease}, a.kind = .wakeLease p ->
          p.sessionId.text = session -> a.kind.wakes = some session := by
        intro a p hkind hsession
        rw [hkind, ← hsession]
        rfl
      rcases liveArming_concat.mp h with ⟨rfl, hkind, hsession⟩ | ⟨hapart, hlive⟩
      · rcases liveArming_concat.mp hother with ⟨rfl, hkind', _⟩ | ⟨hapart, _⟩
        · exact And.intro rfl (EventKind.wakeLease.inj (hkind.symm.trans hkind'))
        · exact absurd (hwakes hkind hsession) hapart
      · rcases liveArming_concat.mp hother with ⟨rfl, hkind', hsession'⟩ | ⟨_, hlive'⟩
        · exact absurd (hwakes hkind' hsession') hapart
        · exact ih hlive hlive'

end Live

/-!
## The leases of a fold
-/

section Folded

variable {env : Environment} {events : List EventEnvelope} {event : EventEnvelope}
  {st st' : FoldState} {session : String}

theorem wakeLeases_of_apart (h : applyProjectionEvent env event st = .ok () st')
    (hapart : event.kind.wakes ≠ some session) :
    st'.projection.wakeLeases[session]? = st.projection.wakeLeases[session]? := by
  have hledgers := congrArg Ledgers.wakeLeases (ledgers_of_accepted h)
  change st'.projection.wakeLeases = _ at hledgers
  rw [hledgers]
  unfold ledgersAfter
  cases hkind : event.kind <;> rw [hkind] at hapart <;> first
    | rfl
    | skip
  case wakeLease payload =>
    exact getElem?_insert_of_ne fun heq => hapart (congrArg some heq)
  case wakeLeaseConsumed payload =>
    dsimp only
    split
    · exact getElem?_erase_of_ne fun heq => hapart (congrArg some heq)
    · rfl

theorem consumption_of_accepted {consumed : WakeLeaseConsumed}
    (h : applyProjectionEvent env event st = .ok () st')
    (hkind : event.kind = .wakeLeaseConsumed consumed) :
    exists burned, st.projection.wakeLeases[consumed.sessionId.text]? = some burned ∧
      st'.projection.ledgers = st.projection.ledgers.burn event consumed burned := by
  unfold applyProjectionEvent nameStream at h
  rw [modifyProjection_bind] at h
  unfold foldKind at h
  rw [hkind] at h
  rcases foldWakeLeaseConsumed_eq_ok.mp h with ⟨burned, hburned, rfl⟩
  exact ⟨burned, hburned, rfl⟩

theorem wakeLeases_iff_liveArming (hfold : foldHistory env events = some st)
    {lease : WakeLeaseState} :
    st.projection.wakeLeases[session]? = some lease <->
      exists arming armed,
        LiveArming events session arming armed ∧ leaseOf arming armed = lease := by
  induction events using List.reverseRecOn generalizing st with
  | nil =>
      cases hfold
      constructor
      · intro hlease
        have hnone : FoldState.initial.projection.wakeLeases[session]? = none :=
          ExtTreeMap.getElem?_empty
        rw [hnone] at hlease
        cases hlease
      · rintro ⟨arming, armed, hlive, _⟩
        exact absurd hlive not_liveArming_nil
  | append_singleton earlier event ih =>
      rcases foldHistory_concat.mp hfold with ⟨before, hbefore, hstep⟩
      simp only [liveArming_concat]
      rcases Decidable.em (event.kind.wakes = some session) with habout | hapart
      · cases hkind : event.kind <;> rw [hkind] at habout <;> first
          | exact absurd habout (Option.some_ne_none session).symm
          | skip
        case wakeLease armed =>
          have hsession : armed.sessionId.text = session := Option.some.inj habout
          have hledgers := congrArg Ledgers.wakeLeases (ledgers_of_accepted hstep)
          unfold ledgersAfter at hledgers
          rw [hkind] at hledgers
          change st.projection.wakeLeases =
            before.projection.wakeLeases.insert armed.sessionId.text (leaseOf event armed)
            at hledgers
          rw [hledgers, hsession, ExtTreeMap.getElem?_insert_self, Option.some.injEq]
          constructor
          · intro hlease
            exact ⟨event, armed, Or.inl ⟨rfl, hkind, hsession⟩, hlease⟩
          · rintro ⟨arming, newer, ⟨rfl, hkind', _⟩ | ⟨hapart, _⟩, hlease⟩
            · rw [EventKind.wakeLease.inj (hkind.symm.trans hkind')]
              exact hlease
            · exact absurd habout hapart
        case wakeLeaseConsumed consumed =>
          have hsession : consumed.sessionId.text = session := Option.some.inj habout
          rcases consumption_of_accepted hstep hkind with ⟨burned, _, hledgers⟩
          have hleases := congrArg Ledgers.wakeLeases hledgers
          change st.projection.wakeLeases = before.projection.wakeLeases.erase _ at hleases
          rw [hleases, hsession, ExtTreeMap.getElem?_erase_self]
          constructor
          · intro hnone
            cases hnone
          · rintro ⟨arming, armed, ⟨rfl, hkind', _⟩ | ⟨hapart, _⟩, _⟩
            · rw [hkind] at hkind'
              cases hkind'
            · exact absurd habout hapart
      · rw [wakeLeases_of_apart hstep hapart, ih hbefore]
        constructor
        · rintro ⟨arming, armed, hlive, hlease⟩
          exact ⟨arming, armed, Or.inr (And.intro hapart hlive), hlease⟩
        · rintro ⟨arming, armed, ⟨rfl, hkind, hsession⟩ | ⟨_, hlive⟩, hlease⟩
          · rw [hkind, ← hsession] at hapart
            exact absurd rfl hapart
          · exact ⟨arming, armed, hlive, hlease⟩

theorem wakeMisBurns_of_accepted (hfold : foldHistory env events = some st)
    (h : applyProjectionEvent env event st = .ok () st') :
    (forall session misBurn, MisBurns events event session misBurn ->
      st'.projection.wakeMisBurns = st.projection.wakeMisBurns.insert session misBurn) ∧
      ((forall session misBurn, ¬ MisBurns events event session misBurn) ->
        st'.projection.wakeMisBurns = st.projection.wakeMisBurns) := by
  have hburned : forall {consumed : WakeLeaseConsumed}, event.kind = .wakeLeaseConsumed consumed ->
      exists arming armed, LiveArming events consumed.sessionId.text arming armed ∧
        st'.projection.wakeMisBurns =
          insertSome st.projection.wakeMisBurns consumed.sessionId.text
            (misBurnOf event consumed (leaseOf arming armed)) := by
    intro consumed hkind
    rcases consumption_of_accepted h hkind with ⟨burned, hburned, hledgers⟩
    rcases (wakeLeases_iff_liveArming hfold).mp hburned with ⟨arming, armed, hlive, rfl⟩
    exact ⟨arming, armed, hlive, congrArg Ledgers.wakeMisBurns hledgers⟩
  constructor
  · rintro session misBurn
      ⟨consumed, arming, armed, hkind, rfl, hlive, hcaptured, hother, hlost, hat⟩
    rcases hburned hkind with ⟨arming', armed', hlive', hafter⟩
    rcases hlive.unique hlive' with ⟨rfl, rfl⟩
    have hmisBurn : misBurnOf event consumed (leaseOf arming armed) = some misBurn := by
      unfold misBurnOf leaseOf
      rw [hcaptured, Option.filter_some, if_pos (decide_eq_true hother), Option.map_some, ← hat,
        ← hlost]
    rw [hafter, hmisBurn]
    rfl
  · intro hnone
    rcases Classical.em (exists consumed, event.kind = .wakeLeaseConsumed consumed) with
      ⟨consumed, hkind⟩ | hother
    · rcases hburned hkind with ⟨arming, armed, hlive, hafter⟩
      cases hmisBurn : misBurnOf event consumed (leaseOf arming armed) with
      | none =>
          rw [hafter, hmisBurn]
          rfl
      | some misBurn =>
          unfold misBurnOf at hmisBurn
          rcases Option.map_eq_some_iff.mp hmisBurn with ⟨captured, hfiltered, rfl⟩
          rcases Option.filter_eq_some_iff.mp hfiltered with ⟨hcaptured, hmissed⟩
          exact absurd
            ⟨consumed, arming, armed, hkind, rfl, hlive, hcaptured, of_decide_eq_true hmissed,
              rfl, rfl⟩
            (hnone consumed.sessionId.text
              { atSequence := event.sequence
                capturedArming := captured
                liveArming := arming.sequence })
    · have hledgers := congrArg Ledgers.wakeMisBurns (ledgers_of_accepted h)
      refine hledgers.trans ?_
      unfold ledgersAfter
      cases hkind : event.kind <;> first
        | rfl
        | exact absurd ⟨_, hkind⟩ hother

end Folded

/-!
## The law of wake leases
-/

structure WakeLaw (env : Environment) (events : List EventEnvelope) : Prop where
  live : forall {before later : List EventEnvelope} {st : FoldState},
    events = before ++ later -> foldHistory env before = some st ->
      forall {session : String} {lease : WakeLeaseState},
        st.projection.wakeLeases[session]? = some lease <->
          exists arming armed,
            LiveArming before session arming armed ∧ leaseOf arming armed = lease
  single : forall {before later : List EventEnvelope},
    events = before ++ later ->
      forall {session : String} {arming other : EventEnvelope} {armed another : WakeLease},
        LiveArming before session arming armed -> LiveArming before session other another ->
          arming = other ∧ armed = another
  burns : forall {before later : List EventEnvelope} {event : EventEnvelope} {st st' : FoldState}
      {consumed : WakeLeaseConsumed},
    events = before ++ event :: later -> foldHistory env before = some st ->
      applyProjectionEvent env event st = .ok () st' ->
      event.kind = .wakeLeaseConsumed consumed ->
        (exists arming armed, LiveArming before consumed.sessionId.text arming armed) ∧
          st'.projection.wakeLeases = st.projection.wakeLeases.erase consumed.sessionId.text
  misBurns : forall {before later : List EventEnvelope} {event : EventEnvelope}
      {st st' : FoldState},
    events = before ++ event :: later -> foldHistory env before = some st ->
      applyProjectionEvent env event st = .ok () st' ->
        (forall session misBurn, MisBurns before event session misBurn ->
          st'.projection.wakeMisBurns = st.projection.wakeMisBurns.insert session misBurn) ∧
          ((forall session misBurn, ¬ MisBurns before event session misBurn) ->
            st'.projection.wakeMisBurns = st.projection.wakeMisBurns)

/-- At every prefix a session's lease is its newest arming that no consumption has burned. -/
theorem wake_leases_follow_the_armings (env : Environment) (events : List EventEnvelope) :
    WakeLaw env events where
  live := fun _ hfold => wakeLeases_iff_liveArming hfold
  single := fun _ => fun hlive hother => LiveArming.unique hlive hother
  burns := by
    intro before later event st st' consumed _ hfold hstep hkind
    rcases consumption_of_accepted hstep hkind with ⟨burned, hburned, hledgers⟩
    rcases (wakeLeases_iff_liveArming hfold).mp hburned with ⟨arming, armed, hlive, _⟩
    exact ⟨⟨arming, armed, hlive⟩, congrArg Ledgers.wakeLeases hledgers⟩
  misBurns := fun _ hfold hstep => wakeMisBurns_of_accepted hfold hstep

end GraphHelm
