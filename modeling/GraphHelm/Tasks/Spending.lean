import GraphHelm.Tasks.Folding

/-!
# Time spent

The clock of a slice books each stretch of time once: what it has booked lies between the
first and the last timed record of the slice, and no record takes a booking back.
-/

namespace GraphHelm
namespace Tasks

open Std
open OrderedMap (total total_insert)

/-!
## The clock
-/

/-- The milliseconds of the instant a record carries, if it carries one. -/
def instants («at» : Option PersistedTimestamp) : List Int :=
  («at».map timestampMillis).toList

/-- The time between the first and the last of some instants. -/
def span (times : List Int) : Int :=
  times.getLast?.getD 0 - times.head?.getD 0

structure Accounts (clock : StepClock) (times : List Int) : Prop where
  booked : forall (step : String) millis, clock.spent[step]? = some millis -> 0 <= millis
  spanned : total clock.spent <= span times
  running : forall since, clock.since = some since -> exists seen first last,
    clock.lastAt = some seen ∧ times.head? = some first ∧ times.getLast? = some last ∧
      total clock.spent <= timestampMillis since - first ∧
        timestampMillis since <= timestampMillis seen ∧ timestampMillis seen <= last

/-- Every booking is kept, or grows. -/
def Grows (before after : ExtTreeMap String Int) : Prop :=
  forall (step : String) millis, before[step]? = some millis ->
    exists later, after[step]? = some later ∧ millis <= later

section Clock

variable {clock : StepClock} {times : List Int} {step before after : String}
  {now : PersistedTimestamp} {«at» : Option PersistedTimestamp} {resume : Bool} {millis : Int}

theorem Grows.refl {spent : ExtTreeMap String Int} : Grows spent spent :=
  fun _ millis hget => ⟨millis, hget, Int.le_refl _⟩

theorem Grows.trans {first second third : ExtTreeMap String Int} (h : Grows first second)
    (h' : Grows second third) : Grows first third := by
  intro step millis hget
  rcases h step millis hget with ⟨later, hlater, hle⟩
  rcases h' step later hlater with ⟨latest, hlatest, hle'⟩
  exact ⟨latest, hlatest, Int.le_trans hle hle'⟩

theorem grows_book (hmillis : 0 <= millis) : Grows clock.spent (clock.book step millis).spent := by
  intro other held hget
  unfold StepClock.book
  dsimp only
  rcases Decidable.em (step = other) with rfl | hne
  · rw [ExtTreeMap.getElem?_insert_self, hget, Option.getD_some]
    exact ⟨_, rfl, by omega⟩
  · rw [OrderedMap.getElem?_insert_of_ne hne]
    exact ⟨held, hget, Int.le_refl _⟩

theorem total_book : total (clock.book step millis).spent = total clock.spent + millis := by
  unfold StepClock.book
  rw [total_insert]
  omega

theorem booked_book (hmillis : 0 <= millis)
    (h : forall (step : String) millis, clock.spent[step]? = some millis -> 0 <= millis) :
    forall (other : String) held, (clock.book step millis).spent[other]? = some held ->
      0 <= held := by
  intro other held hget
  unfold StepClock.book at hget
  dsimp only at hget
  rcases Decidable.em (step = other) with rfl | hne
  · rw [ExtTreeMap.getElem?_insert_self, Option.some.injEq] at hget
    cases hheld : clock.spent[step]? with
    | none =>
        rw [hheld, Option.getD_none] at hget
        omega
    | some earlier =>
        have hearlier := h step earlier hheld
        rw [hheld, Option.getD_some] at hget
        omega
  · rw [OrderedMap.getElem?_insert_of_ne hne] at hget
    exact h other held hget

theorem resumesFrom_eq_some {since last : PersistedTimestamp}
    (h : resumesFrom clock «at» = some (since, last)) :
    exists now, «at» = some now ∧ clock.since = some since ∧
      clock.lastAt.or clock.since = some last ∧ timestampMillis last <= timestampMillis now := by
  unfold resumesFrom at h
  split at h
  · rename_i since' last' now hsince hlast
    split at h
    · rename_i hgap
      cases h
      rw [Bool.and_eq_true] at hgap
      exact ⟨now, rfl, hsince, hlast, of_decide_eq_true hgap.left⟩
    · cases h
  · cases h

theorem grows_clockStep : Grows clock.spent (clockStep clock before after «at» resume).spent := by
  unfold clockStep
  split
  · rename_i since last hresumes
    dsimp only
    split
    · rename_i hbooks
      rw [Bool.and_eq_true] at hbooks
      have hlt := of_decide_eq_true hbooks.left
      exact grows_book (by omega)
    · exact Grows.refl
  · split
    · exact Grows.refl
    · dsimp only
      split
      · split
        · rename_i hbooks
          rw [Bool.and_eq_true] at hbooks
          have hle := of_decide_eq_true hbooks.left
          exact grows_book (by omega)
        · exact Grows.refl
      · exact Grows.refl

theorem accounts_empty : Accounts {} [] where
  booked := fun _ _ hget => nomatch (ExtTreeMap.getElem?_empty.symm.trans hget)
  spanned := Int.le_refl 0
  running := fun _ hsince => nomatch hsince

theorem head?_concat (value : Int) : (times ++ [value]).head? = some (times.head?.getD value) := by
  cases times with
  | nil => rfl
  | cons first rest => rfl

theorem span_concat (value : Int) : span (times ++ [value]) = value - times.head?.getD value := by
  unfold span
  rw [List.getLast?_concat, head?_concat, Option.getD_some, Option.getD_some]

theorem Accounts.le_later {value : Int} (h : Accounts clock times)
    (hlater : forall time, time ∈ times -> time <= value) :
    total clock.spent <= value - times.head?.getD value := by
  have hspanned := h.spanned
  unfold span at hspanned
  cases hlast : times.getLast? with
  | none =>
      rw [List.getLast?_eq_none_iff.mp hlast] at hspanned ⊢
      dsimp only [List.getLast?_nil, List.head?_nil, Option.getD_none] at hspanned ⊢
      omega
  | some last =>
      have hle := hlater last (List.mem_of_getLast? hlast)
      cases hfirst : times.head? with
      | none =>
          rw [List.head?_eq_none_iff.mp hfirst] at hlast
          cases hlast
      | some first =>
          rw [hlast, hfirst, Option.getD_some, Option.getD_some] at hspanned
          rw [Option.getD_some]
          omega

theorem Accounts.extend (h : Accounts clock times)
    (hlater : forall now, now ∈ instants «at» -> forall time, time ∈ times -> time <= now) :
    Accounts clock (times ++ instants «at») := by
  cases «at» with
  | none =>
      have hnothing : times ++ instants none = times := List.append_nil times
      rw [hnothing]
      exact h
  | some now =>
      have hthen := hlater (timestampMillis now) List.mem_cons_self
      show Accounts clock (times ++ [timestampMillis now])
      constructor
      · exact h.booked
      · rw [span_concat]
        exact h.le_later hthen
      · intro since hsince
        rcases h.running since hsince with ⟨seen, first, last, hseen, hfirst, hlast, hrest⟩
        refine ⟨seen, first, timestampMillis now, hseen, ?_, List.getLast?_concat, hrest.left,
          hrest.right.left, ?_⟩
        · rw [head?_concat, hfirst, Option.getD_some]
        · exact Int.le_trans hrest.right.right (hthen last (List.mem_of_getLast? hlast))

/-- A clock that starts at a record, with what was booked before it. -/
theorem accounts_restart {spent : ExtTreeMap String Int}
    (hbooked : forall (step : String) (millis : Int), spent[step]? = some millis -> 0 <= millis)
    (hspent : total spent <= timestampMillis now - times.head?.getD (timestampMillis now)) :
    Accounts { since := some now, lastAt := some now, spent := spent }
      (times ++ instants (some now)) := by
  show Accounts _ (times ++ [timestampMillis now])
  constructor
  · exact hbooked
  · rw [span_concat]
    exact hspent
  · intro since hsince
    cases hsince
    exact ⟨now, _, _, rfl, head?_concat _, List.getLast?_concat, hspent, Int.le_refl _,
      Int.le_refl _⟩

theorem Accounts.restart {since now : PersistedTimestamp} {stop : Int}
    (h : Accounts clock times) (hsince : clock.since = some since)
    (hfrom : timestampMillis since <= stop) (hstop : stop <= timestampMillis now) :
    Accounts
      { clock.book step (stop - timestampMillis since) with
          since := some now, lastAt := some now }
      (times ++ instants (some now)) := by
  apply accounts_restart
  · exact booked_book (by omega) h.booked
  · rcases h.running since hsince with ⟨_, first, _, _, hfirst, _, hspent, _⟩
    rw [total_book, hfirst, Option.getD_some]
    omega

theorem Accounts.clockStep (h : Accounts clock times)
    (hlater : forall now, now ∈ instants «at» -> forall time, time ∈ times -> time <= now) :
    Accounts (clockStep clock before after «at» resume) (times ++ instants «at») := by
  have hplain : forall now, «at» = some now -> Accounts
      { since := some now, lastAt := some now, spent := clock.spent }
      (times ++ instants (some now)) := by
    rintro now rfl
    exact accounts_restart h.booked (h.le_later (hlater (timestampMillis now) List.mem_cons_self))
  unfold Tasks.clockStep
  split
  · rename_i since last hresumes
    have hresumed : resumesFrom clock «at» = some (since, last) := by
      split at hresumes
      · exact hresumes
      · cases hresumes
    rcases resumesFrom_eq_some hresumed with ⟨now, rfl, hsince, _, hle⟩
    dsimp only
    split
    · rename_i hbooks
      rw [Bool.and_eq_true] at hbooks
      have hlt := of_decide_eq_true hbooks.left
      exact h.restart hsince (by omega) hle
    · exact hplain now rfl
  · split
    · -- the record leaves the step as it was
      cases «at» with
      | none =>
          rw [Option.or_none, Option.none_or]
          exact h.extend hlater
      | some now =>
          rw [Option.some_or]
          cases hsince : clock.since with
          | none =>
              exact hplain now rfl
          | some since =>
              have hextended := h.extend hlater
              constructor
              · exact h.booked
              · exact hextended.spanned
              · intro since' hsince'
                cases hsince'
                rcases h.running since hsince with
                  ⟨seen, first, last, _, hfirst, hlast, hspent, hle, hseen⟩
                have hthen := hlater (timestampMillis now) List.mem_cons_self last
                  (List.mem_of_getLast? hlast)
                refine ⟨now, first, timestampMillis now, rfl, ?_, List.getLast?_concat, hspent,
                  by omega, Int.le_refl _⟩
                show (times ++ [timestampMillis now]).head? = some first
                rw [head?_concat, hfirst, Option.getD_some]
    · cases «at» with
      | none =>
          dsimp only
          have hnothing : times ++ instants none = times := List.append_nil times
          rw [hnothing]
          split
          · rename_i hnow
            cases hnow
          · exact
              { booked := h.booked
                spanned := h.spanned
                running := fun _ hsince => nomatch hsince }
      | some now =>
          dsimp only
          split
          · rename_i since now' hsince hnow
            cases hnow
            split
            · rename_i hbooks
              rw [Bool.and_eq_true] at hbooks
              exact h.restart hsince (of_decide_eq_true hbooks.left) (Int.le_refl _)
            · exact hplain now rfl
          · exact hplain now rfl

end Clock

/-!
## The clock of a slice
-/

section States

variable {state : TaskState} {event : TaskEventRecord} {blockers : Blockers}

theorem clock_applyVerdict : (applyVerdict state event blockers).fst.clock = state.clock := by
  unfold applyVerdict
  dsimp only
  split
  · unfold showBlockers
    dsimp only
    split
    · rfl
    · rfl
  · unfold showBlockers
    dsimp only
    split
    · rfl
    · rfl

theorem clock_verdicts {records : List TaskEventRecord} :
    (records.foldl (fun (state, blockers) record => applyVerdict state record blockers)
      (state, blockers)).fst.clock = state.clock := by
  induction records generalizing state blockers with
  | nil =>
      rfl
  | cons record rest ih =>
      rw [List.foldl_cons]
      exact ih.trans clock_applyVerdict

theorem clock_openHead : (openHead state event blockers).fst.clock = state.clock := by
  unfold openHead
  cases sameHeadRepeat state event with
  | false =>
      cases pendingOpened state event with
      | false => rfl
      | true => rfl
  | true =>
      cases pendingOpened state event with
      | false => rfl
      | true => rfl

theorem clock_prOpened : (prOpened state event blockers).fst.clock = state.clock := by
  have hfix : forall state : TaskState, (fixRound state event).clock = state.clock := by
    intro state
    unfold fixRound
    split
    · split
      · rfl
      · rfl
    · rfl
  have hanswer : forall state : TaskState, (answerBlock state event).clock = state.clock := by
    intro state
    unfold answerBlock
    split
    · split
      · rfl
      · rfl
    · rfl
  have hhead : forall state : TaskState, (recordHead state event).clock = state.clock := by
    intro state
    unfold recordHead
    split
    · rfl
    · rfl
  unfold prOpened applyStrays
  dsimp only
  rw [clock_verdicts]
  dsimp only
  rw [hhead, hanswer, hfix, clock_openHead]

theorem clock_reviewAssigned : (reviewAssigned state event).clock = state.clock := by
  unfold reviewAssigned
  extract_lets listed named renewed assigned
  have hlisted : listed.clock = state.clock := by
    unfold listed
    cases event.reviewer with
    | some reviewer => rfl
    | none => rfl
  have hassigned : assigned.clock = state.clock := by
    unfold assigned
    split
    · exact hlisted
    · split
      · split
        · exact hlisted
        · exact hlisted
      · exact hlisted
  split
  · exact hassigned
  · exact hassigned

theorem clock_applyKind : (applyKind state event blockers).fst.clock = state.clock := by
  unfold applyKind
  split
  · unfold claimed
    dsimp only
    split
    · rfl
    · rfl
  · unfold planned
    dsimp only
    split
    · rfl
    · rfl
  · exact clock_prOpened
  · exact clock_reviewAssigned
  · unfold reviewVerdict
    split
    · exact clock_applyVerdict
    · rfl
  · unfold criticVerdict
    dsimp only
    split
    · rfl
    · rfl
  · rfl
  · rfl
  · rfl

end States

def Fold.concerns (fold : Fold) (event : TaskEventRecord) (id : Nat) : Bool :=
  id ∈ fold.landsIn event ||
    fold.slices.any fun slice => slice.id = id && fold.ends event slice

section Turns

variable {fold : Fold} {event : TaskEventRecord} {slice : Slice}

theorem clock_turn {after : Slice} (h : Turn fold event slice after) :
    after.state.clock = slice.state.clock ∨
      (slice.id ∈ fold.landsIn event ∨ fold.ends event slice = true) ∧
        exists before step resume,
          after.state.clock = clockStep slice.state.clock before step event.occurredAt resume := by
  have hprepared : forall joined, (slice.prepare event joined).state.clock = slice.state.clock := by
    intro joined
    rw [state_prepare]
    cases joined with
    | true => rfl
    | false => rfl
  cases h with
  | same => exact Or.inl rfl
  | stopped joined _ => exact Or.inl (hprepared joined)
  | applied joined _ hlands =>
      refine Or.inr (And.intro (Or.inl hlands) ?_)
      refine ⟨_, _, _, congrArg (fun clock => clockStep clock _ _ _ _) ?_⟩
      exact clock_applyKind.trans (hprepared joined)
  | endedWith planMissing _ _ hends =>
      refine Or.inr (And.intro (Or.inr hends) ?_)
      unfold Slice.endWith
      dsimp only
      split
      · exact ⟨_, _, _, rfl⟩
      · exact ⟨_, _, _, rfl⟩
  | closedIssue planMissing _ _ hends =>
      refine Or.inr (And.intro (Or.inr hends) ?_)
      exact ⟨timed planMissing slice.state.step, "merged", false, rfl⟩
  | orphaned => exact Or.inl rfl
  | reset => exact Or.inl rfl
  | orphanedReset => exact Or.inl rfl
  | releasedTo => exact Or.inl rfl
  | released => exact Or.inl rfl
  | beaten => exact Or.inl rfl
  | acted binding activity _ _ _ _ => exact Or.inl rfl

end Turns

/-!
## Logs
-/

def sliceTimes : Fold -> List TaskEventRecord -> Nat -> List Int
  | _, [], _ => []
  | fold, event :: rest, id =>
      (if fold.concerns event id then instants event.occurredAt else []) ++
        sliceTimes (fold.record event) rest id

/-- Every slice of the fold has booked no more than its records passed. -/
structure Balanced (fold : Fold) (past : Nat -> List Int) : Prop where
  slices : forall slice, slice ∈ fold.all -> Accounts slice.state.clock (past slice.id)
  unused : forall id, fold.nextId <= id -> past id = []

section Logs

variable {fold : Fold} {event : TaskEventRecord} {events : List TaskEventRecord}
  {records : List TaskEventRecord} {past : Nat -> List Int}

theorem concerns_of_ends {slice : Slice} (hnumbered : Numbered fold)
    (hmem : slice ∈ fold.all ∨ slice.id = fold.nextId)
    (hends : fold.ends event slice = true) : fold.concerns event slice.id = true := by
  have hlive : (fold.slices.any fun live => live.id = slice.id) = true := by
    unfold Fold.ends at hends
    simp only [Bool.and_eq_true] at hends
    exact hends.left.left.right
  rcases List.any_eq_true.mp hlive with ⟨live, hliveMem, hid⟩
  have hid' : live.id = slice.id := of_decide_eq_true hid
  have hlt := hnumbered.lt (List.mem_append_left _ hliveMem)
  rcases hmem with hmem | hfresh
  · have hsame : live = slice :=
      List.inj_on_of_nodup_map hnumbered.nodup (List.mem_append_left _ hliveMem) hmem hid'
    unfold Fold.concerns
    rw [Bool.or_eq_true]
    refine Or.inr (List.any_eq_true.mpr ⟨live, hliveMem, ?_⟩)
    rw [hsame, hends, Bool.and_true]
    exact decide_eq_true rfl
  · omega

theorem accounts_turn {before after : Slice} (hnumbered : Numbered fold)
    (hmem : before ∈ fold.all ∨ before.id = fold.nextId) (h : Turn fold event before after)
    (hbefore : Accounts before.state.clock (past before.id))
    (hlater : forall now, now ∈ instants event.occurredAt -> forall id time, time ∈ past id ->
      time <= now) :
    Accounts after.state.clock
      (past after.id ++ if fold.concerns event after.id then instants event.occurredAt else []) := by
  have hextended := hbefore.extend fun now hnow => hlater now hnow before.id
  rw [h.id_eq]
  rcases clock_turn h with hsame | ⟨hconcerns, _, _, _, hmoved⟩
  · rw [hsame]
    split
    · exact hextended
    · rw [List.append_nil]
      exact hbefore
  · have hhere : fold.concerns event before.id = true := by
      rcases hconcerns with hlands | hends
      · unfold Fold.concerns
        rw [decide_eq_true hlands, Bool.true_or]
      · exact concerns_of_ends hnumbered hmem hends
    rw [hmoved, if_pos hhere]
    exact hbefore.clockStep fun now hnow => hlater now hnow before.id

theorem Balanced.record (hregular : Regular fold) (h : Balanced fold past)
    (hlater : forall now, now ∈ instants event.occurredAt -> forall id time, time ∈ past id ->
      time <= now) :
    Balanced (fold.record event) fun id =>
      past id ++ if fold.concerns event id then instants event.occurredAt else [] where
  slices := by
    intro slice hmem
    rcases hregular.steps.turns slice hmem with ⟨before, hbefore, hturn⟩ | ⟨_, hturn⟩
    · exact accounts_turn hregular.numbered (Or.inl hbefore) hturn (h.slices before hbefore) hlater
    · refine accounts_turn hregular.numbered (Or.inr rfl) hturn ?_ hlater
      rw [h.unused (fresh fold.nextId event).id (Nat.le_refl _)]
      exact accounts_empty
  unused := by
    intro id hid
    have hsteps : Steps fold event (fold.record event) := hregular.steps
    have hnext := hsteps.nextId_le
    have hunconcerned : fold.concerns event id = false := by
      rw [Bool.eq_false_iff]
      intro hconcerns
      unfold Fold.concerns at hconcerns
      rw [Bool.or_eq_true, decide_eq_true_eq] at hconcerns
      rcases hconcerns with hlands | hends
      · unfold Fold.landsIn at hlands
        rcases List.mem_map.mp hlands with ⟨route, hroute, rfl⟩
        have hrecorded : Regular (fold.record event) := hregular.record
        have hlt := hrecorded.routes route (List.mem_of_mem_drop hroute)
        omega
      · rcases List.any_eq_true.mp hends with ⟨slice, hslice, hguard⟩
        rw [Bool.and_eq_true, decide_eq_true_eq] at hguard
        have hlt := hregular.numbered.lt (List.mem_append_left _ hslice)
        omega
    rw [h.unused id (Nat.le_trans hnext hid), hunconcerned]
    rfl

theorem Balanced.foldl (hregular : Regular fold) (h : Balanced fold past)
    (hlater : forall event, event ∈ events -> forall now, now ∈ instants event.occurredAt ->
      forall id time, time ∈ past id -> time <= now)
    (htimes : (events.filterMap TaskEventRecord.occurredAt).Pairwise (· <= ·)) :
    Balanced (events.foldl Fold.record fold) fun id => past id ++ sliceTimes fold events id := by
  induction events generalizing fold past with
  | nil =>
      constructor
      · intro slice hmem
        unfold sliceTimes
        rw [List.append_nil]
        exact h.slices slice hmem
      · intro id hid
        rw [h.unused id hid]
        rfl
  | cons event rest ih =>
      have hrecorded := h.record hregular (hlater event List.mem_cons_self)
      rw [List.pairwise_filterMap] at htimes
      have hordered := List.pairwise_cons.mp htimes
      have hrest := ih hregular.record hrecorded ?_ (List.pairwise_filterMap.mpr hordered.right)
      · have hsame : (fun id => past id ++ sliceTimes fold (event :: rest) id) = fun id =>
            (past id ++ if fold.concerns event id then instants event.occurredAt else []) ++
              sliceTimes (fold.record event) rest id := by
          funext id
          rw [sliceTimes, List.append_assoc]
        rw [hsame]
        exact hrest
      · intro later hmem now hnow id time htime
        rcases List.mem_append.mp htime with hpast | hhere
        · exact hlater later (List.mem_cons_of_mem _ hmem) now hnow id time hpast
        · split at hhere
          · rcases Option.map_eq_some_iff.mp (Option.mem_toList.mp hhere) with
              ⟨first, hfirst, rfl⟩
            rcases Option.map_eq_some_iff.mp (Option.mem_toList.mp hnow) with
              ⟨second, hsecond, rfl⟩
            have hle := hordered.left later hmem first hfirst second hsecond
            exact Int.ediv_le_ediv (by decide) hle
          · cases hhere

theorem balanced_empty : Balanced {} fun _ => [] where
  slices := fun _ hmem => nomatch hmem
  unused := fun _ _ => rfl

theorem grows_turn {before after : Slice} (h : Turn fold event before after) :
    Grows before.state.clock.spent after.state.clock.spent := by
  rcases clock_turn h with hsame | ⟨_, _, _, _, hmoved⟩
  · rw [hsame]
    exact Grows.refl
  · rw [hmoved]
    exact grows_clockStep

theorem grows_append {more : List TaskEventRecord} {slice : FoldSlice}
    (hafter : forall record, record ∈ records -> forall next, next ∈ more ->
      record.sequence <= next.sequence)
    (hmem : slice ∈ (foldTaskEventsWithRoutes records).slices) :
    exists now, now ∈ (foldTaskEventsWithRoutes (records ++ more)).slices ∧ now.id = slice.id ∧
      Grows slice.state.clock.spent now.state.clock.spent := by
  rcases exists_of_mem_finish hmem with ⟨before, _, _, hbefore, hid, _, hstate⟩
  have hregular : Regular (foldRecords records) := regular_foldRecords
  rcases @Regular.kept _ (bySequence more)
      (fun slice => Grows before.state.clock.spent slice.state.clock.spent) _ hregular hbefore
      Grows.refl (fun _ _ _ _ _ hturn hgrows => hgrows.trans (grows_turn hturn)) with
    ⟨after, hafterMem, hsame, hgrows⟩
  have hfold : (bySequence more).foldl Fold.record (foldRecords records) =
      foldRecords (records ++ more) := by
    unfold foldRecords
    rw [bySequence_append hafter, List.foldl_append]
  rw [hfold] at hafterMem
  have hnumbered : Numbered (foldRecords (records ++ more)) := regular_foldRecords.numbered
  rcases exists_finish_of_mem hnumbered hafterMem with ⟨now, _, _, hnow, hnowId, hnowState⟩
  refine ⟨now, hnow, hnowId.trans (hsame.trans hid.symm), ?_⟩
  rw [hstate, hnowState]
  exact hgrows

/--
In a log whose times do not go back, every slice has spent no less than nothing in each
step, and in all of them no more than passed between its first and its last timed record;
records that come after the log take nothing back.
-/
theorem spent_once
    (h : ((bySequence records).filterMap TaskEventRecord.occurredAt).Pairwise (· <= ·)) :
    (forall slice, slice ∈ (foldTaskEventsWithRoutes records).slices ->
      (forall (step : String) millis,
        slice.state.clock.spent[step]? = some millis -> 0 <= millis) ∧
        total slice.state.clock.spent <= span (sliceTimes {} (bySequence records) slice.id)) ∧
      forall more : List TaskEventRecord,
        (forall record, record ∈ records -> forall next, next ∈ more ->
          record.sequence <= next.sequence) ->
          forall slice, slice ∈ (foldTaskEventsWithRoutes records).slices ->
            exists now, now ∈ (foldTaskEventsWithRoutes (records ++ more)).slices ∧
              now.id = slice.id ∧
                forall (step : String) millis,
                  slice.state.clock.spent[step]? = some millis ->
                    exists later, now.state.clock.spent[step]? = some later ∧
                      millis <= later := by
  constructor
  · intro slice hmem
    rcases exists_of_mem_finish hmem with ⟨before, _, _, hbefore, hid, _, hstate⟩
    have hbalanced : Balanced (foldRecords records) _ :=
      balanced_empty.foldl regular_empty (fun _ _ _ _ _ _ htime => nomatch htime) h
    have hclock := hbalanced.slices before hbefore
    rw [hstate, hid]
    exact And.intro hclock.booked hclock.spanned
  · intro more hafter slice hmem
    exact grows_append hafter hmem

def claimedThenMerged : List TaskEventRecord :=
  [{ kind := .claimed, actorId := "lane-a", sequence := 1, taskId := "issue-1"
     issue := some 1, lane := some "lane-a", occurredAt := some 1000000000 },
    { kind := .prOpened, actorId := "lane-a", sequence := 2, taskId := "issue-1"
      pr := some 5, lane := some "lane-a", headSha := some "aaaaaaa"
      occurredAt := some 3000000000 },
    { kind := .merged, actorId := "lane-a", sequence := 3, taskId := "issue-1"
      pr := some 5, mergeSha := some "ccccccc", occurredAt := some 7000000000 }]

theorem spent_once_claimedThenMerged :
    (foldTaskEventsWithRoutes claimedThenMerged).slices.Forall fun slice =>
      total slice.state.clock.spent <=
        span (sliceTimes {} (bySequence claimedThenMerged) slice.id) :=
  List.forall_iff_forall_mem.mpr fun slice hmem =>
    ((spent_once (by decide +kernel)).left slice hmem).right

end Logs

end Tasks
end GraphHelm
