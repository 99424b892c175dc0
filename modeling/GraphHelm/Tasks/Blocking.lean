import GraphHelm.Tasks.Folding

/-!
# Blocks

What a slice shows of its unanswered BLOCKs and of its review, through every record of a
log. A merge clears the shown BLOCK of each slice it ends, and the sequence of that BLOCK
only in the slice it lands in.
-/

namespace GraphHelm
namespace Tasks

open Std

/-!
## What a slice shows
-/

/-- A recorded head is the commit of the slice's head. -/
def SpeaksFor (spelled : String) (head : Option String) : Prop :=
  head = some spelled ∨ sameOptHead (some spelled) head = true

structure BlockSound (state : TaskState) : Prop where
  paired : state.blockedBy.isSome = state.blockedSequence.isSome
  blocked : forall blocker, state.blockedBy = some blocker ->
    SpeaksFor blocker.headSha state.headSha ∧ state.step = .review
  merged : state.step = .merged -> state.blockedBy = none ∧ state.blockedSequence = none
  activity : forall activity, state.reviewActivity = some activity ->
    state.reviewContextSequence = some activity.reviewContextSequence ∧
      state.currentReviewer = some activity.reviewer ∧
        SpeaksFor activity.headSha state.headSha

/-- What a slice shows while its head is being replaced. -/
structure Shows (state : TaskState) (blockers : Blockers) : Prop where
  paired : state.blockedBy.isSome = state.blockedSequence.isSome
  reviewing : state.blockedBy.isSome = true -> state.step = .review
  activity : forall activity, state.reviewActivity = some activity ->
    state.reviewContextSequence = some activity.reviewContextSequence ∧
      state.currentReviewer = some activity.reviewer ∧
        SpeaksFor activity.headSha state.headSha
  held : forall (reviewer : String) blocker, blockers[reviewer]? = some blocker ->
    SpeaksFor blocker.headSha state.headSha
  strays : forall reviewer verdict headSha record,
    .unrecorded reviewer verdict headSha record ∈ state.strayVerdicts ->
      headSha = record.headSha.getD ""

structure Tracks (state : TaskState) (blockers : Blockers) : Prop extends
    Shows state blockers where
  current : forall blocker, state.blockedBy = some blocker ->
    SpeaksFor blocker.headSha state.headSha

theorem not_speaksFor_none {spelled : String} : ¬SpeaksFor spelled none := by
  rintro (habsent | hsame)
  · cases habsent
  · cases hsame

theorem speaksFor_getD {head : Option String} {current : Option String}
    (hsome : head.isSome = true) (hsame : sameOptHead head current = true) :
    SpeaksFor (head.getD "") current := by
  rcases Option.isSome_iff_exists.mp hsome with ⟨spelled, rfl⟩
  exact Or.inr hsame

section States

variable {state state' : TaskState} {blockers blockers' : Blockers} {event : TaskEventRecord}

theorem Tracks.sound (h : Tracks state blockers) : BlockSound state where
  paired := h.paired
  blocked := fun blocker hblocker =>
    And.intro (h.current blocker hblocker) (h.reviewing (by rw [hblocker, Option.isSome_some]))
  merged := by
    intro hmerged
    cases hblocked : state.blockedBy with
    | none =>
        have hpaired := h.paired
        rw [hblocked, Option.isSome_none] at hpaired
        have hnone := Option.isSome_eq_false_iff.mp hpaired.symm
        exact And.intro rfl (Option.isNone_iff_eq_none.mp hnone)
    | some blocker =>
        have hreview := h.reviewing (by rw [hblocked, Option.isSome_some])
        rw [hmerged] at hreview
        cases hreview
  activity := h.activity

structure SameReview (before after : TaskState) : Prop where
  blockedBy : after.blockedBy = before.blockedBy
  blockedSequence : after.blockedSequence = before.blockedSequence
  activity : after.reviewActivity = before.reviewActivity
  context : after.reviewContextSequence = before.reviewContextSequence
  reviewer : after.currentReviewer = before.currentReviewer
  head : after.headSha = before.headSha
  strays : after.strayVerdicts = before.strayVerdicts
  step : after.step = before.step ∨ before.step ≠ .review

theorem SameReview.shows (hsame : SameReview state state') (h : Shows state blockers) :
    Shows state' blockers where
  paired := by
    rw [hsame.blockedBy, hsame.blockedSequence]
    exact h.paired
  reviewing := by
    rw [hsame.blockedBy]
    intro hblocked
    have hreview := h.reviewing hblocked
    rcases hsame.step with hstep | hstep
    · exact hstep.trans hreview
    · exact absurd hreview hstep
  activity := by
    rw [hsame.activity, hsame.context, hsame.reviewer, hsame.head]
    exact h.activity
  held := by
    rw [hsame.head]
    exact h.held
  strays := by
    rw [hsame.strays]
    exact h.strays

theorem Tracks.same (h : Tracks state blockers) (hsame : SameReview state state') :
    Tracks state' blockers where
  toShows := hsame.shows h.toShows
  current := by
    rw [hsame.blockedBy, hsame.head]
    exact h.current

/-- A new review generation has no activity yet. -/
theorem Tracks.reset (h : Tracks state blockers) (sequence : Nat) :
    Tracks (resetReviewContext state sequence) blockers where
  paired := h.paired
  reviewing := h.reviewing
  activity := fun _ hactivity => nomatch hactivity
  held := h.held
  strays := h.strays
  current := h.current

/-!
## Verdicts
-/

theorem mem_foldl_least {α : Type} {key : α -> Int} {first : α} {rest : List α} :
    rest.foldl (fun least value => if key value < key least then value else least) first ∈
      first :: rest := by
  induction rest generalizing first with
  | nil =>
      exact List.mem_cons_self
  | cons value rest ih =>
      rw [List.foldl_cons]
      have hmem := @ih (if key value < key first then value else first)
      rcases List.mem_cons.mp hmem with heq | hrest
      · rw [heq]
        split
        · exact List.mem_cons_of_mem _ List.mem_cons_self
        · exact List.mem_cons_self
      · exact List.mem_cons_of_mem _ (List.mem_cons_of_mem _ hrest)

theorem mem_of_minByKey {α : Type} {key : α -> Int} {values : List α} {least : α}
    (h : minByKey key values = some least) : least ∈ values := by
  cases values with
  | nil =>
      cases h
  | cons first rest =>
      cases h
      exact mem_foldl_least

theorem exists_of_oldestBlocker {oldest : BlockerAt} (h : oldestBlocker blockers = some oldest) :
    exists reviewer : String, blockers[reviewer]? = some oldest := by
  unfold oldestBlocker at h
  rcases List.mem_map.mp (mem_of_minByKey h) with ⟨⟨reviewer, blocker⟩, hentry, rfl⟩
  exact ⟨reviewer, ExtTreeMap.mem_toList_iff_getElem?_eq_some.mp hentry⟩

theorem Tracks.shown (h : Tracks state blockers)
    (hheld : forall (reviewer : String) blocker, blockers'[reviewer]? = some blocker ->
      SpeaksFor blocker.headSha state.headSha) :
    Tracks (showBlockers state blockers') blockers' where
  paired := by
    unfold showBlockers
    dsimp only
    rw [Option.isSome_map, Option.isSome_map]
  reviewing := by
    unfold showBlockers
    dsimp only
    rw [Option.isSome_map]
    intro hsome
    rcases Option.isSome_iff_exists.mp hsome with ⟨oldest, hold⟩
    rw [hold]
    rfl
  activity := h.activity
  held := hheld
  strays := h.strays
  current := by
    intro blocker hblocker
    unfold showBlockers at hblocker
    dsimp only at hblocker
    rcases Option.map_eq_some_iff.mp hblocker with ⟨oldest, hold, rfl⟩
    rcases exists_of_oldestBlocker hold with ⟨reviewer, hentry⟩
    exact hheld reviewer oldest hentry

theorem headSha_applyVerdict : (applyVerdict state event blockers).fst.headSha = state.headSha := by
  unfold applyVerdict
  dsimp only
  split
  · unfold showBlockers
    dsimp only
    split
    · rfl
    · rfl
  · unfold showBlockers
    dsimp only
    split
    · rfl
    · rfl

theorem Tracks.verdict (h : Tracks state blockers)
    (hhead : event.verdict = some .block -> SpeaksFor (event.headSha.getD "") state.headSha) :
    Tracks (applyVerdict state event blockers).fst (applyVerdict state event blockers).snd := by
  have hnoted : Tracks (noteReviewer state event) blockers :=
    h.same ⟨rfl, rfl, rfl, rfl, rfl, rfl, rfl, Or.inl rfl⟩
  unfold applyVerdict
  dsimp only
  split
  · rename_i hblock
    -- the BLOCK is held under its reviewer
    have hheld : forall (reviewer : String) blocker,
        (blockers.insert (blockerOf event).reviewer (blockerOf event))[reviewer]? = some blocker ->
          SpeaksFor blocker.headSha state.headSha := by
      intro reviewer blocker hentry
      rw [ExtTreeMap.getElem?_insert] at hentry
      split at hentry
      · cases hentry
        exact hhead hblock
      · exact h.held reviewer blocker hentry
    split
    · exact hnoted.shown hheld
    · refine Tracks.shown (hnoted.same ?_) hheld
      exact ⟨rfl, rfl, rfl, rfl, rfl, rfl, rfl, Or.inl rfl⟩
  · have hcleared : forall (named reviewer : String) blocker,
        (blockers.erase named)[reviewer]? = some blocker ->
          SpeaksFor blocker.headSha state.headSha := by
      intro named reviewer blocker hentry
      rw [ExtTreeMap.getElem?_erase] at hentry
      split at hentry
      · cases hentry
      · exact h.held reviewer blocker hentry
    cases event.reviewer with
    | some named =>
        split
        · refine Tracks.shown (hnoted.same ?_) (hcleared named)
          exact ⟨rfl, rfl, rfl, rfl, rfl, rfl, rfl, Or.inl rfl⟩
        · exact hnoted.shown (hcleared named)
    | none =>
        split
        · refine Tracks.shown (hnoted.same ?_) h.held
          exact ⟨rfl, rfl, rfl, rfl, rfl, rfl, rfl, Or.inl rfl⟩
        · exact hnoted.shown h.held

/-!
## Openings
-/

structure Answers (state : TaskState) (blockers : Blockers) (event : TaskEventRecord) : Prop where
  held : forall (reviewer : String) blocker, blockers[reviewer]? = some blocker ->
    SpeaksFor blocker.headSha event.headSha
  activity : pendingOpened state event = false ->
    forall activity, state.reviewActivity = some activity ->
      SpeaksFor activity.headSha event.headSha

theorem headSha_openHead :
    (openHead state event blockers).fst.headSha = event.headSha.or state.headSha := by
  unfold openHead
  cases sameHeadRepeat state event with
  | false =>
      cases pendingOpened state event with
      | false => rfl
      | true => rfl
  | true =>
      cases pendingOpened state event with
      | false => rfl
      | true => rfl

theorem or_of_repeat (hrepeat : sameHeadRepeat state event = true) :
    event.headSha.or state.headSha = event.headSha := by
  unfold sameHeadRepeat at hrepeat
  cases hhead : event.headSha with
  | some head =>
      rfl
  | none =>
      rw [hhead] at hrepeat
      cases hcurrent : state.headSha with
      | none =>
          rfl
      | some current =>
          rw [hcurrent] at hrepeat
          cases hrepeat

theorem Tracks.opened (h : Tracks state blockers)
    (hanswers : sameHeadRepeat state event = true -> Answers state blockers event) :
    Shows (openHead state event blockers).fst (openHead state event blockers).snd ∧
      ((openHead state event blockers).fst.blockedBy.isSome = true ->
        event.headSha.isSome = true) := by
  have hhead := @headSha_openHead state blockers event
  cases hrepeat : sameHeadRepeat state event with
  | false =>
      -- a new head starts its review, and nothing blocks it
      unfold openHead at hhead ⊢
      rw [hrepeat] at hhead ⊢
      cases hpending : pendingOpened state event with
      | false =>
          constructor
          · exact
              { paired := rfl
                reviewing := fun hblocked => nomatch hblocked
                activity := fun _ hactivity => nomatch hactivity
                held := fun reviewer blocker hentry => absurd hentry (by simp)
                strays := h.strays }
          · exact fun hblocked => nomatch hblocked
      | true =>
          constructor
          · exact
              { paired := rfl
                reviewing := fun hblocked => nomatch hblocked
                activity := fun _ hactivity => nomatch hactivity
                held := fun reviewer blocker hentry => absurd hentry (by simp)
                strays := h.strays }
          · exact fun hblocked => nomatch hblocked
  | true =>
      have hkept := hanswers hrepeat
      have hblocked : state.blockedBy.isSome = true -> event.headSha.isSome = true := by
        intro hsome
        rcases Option.isSome_iff_exists.mp hsome with ⟨blocker, hblocker⟩
        have hcurrent := h.current blocker hblocker
        unfold sameHeadRepeat at hrepeat
        cases hnamed : event.headSha with
        | some head =>
            rfl
        | none =>
            rw [hnamed] at hrepeat
            cases hheld : state.headSha with
            | none =>
                rw [hheld] at hcurrent
                exact absurd hcurrent not_speaksFor_none
            | some head =>
                rw [hheld] at hrepeat
                cases hrepeat
      rw [or_of_repeat hrepeat] at hhead
      unfold openHead at hhead ⊢
      rw [hrepeat] at hhead ⊢
      cases hpending : pendingOpened state event with
      | false =>
          rw [hpending] at hhead
          refine And.intro ?_ hblocked
          exact
            { paired := h.paired
              reviewing := h.reviewing
              activity := by
                intro activity hactivity
                have hold := h.activity activity hactivity
                rw [hhead]
                exact ⟨hold.left, hold.right.left, hkept.activity hpending activity hactivity⟩
              held := by
                rw [hhead]
                exact hkept.held
              strays := h.strays }
      | true =>
          rw [hpending] at hhead
          refine And.intro ?_ hblocked
          exact
            { paired := h.paired
              reviewing := h.reviewing
              activity := fun _ hactivity => nomatch hactivity
              held := by
                rw [hhead]
                exact hkept.held
              strays := h.strays }

theorem Shows.answered (h : Shows state blockers)
    (hnamed : state.blockedBy.isSome = true ->
      event.headSha.isSome = true ∧ state.headSha = event.headSha) :
    Tracks (answerBlock state event) blockers := by
  unfold answerBlock
  cases hblocked : state.blockedBy with
  | none =>
      exact { h with current := fun blocker hblocker => nomatch hblocked.symm.trans hblocker }
  | some blocked =>
      rcases hnamed (by rw [hblocked, Option.isSome_some]) with ⟨hsome, hcurrent⟩
      rcases Option.isSome_iff_exists.mp hsome with ⟨head, hhead⟩
      rw [hhead]
      dsimp only
      split
      · rename_i hsame
        refine { h with current := ?_ }
        intro blocker hblocker
        have heq := Option.some.inj (hblocked.symm.trans hblocker)
        rw [hcurrent, hhead, ← heq]
        exact Or.inr (sameHead_comm.trans hsame)
      · exact
          { paired := rfl
            reviewing := fun hshown => nomatch hshown
            activity := h.activity
            held := h.held
            strays := h.strays
            current := fun _ hshown => nomatch hshown }

theorem sameReview_fixRound : SameReview state (fixRound state event) := by
  unfold fixRound
  split
  · split
    · exact ⟨rfl, rfl, rfl, rfl, rfl, rfl, rfl, Or.inl rfl⟩
    · exact ⟨rfl, rfl, rfl, rfl, rfl, rfl, rfl, Or.inl rfl⟩
  · exact ⟨rfl, rfl, rfl, rfl, rfl, rfl, rfl, Or.inl rfl⟩

theorem sameReview_recordHead : SameReview state (recordHead state event) := by
  unfold recordHead
  split
  · exact ⟨rfl, rfl, rfl, rfl, rfl, rfl, rfl, Or.inl rfl⟩
  · exact ⟨rfl, rfl, rfl, rfl, rfl, rfl, rfl, Or.inl rfl⟩

theorem Tracks.speaksNow (h : Tracks state blockers) {stray : StrayVerdict}
    {record : TaskEventRecord} (hmem : stray ∈ state.strayVerdicts)
    (hspeaks : speaksNow state stray = some record) :
    SpeaksFor (record.headSha.getD "") state.headSha := by
  cases stray with
  | superseded reviewer verdict headSha supersededBy =>
      cases hspeaks
  | unrecorded reviewer verdict headSha kept =>
      unfold Tasks.speaksNow at hspeaks
      dsimp only at hspeaks
      split at hspeaks
      · rename_i hsame
        cases hspeaks
        rw [← h.strays reviewer verdict headSha record hmem]
        cases hhead : state.headSha with
        | none =>
            rw [hhead] at hsame
            cases hsame
        | some head =>
            rw [hhead, Option.any_some] at hsame
            exact Or.inr hsame
      · cases hspeaks

theorem Tracks.verdicts {records : List TaskEventRecord} (h : Tracks state blockers)
    (hheads : forall record, record ∈ records ->
      SpeaksFor (record.headSha.getD "") state.headSha) :
    Tracks
      (records.foldl (fun (state, blockers) record => applyVerdict state record blockers)
        (state, blockers)).fst
      (records.foldl (fun (state, blockers) record => applyVerdict state record blockers)
        (state, blockers)).snd := by
  induction records generalizing state blockers with
  | nil =>
      exact h
  | cons record rest ih =>
      have happlied := h.verdict fun _ => hheads record List.mem_cons_self
      have hlater : forall later, later ∈ rest -> SpeaksFor (later.headSha.getD "")
          (applyVerdict state record blockers).fst.headSha := by
        intro later hmem
        rw [headSha_applyVerdict]
        exact hheads later (List.mem_cons_of_mem _ hmem)
      exact ih happlied hlater

theorem Tracks.applyStrays (h : Tracks state blockers) :
    Tracks (applyStrays state blockers).fst (applyStrays state blockers).snd := by
  unfold Tasks.applyStrays
  refine Tracks.verdicts ?_ ?_
  · exact
      { h with strays := fun reviewer verdict headSha record hmem =>
          h.strays reviewer verdict headSha record (List.mem_of_mem_filter hmem) }
  · intro record hmem
    rcases List.mem_filterMap.mp hmem with ⟨stray, hstray, hspeaks⟩
    exact h.speaksNow hstray hspeaks

theorem Tracks.prOpened (h : Tracks state blockers)
    (hanswers : sameHeadRepeat state event = true -> Answers state blockers event) :
    Tracks (prOpened state event blockers).fst (prOpened state event blockers).snd := by
  rcases h.opened hanswers with ⟨hshows, hnamed⟩
  have hhead := @headSha_openHead state blockers event
  unfold Tasks.prOpened
  refine Tracks.applyStrays (Tracks.same ?_ sameReview_recordHead)
  refine (sameReview_fixRound.shows hshows).answered ?_
  intro hblocked
  rw [sameReview_fixRound.blockedBy] at hblocked
  have hsome := hnamed hblocked
  refine And.intro hsome ?_
  rw [sameReview_fixRound.head, hhead]
  rcases Option.isSome_iff_exists.mp hsome with ⟨head, hopened⟩
  rw [hopened]
  rfl

/-!
## The other kinds
-/

theorem sameReview_claimed : SameReview state (claimed state event) := by
  unfold claimed
  dsimp only
  split
  · exact ⟨rfl, rfl, rfl, rfl, rfl, rfl, rfl, Or.inl rfl⟩
  · exact ⟨rfl, rfl, rfl, rfl, rfl, rfl, rfl, Or.inl rfl⟩

theorem sameReview_planned : SameReview state (planned state event) := by
  unfold planned
  dsimp only
  split
  · rename_i hplanning
    refine ⟨rfl, rfl, rfl, rfl, rfl, rfl, rfl, Or.inr ?_⟩
    intro hreview
    rcases hplanning with hplan | hcritic
    · cases hplan.symm.trans hreview
    · cases hcritic.symm.trans hreview
  · exact ⟨rfl, rfl, rfl, rfl, rfl, rfl, rfl, Or.inl rfl⟩

theorem sameReview_criticVerdict : SameReview state (criticVerdict state event) := by
  unfold criticVerdict
  dsimp only
  split
  · rename_i hcritic
    refine ⟨rfl, rfl, rfl, rfl, rfl, rfl, rfl, Or.inr ?_⟩
    intro hreview
    cases hcritic.left.symm.trans hreview
  · exact ⟨rfl, rfl, rfl, rfl, rfl, rfl, rfl, Or.inl rfl⟩

theorem Tracks.named (h : Tracks state blockers) :
    Tracks { state with headSha := state.headSha.or event.headSha } blockers := by
  cases hhead : state.headSha with
  | some head =>
      have hsame : { state with headSha := (some head).or event.headSha } = state := by
        rw [Option.some_or, ← hhead]
      rw [hsame]
      exact h
  | none =>
      have hnone : forall {spelled : String}, ¬SpeaksFor spelled state.headSha := by
        intro spelled
        rw [hhead]
        exact not_speaksFor_none
      exact
        { paired := h.paired
          reviewing := h.reviewing
          activity := fun activity hactivity =>
            absurd (h.activity activity hactivity).right.right hnone
          held := fun reviewer blocker hentry => absurd (h.held reviewer blocker hentry) hnone
          strays := h.strays
          current := fun blocker hblocker => absurd (h.current blocker hblocker) hnone }

theorem Tracks.reviewAssigned (h : Tracks state blockers) :
    Tracks (reviewAssigned state event) blockers := by
  unfold Tasks.reviewAssigned
  extract_lets listed named renewed assigned
  have hlisted : SameReview state listed := by
    unfold listed
    cases event.reviewer with
    | some reviewer =>
        exact ⟨rfl, rfl, rfl, rfl, rfl, rfl, rfl, Or.inl rfl⟩
    | none =>
        exact ⟨rfl, rfl, rfl, rfl, rfl, rfl, rfl, Or.inl rfl⟩
  have hnamed : Tracks named blockers := (h.same hlisted).named
  have hassigned : Tracks assigned blockers := by
    unfold assigned
    split
    · have hreset : Tracks renewed blockers := hnamed.reset event.sequence
      exact
        { paired := hreset.paired
          reviewing := hreset.reviewing
          activity := fun _ hactivity => nomatch hactivity
          held := hreset.held
          strays := hreset.strays
          current := hreset.current }
    · split
      · split
        · exact hnamed
        · exact hnamed.same ⟨rfl, rfl, rfl, rfl, rfl, rfl, rfl, Or.inl rfl⟩
      · exact hnamed
  clear_value assigned
  split
  · rename_i hearly
    refine hassigned.same ⟨rfl, rfl, rfl, rfl, rfl, rfl, rfl, Or.inr ?_⟩
    intro hreview
    rcases hearly with himplement | hplan
    · cases himplement.symm.trans hreview
    · cases hplan.symm.trans hreview
  · exact hassigned

theorem Tracks.reviewVerdict (h : Tracks state blockers)
    (hhead : event.headSha.isSome = true) :
    Tracks (reviewVerdict state event blockers).fst (reviewVerdict state event blockers).snd := by
  unfold Tasks.reviewVerdict
  split
  · rename_i hsame
    exact (h.reset event.sequence).verdict fun _ => speaksFor_getD hhead hsame
  · refine
      { paired := h.paired
        reviewing := h.reviewing
        activity := h.activity
        held := h.held
        strays := ?_
        current := h.current }
    intro reviewer verdict headSha record hmem
    rcases List.mem_append.mp hmem with hold | hnew
    · exact h.strays reviewer verdict headSha record hold
    · have hstray := List.mem_singleton.mp hnew
      unfold strayVerdict at hstray
      dsimp only at hstray
      split at hstray
      · cases hstray
      · cases hstray
        rfl

theorem Tracks.merged (h : Tracks state blockers) : Tracks (merged state event) blockers where
  paired := rfl
  reviewing := fun hblocked => nomatch hblocked
  activity := fun _ hactivity => nomatch hactivity
  held := h.held
  strays := h.strays
  current := fun _ hblocked => nomatch hblocked

structure Fits (state : TaskState) (blockers : Blockers) (event : TaskEventRecord) : Prop where
  verdict : event.kind = .reviewVerdict -> event.headSha.isSome = true
  opening : event.kind = .prOpened -> sameHeadRepeat state event = true ->
    Answers state blockers event

theorem Tracks.applyKind (h : Tracks state blockers) (hfits : Fits state blockers event) :
    Tracks (applyKind state event blockers).fst (applyKind state event blockers).snd := by
  unfold Tasks.applyKind
  split
  · exact h.same sameReview_claimed
  · exact h.same sameReview_planned
  · rename_i hkind
    exact h.prOpened (hfits.opening hkind)
  · exact h.reviewAssigned
  · rename_i hkind
    exact h.reviewVerdict (hfits.verdict hkind)
  · exact h.same sameReview_criticVerdict
  · exact h.merged
  · exact h.reset event.sequence
  · exact h

end States

/-!
## Slices
-/

/-- A slice shows what it holds; one that no record landed in holds nothing. -/
structure Kept (slice : Slice) : Prop where
  tracks : Tracks slice.state (slice.blockers.getD ∅)
  unopened : slice.blockers = none -> slice.state.blockedBy = none

def Fold.opens (fold : Fold) (event : TaskEventRecord) (slice : Slice) : Bool :=
  let landed := land fold.slices fold.absorbed fold.nextId event
  landed.slices[landed.index]?.any fun own => own.id = slice.id

structure KeepsBlocks (fold : Fold) (event : TaskEventRecord) : Prop where
  merges : event.kind = .merged -> forall slice, slice ∈ fold.all ->
    fold.ends event slice = true -> slice.state.blockedSequence = none
  verdicts : event.kind = .reviewVerdict -> event.headSha.isSome = true
  openings : event.kind = .prOpened -> forall slice, slice ∈ fold.all ->
    fold.opens event slice = true -> sameHeadRepeat slice.state event = true ->
      Answers slice.state (slice.blockers.getD ∅) event

section Slices

variable {fold : Fold} {event : TaskEventRecord} {slice : Slice}

theorem blockers_prepare {joined : Bool} (h : Kept slice) :
    (slice.prepare event joined).blockers.getD ∅ = slice.blockers.getD ∅ ∧
      (slice.prepare event joined).blockers.isSome = true := by
  have hopened : forall opened : Slice, opened.blockers = slice.blockers ->
      opened.state.blockedBy = slice.state.blockedBy ->
        opened.openBlockers.blockers.getD ∅ = slice.blockers.getD ∅ ∧
          opened.openBlockers.blockers.isSome = true := by
    intro opened hsame hblocked
    unfold Slice.openBlockers
    split
    · rename_i hsome
      exact And.intro (congrArg (Option.getD · ∅) hsame) hsome
    · rename_i hnone
      rw [hsame, Bool.not_eq_true, Option.isSome_eq_false_iff, Option.isNone_iff_eq_none] at hnone
      dsimp only
      rw [hblocked, h.unopened hnone, hnone]
      exact And.intro rfl rfl
  have hmarked : forall marked : Slice,
      ((marked.markOpening event).revive event).blockers = marked.blockers := by
    intro marked
    unfold Slice.revive Slice.markOpening
    split
    · split
      · rfl
      · rfl
    · split
      · rfl
      · rfl
  unfold Slice.prepare
  rw [hmarked]
  cases joined with
  | true => exact hopened (slice.joinPr event) rfl rfl
  | false => exact hopened slice rfl rfl

theorem Kept.prepare {joined : Bool} (h : Kept slice) : Kept (slice.prepare event joined) := by
  rcases @blockers_prepare event slice joined h with ⟨hblockers, hsome⟩
  constructor
  · rw [hblockers, state_prepare]
    cases joined with
    | true => exact h.tracks.same ⟨rfl, rfl, rfl, rfl, rfl, rfl, rfl, Or.inl rfl⟩
    | false => exact h.tracks
  · intro hnone
    rw [hnone] at hsome
    cases hsome

/-- A record that lands moves the clock besides what its kind does. -/
theorem Kept.apply (h : Kept slice)
    (hfits : Fits (noteAuthor slice.state event) (slice.blockers.getD ∅) event) :
    Kept (slice.apply event) where
  tracks := by
    have hnoted : Tracks (noteAuthor slice.state event) (slice.blockers.getD ∅) :=
      h.tracks.same ⟨rfl, rfl, rfl, rfl, rfl, rfl, rfl, Or.inl rfl⟩
    exact (hnoted.applyKind hfits).same ⟨rfl, rfl, rfl, rfl, rfl, rfl, rfl, Or.inl rfl⟩
  unopened := fun hnone => nomatch hnone

theorem Fits.prepared {joined : Bool} (h : Kept slice)
    (hfits : Fits slice.state (slice.blockers.getD ∅) event) :
    Fits (noteAuthor (slice.prepare event joined).state event)
      ((slice.prepare event joined).blockers.getD ∅) event := by
  rw [(blockers_prepare h).left, state_prepare]
  cases joined with
  | true =>
      exact ⟨hfits.verdict, fun hkind hrepeat =>
        ⟨(hfits.opening hkind hrepeat).held, (hfits.opening hkind hrepeat).activity⟩⟩
  | false =>
      exact ⟨hfits.verdict, fun hkind hrepeat =>
        ⟨(hfits.opening hkind hrepeat).held, (hfits.opening hkind hrepeat).activity⟩⟩

theorem Kept.endWith {planMissing : Bool} (h : Kept slice)
    (hmerges : event.kind = .merged -> slice.state.blockedSequence = none)
    (hkind : event.kind = .merged ∨ event.kind = .closed) :
    Kept (slice.endWith event planMissing) := by
  have hreset := h.tracks.reset event.sequence
  unfold Slice.endWith
  dsimp only
  rcases hkind with hkind | hkind
  · have hopen : event.kind ≠ .closed := by
      rw [hkind]
      exact TaskEventKind.noConfusion
    rw [if_neg hopen]
    constructor
    · exact
        { paired := (congrArg Option.isSome (hmerges hkind)).symm
          reviewing := fun hblocked => nomatch hblocked
          activity := fun _ hactivity => nomatch hactivity
          held := hreset.held
          strays := hreset.strays
          current := fun _ hblocked => nomatch hblocked }
    · exact fun _ => rfl
  · rw [if_pos hkind]
    exact ⟨hreset.same ⟨rfl, rfl, rfl, rfl, rfl, rfl, rfl, Or.inl rfl⟩, h.unopened⟩

theorem Kept.closeIssue {planMissing : Bool} (h : Kept slice)
    (hmerges : slice.state.blockedSequence = none) :
    Kept (slice.closeIssue event planMissing) where
  tracks :=
    { paired := (congrArg Option.isSome hmerges).symm
      reviewing := fun hblocked => nomatch hblocked
      activity := fun _ hactivity => nomatch hactivity
      held := h.tracks.held
      strays := h.tracks.strays
      current := fun _ hblocked => nomatch hblocked }
  unopened := fun _ => rfl

theorem Kept.act {binding : ReviewBinding} {activity : ReviewActivity} (h : Kept slice)
    (hbinding : reviewBinding slice.state = some binding)
    (hnamed : namedBinding event = some binding)
    (hreviewer : event.reviewer = some event.actorId)
    (hactivity : activityOf event = some activity) : Kept (slice.act event activity) where
  tracks :=
    { paired := h.tracks.paired
      reviewing := h.tracks.reviewing
      activity := by
        intro shown hshown
        cases hshown
        unfold reviewBinding at hbinding
        unfold namedBinding at hnamed
        unfold activityOf at hactivity
        simp only [bind, Option.bind_eq_some_iff, pure, Option.some.injEq] at hbinding hnamed hactivity
        rcases hbinding with ⟨_, _, _, _, head, hhead, reviewer, hcurrent, context, hcontext, rfl⟩
        rcases hnamed with ⟨_, _, _, _, named, hnamed, author, hauthor, bound, hbound, heq⟩
        rcases hactivity with ⟨_, _, stated, hstated, _, _, _, _, spelled, hspelled, rfl⟩
        simp only [ReviewBinding.mk.injEq] at heq
        rcases heq with ⟨_, _, _, rfl, rfl, rfl⟩
        rw [hreviewer] at hauthor
        rw [hbound] at hstated
        rw [hnamed] at hspelled
        cases hauthor
        cases hstated
        cases hspelled
        exact ⟨hcontext, hcurrent, Or.inl hhead⟩
      held := h.tracks.held
      strays := h.tracks.strays
      current := h.tracks.current }
  unopened := h.unopened

theorem kept_fresh {id : Nat} : Kept (fresh id event) where
  tracks :=
    { paired := rfl
      reviewing := fun hblocked => nomatch hblocked
      activity := fun _ hactivity => nomatch hactivity
      held := fun _ _ hentry => nomatch (ExtTreeMap.getElem?_empty.symm.trans hentry)
      strays := fun _ _ _ _ hmem => nomatch hmem
      current := fun _ hblocked => nomatch hblocked }
  unopened := fun _ => rfl

theorem Kept.turn {after : Slice} (h : Kept slice) (hturn : Turn fold event slice after)
    (hmerges : event.kind = .merged -> fold.ends event slice = true ->
      slice.state.blockedSequence = none)
    (hfits : slice.id ∈ fold.landsIn event ->
      Fits slice.state (slice.blockers.getD ∅) event) : Kept after := by
  cases hturn with
  | same =>
      exact h
  | stopped joined _ =>
      exact h.prepare
  | applied joined _ hlands =>
      exact h.prepare.apply (Fits.prepared h (hfits hlands))
  | endedWith planMissing _ hkind hends =>
      exact h.endWith (fun hmerged => hmerges hmerged hends) hkind
  | closedIssue planMissing hkind _ hends =>
      exact h.closeIssue (hmerges hkind hends)
  | orphaned =>
      refine ⟨Tracks.reset (h.tracks.same ?_) event.sequence, h.unopened⟩
      exact ⟨rfl, rfl, rfl, rfl, rfl, rfl, rfl, Or.inl rfl⟩
  | reset =>
      exact ⟨h.tracks.reset event.sequence, h.unopened⟩
  | orphanedReset =>
      refine ⟨(Tracks.reset (h.tracks.same ?_) event.sequence).reset event.sequence, h.unopened⟩
      exact ⟨rfl, rfl, rfl, rfl, rfl, rfl, rfl, Or.inl rfl⟩
  | releasedTo =>
      refine ⟨Tracks.reset (h.tracks.same ?_) event.sequence, h.unopened⟩
      exact ⟨rfl, rfl, rfl, rfl, rfl, rfl, rfl, Or.inl rfl⟩
  | released =>
      refine ⟨(h.tracks.reset event.sequence).same ?_, h.unopened⟩
      exact ⟨rfl, rfl, rfl, rfl, rfl, rfl, rfl, Or.inl rfl⟩
  | beaten =>
      exact ⟨h.tracks.same ⟨rfl, rfl, rfl, rfl, rfl, rfl, rfl, Or.inl rfl⟩, h.unopened⟩
  | acted binding activity hbinding hnamed hreviewer hactivity =>
      exact h.act hbinding hnamed hreviewer hactivity

theorem opens_of_mem_landsIn (hkind : event.kind = .prOpened)
    (h : slice.id ∈ fold.landsIn event) : fold.opens event slice = true := by
  have hother : event.kind ≠ .reviewActivity := by
    rw [hkind]
    exact TaskEventKind.noConfusion
  have hrecord : fold.record event = fold.soiled ∨
      fold.record event = fold.soiled.lifecycle event := by
    unfold Fold.record
    rw [if_neg hother, hkind]
    dsimp only
    split
    · exact Or.inl rfl
    · exact Or.inr rfl
  unfold Fold.landsIn at h
  rcases hrecord with hsame | hlife
  · rw [hsame] at h
    have hnothing : fold.soiled.routes.drop fold.routes.length = [] := List.drop_length
    rw [hnothing] at h
    cases h
  · rcases @exists_landsAt fold.soiled event with ⟨own, hlands⟩
    have hroutes : (fold.soiled.lifecycle event).routes =
        fold.routes ++ [{ sequence := event.sequence, slice := own.id }] := hlands.routes
    rw [hlife, hroutes, List.drop_left, List.map_singleton, List.mem_singleton] at h
    unfold Fold.opens
    have hhere : (land fold.slices fold.absorbed fold.nextId event).slices[
        (land fold.slices fold.absorbed fold.nextId event).index]? = some own := hlands.here
    dsimp only
    rw [hhere, Option.any_some, decide_eq_true_eq]
    exact h.symm

theorem kept_record (hregular : Regular fold) (hkeeps : KeepsBlocks fold event)
    (h : forall slice, slice ∈ fold.all -> Kept slice) :
    forall slice, slice ∈ (fold.record event).all -> Kept slice := by
  intro slice hmem
  rcases hregular.steps.turns slice hmem with ⟨before, hbefore, hturn⟩ | ⟨_, hturn⟩
  · refine (h before hbefore).turn hturn (fun hkind => hkeeps.merges hkind before hbefore) ?_
    intro hlands
    exact ⟨hkeeps.verdicts, fun hkind =>
      hkeeps.openings hkind before hbefore (opens_of_mem_landsIn hkind hlands)⟩
  · refine kept_fresh.turn hturn (fun _ _ => rfl) fun _ => ⟨hkeeps.verdicts, fun _ _ => ?_⟩
    exact
      { held := fun _ _ hentry => nomatch (ExtTreeMap.getElem?_empty.symm.trans hentry)
        activity := fun _ _ hactivity => nomatch hactivity }

theorem step_turn {after : Slice} (hturn : Turn fold event slice after)
    (hmerged : slice.state.step = .merged) : after.state.step = .merged := by
  have hprepared : forall joined, (slice.prepare event joined).state.step = .merged := by
    intro joined
    rw [state_prepare]
    cases joined with
    | true => exact hmerged
    | false => exact hmerged
  cases hturn with
  | same => exact hmerged
  | stopped joined _ => exact hprepared joined
  | applied joined hlive _ =>
      unfold Slice.stopped at hlive
      rw [hprepared joined, Bool.or_eq_false_iff] at hlive
      exact absurd rfl (of_decide_eq_false hlive.right)
  | endedWith planMissing hshares _ _ =>
      unfold sharesPr at hshares
      simp only [hmerged, ne_eq, not_true_eq_false, decide_false, Bool.and_false,
        Bool.false_and, Bool.false_eq_true] at hshares
  | closedIssue planMissing _ hstep _ => exact absurd hmerged hstep
  | orphaned => exact hmerged
  | reset => exact hmerged
  | orphanedReset => exact hmerged
  | releasedTo => exact hmerged
  | released => exact hmerged
  | beaten => exact hmerged
  | acted binding activity _ _ _ _ => exact hmerged

end Slices

/-!
## Logs
-/

section Logs

variable {fold : Fold} {events : List TaskEventRecord} {records : List TaskEventRecord}

theorem kept_foldl (hregular : Regular fold) (h : forall slice, slice ∈ fold.all -> Kept slice)
    (hmeet : StepsMeet foldStep KeepsBlocks fold events) :
    forall slice, slice ∈ (events.foldl Fold.record fold).all -> Kept slice := by
  induction events generalizing fold with
  | nil =>
      exact h
  | cons event rest ih =>
      exact ih hregular.record (kept_record hregular hmeet.left h) (hmeet.right _ rfl)

theorem bySequence_prefix {earlier later : List TaskEventRecord}
    (h : bySequence records = earlier ++ later) : bySequence earlier = earlier := by
  unfold bySequence
  apply List.Pairwise.insertionSort_eq
  have hsorted : (bySequence records).Pairwise fun first second =>
      first.sequence <= second.sequence :=
    List.pairwise_insertionSort _ _
  rw [h] at hsorted
  exact (List.pairwise_append.mp hsorted).left

/--
In a log whose records keep each BLOCK with its sequence, every slice shows a BLOCK, its
sequence and its review only of its current head; its slices are numbered without a gap,
its records land in these, and a merged slice stays merged.
-/
theorem blocks_of_steps (h : StepsMeet foldStep KeepsBlocks {} (bySequence records)) :
    (forall slice, slice ∈ (foldTaskEventsWithRoutes records).slices -> BlockSound slice.state) ∧
      (foldTaskEventsWithRoutes records).slices.map FoldSlice.id =
          List.range (foldTaskEventsWithRoutes records).slices.length ∧
        (forall route, route ∈ (foldTaskEventsWithRoutes records).routes ->
          exists slice, slice ∈ (foldTaskEventsWithRoutes records).slices ∧
            slice.id = route.slice) ∧
          forall earlier later slice, bySequence records = earlier ++ later ->
            slice ∈ (foldTaskEventsWithRoutes earlier).slices -> slice.state.step = .merged ->
              exists now, now ∈ (foldTaskEventsWithRoutes records).slices ∧ now.id = slice.id ∧
                now.state.step = .merged := by
  have hregular : Regular (foldRecords records) := regular_foldRecords
  have hids : (foldTaskEventsWithRoutes records).slices.map FoldSlice.id =
      List.range (foldRecords records).nextId :=
    map_id_finish hregular.numbered
  have hlength : (foldTaskEventsWithRoutes records).slices.length = (foldRecords records).nextId := by
    have hlengths := congrArg List.length hids
    rwa [List.length_map, List.length_range] at hlengths
  refine ⟨?_, ?_, ?_, ?_⟩
  · intro slice hmem
    rcases exists_of_mem_finish hmem with ⟨before, issue, key, hbefore, _, _, hstate⟩
    have hkept : Kept before := kept_foldl regular_empty (fun _ hnone => nomatch hnone) h before hbefore
    rw [hstate]
    exact
      { paired := hkept.tracks.sound.paired
        blocked := hkept.tracks.sound.blocked
        merged := hkept.tracks.sound.merged
        activity := hkept.tracks.sound.activity }
  · rw [hids, hlength]
  · intro route hroute
    have hlt := hregular.routes route hroute
    have hmem : route.slice ∈ (foldTaskEventsWithRoutes records).slices.map FoldSlice.id := by
      rw [hids]
      exact List.mem_range.mpr hlt
    exact List.mem_map.mp hmem
  · intro earlier later slice hlog hmem hmerged
    rcases exists_of_mem_finish hmem with ⟨before, _, _, hbefore, hid, _, hstate⟩
    rw [hstate] at hmerged
    have hthen : Regular (foldRecords earlier) := regular_foldRecords
    rcases @Regular.kept _ later _ _ hthen hbefore hmerged
      (fun _ _ _ _ _ hturn => step_turn hturn) with ⟨after, hafter, hsame, hstays⟩
    have hnow : later.foldl Fold.record (foldRecords earlier) = foldRecords records := by
      unfold foldRecords
      rw [hlog, bySequence_prefix hlog, List.foldl_append]
    rw [hnow] at hafter
    rcases exists_finish_of_mem hregular.numbered hafter with ⟨now, _, _, hmemNow, hidNow, hstateNow⟩
    refine ⟨now, hmemNow, hidNow.trans (hsame.trans hid.symm), ?_⟩
    rw [hstateNow]
    exact hstays

def blockedThenFixed : List TaskEventRecord :=
  [{ kind := .prOpened, actorId := "lane-a", sequence := 1, taskId := "issue-1"
     pr := some 5, lane := some "lane-a", headSha := some "aaaaaaa" },
    { kind := .reviewVerdict, actorId := "reviewer", sequence := 2, taskId := "issue-1"
      pr := some 5, headSha := some "aaaaaaa", reviewer := some "reviewer"
      verdict := some .block },
    { kind := .prOpened, actorId := "lane-a", sequence := 3, taskId := "issue-1"
      pr := some 5, lane := some "lane-a", headSha := some "bbbbbbb" },
    { kind := .merged, actorId := "lane-a", sequence := 4, taskId := "issue-1"
      pr := some 5, mergeSha := some "ccccccc", closes := some [1] }]

theorem blocks_of_steps_blockedThenFixed :
    (foldTaskEventsWithRoutes blockedThenFixed).slices.Forall fun slice =>
      BlockSound slice.state := by
  have hplain : StepsMeet foldStep (fun fold event =>
      (forall slice, slice ∈ fold.all -> fold.ends event slice = false) ∧
        event.headSha.isSome = (event.kind != .merged) ∧
          (event.kind = .prOpened ->
            forall slice, slice ∈ fold.all -> sameHeadRepeat slice.state event = false))
      {} (bySequence blockedThenFixed) := by
    decide +kernel
  refine List.forall_iff_forall_mem.mpr (blocks_of_steps (hplain.imp ?_)).left
  rintro fold event ⟨hends, hheads, hrepeats⟩
  constructor
  · intro _ slice hmem hends'
    exact absurd hends' (Bool.eq_false_iff.mp (hends slice hmem))
  · intro hkind
    rw [hheads, hkind]
    rfl
  · intro hkind slice hmem _ hrepeat
    exact absurd hrepeat (Bool.eq_false_iff.mp (hrepeats hkind slice hmem))

def blockedThenClosed : List TaskEventRecord :=
  [{ kind := .claimed, actorId := "lane-a", sequence := 1, taskId := "issue-1"
     issue := some 1, lane := some "lane-a" },
    { kind := .prOpened, actorId := "lane-a", sequence := 2, taskId := "issue-1"
      pr := some 5, lane := some "lane-a", headSha := some "aaaaaaa" },
    { kind := .reviewVerdict, actorId := "reviewer", sequence := 3, taskId := "issue-1"
      pr := some 5, headSha := some "aaaaaaa", reviewer := some "reviewer"
      verdict := some .block },
    { kind := .prOpened, actorId := "lane-b", sequence := 4, taskId := "issue-2"
      pr := some 6, lane := some "lane-b", headSha := some "bbbbbbb" },
    { kind := .merged, actorId := "lane-b", sequence := 5, taskId := "issue-2"
      pr := some 6, mergeSha := some "ccccccc", closes := some [1] }]

theorem blockedThenClosed_keeps_a_sequence :
    ¬forall slice, slice ∈ (foldTaskEventsWithRoutes blockedThenClosed).slices ->
      BlockSound slice.state := by
  intro h
  have hbroken : (foldTaskEventsWithRoutes blockedThenClosed).slices.any (fun slice =>
      slice.state.blockedBy.isSome ≠ slice.state.blockedSequence.isSome) = true := by
    decide +kernel
  rcases List.any_eq_true.mp hbroken with ⟨slice, hmem, hpair⟩
  exact of_decide_eq_true hpair (h slice hmem).paired

end Logs

end Tasks
end GraphHelm
