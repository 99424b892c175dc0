import GraphHelm.Store.Journal

/-!
# Resumed verification

A handle verifies a journal piecewise: a read budget stops a walk, and later
loads go on from the prefix that was verified, behind which the journal has
grown.  A load that its budget does not stop answers what one walk over the
whole journal answers.
-/

namespace GraphHelm

open ErrorState

/-!
## One pass
-/

/-- A line, verified with nothing to stop at. -/
def proveLine (env : JournalEnvironment) (blobs : Blobs) (ctx : VerifyCtx) (line : Bytes) :
    Except EventRepositoryError VerifyCtx := do
  let batch <- LineVerifier.readLine env line
  LineVerifier.proveBatch env blobs ctx line batch

def proveLines (env : JournalEnvironment) (blobs : Blobs) (lines : List Bytes)
    (ctx : VerifyCtx) : Except EventRepositoryError VerifyCtx :=
  (lines.filter fun line => !line.isEmpty).foldlM (proveLine env blobs) ctx

/-- A load from the last seal in one pass. -/
def proveJournal (env : JournalEnvironment) (blobs : Blobs) (seeded : LoadedState)
    (bytes : Bytes) : Except JournalError VerifyCtx :=
  if bytes.length <= maxJournalBytes then
    if isWhole newline bytes then
      match proveLines env blobs (bytes.splitOn newline) (VerifyCtx.seeded seeded) with
      | .ok ctx => .ok ctx
      | .error error => .error (.refused error)
    else
      .error .tornTail
  else
    .error (.refused .limitExceeded)

section Prove

variable {env : JournalEnvironment} {blobs : Blobs} {ctx : VerifyCtx} {line text : Bytes}
  {lines lines' : List Bytes}

theorem proveLines_append :
    proveLines env blobs (lines ++ lines') ctx =
      proveLines env blobs lines ctx >>= proveLines env blobs lines' := by
  unfold proveLines
  rw [List.filter_append, List.foldlM_append]

theorem proveLines_skip : proveLines env blobs ([] :: lines) ctx = proveLines env blobs lines ctx :=
  rfl

theorem proveLines_cons (h : line.isEmpty = false) :
    proveLines env blobs (line :: lines) ctx =
      proveLine env blobs ctx line >>= proveLines env blobs lines := by
  unfold proveLines
  rw [List.filter_cons_of_pos (by rw [h]; rfl), List.foldlM_cons]

/-- The empty piece behind the last newline of a whole text says nothing. -/
theorem proveLines_splitOn (h : Separate newline lines) :
    proveLines env blobs ((unlines newline lines).splitOn newline) ctx =
      proveLines env blobs lines ctx := by
  have hsplit := @splitOn_unlines UInt8 newline [] lines _ h
  rw [List.append_nil] at hsplit
  rw [hsplit, proveLines_append]
  cases proveLines env blobs lines ctx
  all_goals rfl

theorem proveJournal_eq_ok {seeded : LoadedState} {bytes : Bytes} :
    proveJournal env blobs seeded bytes = .ok ctx <->
      bytes.length <= maxJournalBytes ∧ exists lines, Separate newline lines ∧
        bytes = unlines newline lines ∧
          proveLines env blobs lines (VerifyCtx.seeded seeded) = .ok ctx := by
  unfold proveJournal
  by_cases hbound : bytes.length <= maxJournalBytes
  · rw [if_pos hbound, and_iff_right hbound]
    cases hwhole : isWhole newline bytes with
    | false =>
        rw [if_neg Bool.false_ne_true]
        constructor
        · intro h
          cases h
        · rintro ⟨lines, _, rfl, _⟩
          rw [isWhole_unlines] at hwhole
          cases hwhole
    | true =>
        rw [if_pos rfl]
        constructor
        · intro h
          rcases exists_lines_of_isWhole hwhole with ⟨lines, hseparate, hbytes⟩
          rw [hbytes, proveLines_splitOn hseparate] at h
          refine ⟨lines, hseparate, hbytes, ?_⟩
          split at h
          · rename_i last hproved
            cases h
            exact hproved
          · cases h
        · rintro ⟨lines, hseparate, rfl, hproved⟩
          rw [proveLines_splitOn hseparate, hproved]
  · rw [if_neg hbound]
    constructor
    · intro h
      cases h
    · rintro ⟨hle, _⟩
      exact absurd hle hbound

end Prove

/-!
## The walk
-/

namespace LineVerifier

section Walks

variable {verifier : LineVerifier} {walk last : Walk} {line : Bytes} {lines : List Bytes}
  {start : Nat} {error : EventRepositoryError}

def Exceeded (verifier : LineVerifier) (error : EventRepositoryError) : Prop :=
  exists before after, spendBudget verifier.readBudget before after = .error error

theorem Exceeded.eq (h : verifier.Exceeded error) :
    exists walked limitMillis, error = .readBudgetExceeded walked limitMillis := by
  rcases h with ⟨before, after, h⟩
  unfold spendBudget at h
  split at h
  · cases h
    exact ⟨_, _, rfl⟩
  · cases h

theorem not_exceeded_unbounded {env : JournalEnvironment} {blobs : Blobs} :
    ¬ Exceeded { env := env, blobs := blobs, readBudget := ReadBudget.unbounded } error := by
  rintro ⟨before, after, h⟩
  cases h

/-- The step of the walk: a line passes as it does in one pass, unless the budget is spent. -/
theorem verifyLine_outcome :
    match verifier.verifyLine walk line with
    | .ok next =>
        proveLine verifier.env verifier.blobs walk.ctx line = .ok next.ctx
    | .error error =>
        verifier.Exceeded error ∨
          proveLine verifier.env verifier.blobs walk.ctx line = .error error := by
  unfold verifyLine proveLine
  cases readLine verifier.env line with
  | error error =>
      exact Or.inr rfl
  | ok batch =>
      cases hspent : spendBudget verifier.readBudget walk.walked
          (walk.walked + batch.events.length) with
      | error error =>
          show match (spendBudget verifier.readBudget walk.walked
              (walk.walked + batch.events.length) >>= _ : Except EventRepositoryError Walk) with
            | .ok _ => _
            | .error _ => _
          rw [hspent]
          exact Or.inl ⟨_, _, hspent⟩
      | ok u =>
          show match (spendBudget verifier.readBudget walk.walked
              (walk.walked + batch.events.length) >>= _ : Except EventRepositoryError Walk) with
            | .ok _ => _
            | .error _ => _
          rw [hspent]
          show match (proveBatch verifier.env verifier.blobs walk.ctx line batch >>= _ :
              Except EventRepositoryError Walk) with
            | .ok _ => proveBatch verifier.env verifier.blobs walk.ctx line batch = _
            | .error _ => _ ∨ proveBatch verifier.env verifier.blobs walk.ctx line batch = _
          cases proveBatch verifier.env verifier.blobs walk.ctx line batch with
          | ok ctx =>
              rfl
          | error error =>
              exact Or.inr rfl

def StoppedAt (verifier : LineVerifier) (start : Nat) (lines : List Bytes) (walk last : Walk) :
    Prop :=
  (last = walk ∧ lines ≠ []) ∨ exists done rest, lines = done ++ rest ∧ rest ≠ [] ∧
    proveLines verifier.env verifier.blobs done walk.ctx = .ok last.ctx ∧
      last.consumed = start + (unlines newline done).length

theorem StoppedAt.cons {next : Walk} {stop : Nat}
    (h : StoppedAt verifier stop lines next last)
    (hproved : proveLines verifier.env verifier.blobs [line] walk.ctx = .ok next.ctx)
    (hstop : stop = start + line.length + 1) (hnext : next.consumed = stop ∨ next = walk) :
    StoppedAt verifier start (line :: lines) walk last := by
  rcases h with ⟨rfl, hne⟩ | ⟨done, rest, hlines, hne, hdone, hconsumed⟩
  · rcases hnext with hconsumed | rfl
    · refine Or.inr ⟨[line], lines, rfl, hne, hproved, ?_⟩
      rw [hconsumed, hstop, unlines_singleton, List.length_append]
      rfl
    · exact Or.inl (And.intro rfl (List.cons_ne_nil line lines))
  · refine Or.inr ⟨line :: done, rest, by rw [hlines]; rfl, hne, ?_, ?_⟩
    · rw [show line :: done = [line] ++ done from rfl, proveLines_append, hproved]
      exact hdone
    · rw [hconsumed, hstop, unlines_cons, List.length_append, List.length_cons]
      omega

theorem verifyLines_outcome :
    match verifier.verifyLines start lines walk with
    | .ok _ last => proveLines verifier.env verifier.blobs lines walk.ctx = .ok last.ctx
    | .error error last =>
        verifier.StoppedAt start lines walk last ∧
          (verifier.Exceeded error ∨
            proveLines verifier.env verifier.blobs lines walk.ctx = .error error) := by
  induction lines generalizing start walk with
  | nil =>
      rfl
  | cons line rest ih =>
      unfold verifyLines
      dsimp only
      cases hempty : line.isEmpty with
      | true =>
          rw [List.isEmpty_iff] at hempty
          rw [hempty, if_pos rfl]
          have hrest := @ih walk (start + ([] : Bytes).length + 1)
          generalize verifier.verifyLines (start + ([] : Bytes).length + 1) rest walk = result
            at hrest ⊢
          cases result with
          | ok u last =>
              exact hrest
          | error error last =>
              exact And.intro (hrest.left.cons rfl rfl (Or.inr rfl)) hrest.right
      | false =>
          rw [if_neg Bool.false_ne_true, proveLines_cons hempty]
          have hline := @verifyLine_outcome verifier walk line
          cases hverify : verifier.verifyLine walk line with
          | error error =>
              rw [hverify] at hline
              refine And.intro (Or.inl (And.intro rfl (List.cons_ne_nil line rest)))
                (hline.imp id fun hrefused => ?_)
              rw [hrefused]
              rfl
          | ok next =>
              rw [hverify] at hline
              dsimp only at hline ⊢
              rw [hline]
              have hsingle : proveLines verifier.env verifier.blobs [line] walk.ctx =
                  .ok next.ctx := by
                rw [proveLines_cons hempty, hline]
                rfl
              have hrest := @ih { next with consumed := start + line.length + 1 }
                (start + line.length + 1)
              generalize verifier.verifyLines (start + line.length + 1) rest
                { next with consumed := start + line.length + 1 } = result at hrest ⊢
              cases result with
              | ok u last =>
                  exact hrest
              | error error last =>
                  exact And.intro (hrest.left.cons hsingle rfl (Or.inl rfl)) hrest.right

end Walks

end LineVerifier

/-!
## Loads
-/

/-- The prefix a handle keeps is made of lines that one pass verifies. -/
structure VerifiedPrefix.Proves (env : JournalEnvironment) (blobs : Blobs)
    (seeded : LoadedState) (verified : VerifiedPrefix) (lines : List Bytes) : Prop where
  separate : Separate newline lines
  offset : verified.verifiedOffset = (unlines newline lines).length
  proved : proveLines env blobs lines (VerifyCtx.seeded seeded) = .ok verified.ctx

def Journal.Proven (env : JournalEnvironment) (blobs : Blobs) (seeded : LoadedState)
    (journal : Journal) : Prop :=
  forall verified, journal.verified = some verified ->
    exists lines rest, verified.Proves env blobs seeded lines ∧
      journal.bytes = unlines newline lines ++ rest

section Loads

variable {verifier : LineVerifier} {seeded : LoadedState} {journal : Journal}

def Journal.Answers (verifier : LineVerifier) (seeded : LoadedState) (journal : Journal) :
    EStateM.Result JournalError Journal LoadedState -> Prop
  | .ok state after => exists ctx,
      proveJournal verifier.env verifier.blobs seeded journal.bytes = .ok ctx ∧
        state = ctx.state ∧
        after =
          { bytes := journal.bytes
            verified := some
              { verifiedOffset := journal.bytes.length
                genesisWalkPending := false
                ctx := ctx } }
  | .error error after =>
      after.bytes = journal.bytes ∧
        after.Proven verifier.env verifier.blobs seeded ∧
        ((exists refusal, verifier.Exceeded refusal ∧ error = .refused refusal) ∨
          proveJournal verifier.env verifier.blobs seeded journal.bytes = .error error)

theorem proves_of_stopped {ctx : VerifyCtx} {last : Walk} {lines more : List Bytes}
    {genesisWalk : Bool} (hseparate : Separate newline lines) (hmore : Separate newline more)
    (hproved : proveLines verifier.env verifier.blobs lines (VerifyCtx.seeded seeded) = .ok ctx)
    (hstopped : verifier.StoppedAt 0 ((unlines newline more).splitOn newline)
      { ctx := ctx, walked := 0, consumed := 0 } last)
    (hpositive : 0 < last.consumed) :
    exists done left,
      VerifiedPrefix.Proves verifier.env verifier.blobs seeded
          { verifiedOffset := (unlines newline lines).length + last.consumed
            genesisWalkPending := genesisWalk
            ctx := last.ctx } (lines ++ done) ∧
        more = done ++ left := by
  rcases hstopped with ⟨rfl, _⟩ | ⟨done, left, hlines, hne, hdone, hconsumed⟩
  · exact absurd hpositive (Nat.lt_irrefl 0)
  have hpieces := @splitOn_unlines UInt8 newline [] more _ hmore
  rw [List.append_nil, hlines] at hpieces
  -- The walk stopped at a line, so the empty last piece is not among those it verified.
  have hsplit : more = done ++ left.dropLast := by
    have hinit := congrArg List.dropLast hpieces
    rw [List.dropLast_append_of_ne_nil hne] at hinit
    rw [hinit]
    exact List.dropLast_concat.symm
  refine ⟨done, left.dropLast, ?_, hsplit⟩
  exact
    { separate := hseparate.append fun line hline =>
        hmore line (hsplit ▸ List.mem_append_left _ hline)
      offset := by
        show (unlines newline lines).length + last.consumed = _
        rw [hconsumed, unlines_append, List.length_append, Nat.zero_add]
      proved := by
        rw [proveLines_append, hproved]
        exact hdone }

theorem Journal.extend_answers {ctx : VerifyCtx} {lines : List Bytes} {rest : Bytes}
    {genesisWalk : Bool} (hbound : journal.bytes.length <= maxJournalBytes)
    (hseparate : Separate newline lines) (hbytes : journal.bytes = unlines newline lines ++ rest)
    (hproved : proveLines verifier.env verifier.blobs lines (VerifyCtx.seeded seeded) = .ok ctx) :
    journal.Answers verifier seeded
      (journal.extend verifier ctx (unlines newline lines).length genesisWalk) := by
  have hdrop : journal.bytes.drop (unlines newline lines).length = rest := by
    rw [hbytes, List.drop_left]
  have hwhole : isWhole newline journal.bytes = isWhole newline rest := by
    rw [hbytes]
    by_cases hnil : rest = []
    · rw [hnil, List.append_nil]
      exact isWhole_unlines
    · exact isWhole_append_of_ne_nil hnil
  unfold extend
  dsimp only
  rw [hdrop]
  cases htorn : isWhole newline rest with
  | false =>
      rw [if_neg Bool.false_ne_true]
      refine ⟨rfl, ?_, Or.inr ?_⟩
      · intro verified hverified
        cases hverified
      · unfold proveJournal
        rw [if_pos hbound, hwhole, htorn, if_neg Bool.false_ne_true]
  | true =>
      rw [if_pos rfl]
      rcases exists_lines_of_isWhole htorn with ⟨more, hmore, hrest⟩
      -- One pass over all the lines goes on from where the verified ones left it.
      have hall : proveJournal verifier.env verifier.blobs seeded journal.bytes =
          match proveLines verifier.env verifier.blobs more ctx with
          | .ok ctx => .ok ctx
          | .error error => .error (.refused error) := by
        unfold proveJournal
        rw [if_pos hbound, hwhole, htorn, if_pos rfl, hbytes, hrest, ← unlines_append,
          proveLines_splitOn (hseparate.append hmore), proveLines_append, hproved]
        rfl
      have hwalk := @LineVerifier.verifyLines_outcome verifier
        { ctx := ctx, walked := 0, consumed := 0 } ((unlines newline more).splitOn newline) 0
      rw [proveLines_splitOn hmore] at hwalk
      unfold LineVerifier.verifyText
      rw [hrest]
      generalize verifier.verifyLines 0 ((unlines newline more).splitOn newline)
        { ctx := ctx, walked := 0, consumed := 0 } = result at hwalk ⊢
      cases result with
      | ok u last =>
          dsimp only at hwalk ⊢
          refine ⟨last.ctx, ?_, rfl, rfl⟩
          rw [hall, hwalk]
      | error error last =>
          rcases hwalk with ⟨hstopped, hrefused⟩
          have hanswer : (exists refusal, verifier.Exceeded refusal ∧
                JournalError.refused error = .refused refusal) ∨
              proveJournal verifier.env verifier.blobs seeded journal.bytes =
                .error (.refused error) := by
            refine hrefused.imp (fun hexceeded => ⟨error, hexceeded, rfl⟩) fun hproof => ?_
            rw [hall, hproof]
          dsimp only
          split
          · refine ⟨rfl, ?_, hanswer⟩
            intro verified hverified
            dsimp only at hverified
            split at hverified
            · rename_i hpositive
              cases hverified
              rcases proves_of_stopped hseparate hmore hproved hstopped hpositive with
                ⟨done, left, hproves, hlines⟩
              refine ⟨lines ++ done, unlines newline left, hproves, ?_⟩
              show journal.bytes = _
              rw [hbytes, hrest, hlines, unlines_append, unlines_append, List.append_assoc]
            · cases hverified
          · refine ⟨rfl, ?_, hanswer⟩
            intro verified hverified
            cases hverified

theorem Journal.load_answers (h : journal.Proven verifier.env verifier.blobs seeded) :
    journal.Answers verifier seeded (Journal.load verifier seeded journal) := by
  unfold load
  by_cases hbound : journal.bytes.length <= maxJournalBytes
  · rw [if_pos hbound]
    cases hreusable : journal.reusable with
    | none =>
        exact extend_answers hbound Separate.nil rfl rfl
    | some verified =>
        have hverified := (Option.filter_eq_some_iff.mp hreusable).left
        rcases h verified hverified with ⟨lines, rest, hproves, hbytes⟩
        have hextend := @extend_answers verifier seeded journal verified.ctx lines rest
          verified.genesisWalkPending hbound hproves.separate hbytes hproves.proved
        dsimp only
        split
        · rename_i hcomplete
          -- Everything is verified already: there is nothing behind the prefix.
          rcases hcomplete with ⟨hoffset, hpending⟩
          have hrest : rest = [] := by
            have hlength := congrArg List.length hbytes
            rw [List.length_append, ← hproves.offset, hoffset] at hlength
            exact List.length_eq_zero_iff.mp (by omega)
          rw [hrest, List.append_nil] at hbytes
          refine ⟨verified.ctx, ?_, rfl, ?_⟩
          · unfold proveJournal
            rw [if_pos hbound, hbytes, isWhole_unlines, if_pos rfl,
              proveLines_splitOn hproves.separate, hproves.proved]
          · have hsame : verified =
                { verifiedOffset := journal.bytes.length
                  genesisWalkPending := false
                  ctx := verified.ctx } := by
              rw [← hoffset, ← hpending]
            rw [← hsame, ← hverified]
        · rw [hproves.offset]
          exact hextend
  · rw [if_neg hbound]
    refine ⟨rfl, h, Or.inr ?_⟩
    unfold proveJournal
    rw [if_neg hbound]

end Loads

/-!
## Every way of splitting the walk
-/

/-- What can come between two loads of a handle. -/
inductive JournalAction where
  /-- A load of its own, with the budget it has for it. -/
  | load (readBudget : ReadBudget)
  /-- More bytes behind the journal. -/
  | grow (more : Bytes)
  /-- Another handle's recovery of a torn tail. -/
  | trim (readBudget : ReadBudget)
  /-- A failed audit of the prefix, or its replacement. -/
  | forget

def Journal.step (env : JournalEnvironment) (blobs : Blobs) (seeded : LoadedState)
    (journal : Journal) : JournalAction -> Option Journal
  | .load readBudget =>
      some (stateAfter
        (Journal.load { env := env, blobs := blobs, readBudget := readBudget } seeded) journal)
  | .grow more => some { journal with bytes := journal.bytes ++ more }
  | .trim readBudget =>
      let trimmed := stateAfter
        (Journal.trimTornTail { env := env, blobs := blobs, readBudget := readBudget } seeded)
        journal
      some { journal with bytes := trimmed.bytes }
  | .forget => some { journal with verified := none }

section Splits

variable {env : JournalEnvironment} {blobs : Blobs} {seeded : LoadedState}
  {journal after : Journal} {action : JournalAction} {verifier : LineVerifier}

theorem Journal.trimTornTail_bytes :
    (stateAfter (Journal.trimTornTail verifier seeded) journal).bytes = journal.bytes ∨
      (stateAfter (Journal.trimTornTail verifier seeded) journal).bytes =
        wholePart newline journal.bytes := by
  unfold stateAfter trimTornTail
  by_cases hbound : journal.bytes.length <= maxJournalBytes
  · rw [if_pos hbound]
    by_cases hwhole : isWhole newline journal.bytes = true
    · rw [if_pos hwhole]
      exact Or.inl rfl
    · rw [if_neg hwhole]
      by_cases htail : (tornPart newline journal.bytes).length <= maxBatchBytes
      · rw [if_pos htail]
        cases verifier.verifyText (VerifyCtx.seeded seeded) (wholePart newline journal.bytes) with
        | ok u walk =>
            exact Or.inr rfl
        | error error walk =>
            exact Or.inl rfl
      · rw [if_neg htail]
        exact Or.inl rfl
  · rw [if_neg hbound]
    exact Or.inl rfl

theorem Journal.Proven.wholePart (h : journal.Proven env blobs seeded) :
    Journal.Proven env blobs seeded
      { journal with bytes := GraphHelm.wholePart newline journal.bytes } := by
  intro verified hverified
  rcases h verified hverified with ⟨lines, rest, hproves, hbytes⟩
  rcases exists_lines newline rest with ⟨more, torn, _, htorn, hrest⟩
  refine ⟨lines, unlines newline more, hproves, ?_⟩
  show GraphHelm.wholePart newline journal.bytes = _
  rw [hbytes, hrest, ← List.append_assoc, ← unlines_append,
    wholePart_append isWhole_unlines htorn, unlines_append]

theorem Journal.step_proven (h : journal.Proven env blobs seeded)
    (hstep : Journal.step env blobs seeded journal action = some after) :
    after.Proven env blobs seeded := by
  cases action with
  | load readBudget =>
      cases hstep
      have hanswers := @Journal.load_answers
        { env := env, blobs := blobs, readBudget := readBudget } seeded journal h
      unfold stateAfter
      cases hload : Journal.load { env := env, blobs := blobs, readBudget := readBudget } seeded
          journal with
      | ok state loaded =>
          rw [hload] at hanswers
          rcases hanswers with ⟨ctx, hproof, _, rfl⟩
          rcases proveJournal_eq_ok.mp hproof with ⟨_, lines, hseparate, hbytes, hproved⟩
          intro verified hverified
          cases hverified
          refine ⟨lines, [], { separate := hseparate, offset := ?_, proved := hproved }, ?_⟩
          · exact congrArg List.length hbytes
          · rw [List.append_nil]
            exact hbytes
      | error error loaded =>
          rw [hload] at hanswers
          exact hanswers.right.left
  | grow more =>
      cases hstep
      intro verified hverified
      rcases h verified hverified with ⟨lines, rest, hproves, hbytes⟩
      refine ⟨lines, rest ++ more, hproves, ?_⟩
      show journal.bytes ++ more = _
      rw [hbytes, List.append_assoc]
  | trim readBudget =>
      cases hstep
      rcases @Journal.trimTornTail_bytes seeded journal
        { env := env, blobs := blobs, readBudget := readBudget } with hbytes | hbytes
      · rw [hbytes]
        exact h
      · rw [hbytes]
        exact h.wholePart
  | forget =>
      cases hstep
      intro verified hverified
      cases hverified

/-- What a handle keeps is proven, whatever came between its loads. -/
theorem Journal.Proven.of_run {start : Bytes} {actions : List JournalAction}
    (hrun : run (Journal.step env blobs seeded) { bytes := start, verified := none } actions =
      some journal) : journal.Proven env blobs seeded := by
  refine run_invariant (fun h hstep => Journal.step_proven h hstep) ?_ hrun
  intro verified hverified
  cases hverified

end Splits

/-- Two loads accept with one state and keep one prefix, or refuse with one error. -/
def SameLoad : EStateM.Result JournalError Journal LoadedState ->
    EStateM.Result JournalError Journal LoadedState -> Prop
  | .ok state after, .ok state' after' => state = state' ∧ after = after'
  | .error error _, .error error' _ => error = error'
  | _, _ => False

/-- The context a walk comes to, or its refusal. -/
def walkVerdict : EStateM.Result EventRepositoryError Walk Unit ->
    Except EventRepositoryError VerifyCtx
  | .ok _ walk => .ok walk.ctx
  | .error error _ => .error error

section Splits

variable {env : JournalEnvironment} {blobs : Blobs} {seeded : LoadedState}

theorem Journal.Answers.same {journal : Journal} {readBudget : ReadBudget}
    {result result' : EStateM.Result JournalError Journal LoadedState}
    (h : journal.Answers { env := env, blobs := blobs, readBudget := readBudget } seeded result)
    (h' : Journal.Answers { env := env, blobs := blobs, readBudget := ReadBudget.unbounded } seeded
      { journal with verified := none } result') :
    (exists walked limitMillis after,
        result = .error (.refused (.readBudgetExceeded walked limitMillis)) after) ∨
      SameLoad result result' := by
  cases result with
  | ok state after =>
      refine Or.inr ?_
      rcases h with ⟨ctx, hproof, rfl, rfl⟩
      cases result' with
      | ok state' after' =>
          rcases h' with ⟨ctx', hproof', rfl, rfl⟩
          change proveJournal env blobs seeded journal.bytes = .ok ctx' at hproof'
          change proveJournal env blobs seeded journal.bytes = .ok ctx at hproof
          rw [hproof] at hproof'
          cases hproof'
          exact And.intro rfl rfl
      | error error' after' =>
          rcases h'.right.right with ⟨refusal, hexceeded, _⟩ | hproof'
          · exact absurd hexceeded LineVerifier.not_exceeded_unbounded
          · change proveJournal env blobs seeded journal.bytes = .error error' at hproof'
            change proveJournal env blobs seeded journal.bytes = .ok ctx at hproof
            rw [hproof] at hproof'
            cases hproof'
  | error error after =>
      rcases h.right.right with ⟨refusal, hexceeded, rfl⟩ | hproof
      · rcases hexceeded.eq with ⟨walked, limitMillis, rfl⟩
        exact Or.inl ⟨walked, limitMillis, after, rfl⟩
      refine Or.inr ?_
      change proveJournal env blobs seeded journal.bytes = .error error at hproof
      cases result' with
      | ok state' after' =>
          rcases h' with ⟨ctx', hproof', _⟩
          change proveJournal env blobs seeded journal.bytes = .ok ctx' at hproof'
          rw [hproof] at hproof'
          cases hproof'
      | error error' after' =>
          rcases h'.right.right with ⟨refusal, hexceeded, _⟩ | hproof'
          · exact absurd hexceeded LineVerifier.not_exceeded_unbounded
          · change proveJournal env blobs seeded journal.bytes = .error error' at hproof'
            rw [hproof] at hproof'
            cases hproof'
            rfl

theorem LineVerifier.walkVerdict_verifyText {ctx : VerifyCtx} {text : Bytes} :
    walkVerdict (LineVerifier.verifyText
        { env := env, blobs := blobs, readBudget := ReadBudget.unbounded } ctx text) =
      proveLines env blobs (text.splitOn newline) ctx := by
  have hwalk := @LineVerifier.verifyLines_outcome
    { env := env, blobs := blobs, readBudget := ReadBudget.unbounded }
    { ctx := ctx, walked := 0, consumed := 0 } (text.splitOn newline) 0
  unfold LineVerifier.verifyText
  generalize LineVerifier.verifyLines _ 0 (text.splitOn newline)
    { ctx := ctx, walked := 0, consumed := 0 } = result at hwalk ⊢
  cases result with
  | ok u last =>
      exact hwalk.symm
  | error error last =>
      exact (hwalk.right.resolve_left LineVerifier.not_exceeded_unbounded).symm

end Splits

/-- Verifying a journal piecewise is verifying it in one pass: whatever budgets stopped the
loads of a handle and however the journal grew between them, a load that is not stopped
answers what a load from the last seal does; and a walk over whole lines and a walk that goes
on from it come to what one walk over both texts comes to. -/
theorem resumed_verification_is_full {env : JournalEnvironment} {blobs : Blobs}
    {seeded : LoadedState} {start : Bytes} {actions : List JournalAction} {journal : Journal}
    (hrun : run (Journal.step env blobs seeded) { bytes := start, verified := none } actions =
      some journal) :
    (forall readBudget,
      (exists walked limitMillis after,
        Journal.load { env := env, blobs := blobs, readBudget := readBudget } seeded journal =
          .error (.refused (.readBudgetExceeded walked limitMillis)) after) ∨
        SameLoad
          (Journal.load { env := env, blobs := blobs, readBudget := readBudget } seeded journal)
          (Journal.load { env := env, blobs := blobs, readBudget := ReadBudget.unbounded } seeded
            { journal with verified := none })) ∧
      forall ctx first second, isWhole newline first = true ->
        let verifier : LineVerifier :=
          { env := env, blobs := blobs, readBudget := ReadBudget.unbounded }
        walkVerdict (verifier.verifyText ctx (first ++ second)) =
          match verifier.verifyText ctx first with
          | .ok _ walk => walkVerdict (verifier.verifyText walk.ctx second)
          | .error error _ => .error error := by
  refine And.intro (fun readBudget => ?_) (fun ctx first second hwhole => ?_)
  · refine Journal.Answers.same
      (Journal.load_answers (Journal.Proven.of_run hrun)) (Journal.load_answers ?_)
    intro verified hverified
    cases hverified
  · dsimp only
    rcases exists_lines_of_isWhole hwhole with ⟨lines, hseparate, rfl⟩
    have hfirst := @LineVerifier.walkVerdict_verifyText env blobs ctx (unlines newline lines)
    rw [proveLines_splitOn hseparate] at hfirst
    rw [LineVerifier.walkVerdict_verifyText, splitOn_unlines hseparate, proveLines_append, ← hfirst]
    cases LineVerifier.verifyText
        { env := env, blobs := blobs, readBudget := ReadBudget.unbounded } ctx
        (unlines newline lines) with
    | ok u walk =>
        exact LineVerifier.walkVerdict_verifyText.symm
    | error error walk =>
        rfl

namespace Sample

theorem signalled_active_ne_nil : signalled.active ≠ [] := by decide +kernel

/-- The batch of the first request. -/
def signalBatch : PhysicalBatch :=
  signalled.active.head signalled_active_ne_nil

def journalEnv : JournalEnvironment :=
  { storeEnv.toStoreEnvironment with
    canonicalBatchLen := fun _ => 2
    Raw := Bytes
    fromSlice := some
    rawBytes := fun raw => raw
    validateRaw := fun _ => .ran true
    fromValue := fun raw => if raw = [123, 125] then some signalBatch else none
    canonicalBytes := fun _ => [123, 125] }

def loadedJournal : Journal :=
  stateAfter
    (Journal.load { env := journalEnv, blobs := ∅, readBudget := ReadBudget.unbounded }
      LoadedState.default)
    { bytes := [123, 125, 10], verified := none }

end Sample

theorem resumed_verification_is_full_of_one_line :
    run (Journal.step Sample.journalEnv ∅ LoadedState.default) { bytes := [], verified := none }
        [.grow [123, 125, 10], .load ReadBudget.unbounded] = some Sample.loadedJournal ∧
      Sample.loadedJournal.verified.isSome = true ∧
      SameLoad
        (Journal.load
          { env := Sample.journalEnv, blobs := ∅, readBudget := ReadBudget.unbounded }
          LoadedState.default Sample.loadedJournal)
        (Journal.load
          { env := Sample.journalEnv, blobs := ∅, readBudget := ReadBudget.unbounded }
          LoadedState.default { Sample.loadedJournal with verified := none }) := by
  have hrun : run (Journal.step Sample.journalEnv ∅ LoadedState.default)
      { bytes := [], verified := none }
      [.grow [123, 125, 10], .load ReadBudget.unbounded] = some Sample.loadedJournal := rfl
  have hloads : (match Journal.load
      { env := Sample.journalEnv, blobs := ∅, readBudget := ReadBudget.unbounded }
      LoadedState.default Sample.loadedJournal with
    | .ok _ _ => true
    | .error _ _ => false) = true := by decide +kernel
  refine ⟨hrun, by decide +kernel, ?_⟩
  rcases (resumed_verification_is_full hrun).left ReadBudget.unbounded with
    ⟨_, _, _, hexceeded⟩ | hsame
  · rw [hexceeded] at hloads
    cases hloads
  · exact hsame

end GraphHelm
