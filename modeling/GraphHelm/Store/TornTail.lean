import GraphHelm.Store.Resumed

/-!
# Recovering a torn tail

What an open that recovers makes of a journal that a crash left part of a line
behind: the whole lines, and nothing else, or a refusal that touches nothing.
-/

namespace GraphHelm

open Std ErrorState

/-- What a store and the bytes of its journal take from outside. -/
structure DiskEnvironment extends SealEnvironment, JournalEnvironment

def openRecovering (env : JournalEnvironment) (blobs : Blobs) (seeded : LoadedState)
    (bytes : Bytes) : EStateM.Result JournalError Journal LoadedState :=
  Journal.loadTrimming { env := env, blobs := blobs, readBudget := ReadBudget.unbounded } seeded
    true { bytes := bytes, verified := none }

def Journal.complete (bytes : Bytes) (ctx : VerifyCtx) : Journal :=
  { bytes := bytes
    verified := some
      { verifiedOffset := bytes.length
        genesisWalkPending := false
        ctx := ctx } }

section Recovery

variable {env : JournalEnvironment} {blobs : Blobs} {seeded : LoadedState} {bytes torn : Bytes}
  {ctx : VerifyCtx} {lines : List Bytes} {error : JournalError}

theorem Journal.load_of_proveJournal (h : proveJournal env blobs seeded bytes = .ok ctx) :
    Journal.load { env := env, blobs := blobs, readBudget := ReadBudget.unbounded } seeded
      { bytes := bytes, verified := none } = .ok ctx.state (Journal.complete bytes ctx) := by
  have hanswers := @Journal.load_answers
    { env := env, blobs := blobs, readBudget := ReadBudget.unbounded } seeded
    { bytes := bytes, verified := none } (fun _ hverified => by cases hverified)
  cases hload : Journal.load { env := env, blobs := blobs, readBudget := ReadBudget.unbounded }
      seeded { bytes := bytes, verified := none } with
  | ok state after =>
      rw [hload] at hanswers
      rcases hanswers with ⟨ctx', hproof, rfl, rfl⟩
      change proveJournal env blobs seeded bytes = .ok ctx' at hproof
      rw [h] at hproof
      cases hproof
      rfl
  | error error after =>
      rw [hload] at hanswers
      rcases hanswers.right.right with ⟨_, hexceeded, _⟩ | hproof
      · exact absurd hexceeded LineVerifier.not_exceeded_unbounded
      · change proveJournal env blobs seeded bytes = .error error at hproof
        rw [h] at hproof
        cases hproof

theorem Journal.load_of_refused (h : proveJournal env blobs seeded bytes = .error error) :
    exists after,
      Journal.load { env := env, blobs := blobs, readBudget := ReadBudget.unbounded } seeded
          { bytes := bytes, verified := none } = .error error after ∧ after.bytes = bytes := by
  have hanswers := @Journal.load_answers
    { env := env, blobs := blobs, readBudget := ReadBudget.unbounded } seeded
    { bytes := bytes, verified := none } (fun _ hverified => by cases hverified)
  cases hload : Journal.load { env := env, blobs := blobs, readBudget := ReadBudget.unbounded }
      seeded { bytes := bytes, verified := none } with
  | ok state after =>
      rw [hload] at hanswers
      rcases hanswers with ⟨ctx, hproof, _⟩
      change proveJournal env blobs seeded bytes = .ok ctx at hproof
      rw [h] at hproof
      cases hproof
  | error error' after =>
      rw [hload] at hanswers
      rcases hanswers.right.right with ⟨_, hexceeded, _⟩ | hproof
      · exact absurd hexceeded LineVerifier.not_exceeded_unbounded
      · change proveJournal env blobs seeded bytes = .error error' at hproof
        rw [h] at hproof
        cases hproof
        exact ⟨after, rfl, hanswers.left⟩

theorem openRecovering_of_proveJournal (h : proveJournal env blobs seeded bytes = .ok ctx) :
    openRecovering env blobs seeded bytes = .ok ctx.state (Journal.complete bytes ctx) := by
  unfold openRecovering Journal.loadTrimming
  rw [Journal.load_of_proveJournal h]

theorem openRecovering_of_refused (h : proveJournal env blobs seeded bytes = .error error)
    (hnot : error ≠ .tornTail) :
    exists after, openRecovering env blobs seeded bytes = .error error after ∧
      after.bytes = bytes := by
  rcases Journal.load_of_refused h with ⟨after, hload, hbytes⟩
  refine ⟨after, ?_, hbytes⟩
  unfold openRecovering Journal.loadTrimming
  rw [hload]
  cases error with
  | tornTail =>
      exact absurd rfl hnot
  | tornTailAwaits | tailOversized | refused _ =>
      rfl

theorem openRecovering_torn (hseparate : Separate newline lines) (htorn : newline ∉ torn)
    (hne : torn ≠ [])
    (hbound : (unlines newline lines ++ torn).length <= maxJournalBytes) :
    if torn.length <= maxBatchBytes then
      match proveLines env blobs lines (VerifyCtx.seeded seeded) with
      | .ok ctx =>
          openRecovering env blobs seeded (unlines newline lines ++ torn) =
            .ok ctx.state (Journal.complete (unlines newline lines) ctx)
      | .error error => exists after,
          openRecovering env blobs seeded (unlines newline lines ++ torn) =
              .error (.refused error) after ∧
            after.bytes = unlines newline lines ++ torn
    else
      exists after,
        openRecovering env blobs seeded (unlines newline lines ++ torn) =
            .error .tailOversized after ∧
          after.bytes = unlines newline lines ++ torn := by
  have hnotWhole : isWhole newline (unlines newline lines ++ torn) = false := by
    rw [isWhole_unlines_append htorn, List.isEmpty_eq_false_iff]
    exact hne
  have hrefused : proveJournal env blobs seeded (unlines newline lines ++ torn) =
      .error .tornTail := by
    unfold proveJournal
    rw [if_pos hbound, hnotWhole, if_neg Bool.false_ne_true]
  rcases Journal.load_of_refused hrefused with ⟨after, hload, hbytes⟩
  have hwholeBound : (unlines newline lines).length <= maxJournalBytes := by
    rw [List.length_append] at hbound
    omega
  unfold openRecovering Journal.loadTrimming
  rw [hload]
  dsimp only
  unfold Journal.trimTornTail
  rw [hbytes, if_pos hbound, hnotWhole, if_neg Bool.false_ne_true,
    tornPart_append isWhole_unlines htorn, wholePart_append isWhole_unlines htorn]
  by_cases hlong : torn.length <= maxBatchBytes
  · rw [if_pos hlong, if_pos hlong]
    have hverdict := @LineVerifier.walkVerdict_verifyText env blobs (VerifyCtx.seeded seeded)
      (unlines newline lines)
    rw [proveLines_splitOn hseparate] at hverdict
    rw [← hverdict]
    generalize hwalk : LineVerifier.verifyText
      { env := env, blobs := blobs, readBudget := ReadBudget.unbounded }
      (VerifyCtx.seeded seeded) (unlines newline lines) = result at hverdict ⊢
    cases result with
    | ok u walk =>
        exact Journal.load_of_proveJournal
          (proveJournal_eq_ok.mpr ⟨hwholeBound, lines, hseparate, rfl, hverdict.symm⟩)
    | error error walk =>
        exact ⟨after, rfl, hbytes⟩
  · rw [if_neg hlong, if_neg hlong]
    exact ⟨after, rfl, hbytes⟩

end Recovery

/-!
## Whole journals and refused ones
-/

section Refusals

variable {env : JournalEnvironment} {blobs : Blobs} {seeded : LoadedState} {bytes torn : Bytes}
  {ctx : VerifyCtx} {line tail : Bytes} {lines : List Bytes} {error : EventRepositoryError}

theorem proveJournal_refused (hseparate : Separate newline lines)
    (hbound : (unlines newline lines).length <= maxJournalBytes)
    (h : proveLines env blobs lines (VerifyCtx.seeded seeded) = .error error) :
    proveJournal env blobs seeded (unlines newline lines) = .error (.refused error) := by
  unfold proveJournal
  rw [if_pos hbound, isWhole_unlines, if_pos rfl, proveLines_splitOn hseparate, h]

theorem proveJournal_unbounded (hbound : ¬ bytes.length <= maxJournalBytes) :
    proveJournal env blobs seeded bytes = .error (.refused .limitExceeded) := by
  unfold proveJournal
  rw [if_neg hbound]

theorem proveJournal_tornTail (h : proveJournal env blobs seeded bytes = .error .tornTail) :
    bytes.length <= maxJournalBytes ∧ isWhole newline bytes = false := by
  unfold proveJournal at h
  split at h
  · rename_i hbound
    split at h
    · split at h
      · cases h
      · cases h
    · rename_i hwhole
      exact And.intro hbound (Bool.eq_false_iff.mpr hwhole)
  · cases h

theorem openRecovering_of_prefix (h : proveJournal env blobs seeded bytes = .ok ctx)
    (hline : newline ∉ line) (hlength : line.length + 1 <= maxBatchBytes)
    (hbound : bytes.length + (line.length + 1) <= maxJournalBytes)
    (htail : tail <+: line ++ [newline]) (hproper : tail ≠ line ++ [newline]) :
    openRecovering env blobs seeded (bytes ++ tail) =
      .ok ctx.state (Journal.complete bytes ctx) := by
  rcases proveJournal_eq_ok.mp h with ⟨_, lines, hseparate, rfl, hproved⟩
  have hprefixed : tail <+: line := by
    rcases List.prefix_concat_iff.mp htail with heq | hprefixed
    · exact absurd heq hproper
    · exact hprefixed
  have hshort := hprefixed.length_le
  by_cases hne : tail = []
  · rw [hne, List.append_nil]
    exact openRecovering_of_proveJournal h
  · have htorn : newline ∉ tail := fun hmem => hline (hprefixed.subset hmem)
    have hopened := @openRecovering_torn env blobs seeded tail lines hseparate htorn hne (by
      rw [List.length_append]
      omega)
    rw [if_pos (by omega), hproved] at hopened
    exact hopened

theorem openRecovering_of_line (h : proveJournal env blobs seeded bytes = .ok ctx)
    (hline : newline ∉ line) (hne : line ≠ [])
    (hbound : bytes.length + (line.length + 1) <= maxJournalBytes) :
    match proveLine env blobs ctx line with
    | .ok next =>
        openRecovering env blobs seeded (bytes ++ (line ++ [newline])) =
          .ok next.state (Journal.complete (bytes ++ (line ++ [newline])) next)
    | .error error => exists after,
        openRecovering env blobs seeded (bytes ++ (line ++ [newline])) =
            .error (.refused error) after ∧
          after.bytes = bytes ++ (line ++ [newline]) := by
  rcases proveJournal_eq_ok.mp h with ⟨_, lines, hseparate, rfl, hproved⟩
  have hall : Separate newline (lines ++ [line]) := by
    refine hseparate.append fun other hother => ?_
    rw [List.mem_singleton.mp hother]
    exact hline
  have htext : unlines newline lines ++ (line ++ [newline]) = unlines newline (lines ++ [line]) := by
    rw [unlines_append, unlines_singleton]
  have hwithin : (unlines newline (lines ++ [line])).length <= maxJournalBytes := by
    rw [← htext, List.length_append, List.length_append]
    exact hbound
  have hlines : proveLines env blobs (lines ++ [line]) (VerifyCtx.seeded seeded) =
      proveLine env blobs ctx line := by
    rw [proveLines_append, hproved]
    show proveLines env blobs [line] ctx = _
    rw [proveLines_cons (List.isEmpty_eq_false_iff.mpr hne)]
    cases proveLine env blobs ctx line
    all_goals rfl
  rw [htext]
  cases hverdict : proveLine env blobs ctx line with
  | ok next =>
      exact openRecovering_of_proveJournal
        (proveJournal_eq_ok.mpr ⟨hwithin, _, hall, rfl, hlines.trans hverdict⟩)
  | error error =>
      exact openRecovering_of_refused
        (proveJournal_refused hall hwithin (hlines.trans hverdict)) (by simp)

/-- A second open finds what the first left, and a refused one leaves what it found. -/
theorem openRecovering_again :
    match openRecovering env blobs seeded bytes with
    | .ok state after => openRecovering env blobs seeded after.bytes = .ok state after
    | .error _ after => after.bytes = bytes := by
  have hsettled : forall {ctx : VerifyCtx} {bytes : Bytes},
      proveJournal env blobs seeded bytes = .ok ctx ->
        openRecovering env blobs seeded (Journal.complete bytes ctx).bytes =
          .ok ctx.state (Journal.complete bytes ctx) :=
    fun hproof => openRecovering_of_proveJournal hproof
  cases hproof : proveJournal env blobs seeded bytes with
  | ok ctx =>
      rw [openRecovering_of_proveJournal hproof]
      exact hsettled hproof
  | error error =>
      by_cases htorn : error = .tornTail
      · rw [htorn] at hproof
        rcases proveJournal_tornTail hproof with ⟨hbound, hnotWhole⟩
        rcases exists_lines newline bytes with ⟨lines, torn, hseparate, hmem, rfl⟩
        rw [isWhole_unlines_append hmem, List.isEmpty_eq_false_iff] at hnotWhole
        have hopened := @openRecovering_torn env blobs seeded torn lines hseparate hmem
          hnotWhole hbound
        have hwithin : (unlines newline lines).length <= maxJournalBytes := by
          rw [List.length_append] at hbound
          omega
        split at hopened
        · split at hopened
          · rename_i ctx hproved
            rw [hopened]
            exact hsettled (proveJournal_eq_ok.mpr ⟨hwithin, lines, hseparate, rfl, hproved⟩)
          · rcases hopened with ⟨after, hrefused, hbytes⟩
            rw [hrefused]
            exact hbytes
        · rcases hopened with ⟨after, hrefused, hbytes⟩
          rw [hrefused]
          exact hbytes
      · rcases openRecovering_of_refused hproof htorn with ⟨after, hrefused, hbytes⟩
        rw [hrefused]
        exact hbytes

theorem openRecovering_of_damaged (hseparate : Separate newline lines) (htorn : newline ∉ torn)
    (h : proveLines env blobs lines (VerifyCtx.seeded seeded) = .error error) :
    exists refusal after,
      openRecovering env blobs seeded (unlines newline lines ++ torn) = .error refusal after ∧
        after.bytes = unlines newline lines ++ torn := by
  by_cases hbound : (unlines newline lines ++ torn).length <= maxJournalBytes
  · by_cases hne : torn = []
    · rw [hne, List.append_nil] at hbound ⊢
      exact ⟨_, openRecovering_of_refused (proveJournal_refused hseparate hbound h) (by simp)⟩
    · have hopened := @openRecovering_torn env blobs seeded torn lines hseparate htorn hne hbound
      rw [h] at hopened
      split at hopened
      · exact ⟨_, hopened⟩
      · exact ⟨_, hopened⟩
  · exact ⟨_, openRecovering_of_refused (proveJournal_unbounded hbound) (by simp)⟩

end Refusals

/-!
## The batches of a journal
-/

section Batches

variable {env : JournalEnvironment} {blobs : Blobs} {ctx next : VerifyCtx} {line : Bytes}
  {lines : List Bytes} {history : List PhysicalBatch}

theorem proveLine_eq_ok :
    proveLine env blobs ctx line = .ok next <->
      exists batch, LineVerifier.readLine env line = .ok batch ∧
        batch.checksum = batchChecksum env.toStoreEnvironment batch ∧
          env.canonicalBytes batch = line ∧
            verifyBatch env.toStoreEnvironment blobs ctx batch = .ok next := by
  unfold proveLine LineVerifier.proveBatch
  simp only [Except.bind_eq_ok, check_eq_ok, decide_eq_true_eq, exists_and_left, exists_const]

theorem proveLine_describes (h : ctx.Sound env.toStoreEnvironment blobs)
    (hdescribes : Describes env.toStoreEnvironment ctx.state history)
    (hok : proveLine env blobs ctx line = .ok next) :
    exists batch, LineVerifier.readLine env line = .ok batch ∧
      Describes env.toStoreEnvironment next.state (history ++ [batch]) ∧
        next.state.batches = ctx.state.batches ++ [batch] ∧
          next.Sound env.toStoreEnvironment blobs := by
  rcases proveLine_eq_ok.mp hok with ⟨batch, hread, _, _, hverified⟩
  have hpositive : 1 <= ctx.state.expectedSequence batch.key := by
    rw [hdescribes.sequences]
    exact Nat.le_add_left 1 _
  rcases verifyBatch_step h hpositive hverified with ⟨hfollows, hstep⟩
  refine ⟨batch, hread, ?_, ?_, hstep.sound⟩
  · rw [hstep.state]
    exact hdescribes.absorb hfollows
  · rw [hstep.state, LoadedState.absorb_batches]

theorem proveLines_describes (h : ctx.Sound env.toStoreEnvironment blobs)
    (hdescribes : Describes env.toStoreEnvironment ctx.state history)
    (hok : proveLines env blobs lines ctx = .ok next) :
    exists batches, Describes env.toStoreEnvironment next.state (history ++ batches) ∧
      next.Sound env.toStoreEnvironment blobs := by
  induction lines generalizing ctx history with
  | nil =>
      cases hok
      exact ⟨[], by rwa [List.append_nil], h⟩
  | cons line rest ih =>
      cases hempty : line.isEmpty with
      | true =>
          rw [List.isEmpty_iff.mp hempty, proveLines_skip] at hok
          exact ih h hdescribes hok
      | false =>
          rw [proveLines_cons hempty] at hok
          rcases bind_ok hok with ⟨middle, hfirst, hrest⟩
          rcases proveLine_describes h hdescribes hfirst with
            ⟨batch, _, hmiddle, _, hsound⟩
          rcases ih hsound hmiddle hrest with ⟨batches, hlast, hlastSound⟩
          refine ⟨batch :: batches, ?_, hlastSound⟩
          rw [List.append_assoc] at hlast
          exact hlast

end Batches

/-- An open that recovers a torn tail loses nothing that was acknowledged and invents nothing:
behind a committed journal it drops what is left of a line that was not finished and keeps a
line that was, a second open finds what the first left, and what it refuses, a damaged line
among them, it leaves as it was. -/
theorem torn_tail_recovery {env : DiskEnvironment} {store : Store} {actions : List StoreAction}
    (hrun : run (Store.step env.toSealEnvironment) Store.empty actions = some store) :
    (forall committed ctx line tail,
      proveJournal env.toJournalEnvironment store.blobs store.seededState committed = .ok ctx ->
      newline ∉ line -> line ≠ [] -> line.length + 1 <= maxBatchBytes ->
      committed.length + (line.length + 1) <= maxJournalBytes ->
      tail <+: line ++ [newline] ->
        (tail ≠ line ++ [newline] ->
          openRecovering env.toJournalEnvironment store.blobs store.seededState
              (committed ++ tail) = .ok ctx.state (Journal.complete committed ctx)) ∧
        (tail = line ++ [newline] ->
          match proveLine env.toJournalEnvironment store.blobs ctx line with
          | .ok next =>
              openRecovering env.toJournalEnvironment store.blobs store.seededState
                  (committed ++ tail) =
                    .ok next.state (Journal.complete (committed ++ tail) next) ∧
                exists batch,
                  LineVerifier.readLine env.toJournalEnvironment line = .ok batch ∧
                    next.state.batches = ctx.state.batches ++ [batch]
          | .error error => exists after,
              openRecovering env.toJournalEnvironment store.blobs store.seededState
                  (committed ++ tail) = .error (.refused error) after ∧
                after.bytes = committed ++ tail)) ∧
      (forall bytes,
        match openRecovering env.toJournalEnvironment store.blobs store.seededState bytes with
        | .ok state after =>
            openRecovering env.toJournalEnvironment store.blobs store.seededState after.bytes =
              .ok state after
        | .error _ after => after.bytes = bytes) ∧
      forall lines torn error, Separate newline lines -> newline ∉ torn ->
        proveLines env.toJournalEnvironment store.blobs lines
            (VerifyCtx.seeded store.seededState) = .error error ->
          exists refusal after,
            openRecovering env.toJournalEnvironment store.blobs store.seededState
                (unlines newline lines ++ torn) = .error refusal after ∧
              after.bytes = unlines newline lines ++ torn := by
  refine ⟨?_, fun bytes => openRecovering_again, ?_⟩
  · intro committed ctx line tail hcommitted hline hne hlength hbound htail
    refine And.intro (fun hproper => ?_) (fun hwhole => ?_)
    · exact openRecovering_of_prefix hcommitted hline hlength hbound htail hproper
    · have hopened := openRecovering_of_line hcommitted hline hne hbound
      rw [hwhole]
      split
      · rename_i next hverdict
        rw [hverdict] at hopened
        refine And.intro hopened ?_
        have hseeded := (Store.Sound.of_run hrun).seeded.left
        rcases proveJournal_eq_ok.mp hcommitted with ⟨_, lines, _, _, hproved⟩
        rcases proveLines_describes
            (VerifyCtx.seeded_sound env.toStoreEnvironment store.blobs store.seededState) hseeded
            hproved with ⟨batches, hdescribes, hsound⟩
        rcases proveLine_describes hsound hdescribes hverdict with ⟨batch, hread, _, hadded, _⟩
        exact ⟨batch, hread, hadded⟩
      · rename_i error hverdict
        rw [hverdict] at hopened
        exact hopened
  · intro lines torn error hseparate htorn hrefused
    exact openRecovering_of_damaged hseparate htorn hrefused

namespace Sample

def diskEnv : DiskEnvironment :=
  { storeEnv, journalEnv with }

theorem oneLine_proved : exists ctx,
    proveJournal diskEnv.toJournalEnvironment ∅ LoadedState.default [123, 125, 10] = .ok ctx := by
  have hproved : (match proveJournal diskEnv.toJournalEnvironment ∅ LoadedState.default
      [123, 125, 10] with
    | .ok _ => true
    | .error _ => false) = true := by decide +kernel
  split at hproved
  · rename_i ctx hctx
    exact ⟨ctx, hctx⟩
  · cases hproved

end Sample

theorem torn_tail_recovery_of_one_line :
    exists ctx,
      openRecovering Sample.diskEnv.toJournalEnvironment ∅ LoadedState.default
          ([123, 125, 10] ++ [123]) =
        .ok ctx.state (Journal.complete [123, 125, 10] ctx) := by
  rcases Sample.oneLine_proved with ⟨ctx, hctx⟩
  have hrun : run (Store.step Sample.diskEnv.toSealEnvironment) Store.empty [] =
      some Store.empty := rfl
  have hopened := (torn_tail_recovery hrun).left [123, 125, 10] ctx [123, 125] [123] hctx
    (by decide) (by decide) (by decide) (by decide) (by decide)
  exact ⟨ctx, hopened.left (by decide)⟩

/-!
## The journal of a store

With a canonical form that has no newline and is read back, the bytes of a store's
journal load as its batches do, and part of a line behind them is what the store
calls a torn line.
-/

section Refinement

variable {env : JournalEnvironment} {store : Store} {blobs : Blobs} {ctx : VerifyCtx}
  {batch : PhysicalBatch} {batches : List PhysicalBatch} {tail : Bytes}

end Refinement

end GraphHelm
