import GraphHelm.Library.Runs
import GraphHelm.Library.Segments
import GraphHelm.Tasks.Requests

/-!
# Hand-offs over whole runs

Whether a hand-off is live is judged anew at every reading, and a lane that went silent
may return. A lane holds at most one live hand-off all the same: a lane is given a
request only where no unlinked request that was last handed to it is within its lease,
and a lease that has run out does not come back.
-/

namespace GraphHelm
namespace Tasks

open Std

/-!
## Signals
-/

section Signals

variable {sha256Hex : String -> String} {requestId other : TaskIdentity} {attempt again : Nat}

theorem newline_not_mem_identity (requestId : TaskIdentity) :
    '\n' ∉ requestId.text.toList := by
  intro hmem
  have hvalid := requestId.valid
  unfold isTaskIdentity at hvalid
  rw [Bool.and_eq_true, List.all_eq_true] at hvalid
  have hchar := hvalid.right '\n' hmem
  exact absurd hchar (by decide)

theorem toList_dispatchSeed : (dispatchSeed requestId attempt).toList =
    "request-dispatch\n".toList ++ (requestId.text.toList ++
      if attempt = 0 then [] else '\n' :: (toString attempt).toList) := by
  unfold dispatchSeed
  split
  · rw [String.toList_append, List.append_nil]
  · rw [String.toList_append, String.toList_append, String.toList_append, List.append_assoc,
      List.append_assoc]
    rfl

theorem dispatchSeed_inj
    (h : dispatchSeed requestId attempt = dispatchSeed other again) :
    requestId = other ∧ attempt = again := by
  have hlist := congrArg String.toList h
  rw [toList_dispatchSeed, toList_dispatchSeed] at hlist
  have htail := List.append_cancel_left hlist
  have hfirst := newline_not_mem_identity requestId
  have hsecond := newline_not_mem_identity other
  split at htail
  · rename_i hzero
    split at htail
    · rename_i hzero'
      rw [List.append_nil, List.append_nil] at htail
      exact And.intro (TaskIdentity.eq_of_text (String.toList_inj.mp htail))
        (hzero.trans hzero'.symm)
    · rw [List.append_nil] at htail
      rw [htail] at hfirst
      exact absurd (List.mem_append_right _ List.mem_cons_self) hfirst
  · split at htail
    · rw [List.append_nil] at htail
      rw [← htail] at hsecond
      exact absurd (List.mem_append_right _ List.mem_cons_self) hsecond
    · rcases append_cons_inj hfirst hsecond htail with ⟨htext, hattempt⟩
      refine And.intro (TaskIdentity.eq_of_text (String.toList_inj.mp htext)) ?_
      exact decimal_injective (congrArg utf8 (String.toList_inj.mp hattempt))

def SignalsApart (sha256Hex : String -> String) (records : List TaskEventRecord) : Prop :=
  forall requestId other attempt again, Recorded records requestId -> Recorded records other ->
    attempt < maxDispatchAttempts -> again < maxDispatchAttempts ->
      (sha256Hex (dispatchSeed requestId attempt)).toList.take 32 =
        (sha256Hex (dispatchSeed other again)).toList.take 32 ->
      dispatchSeed requestId attempt = dispatchSeed other again

theorem SignalsApart.inj {records : List TaskEventRecord} (h : SignalsApart sha256Hex records)
    (hrequest : Recorded records requestId) (hother : Recorded records other)
    (hattempt : attempt < maxDispatchAttempts) (hagain : again < maxDispatchAttempts)
    (hsignal : dispatchSignalId sha256Hex requestId attempt =
      dispatchSignalId sha256Hex other again) : requestId = other ∧ attempt = again := by
  apply dispatchSeed_inj
  apply h requestId other attempt again hrequest hother hattempt hagain
  have hlist := congrArg String.toList hsignal
  unfold dispatchSignalId at hlist
  simp only [String.toList_append, String.toList_ofList] at hlist
  exact List.append_cancel_left hlist

end Signals

/-!
## Reading the hand-offs of a request
-/

def historyOf (handed : List (TaskIdentity × DispatchNote)) (requestId : TaskIdentity) :
    List DispatchNote :=
  (handed.filter fun entry => entry.1 = requestId).map Prod.snd

section Reading

variable {sha256Hex : String -> String} {requestId other : TaskIdentity}
  {handed : List (TaskIdentity × DispatchNote)} {history : List DispatchNote}
  {notes : ExtTreeMap String DispatchNote} {note : DispatchNote}

theorem historyOf_concat_self :
    historyOf (handed ++ [(requestId, note)]) requestId = historyOf handed requestId ++ [note] := by
  unfold historyOf
  rw [List.filter_append, List.map_append, List.filter_singleton, decide_eq_true rfl]
  rfl

theorem historyOf_concat_of_ne (h : requestId ≠ other) :
    historyOf (handed ++ [(requestId, note)]) other = historyOf handed other := by
  unfold historyOf
  rw [List.filter_append, List.map_append, List.filter_singleton, decide_eq_false h]
  exact List.append_nil _

theorem getElem?_historyOf_concat {attempt : Nat} {found : DispatchNote} :
    (historyOf (handed ++ [(requestId, note)]) other)[attempt]? = some found <->
      (historyOf handed other)[attempt]? = some found ∨
        other = requestId ∧ attempt = (historyOf handed requestId).length ∧ found = note := by
  rcases Decidable.em (requestId = other) with rfl | hne
  · rw [historyOf_concat_self, List.getElem?_append, List.getElem?_singleton]
    split
    · rename_i hbound
      rw [or_iff_left]
      rintro ⟨_, hend, _⟩
      omega
    · rename_i hbound
      rw [List.getElem?_eq_none (Nat.le_of_not_lt hbound)]
      constructor
      · intro hget
        split at hget
        · cases hget
          exact Or.inr ⟨rfl, by omega, rfl⟩
        · cases hget
      · rintro (hget | ⟨_, hend, hfound⟩)
        · cases hget
        · rw [if_pos (by omega), hfound]
  · rw [historyOf_concat_of_ne hne, or_iff_left]
    rintro ⟨hsame, _⟩
    exact hne hsame.symm

theorem exists_of_mem_historyOf (h : note ∈ historyOf handed requestId) :
    (requestId, note) ∈ handed := by
  unfold historyOf at h
  rcases List.mem_map.mp h with ⟨⟨who, held⟩, hmem, rfl⟩
  rcases List.mem_filter.mp hmem with ⟨hlisted, hwho⟩
  rw [show who = requestId from of_decide_eq_true hwho] at hlisted
  exact hlisted

/-- What the loop over the attempts leaves of a request's notes. -/
def summary (history : List DispatchNote) : HandOffs where
  newest := history.getLast?
  lapsed := history.dropLast.map DispatchNote.lane
  attempts := history.length

theorem summary_concat :
    summary (history ++ [note]) =
      { newest := some note
        lapsed := (summary history).lapsed ++
          (summary history).newest.toList.map DispatchNote.lane
        attempts := history.length + 1 } := by
  unfold summary
  rw [List.getLast?_concat, List.dropLast_concat, List.length_append]
  congr 1
  show history.map DispatchNote.lane = history.dropLast.map DispatchNote.lane ++
    history.getLast?.toList.map DispatchNote.lane
  rw [← List.map_append]
  congr 1
  cases hlast : history.getLast? with
  | none =>
      rw [List.getLast?_eq_none_iff.mp hlast]
      rfl
  | some last =>
      exact (List.dropLast_append_getLast? last hlast).symm

/-- The loop reads the notes that are there, and breaks behind the last. -/
theorem handOffs_range' {first count : Nat} (hfirst : first <= history.length)
    (hlength : history.length <= first + count)
    (hnotes : forall attempt, first <= attempt -> attempt < first + count ->
      notes[dispatchSignalId sha256Hex requestId attempt]? = history[attempt]?) :
    handOffs sha256Hex notes requestId (List.range' first count)
      (summary (history.take first)) = summary history := by
  induction count generalizing first with
  | zero =>
      rw [show first = history.length by omega, List.take_length]
      rfl
  | succ count ih =>
      rw [List.range'_succ]
      unfold handOffs
      rw [hnotes first (Nat.le_refl first) (by omega)]
      cases hget : history[first]? with
      | none =>
          have hend : history.length <= first := List.getElem?_eq_none_iff.mp hget
          rw [List.take_of_length_le hend]
      | some note =>
          have hbound : first < history.length := (List.getElem?_eq_some_iff.mp hget).choose
          have htake : history.take (first + 1) = history.take first ++ [note] := by
            rw [List.take_add_one, hget]
            rfl
          have hread := @ih (first + 1) hbound (by omega)
            (fun attempt hlow hhigh => hnotes attempt (by omega) (by omega))
          rw [htake, summary_concat, List.length_take, Nat.min_eq_left hfirst] at hread
          exact hread

theorem handOffs_eq_summary (hlength : history.length <= maxDispatchAttempts)
    (hnotes : forall attempt, attempt < maxDispatchAttempts ->
      notes[dispatchSignalId sha256Hex requestId attempt]? = history[attempt]?) :
    handOffs sha256Hex notes requestId (List.range maxDispatchAttempts) {} = summary history := by
  rw [List.range_eq_range']
  refine @handOffs_range' _ _ history _ 0 _ (Nat.zero_le _) (by omega) ?_
  exact fun attempt _ hattempt => hnotes attempt (by omega)

/-- A hand-off is younger than the lease. -/
def Fresh (leaseSeconds : Int) (now : PersistedTimestamp) (note : DispatchNote) : Prop :=
  ageSeconds now note.at < leaseSeconds

theorem Fresh.before {leaseSeconds : Int} {now later : PersistedTimestamp} (hle : now <= later)
    (h : Fresh leaseSeconds later note) : Fresh leaseSeconds now note := by
  unfold Fresh ageSeconds at h ⊢
  refine Int.lt_of_le_of_lt ?_ h
  exact Int.tdiv_le_tdiv (by decide) (Int.sub_le_sub_right hle note.at)

structure Marked (leaseSeconds : Int) (now : PersistedTimestamp) (gone : String -> Bool)
    (history : List DispatchNote) (view marked : RequestView) : Prop where
  same : marked.requestId = view.requestId ∧ marked.issues = view.issues ∧
    marked.status = view.status
  attempts : marked.dispatchAttempts = history.length
  live : forall lane, marked.dispatchedTo = some lane <-> view.issues = [] ∧
    exists note, history.getLast? = some note ∧ note.lane = lane ∧
      Fresh leaseSeconds now note ∧ gone lane = false
  lapsed : view.issues = [] -> marked.dispatchedTo = none ->
    marked.dispatchLapsed = history.map DispatchNote.lane

theorem marked_markOne {leaseSeconds : Int} {now : PersistedTimestamp} {gone : String -> Bool}
    {view : RequestView} (hlength : history.length <= maxDispatchAttempts)
    (hnotes : forall attempt, attempt < maxDispatchAttempts ->
      notes[dispatchSignalId sha256Hex view.requestId attempt]? = history[attempt]?) :
    Marked leaseSeconds now gone history view
      (markOne sha256Hex notes now leaseSeconds gone view) := by
  unfold markOne
  rw [handOffs_eq_summary hlength hnotes]
  cases hlast : history.getLast? with
  | none =>
      have hempty := List.getLast?_eq_none_iff.mp hlast
      simp only [summary, hempty]
      refine { same := ⟨rfl, rfl, rfl⟩, attempts := rfl, live := ?_, lapsed := fun _ _ => rfl }
      intro lane
      refine iff_of_false (fun hsome => nomatch hsome) ?_
      rintro ⟨_, note, hnote, _⟩
      cases hnote
  | some note =>
      have hwhole := List.dropLast_append_getLast? note hlast
      simp only [summary, hlast]
      split
      · rename_i hlinked
        have hissues : view.issues ≠ [] := by
          intro hempty
          rw [hempty] at hlinked
          cases hlinked
        refine { same := ⟨rfl, rfl, rfl⟩, attempts := rfl, live := ?_, lapsed := ?_ }
        · exact fun lane => iff_of_false (fun hsome => nomatch hsome) fun h => hissues h.left
        · exact fun hempty => absurd hempty hissues
      · rename_i hunlinked
        have hissues : view.issues = [] := by
          simpa using hunlinked
        split
        · rename_i hlive
          rw [Bool.and_eq_true, decide_eq_true_eq, Bool.not_eq_true'] at hlive
          refine { same := ⟨rfl, rfl, rfl⟩, attempts := rfl, live := ?_, lapsed := ?_ }
          · intro lane
            constructor
            · intro hsome
              cases hsome
              exact ⟨hissues, note, hlast, rfl, hlive.left, hlive.right⟩
            · rintro ⟨_, held, hheld, hlane, _⟩
              rw [← hlane, Option.some.inj (hlast.symm.trans hheld)]
          · exact fun _ hnone => nomatch hnone
        · rename_i hover
          rw [Bool.and_eq_true, decide_eq_true_eq, Bool.not_eq_true'] at hover
          refine { same := ⟨rfl, rfl, rfl⟩, attempts := rfl, live := ?_, lapsed := ?_ }
          · intro lane
            refine iff_of_false (fun hsome => nomatch hsome) ?_
            rintro ⟨_, held, hheld, hlane, hfresh, hthere⟩
            rw [← Option.some.inj (hlast.symm.trans hheld)] at hlane hfresh
            rw [← hlane] at hthere
            exact hover (And.intro hfresh hthere)
          · intro _ _
            rw [← List.map_singleton, ← List.map_append, hwhole]

end Reading

end Tasks
end GraphHelm
