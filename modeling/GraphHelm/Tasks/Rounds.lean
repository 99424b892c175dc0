import GraphHelm.Tasks.Handing

/-!
# Rounds of hand-offs

A dispatcher reads the requests, plans, and appends one note for each planned hand-off;
requests are recorded and linked, and lanes go and return, between its rounds. Whether a
hand-off is live is judged anew at every reading. A lane holds at most one live hand-off
all the same: it is given a request only where no unlinked request that was last handed
to it is within its lease, and a lease that has run out does not come back.
-/

namespace GraphHelm
namespace Tasks

open Std

/-!
## Planning
-/

section Planning

variable {freeLanes busy : List String} {views : List RequestView} {planned : Planned}

theorem mem_giveLanes (h : planned ∈ giveLanes freeLanes views busy) :
    exists view, view ∈ views ∧ planned.requestId = view.requestId ∧
      planned.attempt = view.dispatchAttempts ∧ planned.lane ∈ freeLanes ∧
        planned.lane ∉ busy ∧ planned.lane ∉ view.dispatchLapsed := by
  fun_induction giveLanes freeLanes views busy with
  | case1 busy =>
      cases h
  | case2 view rest busy hfind ih =>
      rcases ih h with ⟨chosen, hmem, hfacts⟩
      exact ⟨chosen, List.mem_cons_of_mem view hmem, hfacts⟩
  | case3 view rest busy lane hfind ih =>
      rcases List.mem_cons.mp h with rfl | hlater
      · have hlane := @List.find?_some _ (fun lane =>
          !busy.contains lane && !view.dispatchLapsed.contains lane) _ _ hfind
        simp only [Bool.and_eq_true, Bool.not_eq_true', List.contains_eq_mem,
          decide_eq_false_iff_not] at hlane
        exact ⟨view, List.mem_cons_self, rfl, rfl, List.mem_of_find?_eq_some hfind, hlane⟩
      · rcases ih hlater with ⟨chosen, hmem, hrequest, hattempt, hfree, hbusy, hlapsed⟩
        exact ⟨chosen, List.mem_cons_of_mem view hmem, hrequest, hattempt, hfree,
          fun hmem => hbusy (List.mem_append_left _ hmem), hlapsed⟩

theorem sublist_giveLanes :
    List.Sublist ((giveLanes freeLanes views busy).map Planned.requestId)
      (views.map RequestView.requestId) := by
  fun_induction giveLanes freeLanes views busy with
  | case1 busy =>
      exact List.Sublist.refl []
  | case2 view rest busy hfind ih =>
      exact List.Sublist.cons _ ih
  | case3 view rest busy lane hfind ih =>
      exact List.Sublist.cons_cons _ ih

theorem nodup_giveLanes : ((giveLanes freeLanes views busy).map Planned.lane).Nodup := by
  fun_induction giveLanes freeLanes views busy with
  | case1 busy =>
      exact List.nodup_nil
  | case2 view rest busy hfind ih =>
      exact ih
  | case3 view rest busy lane hfind ih =>
      rw [List.map_cons, List.nodup_cons]
      refine And.intro ?_ ih
      intro hmem
      rcases List.mem_map.mp hmem with ⟨later, hlater, hsame⟩
      rcases mem_giveLanes hlater with ⟨_, _, _, _, _, hbusy, _⟩
      apply hbusy
      rw [hsame]
      exact List.mem_append_right _ (List.mem_singleton_self lane)

theorem mem_planDispatch (h : planned ∈ planDispatch views freeLanes) :
    exists view, view ∈ views ∧ waiting view = true ∧ view.dispatchedTo = none ∧
      view.dispatchAttempts < maxDispatchAttempts ∧ planned.requestId = view.requestId ∧
        planned.attempt = view.dispatchAttempts ∧ planned.lane ∈ freeLanes ∧
          planned.lane ∉ view.dispatchLapsed ∧
            forall other, other ∈ views -> waiting other = true ->
              other.dispatchedTo ≠ some planned.lane := by
  unfold planDispatch at h
  rcases mem_giveLanes h with ⟨view, hmem, hrequest, hattempt, hfree, hbusy, hlapsed⟩
  rw [List.mem_insertionSort, List.mem_filter, Bool.and_eq_true, Bool.and_eq_true,
    decide_eq_true_eq, Option.isNone_iff_eq_none] at hmem
  rcases hmem with ⟨hview, ⟨hwaiting, hnone⟩, hattempts⟩
  refine ⟨view, hview, hwaiting, hnone, hattempts, hrequest, hattempt, hfree, hlapsed, ?_⟩
  intro other hother hwait hlane
  exact hbusy (List.mem_filterMap.mpr ⟨other, List.mem_filter.mpr ⟨hother, hwait⟩, hlane⟩)

theorem nodup_planDispatch_requests (hnodup : (views.map RequestView.requestId).Nodup) :
    ((planDispatch views freeLanes).map Planned.requestId).Nodup := by
  unfold planDispatch
  refine List.Nodup.sublist sublist_giveLanes ?_
  refine (((List.perm_insertionSort _ _).map _).nodup_iff).mpr ?_
  exact List.Nodup.sublist (List.filter_sublist.map _) hnodup

end Planning

/-!
## Runs of the dispatcher
-/

/-- The journal as the dispatcher uses it: the records, the notes, the time of the newest
reading, what is planned but not appended, and every note appended so far. -/
structure Dispatcher where
  records : List TaskEventRecord := []
  notes : ExtTreeMap String DispatchNote := ∅
  now : PersistedTimestamp
  pending : List Planned := []
  handed : List (TaskIdentity × DispatchNote) := []

inductive DispatchMove where
  /-- A record is appended between two rounds. -/
  | record (record : TaskEventRecord)
  /-- A round begins: the requests are read, marked and planned. -/
  | plan (now : PersistedTimestamp) (gone : String -> Bool) (freeLanes : List String)
      (tasks : List TaskState)
  /-- The next planned note is appended. -/
  | note («at» : PersistedTimestamp)

section Runs

variable (sha256Hex : String -> String) (leaseSeconds : Int)

/-- The requests of the journal with their hand-offs, judged at an instant. -/
def Dispatcher.views (s : Dispatcher) (now : PersistedTimestamp) (gone : String -> Bool)
    (tasks : List TaskState) : List RequestView :=
  markDispatched sha256Hex (requests s.records tasks) s.notes now leaseSeconds gone

def dispatchMove (s : Dispatcher) : DispatchMove -> Option Dispatcher
  | .record record =>
      if s.pending = [] then some { s with records := s.records ++ [record] } else none
  | .plan now gone freeLanes tasks =>
      if s.pending = [] ∧ s.now <= now ∧ forall lane, lane ∈ freeLanes -> gone lane = false then
        some
          { s with
              now := now
              pending :=
                planDispatch (s.views sha256Hex leaseSeconds now gone tasks) freeLanes }
      else
        none
  | .note «at» =>
      match s.pending with
      | [] => none
      | planned :: rest =>
          let note := { lane := planned.lane, «at» := «at» }
          some
            { s with
                notes :=
                  s.notes.insert
                    (dispatchSignalId sha256Hex planned.requestId planned.attempt) note
                pending := rest
                handed := s.handed ++ [(planned.requestId, note)] }

structure Exclusive (s : Dispatcher) : Prop where
  /-- No lane holds two live hand-offs, whenever the requests are read. -/
  lanes : forall now gone tasks, s.now <= now ->
    forall view, view ∈ s.views sha256Hex leaseSeconds now gone tasks ->
      forall other, other ∈ s.views sha256Hex leaseSeconds now gone tasks ->
        forall lane, view.dispatchedTo = some lane -> other.dispatchedTo = some lane ->
          view = other
  /-- A request is read once, with its one live hand-off if it has any. -/
  single : forall now gone tasks,
    ((s.views sha256Hex leaseSeconds now gone tasks).map RequestView.requestId).Nodup
  few : forall requestId, (historyOf s.handed requestId).length <= maxDispatchAttempts
  again : forall requestId, ((historyOf s.handed requestId).map DispatchNote.lane).Nodup
  /-- What is about to be handed is not linked. -/
  unlinked : forall planned, planned ∈ s.pending -> Not (Linked s.records planned.requestId)

end Runs

/-!
## The invariant
-/

section Invariant

variable {sha256Hex : String -> String} {leaseSeconds : Int} {s : Dispatcher}
  {requestId other : TaskIdentity} {lane : String}

def Holds (leaseSeconds : Int) (s : Dispatcher) (lane : String) (requestId : TaskIdentity) :
    Prop :=
  Not (Linked s.records requestId) ∧
    exists note, (historyOf s.handed requestId).getLast? = some note ∧ note.lane = lane ∧
      Fresh leaseSeconds s.now note

/-- A hand-off that may be appended. -/
structure Due (leaseSeconds : Int) (s : Dispatcher) (planned : Planned) : Prop where
  recorded : Recorded s.records planned.requestId
  unlinked : Not (Linked s.records planned.requestId)
  attempt : planned.attempt = (historyOf s.handed planned.requestId).length
  few : planned.attempt < maxDispatchAttempts
  new : planned.lane ∉ (historyOf s.handed planned.requestId).map DispatchNote.lane
  free : forall requestId, Not (Holds leaseSeconds s planned.lane requestId)

structure Sound (sha256Hex : String -> String) (leaseSeconds : Int) (s : Dispatcher) : Prop where
  recorded : forall entry, entry ∈ s.handed -> Recorded s.records entry.1
  noted : forall key note, s.notes[key]? = some note <->
    exists requestId attempt, (historyOf s.handed requestId)[attempt]? = some note ∧
      key = dispatchSignalId sha256Hex requestId attempt
  few : forall requestId, (historyOf s.handed requestId).length <= maxDispatchAttempts
  again : forall requestId, ((historyOf s.handed requestId).map DispatchNote.lane).Nodup
  single : forall lane requestId other, Holds leaseSeconds s lane requestId ->
    Holds leaseSeconds s lane other -> requestId = other
  due : forall planned, planned ∈ s.pending -> Due leaseSeconds s planned
  askedOnce : (s.pending.map Planned.requestId).Nodup
  givenOnce : (s.pending.map Planned.lane).Nodup

theorem Sound.recorded_of_ne_nil (h : Sound sha256Hex leaseSeconds s)
    (hhistory : historyOf s.handed requestId ≠ []) : Recorded s.records requestId := by
  rcases List.exists_mem_of_ne_nil _ hhistory with ⟨note, hmem⟩
  exact h.recorded (requestId, note) (exists_of_mem_historyOf hmem)

theorem Sound.notes_eq (h : Sound sha256Hex leaseSeconds s)
    (hapart : SignalsApart sha256Hex s.records) (hrecorded : Recorded s.records requestId)
    {attempt : Nat} (hattempt : attempt < maxDispatchAttempts) :
    s.notes[dispatchSignalId sha256Hex requestId attempt]? =
      (historyOf s.handed requestId)[attempt]? := by
  apply Option.ext
  intro note
  rw [h.noted]
  constructor
  · rintro ⟨who, again, hget, hkey⟩
    have hbound := (List.getElem?_eq_some_iff.mp hget).choose
    have hwho := h.recorded_of_ne_nil (List.ne_nil_of_length_pos (Nat.zero_lt_of_lt hbound))
    have hfew := Nat.lt_of_lt_of_le hbound (h.few who)
    rcases hapart.inj hrecorded hwho hattempt hfew hkey with ⟨rfl, rfl⟩
    exact hget
  · intro hget
    exact ⟨requestId, attempt, hget, rfl⟩

theorem Sound.marked (h : Sound sha256Hex leaseSeconds s)
    (hapart : SignalsApart sha256Hex s.records) {now : PersistedTimestamp}
    {gone : String -> Bool} {tasks : List TaskState} {view : RequestView}
    (hview : view ∈ requests s.records tasks) :
    Marked leaseSeconds now gone (historyOf s.handed view.requestId) view
      (markOne sha256Hex s.notes now leaseSeconds gone view) :=
  marked_markOne (h.few view.requestId)
    fun _ hattempt => h.notes_eq hapart (mem_requests hview).left hattempt

variable {now : PersistedTimestamp} {s' : Dispatcher}

theorem Sound.holds (h : Sound sha256Hex leaseSeconds s)
    (hapart : SignalsApart sha256Hex s.records) {gone : String -> Bool} {tasks : List TaskState}
    {view : RequestView} (hnow : s.now <= now) (hview : view ∈ requests s.records tasks)
    (hlane : (markOne sha256Hex s.notes now leaseSeconds gone view).dispatchedTo = some lane) :
    Holds leaseSeconds s lane view.requestId := by
  rcases ((h.marked hapart hview).live lane).mp hlane with
    ⟨hissues, note, hlast, hnote, hfresh, _⟩
  exact ⟨(mem_requests hview).right.left.mp hissues, note, hlast, hnote, hfresh.before hnow⟩

theorem Sound.exclusive (h : Sound sha256Hex leaseSeconds s)
    (hapart : SignalsApart sha256Hex s.records) : Exclusive sha256Hex leaseSeconds s where
  lanes := by
    intro now gone tasks hnow view hview other hother lane hlane hlane'
    rcases List.mem_map.mp hview with ⟨first, hfirst, rfl⟩
    rcases List.mem_map.mp hother with ⟨second, hsecond, rfl⟩
    have hsame := h.single lane first.requestId second.requestId
      (h.holds hapart hnow hfirst hlane) (h.holds hapart hnow hsecond hlane')
    rw [List.inj_on_of_nodup_map nodup_requests hfirst hsecond hsame]
  single := by
    intro now gone tasks
    unfold Dispatcher.views markDispatched
    rw [List.map_map]
    convert nodup_requests using 1
    apply List.map_congr_left
    intro view hview
    exact (h.marked hapart hview).same.left
  few := h.few
  again := h.again
  unlinked := fun planned hmem => (h.due planned hmem).unlinked

/-- Nothing is handed in the beginning. -/
theorem sound_initial :
    Sound sha256Hex leaseSeconds { now := now } where
  recorded := fun entry hmem => absurd hmem List.not_mem_nil
  noted := by
    intro key note
    refine iff_of_false (fun hsome => nomatch hsome) ?_
    rintro ⟨requestId, attempt, hget, _⟩
    cases hget
  few := fun requestId => Nat.zero_le _
  again := fun requestId => List.nodup_nil
  single := by
    rintro lane requestId other ⟨_, note, hnote, _⟩
    cases hnote
  due := fun planned hmem => absurd hmem List.not_mem_nil
  askedOnce := List.nodup_nil
  givenOnce := List.nodup_nil

/-- A record that is appended between the rounds holds no lane for a request anew. -/
theorem Sound.record (h : Sound sha256Hex leaseSeconds s) (hpending : s.pending = [])
    (record : TaskEventRecord) :
    Sound sha256Hex leaseSeconds { s with records := s.records ++ [record] } := by
  have hholds : forall lane requestId,
      Holds leaseSeconds { s with records := s.records ++ [record] } lane requestId ->
        Holds leaseSeconds s lane requestId := by
    rintro lane requestId ⟨hlinked, hnewest⟩
    exact And.intro (fun hbefore => hlinked (linked_concat.mpr (Or.inl hbefore))) hnewest
  exact
    { recorded := fun entry hmem => recorded_concat.mpr (Or.inl (h.recorded entry hmem))
      noted := h.noted
      few := h.few
      again := h.again
      single := fun lane requestId other hfirst hsecond =>
        h.single lane requestId other (hholds lane requestId hfirst) (hholds lane other hsecond)
      due := fun planned hmem => absurd (hpending ▸ hmem) List.not_mem_nil
      askedOnce := h.askedOnce
      givenOnce := h.givenOnce }

/-- A round plans hand-offs that may be appended. -/
theorem Sound.plan (h : Sound sha256Hex leaseSeconds s)
    (hapart : SignalsApart sha256Hex s.records) {gone : String -> Bool} {freeLanes : List String}
    {tasks : List TaskState} (hnow : s.now <= now)
    (hthere : forall lane, lane ∈ freeLanes -> gone lane = false) :
    Sound sha256Hex leaseSeconds
      { s with
          now := now
          pending :=
            planDispatch (s.views sha256Hex leaseSeconds now gone tasks) freeLanes } := by
  have hholds : forall lane requestId,
      Holds leaseSeconds
          { s with
              now := now
              pending :=
                planDispatch (s.views sha256Hex leaseSeconds now gone tasks) freeLanes }
          lane requestId ->
        Holds leaseSeconds s lane requestId := by
    rintro lane requestId ⟨hlinked, note, hlast, hnote, hfresh⟩
    exact ⟨hlinked, note, hlast, hnote, hfresh.before hnow⟩
  refine
    { recorded := h.recorded
      noted := h.noted
      few := h.few
      again := h.again
      single := fun lane requestId other hfirst hsecond =>
        h.single lane requestId other (hholds lane requestId hfirst) (hholds lane other hsecond)
      due := ?_
      askedOnce := nodup_planDispatch_requests ((h.exclusive hapart).single now gone tasks)
      givenOnce := nodup_giveLanes }
  intro planned hmem
  rcases mem_planDispatch hmem with
    ⟨view, hview, hwaiting, hnone, hfew, hrequest, hattempt, hfree, hlapsed, hbusy⟩
  rcases List.mem_map.mp hview with ⟨read, hread, rfl⟩
  have hmarked := @Sound.marked _ _ _ h hapart now gone _ _ hread
  have hfacts := mem_requests hread
  unfold waiting at hwaiting
  rw [hmarked.same.right.left, Bool.and_eq_true, List.isEmpty_iff] at hwaiting
  rw [hmarked.same.left] at hrequest
  rw [hmarked.attempts, ← hrequest] at hattempt
  rw [hmarked.lapsed hwaiting.right hnone, ← hrequest] at hlapsed
  rw [← hrequest] at hfacts
  refine
    { recorded := hfacts.left
      unlinked := hfacts.right.left.mp hwaiting.right
      attempt := hattempt
      few := ?_
      new := hlapsed
      free := ?_ }
  · rw [hmarked.attempts, ← hrequest, ← hattempt] at hfew
    exact hfew
  · -- a request that held the lane would be read as live, and its lane as busy
    rintro requestId ⟨hlinked, note, hlast, hnote, hfresh⟩
    have hhistory : historyOf s.handed requestId ≠ [] := by
      intro hempty
      rw [hempty] at hlast
      cases hlast
    rcases exists_mem_requests (h.recorded_of_ne_nil hhistory) tasks with ⟨held, hheld, rfl⟩
    have hmark := @Sound.marked _ _ _ h hapart now gone _ _ hheld
    have hheldFacts := mem_requests hheld
    have hissues := hheldFacts.right.left.mpr hlinked
    refine hbusy _ (List.mem_map_of_mem hheld) ?_
      ((hmark.live planned.lane).mpr
        ⟨hissues, note, hlast, hnote, hfresh, hthere planned.lane hfree⟩)
    unfold waiting
    rw [hmark.same.right.left, hmark.same.right.right, hheldFacts.right.right, hissues]
    rfl

theorem holds_of_note {planned : Planned} {note : DispatchNote} (hlane : note.lane = planned.lane)
    {notes : ExtTreeMap String DispatchNote} {rest : List Planned}
    (h : Holds leaseSeconds
      { s with
          notes := notes
          pending := rest
          handed := s.handed ++ [(planned.requestId, note)] }
      lane requestId) :
    requestId = planned.requestId ∧ lane = planned.lane ∨ Holds leaseSeconds s lane requestId := by
  rcases h with ⟨hlinked, newest, hlast, hnewest, hfresh⟩
  rcases Decidable.em (planned.requestId = requestId) with rfl | hne
  · rw [historyOf_concat_self, List.getLast?_concat] at hlast
    cases hlast
    exact Or.inl (And.intro rfl (hnewest.symm.trans hlane))
  · rw [historyOf_concat_of_ne hne] at hlast
    exact Or.inr ⟨hlinked, newest, hlast, hnewest, hfresh⟩

theorem Sound.note (h : Sound sha256Hex leaseSeconds s)
    (hapart : SignalsApart sha256Hex s.records) {planned : Planned} {rest : List Planned}
    (hpending : s.pending = planned :: rest) {note : DispatchNote}
    (hlane : note.lane = planned.lane) :
    Sound sha256Hex leaseSeconds
      { s with
          notes :=
            s.notes.insert (dispatchSignalId sha256Hex planned.requestId planned.attempt) note
          pending := rest
          handed := s.handed ++ [(planned.requestId, note)] } := by
  have hdue := h.due planned (hpending ▸ List.mem_cons_self)
  have hasked := h.askedOnce
  have hgiven := h.givenOnce
  rw [hpending, List.map_cons, List.nodup_cons] at hasked hgiven
  refine
    { recorded := ?_
      noted := ?_
      few := ?_
      again := ?_
      single := ?_
      due := ?_
      askedOnce := hasked.right
      givenOnce := hgiven.right }
  · intro entry hmem
    rcases List.mem_append.mp hmem with hbefore | hnew
    · exact h.recorded entry hbefore
    · rw [List.mem_singleton.mp hnew]
      exact hdue.recorded
  · intro key found
    simp only [getElem?_historyOf_concat, ← hdue.attempt]
    rcases Decidable.em (dispatchSignalId sha256Hex planned.requestId planned.attempt = key)
      with rfl | hne
    · rw [ExtTreeMap.getElem?_insert_self]
      constructor
      · intro hfound
        cases hfound
        exact ⟨planned.requestId, planned.attempt, Or.inr ⟨rfl, rfl, rfl⟩, rfl⟩
      · rintro ⟨requestId, attempt, hget | ⟨_, _, hfound⟩, hkey⟩
        · -- the signal would be of a note that is there already
          have hbound := (List.getElem?_eq_some_iff.mp hget).choose
          have hwho := h.recorded_of_ne_nil (List.ne_nil_of_length_pos (Nat.zero_lt_of_lt hbound))
          have hfew := Nat.lt_of_lt_of_le hbound (h.few requestId)
          rcases hapart.inj hdue.recorded hwho hdue.few hfew hkey with ⟨rfl, rfl⟩
          rw [hdue.attempt] at hbound
          exact absurd hbound (Nat.lt_irrefl _)
        · rw [hfound]
    · rw [OrderedMap.getElem?_insert_of_ne hne, h.noted]
      constructor
      · rintro ⟨requestId, attempt, hget, hkey⟩
        exact ⟨requestId, attempt, Or.inl hget, hkey⟩
      · rintro ⟨requestId, attempt, hget | ⟨rfl, rfl, _⟩, hkey⟩
        · exact ⟨requestId, attempt, hget, hkey⟩
        · exact absurd hkey.symm hne
  · intro requestId
    rcases Decidable.em (planned.requestId = requestId) with rfl | hne
    · rw [historyOf_concat_self, List.length_append, ← hdue.attempt]
      exact hdue.few
    · rw [historyOf_concat_of_ne hne]
      exact h.few requestId
  · intro requestId
    rcases Decidable.em (planned.requestId = requestId) with rfl | hne
    · rw [historyOf_concat_self, List.map_append, List.map_singleton, hlane]
      exact List.Nodup.append (h.again planned.requestId) (List.nodup_singleton planned.lane)
        (List.disjoint_singleton.mpr hdue.new)
    · rw [historyOf_concat_of_ne hne]
      exact h.again requestId
  · intro lane requestId other hfirst hsecond
    rcases holds_of_note hlane hfirst with ⟨rfl, rfl⟩ | hheld
    · rcases holds_of_note hlane hsecond with ⟨rfl, _⟩ | hheld'
      · rfl
      · exact absurd hheld' (hdue.free other)
    · rcases holds_of_note hlane hsecond with ⟨rfl, rfl⟩ | hheld'
      · exact absurd hheld (hdue.free requestId)
      · exact h.single lane requestId other hheld hheld'
  · intro later hmem
    have hbefore := h.due later (hpending ▸ List.mem_cons_of_mem planned hmem)
    have hrequest : planned.requestId ≠ later.requestId := by
      intro hsame
      exact hasked.left (hsame ▸ List.mem_map_of_mem hmem)
    have hother : later.lane ≠ planned.lane := by
      intro hsame
      exact hgiven.left (hsame ▸ List.mem_map_of_mem hmem)
    refine
      { recorded := hbefore.recorded
        unlinked := hbefore.unlinked
        attempt := ?_
        few := hbefore.few
        new := ?_
        free := ?_ }
    · rw [historyOf_concat_of_ne hrequest]
      exact hbefore.attempt
    · rw [historyOf_concat_of_ne hrequest]
      exact hbefore.new
    · intro requestId hholds
      rcases holds_of_note hlane hholds with ⟨_, hsame⟩ | hheld
      · exact hother hsame
      · exact hbefore.free requestId hheld

theorem exists_of_dispatchMove_note {«at» : PersistedTimestamp}
    (h : dispatchMove sha256Hex leaseSeconds s (.note «at») = some s') :
    exists planned rest, s.pending = planned :: rest ∧
      s' =
        { s with
            notes :=
              s.notes.insert (dispatchSignalId sha256Hex planned.requestId planned.attempt)
                { lane := planned.lane, «at» := «at» }
            pending := rest
            handed :=
              s.handed ++ [(planned.requestId, { lane := planned.lane, «at» := «at» })] } := by
  cases hpending : s.pending with
  | nil =>
      simp [dispatchMove, hpending] at h
  | cons planned rest =>
      simp only [dispatchMove, hpending] at h
      exact ⟨planned, rest, rfl, (Option.some.inj h).symm⟩

theorem recorded_of_move {move : DispatchMove}
    (hmove : dispatchMove sha256Hex leaseSeconds s move = some s')
    (h : Recorded s.records requestId) : Recorded s'.records requestId := by
  cases move with
  | record record =>
      rcases Option.ite_none_right_eq_some.mp hmove with ⟨_, hsome⟩
      cases hsome
      exact recorded_concat.mpr (Or.inl h)
  | plan now gone freeLanes tasks =>
      rcases Option.ite_none_right_eq_some.mp hmove with ⟨_, hsome⟩
      cases hsome
      exact h
  | note «at» =>
      rcases exists_of_dispatchMove_note hmove with ⟨planned, rest, _, rfl⟩
      exact h

theorem SignalsApart.before {move : DispatchMove}
    (hmove : dispatchMove sha256Hex leaseSeconds s move = some s')
    (h : SignalsApart sha256Hex s'.records) : SignalsApart sha256Hex s.records :=
  fun requestId other attempt again hrequest hother =>
    h requestId other attempt again (recorded_of_move hmove hrequest)
      (recorded_of_move hmove hother)

/-- One move keeps the invariant. -/
theorem Sound.move (h : Sound sha256Hex leaseSeconds s)
    (hapart : SignalsApart sha256Hex s.records) {move : DispatchMove}
    (hmove : dispatchMove sha256Hex leaseSeconds s move = some s') :
    Sound sha256Hex leaseSeconds s' := by
  cases move with
  | record record =>
      rcases Option.ite_none_right_eq_some.mp hmove with ⟨hpending, hsome⟩
      cases hsome
      exact h.record hpending record
  | plan now gone freeLanes tasks =>
      rcases Option.ite_none_right_eq_some.mp hmove with ⟨⟨_, hnow, hthere⟩, hsome⟩
      cases hsome
      exact h.plan hapart hnow hthere
  | note «at» =>
      rcases exists_of_dispatchMove_note hmove with ⟨planned, rest, hpending, rfl⟩
      exact h.note hapart hpending rfl

/-- At every moment of every run of the dispatcher the hand-offs are exclusive. -/
theorem handOffs_exclusive {start : PersistedTimestamp} {moves : List DispatchMove}
    (hrun : run (dispatchMove sha256Hex leaseSeconds) { now := start } moves = some s)
    (hapart : SignalsApart sha256Hex s.records) : Exclusive sha256Hex leaseSeconds s := by
  have hsound : SignalsApart sha256Hex s.records -> Sound sha256Hex leaseSeconds s := by
    refine @run_invariant _ _ _ (fun s =>
      SignalsApart sha256Hex s.records -> Sound sha256Hex leaseSeconds s) ?_ _ _ _ ?_ hrun
    · intro before move after ih hmove hafter
      have hbefore := hafter.before hmove
      exact (ih hbefore).move hbefore hmove
    · exact fun _ => sound_initial
  exact (hsound hapart).exclusive hapart

end Invariant

namespace Sample

def digests : List (String × String) :=
  [("request-dispatch\nr1", "41802458f0a908098d0d45995d041709317a77d14df922ebd33895bdab1af07f"),
    ("request-dispatch\nr1\n1", "a6f2acb0f91a60e743dabf7e4f4a3f75c06e4f5236d27d287f99787fd049389e"),
    ("request-dispatch\nr1\n2", "6ee99870747826fbc66f4fc794840d7538c2de41b7fd8f4bc8aaf15e7e15c3e2"),
    ("request-dispatch\nr2", "f95979699af4bff7b4535d76dc2a2ed1bf210236c4e4657fad53adaa90429ff5"),
    ("request-dispatch\nr2\n1", "a376d33a6e510a7da42f437ccc8ee3b728ac3fa17468f5f0a7d7b18ef5ed74f7"),
    ("request-dispatch\nr2\n2", "c5d4998713237fd2efecfcec0e6f57b3db06cc8bf47c4537f665958d37a310e8")]

def sha256Hex (seed : String) : String :=
  (digests.lookup seed).getD ""

def firstRequest : TaskIdentity :=
  { text := "r1", valid := by decide }

def secondRequest : TaskIdentity :=
  { text := "r2", valid := by decide }

def recorded (sequence : Nat) (requestId : TaskIdentity) : TaskEventRecord :=
  { kind := .requestRecorded, actorId := "owner", sequence := sequence, taskId := "request",
    requestId := some requestId, ask := some "ask" }

/-- A lane is handed a request and goes, so the request goes to another; when the first
returns, it is handed the second request. -/
def rounds : List DispatchMove :=
  [.record (recorded 1 firstRequest), .plan 0 (fun _ => false) ["a"] [], .note 0,
    .record (recorded 2 secondRequest), .plan 1000000000 (fun lane => lane == "a") ["b"] [],
    .note 1000000000, .plan 2000000000 (fun _ => false) ["a", "b"] [], .note 2000000000]

end Sample

theorem signalsApart_of_two {records : List TaskEventRecord}
    (h : records.map TaskEventRecord.requestId =
      [some Sample.firstRequest, some Sample.secondRequest]) :
    SignalsApart Sample.sha256Hex records := by
  have hlisted : forall requestId, Recorded records requestId ->
      requestId ∈ [Sample.firstRequest, Sample.secondRequest] := by
    rintro requestId ⟨record, hmem, _, hrequest⟩
    have hlist := List.mem_map_of_mem (f := TaskEventRecord.requestId) hmem
    rw [h, hrequest] at hlist
    simpa using hlist
  have happart : forall requestId, requestId ∈ [Sample.firstRequest, Sample.secondRequest] ->
      forall other, other ∈ [Sample.firstRequest, Sample.secondRequest] ->
        forall attempt, attempt < maxDispatchAttempts -> forall again,
          again < maxDispatchAttempts ->
            (Sample.sha256Hex (dispatchSeed requestId attempt)).toList.take 32 =
              (Sample.sha256Hex (dispatchSeed other again)).toList.take 32 ->
            dispatchSeed requestId attempt = dispatchSeed other again := by
    decide +kernel
  intro requestId other attempt again hrequest hother hattempt hagain
  exact happart requestId (hlisted requestId hrequest) other (hlisted other hother) attempt
    hattempt again hagain

theorem handOffs_exclusive_of_rounds : exists s,
    run (dispatchMove Sample.sha256Hex 600) { now := 0 } Sample.rounds = some s ∧
      Exclusive Sample.sha256Hex 600 s := by
  have hrequests : (run (dispatchMove Sample.sha256Hex 600) { now := 0 } Sample.rounds).map
      (fun s => s.records.map TaskEventRecord.requestId) =
        some [some Sample.firstRequest, some Sample.secondRequest] := by
    decide +kernel
  rcases Option.map_eq_some_iff.mp hrequests with ⟨s, hrun, hlisted⟩
  exact ⟨s, hrun, handOffs_exclusive hrun (signalsApart_of_two hlisted)⟩

end Tasks
end GraphHelm
