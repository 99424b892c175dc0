import GraphHelm.Store.Segments

/-!
# Reading a history

The visitor of `core/events/src/local/segments.rs` and the reads built on it.  A
sealed segment is skipped unopened when its seal says that it holds nothing of
the stream past a cursor, and an opened one is read by the lines of the stream
alone; what the reads answer is what the whole history says.
-/

namespace GraphHelm

open Std

def PhysicalBatch.lastSequence (batch : PhysicalBatch) : Nat :=
  (batch.events.getLast?.map EventEnvelope.sequence).getD 0

def SealedSegment.visited (key : ObjectKey) (after : Nat) (segment : SealedSegment) :
    List PhysicalBatch :=
  segment.batches.filter fun batch =>
    decide (batch.key = key) && decide (after < batch.lastSequence)

section Visitors

variable {α : Type} (visit : α -> PhysicalBatch -> α × Bool)

/-- Batches offered one by one, until the visitor has seen enough. -/
def visitBatches : α -> List PhysicalBatch -> α × Bool
  | seen, [] => (seen, true)
  | seen, batch :: rest =>
      match visit seen batch with
      | (next, true) => visitBatches next rest
      | (next, false) => (next, false)

/-- The sealed segments; `start` is the sequence the stream had reached before them. -/
def visitSealed (key : ObjectKey) (after : Nat) : Nat -> α -> List SealedSegment -> α × Bool
  | _, seen, [] => (seen, true)
  | start, seen, segment :: rest =>
      let stop := segment.stop key
      if stop <= start ∨ stop <= after + 1 then
        visitSealed key after stop seen rest
      else
        match visitBatches visit seen (segment.visited key after) with
        | (next, true) => visitSealed key after stop next rest
        | (next, false) => (next, false)

def visitHistory (store : Store) (key : ObjectKey) (after : Nat) (seen : α) : α :=
  match visitSealed visit key after 1 seen store.sealed with
  | (next, true) => (visitBatches visit next store.active).1
  | (next, false) => next

end Visitors

/-- Takes the events of a batch past `after` until there are `limit` of them. -/
def takeEvents (after limit : Nat) : List EventEnvelope -> List EventEnvelope ->
    List EventEnvelope × Bool
  | taken, [] => (taken, true)
  | taken, event :: rest =>
      if after < event.sequence then
        if taken.length = limit then
          (taken, false)
        else
          takeEvents after limit (taken ++ [event]) rest
      else
        takeEvents after limit taken rest

def takeBatch (key : ObjectKey) (after limit : Nat) (taken : List EventEnvelope)
    (batch : PhysicalBatch) : List EventEnvelope × Bool :=
  if batch.key = key then
    takeEvents after limit taken batch.events
  else
    (taken, true)

def streamEventsAfter (store : Store) (key : ObjectKey) (after limit : Nat) :
    List EventEnvelope :=
  visitHistory (takeBatch key after limit) store key after []

def holdsKeys (key : ObjectKey) (keys : List OpaqueId) (batch : PhysicalBatch) : Bool :=
  decide (batch.key = key) && batch.events.any fun event => keys.contains event.idempotencyKey

/-- `batch_holding_keys`: a key the verified set has never seen opens nothing. -/
def batchHoldingKeys (store : Store) (state : LoadedState) (key : ObjectKey)
    (keys : List OpaqueId) : Option PhysicalBatch :=
  if keys.any fun item =>
      state.seenIdempotency.contains ({ stream := key, key := item } : IdempotencyIdentity) then
    visitHistory
      (fun found batch => if holdsKeys key keys batch then (some batch, false) else (found, true))
      store key 0 none
  else
    none

/-!
## What a visitor is offered
-/

def segmentsHolding (key : ObjectKey) (after : Nat) : Nat -> List SealedSegment ->
    List SealedSegment
  | _, [] => []
  | start, segment :: rest =>
      let stop := segment.stop key
      if stop <= start ∨ stop <= after + 1 then
        segmentsHolding key after stop rest
      else
        segment :: segmentsHolding key after stop rest

def offered (store : Store) (key : ObjectKey) (after : Nat) : List PhysicalBatch :=
  (segmentsHolding key after 1 store.sealed).flatMap (SealedSegment.visited key after) ++
    store.active

section Visitors

variable {α : Type} {visit : α -> PhysicalBatch -> α × Bool} {seen : α}

theorem visitBatches_append {first second : List PhysicalBatch} :
    visitBatches visit seen (first ++ second) =
      match visitBatches visit seen first with
      | (next, true) => visitBatches visit next second
      | (next, false) => (next, false) := by
  induction first generalizing seen with
  | nil =>
      rfl
  | cons batch rest ih =>
      rw [List.cons_append, visitBatches, visitBatches]
      rcases visit seen batch with ⟨next, more⟩
      cases more with
      | true =>
          exact ih
      | false =>
          rfl

theorem visitSealed_eq {key : ObjectKey} {after start : Nat} {segments : List SealedSegment} :
    visitSealed visit key after start seen segments =
      visitBatches visit seen
        ((segmentsHolding key after start segments).flatMap
          (SealedSegment.visited key after)) := by
  induction segments generalizing start seen with
  | nil =>
      rfl
  | cons segment rest ih =>
      unfold visitSealed segmentsHolding
      dsimp only
      by_cases hskip : segment.stop key <= start ∨ segment.stop key <= after + 1
      · rw [if_pos hskip, if_pos hskip]
        exact ih
      · rw [if_neg hskip, if_neg hskip, List.flatMap_cons, visitBatches_append]
        rcases visitBatches visit seen (segment.visited key after) with ⟨next, more⟩
        cases more with
        | true =>
            exact ih
        | false =>
            rfl

theorem visitHistory_eq {store : Store} {key : ObjectKey} {after : Nat} :
    visitHistory visit store key after seen =
      (visitBatches visit seen (offered store key after)).1 := by
  unfold visitHistory offered
  rw [visitSealed_eq, visitBatches_append]
  rcases visitBatches visit seen _ with ⟨next, more⟩
  cases more with
  | true =>
      rfl
  | false =>
      rfl

end Visitors

/-!
## What the reads take
-/

variable {batches : List PhysicalBatch} {batch : PhysicalBatch}

section Reads

variable {key : ObjectKey} {keys : List OpaqueId} {after limit : Nat}

def past (after : Nat) (events : List EventEnvelope) : List EventEnvelope :=
  events.filter fun event => decide (after < event.sequence)

def eventsPast (key : ObjectKey) (after : Nat) (batches : List PhysicalBatch) :
    List EventEnvelope :=
  past after (streamEvents key batches)

theorem past_append {first second : List EventEnvelope} :
    past after (first ++ second) = past after first ++ past after second :=
  List.filter_append first second

theorem past_eq_nil {events : List EventEnvelope}
    (h : forall event, event ∈ events -> event.sequence <= after) : past after events = [] := by
  unfold past
  rw [List.filter_eq_nil_iff]
  intro event hevent
  rw [decide_eq_true_eq]
  exact Nat.not_lt.mpr (h event hevent)

theorem eventsPast_append {first second : List PhysicalBatch} :
    eventsPast key after (first ++ second) =
      eventsPast key after first ++ eventsPast key after second := by
  unfold eventsPast
  rw [streamEvents_append, past_append]

theorem takeEvents_eq {taken events : List EventEnvelope} (hroom : taken.length <= limit) :
    takeEvents after limit taken events =
      ((taken ++ past after events).take limit,
        decide (taken.length + (past after events).length <= limit)) := by
  induction events generalizing taken with
  | nil =>
      simp [takeEvents, past, List.take_of_length_le hroom, hroom]
  | cons event rest ih =>
      unfold takeEvents
      rw [show event :: rest = [event] ++ rest from rfl, past_append]
      by_cases hpast : after < event.sequence
      · have hone : past after [event] = [event] := by simp [past, hpast]
        rw [if_pos hpast, hone]
        by_cases hfull : taken.length = limit
        · rw [if_pos hfull, ← hfull]
          simp
        · rw [if_neg hfull]
          have hmore : (taken ++ [event]).length <= limit := by
            rw [List.length_append, List.length_singleton]
            omega
          rw [ih hmore, ← List.append_assoc, List.length_append, List.length_append,
            Nat.add_assoc]
      · have hone : past after [event] = [] := by simp [past, hpast]
        rw [if_neg hpast, hone, List.nil_append]
        exact ih hroom

theorem visitBatches_takeBatch {taken : List EventEnvelope} (hroom : taken.length <= limit) :
    (visitBatches (takeBatch key after limit) taken batches).1 =
      (taken ++ eventsPast key after batches).take limit := by
  induction batches generalizing taken with
  | nil =>
      simp [visitBatches, eventsPast, past, streamEvents, List.take_of_length_le hroom]
  | cons batch rest ih =>
      rw [show batch :: rest = [batch] ++ rest from rfl, eventsPast_append, List.singleton_append,
        visitBatches]
      unfold takeBatch
      by_cases hkey : batch.key = key
      · have hone : eventsPast key after [batch] = past after batch.events := by
          simp [eventsPast, streamEvents, hkey]
        rw [if_pos hkey, takeEvents_eq hroom, hone, ← List.append_assoc]
        by_cases hfits : taken.length + (past after batch.events).length <= limit
        · rw [decide_eq_true hfits]
          have hlength : (taken ++ past after batch.events).length <= limit := by
            rw [List.length_append]
            exact hfits
          rw [List.take_of_length_le hlength]
          exact ih hlength
        · rw [decide_eq_false hfits]
          have hlength : limit <= (taken ++ past after batch.events).length := by
            rw [List.length_append]
            omega
          exact (List.take_append_of_le_length hlength).symm
      · have hone : eventsPast key after [batch] = [] := by
          simp [eventsPast, past, streamEvents, hkey]
        rw [if_neg hkey, hone, List.nil_append]
        exact ih hroom

theorem streamEventsAfter_eq {store : Store} :
    streamEventsAfter store key after limit =
      (eventsPast key after (offered store key after)).take limit := by
  unfold streamEventsAfter
  rw [visitHistory_eq, visitBatches_takeBatch (Nat.zero_le limit), List.nil_append]

theorem visitBatches_find :
    (visitBatches
      (fun found batch => if holdsKeys key keys batch then (some batch, false) else (found, true))
      none batches).1 = batches.find? (holdsKeys key keys) := by
  induction batches with
  | nil =>
      rfl
  | cons batch rest ih =>
      rw [visitBatches]
      by_cases hholds : holdsKeys key keys batch = true
      · rw [if_pos hholds, List.find?_cons_of_pos hholds]
      · rw [if_neg hholds, List.find?_cons_of_neg hholds]
        exact ih

end Reads

/-!
## Nothing of the stream is skipped
-/

section Skips

variable {env : StoreEnvironment} {before : List PhysicalBatch} {segment : SealedSegment}
  {segments : List SealedSegment} {key : ObjectKey} {after : Nat}

theorem eventsPast_eq_nil {history : List PhysicalBatch}
    (hnumbered : Numbered 0 (streamEvents key (before ++ history)))
    (hpassed : (streamEvents key (before ++ history)).length <= after) :
    eventsPast key after history = [] := by
  apply past_eq_nil
  intro event hevent
  have hmem : event ∈ streamEvents key (before ++ history) := by
    rw [streamEvents_append]
    exact List.mem_append_right _ hevent
  have hle := (hnumbered.sequence_le hmem).right
  omega

theorem PhysicalBatch.sequence_le_last {start : Nat} (hnumbered : Numbered start batch.events)
    {event : EventEnvelope} (hevent : event ∈ batch.events) :
    event.sequence <= batch.lastSequence := by
  have hpositive : 0 < batch.events.length := List.length_pos_of_mem hevent
  have hlast : batch.events[batch.events.length - 1]? =
      some (batch.events[batch.events.length - 1]) :=
    List.getElem?_eq_getElem (by omega)
  have hsequence := hnumbered.sequence_getElem hlast
  have hle := (hnumbered.sequence_le hevent).right
  unfold PhysicalBatch.lastSequence
  rw [List.getLast?_eq_getElem?, hlast]
  show event.sequence <= (batch.events[batch.events.length - 1]).sequence
  omega

theorem eventsPast_visited {start : Nat}
    (hnumbered : Numbered start (streamEvents key segment.batches)) :
    eventsPast key after (segment.visited key after) = eventsPast key after segment.batches := by
  unfold SealedSegment.visited
  generalize segment.batches = batches at hnumbered ⊢
  induction batches generalizing start with
  | nil =>
      rfl
  | cons batch rest ih =>
      rw [show batch :: rest = [batch] ++ rest from rfl] at hnumbered ⊢
      rw [streamEvents_append, numbered_append] at hnumbered
      have hrest := ih hnumbered.right
      rw [List.filter_append, eventsPast_append, eventsPast_append, hrest]
      congr 1
      by_cases hkey : batch.key = key
      · have hown : streamEvents key [batch] = batch.events := by simp [streamEvents, hkey]
        rw [hown] at hnumbered
        by_cases hpast : after < batch.lastSequence
        · simp [hkey, hpast]
        · have hnone : eventsPast key after [batch] = [] := by
            unfold eventsPast
            rw [hown]
            exact past_eq_nil fun event hevent =>
              Nat.le_trans (PhysicalBatch.sequence_le_last hnumbered.left hevent)
                (Nat.not_lt.mp hpast)
          rw [hnone]
          simp [hpast, eventsPast, past, streamEvents]
      · have hnone : eventsPast key after [batch] = [] := by
          simp [eventsPast, past, streamEvents, hkey]
        rw [hnone]
        simp [hkey, eventsPast, past, streamEvents]

theorem eventsPast_segmentsHolding {start : Nat} (h : SealsDescribe env before segments)
    (hnumbered : Numbered 0
      (streamEvents key (before ++ segments.flatMap SealedSegment.batches)))
    (hstart : start = (streamEvents key before).length + 1) :
    eventsPast key after
        ((segmentsHolding key after start segments).flatMap (SealedSegment.visited key after)) =
      eventsPast key after (segments.flatMap SealedSegment.batches) := by
  induction segments generalizing before start with
  | nil =>
      rfl
  | cons first rest ih =>
      have hstop : first.stop key = (streamEvents key (before ++ first.batches)).length + 1 :=
        SealedSegment.stop_eq h.left
      rw [List.flatMap_cons, ← List.append_assoc] at hnumbered
      have hrest := ih h.right hnumbered hstop
      rw [streamEvents_append, numbered_append] at hnumbered
      unfold segmentsHolding
      dsimp only
      rw [List.flatMap_cons, eventsPast_append]
      by_cases hskip : first.stop key <= start ∨ first.stop key <= after + 1
      · rw [if_pos hskip, hrest]
        have hnone : eventsPast key after first.batches = [] := by
          rcases hskip with hempty | hpassed
          · -- The seal counts no event of the stream between the two stops.
            have hzero : streamEvents key first.batches = [] := by
              apply List.length_eq_zero_iff.mp
              rw [streamEvents_append, List.length_append] at hstop
              omega
            unfold eventsPast
            rw [hzero]
            rfl
          · apply eventsPast_eq_nil hnumbered.left
            omega
        rw [hnone, List.nil_append]
      · rw [if_neg hskip, List.flatMap_cons, eventsPast_append, hrest]
        have hlater := hnumbered.left
        rw [streamEvents_append, numbered_append] at hlater
        rw [eventsPast_visited hlater.right]

theorem filter_eq_nil_of_streamEvents
    (hnonempty : forall batch, batch ∈ batches -> batch.events ≠ [])
    (h : streamEvents key batches = []) : (batches.filter fun batch => batch.key = key) = [] := by
  rw [List.filter_eq_nil_iff]
  intro batch hmem hkey
  apply hnonempty batch hmem
  unfold streamEvents at h
  rw [List.flatMap_eq_nil_iff] at h
  exact h batch (List.mem_filter.mpr ⟨hmem, hkey⟩)

theorem PhysicalBatch.events_ne_nil (h : 0 < batch.lastSequence) :
    batch.events ≠ [] := by
  intro hnil
  unfold lastSequence at h
  rw [hnil] at h
  exact Nat.lt_irrefl 0 h

theorem segmentsHolding_filter {start : Nat} (h : SealsDescribe env before segments)
    (hpositive : forall batch, batch ∈ segments.flatMap SealedSegment.batches ->
      0 < batch.lastSequence)
    (hstart : start = (streamEvents key before).length + 1) :
    (((segmentsHolding key 0 start segments).flatMap (SealedSegment.visited key 0)).filter
        fun batch => batch.key = key) =
      (segments.flatMap SealedSegment.batches).filter fun batch => batch.key = key := by
  induction segments generalizing before start with
  | nil =>
      rfl
  | cons first rest ih =>
      have hfirst : forall batch, batch ∈ first.batches -> 0 < batch.lastSequence :=
        fun batch hmem => hpositive batch
          (by rw [List.flatMap_cons]; exact List.mem_append_left _ hmem)
      have hstop : first.stop key =
          (streamEvents key before).length + (streamEvents key first.batches).length + 1 := by
        rw [SealedSegment.stop_eq h.left, streamEvents_append, List.length_append]
      have hrest := ih h.right
        (fun batch hmem => hpositive batch
          (by rw [List.flatMap_cons]; exact List.mem_append_right _ hmem))
        (SealedSegment.stop_eq h.left)
      unfold segmentsHolding
      dsimp only
      rw [List.flatMap_cons, List.filter_append]
      by_cases hskip : first.stop key <= start ∨ first.stop key <= 0 + 1
      · rw [if_pos hskip, hrest]
        have hnone : streamEvents key first.batches = [] := by
          apply List.length_eq_zero_iff.mp
          omega
        rw [filter_eq_nil_of_streamEvents
          (fun batch hmem => PhysicalBatch.events_ne_nil (hfirst batch hmem)) hnone,
          List.nil_append]
      · rw [if_neg hskip, List.flatMap_cons, List.filter_append, hrest]
        congr 1
        unfold SealedSegment.visited
        rw [List.filter_filter]
        refine List.filter_congr fun batch hmem => ?_
        simp [hfirst batch hmem]

end Skips

theorem holdsKeys_iff {key : ObjectKey} {keys : List OpaqueId} :
    holdsKeys key keys batch = true <->
      batch.key = key ∧ exists event, event ∈ batch.events ∧ event.idempotencyKey ∈ keys := by
  unfold holdsKeys
  simp only [Bool.and_eq_true, decide_eq_true_eq, List.any_eq_true, List.contains_iff_mem]

namespace Store.Sound

variable {env : StoreEnvironment} {store : Store} {key : ObjectKey}

theorem eventsPast_offered (h : store.Sound env) {after : Nat} :
    eventsPast key after (offered store key after) = eventsPast key after store.history := by
  have hnumbered := (h.committed.streams key).numbered
  unfold Store.history Store.sealedBatches at hnumbered
  rw [streamEvents_append, numbered_append] at hnumbered
  have hsealed := @eventsPast_segmentsHolding env [] store.sealed key after 1 h.seals
    hnumbered.left rfl
  unfold offered Store.history Store.sealedBatches
  rw [eventsPast_append, eventsPast_append, hsealed]

theorem streamEventsAfter (h : store.Sound env) {after limit : Nat} :
    GraphHelm.streamEventsAfter store key after limit =
      (past after (store.events key)).take limit := by
  rw [streamEventsAfter_eq, h.eventsPast_offered]
  rfl

theorem lastSequence_pos (h : store.Sound env) {batch : PhysicalBatch}
    (hmem : batch ∈ store.history) : 0 < batch.lastSequence := by
  have hne := h.committed.nonempty batch hmem
  have hlast := List.getLast?_eq_some_getLast hne
  have hevent : batch.events.getLast hne ∈ streamEvents batch.key store.history :=
    mem_streamEvents.mpr ⟨batch, hmem, rfl, List.getLast_mem hne⟩
  unfold PhysicalBatch.lastSequence
  rw [hlast]
  exact ((h.committed.streams batch.key).numbered.sequence_le hevent).left

theorem offered_filter (h : store.Sound env) :
    ((offered store key 0).filter fun batch => batch.key = key) =
      store.history.filter fun batch => batch.key = key := by
  have hsealed := @segmentsHolding_filter env [] store.sealed key 1 h.seals
    (fun batch hmem => h.lastSequence_pos (List.mem_append_left _ hmem)) rfl
  unfold offered Store.history Store.sealedBatches
  rw [List.filter_append, List.filter_append, hsealed]

theorem batchHoldingKeys (h : store.Sound env) {state : LoadedState} {keys : List OpaqueId}
    (hdescribes : Describes env state store.history) :
    GraphHelm.batchHoldingKeys store state key keys =
      store.history.find? (holdsKeys key keys) := by
  have hfind (batches : List PhysicalBatch) :
      batches.find? (holdsKeys key keys) =
        (batches.filter fun batch => batch.key = key).find? fun batch =>
          batch.events.any fun event => keys.contains event.idempotencyKey := by
    rw [List.find?_filter]
    unfold holdsKeys
    simp only [Bool.decide_and, Bool.decide_eq_true]
  unfold GraphHelm.batchHoldingKeys
  rw [visitHistory_eq, visitBatches_find, hfind, h.offered_filter, ← hfind]
  split
  · rfl
  · rename_i hunseen
    rw [eq_comm, List.find?_eq_none]
    intro batch hbatch hholds
    rcases holdsKeys_iff.mp hholds with ⟨hkey, event, hevent, hmem⟩
    apply hunseen
    rw [List.any_eq_true]
    refine ⟨event.idempotencyKey, hmem, ExtTreeSet.contains_iff_mem.mpr ?_⟩
    exact (hdescribes.seen _).mpr
      ⟨event, mem_streamEvents.mpr ⟨batch, hbatch, hkey, hevent⟩, rfl⟩

end Store.Sound

end GraphHelm
