import GraphHelm.Library.FlatObjects
import GraphHelm.Runtime.Delegation
import GraphHelm.Runtime.Receipts
import GraphHelm.Runtime.SealedItems

/-!
# The measured bound of a session

`measured_bound` of `core/runtime/src/session.rs` reads the size of each
subagent's session off the accounting receipts in the journal.  A receipt names
the node it was sealed for and not the subagent, so each is counted for the
subagent its node is recorded with now.
-/

namespace GraphHelm

open Std
open ErrorState OrderedMap

def accountingReceiptSuffix : String := "-accounting-receipt"

def isExecutionStart (event : EventEnvelope) : Bool :=
  match event.kind with
  | .executionStarted _ => true
  | _ => false

/-- What the bound is read back with: the evidence, and the reader of a receipt's JSON. -/
structure ReceiptAccess where
  env : Environment
  access : EvidenceAccess
  readWire : Bytes -> Option OwnedAccountingReceiptWire

namespace ReceiptAccess

variable (reader : ReceiptAccess)

def readReceipt (start : EventEnvelope) (item : SealedEvidence) :
    Option ExecutionAccountingReceipt := do
  let bytes <- reader.access.openBytes item
  (receiptOfStableBytes reader.env reader.readWire bytes start).toOption

def receiptReadings (history : List EventEnvelope) : Option ReceiptReadings := do
  let start <- history.find? isExecutionStart
  let items <- (sealedItems reader.access accountingReceiptSuffix history).toOption
  some
    (items.map fun entry =>
      (entry.1,
        (reader.readReceipt start entry.2).bind
          ExecutionAccountingReceipt.providerReportedTotal))

end ReceiptAccess

/-- `measured_bound` over the journal; without an opener there are no readings. -/
def readBound (opener : Option ReceiptAccess) (sessions : SubagentSessions)
    (history : List EventEnvelope) (projection : ExecutionProjection) : ReuseBound :=
  measuredBound sessions projection (opener.bind fun reader => reader.receiptReadings history)

/-!
## The size of a session
-/

/-- The last of the counted totals; nothing where there is none, or where one is missing. -/
def sessionSize (totals : List (Option Nat)) : Option Nat :=
  if totals.all Option.isSome then totals.getLast?.join else none

variable {totals : List (Option Nat)}

theorem sessionSize_concat {total : Option Nat} :
    sessionSize (totals ++ [total]) =
      if totals.all Option.isSome then total else none := by
  unfold sessionSize
  rw [List.all_append, List.getLast?_concat]
  cases totals.all Option.isSome with
  | false => rfl
  | true =>
      cases total with
      | none => rfl
      | some total => rfl

def countedFor (taken : ExtTreeMap String String) (subagent : String)
    (readings : ReceiptReadings) : List (Option Nat) :=
  (readings.filter fun reading => decide (taken[reading.1]? = some subagent)).map Prod.snd

section Counting

variable {taken : ExtTreeMap String String} {subagent : String} {readings : ReceiptReadings}
  {started : ExtTreeMap String (Option Nat)}

/-- What the loop over the receipts has come to. -/
def countReceipts (taken : ExtTreeMap String String) (started : ExtTreeMap String (Option Nat))
    (readings : ReceiptReadings) : ExtTreeMap String (Option Nat) × ExtTreeSet String :=
  readings.foldl (countReceipt taken) (started, ∅)

theorem sessionSize_isSome (h : totals ≠ []) :
    (sessionSize totals).isSome = totals.all Option.isSome := by
  unfold sessionSize
  cases hall : totals.all Option.isSome with
  | false => rfl
  | true =>
      have hlast := List.all_eq_true.mp hall _ (List.getLast_mem h)
      rw [if_pos rfl, List.getLast?_eq_some_getLast h, Option.join_some, hlast]

theorem countedFor_concat {reading : String × Option Nat} :
    countedFor taken subagent (readings ++ [reading]) =
      countedFor taken subagent readings ++
        if taken[reading.1]? = some subagent then [reading.2] else [] := by
  unfold countedFor
  rw [List.filter_append, List.map_append]
  congr 1
  split
  · rename_i hcounted
    rw [List.filter_cons_of_pos (by simpa using hcounted)]
    rfl
  · rename_i hother
    rw [List.filter_cons_of_neg (by simpa using hother)]
    rfl

theorem slot_after {total slot : Option Nat} :
    (totals ≠ [] -> slot = sessionSize totals) ->
      (match !totals.isEmpty, slot, total with
        | true, none, _ => none
        | _, _, none => none
        | _, _, some total => some total) = sessionSize (totals ++ [total]) := by
  intro hslot
  rw [sessionSize_concat]
  cases totals with
  | nil =>
      cases total with
      | none => rfl
      | some total => rfl
  | cons first rest =>
      have hsome := sessionSize_isSome (List.cons_ne_nil first rest)
      rw [<- hslot (List.cons_ne_nil first rest)] at hsome
      rw [<- hsome]
      cases slot with
      | none => rfl
      | some size =>
          cases total with
          | none => rfl
          | some total => rfl

theorem countReceipts_spec (readings : ReceiptReadings) (subagent : String) :
    (countReceipts taken started readings).2.contains subagent =
        !(countedFor taken subagent readings).isEmpty ∧
      (countReceipts taken started readings).1[subagent]? =
        if countedFor taken subagent readings = [] then started[subagent]?
        else some (sessionSize (countedFor taken subagent readings)) := by
  induction readings using List.reverseRecOn with
  | nil =>
      exact And.intro ExtTreeSet.contains_empty rfl
  | append_singleton earlier reading ih =>
      have hstep : countReceipts taken started (earlier ++ [reading]) =
          countReceipt taken (countReceipts taken started earlier) reading := by
        unfold countReceipts
        rw [List.foldl_append]
        rfl
      rw [hstep, countedFor_concat]
      unfold countReceipt
      cases htaken : taken[reading.1]? with
      | none =>
          rw [if_neg (by simp), List.append_nil]
          exact ih
      | some owner =>
          dsimp only
          rcases Decidable.em (owner = subagent) with hsame | hother
          · rw [hsame, if_pos rfl, ExtTreeSet.contains_insert_self,
              ExtTreeMap.getElem?_insert_self, ih.left]
            refine And.intro (by simp) ?_
            rw [if_neg (by simp)]
            refine congrArg some (slot_after fun hnonempty => ?_)
            rw [ih.right, if_neg hnonempty, Option.getD_some]
          · rw [if_neg (by simpa using hother), List.append_nil, getElem?_insert_of_ne hother]
            refine And.intro ?_ ih.right
            rw [<- ih.left, ExtTreeSet.contains_insert]
            simp [hother]

end Counting

/-!
## The bound of a recorded subagent
-/

def takenBy (projection : ExecutionProjection) : ExtTreeMap String String :=
  projection.subagents.map fun _ record => record.record.subagentId.text

def StandsRecorded (projection : ExecutionProjection) (subagent : String) : Prop :=
  exists node : String, (takenBy projection)[node]? = some subagent

section Bound

variable {sessions : SubagentSessions} {projection : ExecutionProjection} {subagent : String}

theorem StandsRecorded.mem (h : StandsRecorded projection subagent) :
    subagent ∈ (takenBy projection).toList.map Prod.snd := by
  rcases h with ⟨node, hnode⟩
  exact List.mem_map.mpr
    ⟨(node, subagent), ExtTreeMap.mem_toList_iff_getElem?_eq_some.mpr hnode, rfl⟩

theorem measuredBound_unread (hsupported : sessions.supported = true)
    (h : StandsRecorded projection subagent) :
    (measuredBound sessions projection none).used[subagent]? = some none := by
  have hused : (measuredBound sessions projection none).used =
      ((takenBy projection).toList.map Prod.snd).foldl
        (fun used subagent => used.insert subagent none) ∅ := by
    unfold measuredBound
    rw [hsupported, List.foldl_map]
    exact ExtTreeMap.foldl_eq_foldl_toList
  rw [hused, getElem?_foldl_insert_of, ExtTreeMap.getElem?_empty, Option.or_none]
  have hfound : ((((takenBy projection).toList.map Prod.snd).reverse).find?
      fun other => decide (other = subagent)).isSome = true := by
    rw [List.find?_isSome]
    exact ⟨subagent, List.mem_reverse.mpr h.mem, decide_eq_true rfl⟩
  rcases Option.isSome_iff_exists.mp hfound with ⟨other, hother⟩
  rw [hother, Option.map_some]

def startedSlots (projection : ExecutionProjection) : ExtTreeMap String (Option Nat) :=
  (takenBy projection).foldl (fun used _ subagent => used.insertIfNew subagent (some 0)) ∅

theorem startedSlots_of_recorded (h : StandsRecorded projection subagent) :
    (startedSlots projection)[subagent]? = some (some 0) := by
  unfold startedSlots
  rw [ExtTreeMap.foldl_eq_foldl_toList]
  have hfilled := @getElem?_foldl_insertIfNew String (Option Nat) _ _ _ (fun _ => some 0)
    ((takenBy projection).toList.map Prod.snd) ∅ subagent _
  rw [List.foldl_map, if_pos h.mem, ExtTreeMap.getElem?_empty, Option.none_or] at hfilled
  exact hfilled

theorem measuredBound_read (hsupported : sessions.supported = true)
    (h : StandsRecorded projection subagent) (readings : ReceiptReadings) :
    (measuredBound sessions projection (some readings)).used[subagent]? =
      some (sessionSize (countedFor (takenBy projection) subagent readings)) := by
  have hused : (measuredBound sessions projection (some readings)).used =
      (countReceipts (takenBy projection) (startedSlots projection) readings).1.map
        fun subagent used =>
          if (countReceipts (takenBy projection) (startedSlots projection)
              readings).2.contains subagent then used
          else none := by
    unfold measuredBound
    rw [hsupported]
    rfl
  rcases @countReceipts_spec (takenBy projection) (startedSlots projection) readings subagent
    with ⟨hseen, hcounted⟩
  rw [hused, ExtTreeMap.getElem?_map, hcounted, hseen, startedSlots_of_recorded h]
  rcases Decidable.em (countedFor (takenBy projection) subagent readings = []) with hnone | hsome
  · rw [if_pos hnone, hnone]
    rfl
  · rw [if_neg hsome, Option.map_some, if_pos]
    rw [Bool.not_eq_true', List.isEmpty_eq_false_iff]
    exact hsome

end Bound

/-!
## The attempts a history accounts
-/

def recordedWith (history : List EventEnvelope) (node : String) : Option String :=
  history.foldl
    (fun current event =>
      match event.kind with
      | .subagentReused payload =>
          if payload.nodeId.text = node then some payload.subagentId.text else current
      | _ => current)
    none

structure Attempt where
  node : String
  ranUnder : Option String
  receipt : EvidenceReference

def attemptsAt (before : List EventEnvelope) (event : EventEnvelope) : List Attempt :=
  (itemReferences accountingReceiptSuffix event).map fun entry =>
    { node := entry.1, ranUnder := recordedWith before entry.1, receipt := entry.2 }

def attemptsFrom : List EventEnvelope -> List EventEnvelope -> List Attempt
  | _, [] => []
  | before, event :: after => attemptsAt before event ++ attemptsFrom (before ++ [event]) after

def attempts (history : List EventEnvelope) : List Attempt :=
  attemptsFrom [] history

namespace ReceiptAccess

def receiptOf (reader : ReceiptAccess) (start : EventEnvelope) (reference : EvidenceReference) :
    Option ExecutionAccountingReceipt :=
  match reader.access.sealedEvidence reference.evidenceId with
  | .ok (.available item) => reader.readReceipt start item
  | _ => none

/-- Every receipt the history seals can be opened and read. -/
def ReceiptsReadable (reader : ReceiptAccess) (history : List EventEnvelope) : Prop :=
  forall attempt, attempt ∈ attempts history ->
    exists start receipt, history.find? isExecutionStart = some start ∧
      reader.receiptOf start attempt.receipt = some receipt

def ownReceipts (reader : ReceiptAccess) (history : List EventEnvelope) (subagent : String) :
    List ExecutionAccountingReceipt :=
  match history.find? isExecutionStart with
  | none => []
  | some start =>
      ((attempts history).filter fun attempt => attempt.ranUnder = some subagent).filterMap
        fun attempt => reader.receiptOf start attempt.receipt

end ReceiptAccess

/-- What the bound is to say of a subagent, given the receipts of its attempts. -/
structure MeasuresExactly (used : Option (Option Nat))
    (receipts : List ExecutionAccountingReceipt) : Prop where
  known : used.isSome = true
  unmeasured : used = some none <->
    receipts = [] ∨ exists receipt, receipt ∈ receipts ∧ receipt.countersMeasured = false
  measured : forall last, receipts.getLast? = some last ->
    (forall receipt, receipt ∈ receipts -> receipt.countersMeasured = true) ->
      used = some last.providerReportedTotal

structure BoundExact (reader : ReceiptAccess) (sessions : SubagentSessions)
    (history : List EventEnvelope) (projection : ExecutionProjection) : Prop where
  exact : forall {subagent : String}, StandsRecorded projection subagent ->
    MeasuresExactly (readBound (some reader) sessions history projection).used[subagent]?
      (reader.ownReceipts history subagent)
  kept : forall {attempt : Attempt} {subagent : String}, attempt ∈ attempts history ->
    attempt.ranUnder = some subagent -> StandsRecorded projection subagent

def AttemptsStay (history : List EventEnvelope) : Prop :=
  forall before event after payload, history = before ++ event :: after ->
    event.kind = .subagentReused payload -> forall attempt, attempt ∈ attempts before ->
      attempt.node = payload.nodeId.text ->
        recordedWith before payload.nodeId.text = some payload.subagentId.text

/-!
## Every receipt is counted for the subagent its attempt ran under
-/

section Attempts

variable {history : List EventEnvelope} {event : EventEnvelope} {node : String}

theorem recordedWith_concat : recordedWith (history ++ [event]) node =
    match event.kind with
    | .subagentReused payload =>
        if payload.nodeId.text = node then some payload.subagentId.text
        else recordedWith history node
    | _ => recordedWith history node := by
  unfold recordedWith
  rw [List.foldl_append]
  rfl

theorem recordedWith_concat_of_other
    (h : forall payload, event.kind = .subagentReused payload -> payload.nodeId.text ≠ node) :
    recordedWith (history ++ [event]) node = recordedWith history node := by
  rw [recordedWith_concat]
  split
  · rename_i payload hkind
    rw [if_neg (h payload hkind)]
  · rfl

theorem attemptsFrom_append {before first second : List EventEnvelope} :
    attemptsFrom before (first ++ second) =
      attemptsFrom before first ++ attemptsFrom (before ++ first) second := by
  induction first generalizing before with
  | nil =>
      rw [List.append_nil]
      rfl
  | cons event rest ih =>
      have hstep : forall {others : List EventEnvelope}, attemptsFrom before (event :: others) =
          attemptsAt before event ++ attemptsFrom (before ++ [event]) others := rfl
      rw [List.cons_append, hstep, hstep, ih, List.append_assoc, List.append_assoc,
        List.singleton_append]

theorem attempts_concat :
    attempts (history ++ [event]) = attempts history ++ attemptsAt history event := by
  unfold attempts
  rw [attemptsFrom_append, List.nil_append]
  exact congrArg _ (List.append_nil _)

theorem attempts_references :
    (attempts history).map (fun attempt => (attempt.node, attempt.receipt)) =
      history.flatMap (itemReferences accountingReceiptSuffix) := by
  induction history using List.reverseRecOn with
  | nil => rfl
  | append_singleton earlier event ih =>
      rw [attempts_concat, List.map_append, ih, List.flatMap_append, List.flatMap_singleton]
      unfold attemptsAt
      rw [List.map_map]
      exact congrArg _ (List.map_id _)

theorem attemptsAt_eq_nil {payload : SubagentReused} (h : event.kind = .subagentReused payload) :
    attemptsAt history event = [] := by
  unfold attemptsAt itemReferences
  rw [h]
  rfl

theorem AttemptsStay.of_concat (h : AttemptsStay (history ++ [event])) :
    AttemptsStay history := by
  intro before other after payload hhistory
  refine h before other (after ++ [event]) payload ?_
  rw [hhistory, List.append_assoc, List.cons_append]

theorem AttemptsStay.ranUnder_eq (h : AttemptsStay history) {attempt : Attempt}
    (hmem : attempt ∈ attempts history) :
    recordedWith history attempt.node = attempt.ranUnder := by
  induction history using List.reverseRecOn with
  | nil => exact absurd hmem List.not_mem_nil
  | append_singleton earlier event ih =>
      rw [attempts_concat] at hmem
      rcases List.mem_append.mp hmem with hold | hnew
      · have hkept := ih h.of_concat hold
        rw [recordedWith_concat]
        split
        · rename_i payload hkind
          split
          · rename_i hsame
            have hstays := h earlier event [] payload rfl hkind attempt hold hsame.symm
            rw [<- hstays, hsame]
            exact hkept
          · exact hkept
        · exact hkept
      · rw [recordedWith_concat_of_other]
        · rcases List.mem_map.mp hnew with ⟨entry, _, hattempt⟩
          rw [<- hattempt]
        · intro payload hkind
          rw [attemptsAt_eq_nil hkind] at hnew
          exact absurd hnew List.not_mem_nil

theorem AttemptsStay.of_early {first later : List EventEnvelope} (hnone : attempts first = [])
    (hlater : forall event, event ∈ later -> forall payload,
      event.kind ≠ .subagentReused payload) : AttemptsStay (first ++ later) := by
  intro before event after payload hhistory hkind attempt hattempt
  rcases List.append_eq_append_iff.mp hhistory with ⟨middle, _, hmiddle⟩ | ⟨middle, hfirst, _⟩
  · refine absurd hkind (hlater event ?_ payload)
    rw [hmiddle]
    exact List.mem_append_right _ List.mem_cons_self
  · unfold attempts at hnone hattempt
    rw [hfirst, attemptsFrom_append] at hnone
    rw [(List.append_eq_nil_iff.mp hnone).left] at hattempt
    exact absurd hattempt List.not_mem_nil

theorem takenBy_of_fold {env : Environment} {st : FoldState}
    (h : foldHistory env history = some st) :
    (takenBy st.projection)[node]? = recordedWith history node := by
  unfold takenBy
  rw [ExtTreeMap.getElem?_map]
  induction history using List.reverseRecOn generalizing st with
  | nil =>
      cases h
      simp [FoldState.initial, ExecutionProjection.default, recordedWith]
  | append_singleton earlier event ih =>
      rcases foldHistory_concat.mp h with ⟨middle, hmiddle, haccepted⟩
      rw [subagents_of_accepted haccepted, recordedWith_concat, <- ih hmiddle]
      unfold subagentsAfter
      cases hkind : event.kind with
      | subagentReused payload =>
          dsimp only
          rcases Decidable.em (payload.nodeId.text = node) with hsame | hother
          · rw [if_pos hsame, hsame, ExtTreeMap.getElem?_insert_self, Option.map_some]
          · rw [if_neg hother, getElem?_insert_of_ne hother]
      | _ => rfl

end Attempts

/-!
## The readings of a history
-/

section Readings

variable {reader : ReceiptAccess} {history : List EventEnvelope}

variable {start : EventEnvelope}

theorem sealedItems_of_references {references : List (String × EvidenceReference)}
    (h : forall entry, entry ∈ references ->
      (reader.receiptOf start entry.2).isSome = true) :
    exists items, references.mapM (sealedItem reader.access) = .ok items ∧
      items.map (fun entry => (entry.1, reader.readReceipt start entry.2)) =
        references.map fun entry => (entry.1, reader.receiptOf start entry.2) := by
  induction references with
  | nil => exact ⟨[], rfl, rfl⟩
  | cons entry rest ih =>
      rcases ih fun other hother => h other (List.mem_cons_of_mem entry hother) with
        ⟨items, hitems, hsame⟩
      have hreadable := h entry List.mem_cons_self
      unfold ReceiptAccess.receiptOf at hreadable
      split at hreadable
      · rename_i item hread
        have hitem : sealedItem reader.access entry = .ok (entry.1, item) :=
          sealedItem_eq_ok.mpr (And.intro rfl hread)
        refine ⟨(entry.1, item) :: items, ?_, ?_⟩
        · rw [List.mapM_cons, hitem, hitems]
          rfl
        · rw [List.map_cons, List.map_cons, hsame]
          unfold ReceiptAccess.receiptOf
          rw [hread]
      · cases hreadable

theorem receiptReadings_eq (hstart : history.find? isExecutionStart = some start)
    (h : reader.ReceiptsReadable history) :
    reader.receiptReadings history =
      some ((attempts history).map fun attempt =>
        (attempt.node, (reader.receiptOf start attempt.receipt).bind
          ExecutionAccountingReceipt.providerReportedTotal)) := by
  have hreadable : forall entry, entry ∈ history.flatMap (itemReferences accountingReceiptSuffix) ->
      (reader.receiptOf start entry.2).isSome = true := by
    intro entry hentry
    rw [<- attempts_references] at hentry
    rcases List.mem_map.mp hentry with ⟨attempt, hattempt, hsame⟩
    rcases h attempt hattempt with ⟨other, receipt, hother, hreceipt⟩
    rw [hstart] at hother
    cases hother
    rw [<- hsame, hreceipt]
    rfl
  rcases sealedItems_of_references hreadable with ⟨items, hitems, hsame⟩
  have htotals := congrArg (List.map fun entry : String × Option ExecutionAccountingReceipt =>
    (entry.1, entry.2.bind ExecutionAccountingReceipt.providerReportedTotal)) hsame
  rw [List.map_map, List.map_map, <- attempts_references, List.map_map] at htotals
  unfold ReceiptAccess.receiptReadings sealedItems
  rw [hstart, hitems]
  exact congrArg some htotals

theorem receiptReadings_of_unstarted (hstart : history.find? isExecutionStart = none) :
    reader.receiptReadings history = none := by
  unfold ReceiptAccess.receiptReadings
  rw [hstart]
  rfl

theorem countedFor_attempts {taken : ExtTreeMap String String} {subagent : String}
    {listed : List Attempt} {total : Attempt -> Option Nat}
    (htaken : forall attempt, attempt ∈ listed -> taken[attempt.node]? = attempt.ranUnder) :
    countedFor taken subagent (listed.map fun attempt => (attempt.node, total attempt)) =
      (listed.filter fun attempt => attempt.ranUnder = some subagent).map total := by
  unfold countedFor
  rw [List.filter_map, List.map_map]
  have hsame : listed.filter ((fun reading : String × Option Nat =>
      decide (taken[reading.1]? = some subagent)) ∘ fun attempt =>
        (attempt.node, total attempt)) =
      listed.filter fun attempt => attempt.ranUnder = some subagent := by
    apply List.filter_congr
    intro attempt hattempt
    dsimp only [Function.comp]
    rw [htaken attempt hattempt]
  rw [hsame]
  rfl

/-- Where every element has a value, nothing is left out. -/
theorem map_bind_of_isSome {α β γ : Type} {f : α -> Option β} {g : β -> Option γ} {xs : List α}
    (h : forall x, x ∈ xs -> (f x).isSome = true) :
    xs.map (fun x => (f x).bind g) = (xs.filterMap f).map g := by
  induction xs with
  | nil => rfl
  | cons x rest ih =>
      rcases Option.isSome_iff_exists.mp (h x List.mem_cons_self) with ⟨value, hvalue⟩
      rw [List.map_cons, ih fun other hother => h other (List.mem_cons_of_mem x hother),
        List.filterMap_cons_some hvalue, List.map_cons, hvalue, Option.bind_some]

theorem countersMeasured_of_receiptOf {reference : EvidenceReference}
    {receipt : ExecutionAccountingReceipt} (h : reader.receiptOf start reference = some receipt) :
    receipt.providerReportedTotal.isSome = receipt.countersMeasured := by
  unfold ReceiptAccess.receiptOf at h
  split at h
  · unfold ReceiptAccess.readReceipt at h
    rcases Option.bind_eq_some_iff.mp h with ⟨bytes, _, hreceipt⟩
    exact ExecutionAccountingReceipt.providerReportedTotal_isSome
      (validateWireContract_of_stableBytes (Except.toOption_eq_some hreceipt))
  · cases h

theorem measuresExactly_sessionSize {receipts : List ExecutionAccountingReceipt}
    (h : forall receipt, receipt ∈ receipts ->
      receipt.providerReportedTotal.isSome = receipt.countersMeasured) :
    MeasuresExactly
      (some (sessionSize
        (receipts.map ExecutionAccountingReceipt.providerReportedTotal))) receipts := by
  have hall : (receipts.map ExecutionAccountingReceipt.providerReportedTotal).all
      Option.isSome = true <->
        forall receipt, receipt ∈ receipts -> receipt.countersMeasured = true := by
    rw [List.all_map, List.all_eq_true]
    constructor
    · intro hmeasured receipt hmem
      rw [<- h receipt hmem]
      exact hmeasured receipt hmem
    · intro hmeasured receipt hmem
      exact (h receipt hmem).trans (hmeasured receipt hmem)
  constructor
  · rfl
  · rcases List.eq_nil_or_concat receipts with hnil | ⟨earlier, last, hconcat⟩
    · rw [hnil]
      exact Iff.intro (fun _ => Or.inl rfl) fun _ => rfl
    · have hnonempty : receipts.map ExecutionAccountingReceipt.providerReportedTotal ≠ [] := by
        rw [hconcat]
        simp
      have hsome := sessionSize_isSome hnonempty
      constructor
      · intro hnone
        rw [Option.some.inj hnone, Option.isSome_none] at hsome
        refine Or.inr (Classical.byContradiction fun hno => ?_)
        have hmeasured := hall.mpr fun receipt hmem => by
          cases hcounters : receipt.countersMeasured with
          | true => rfl
          | false => exact absurd ⟨receipt, hmem, hcounters⟩ hno
        rw [hmeasured] at hsome
        cases hsome
      · intro hcases
        rcases hcases with hnil | ⟨receipt, hmem, hcounters⟩
        · rw [hnil] at hnonempty
          exact absurd rfl hnonempty
        · cases hmeasured : (receipts.map
              ExecutionAccountingReceipt.providerReportedTotal).all Option.isSome with
          | true =>
              rw [hall.mp hmeasured receipt hmem] at hcounters
              cases hcounters
          | false =>
              rw [hmeasured] at hsome
              exact congrArg some
                (Option.isNone_iff_eq_none.mp (Option.isSome_eq_false_iff.mp hsome))
  · intro last hlast hmeasured
    unfold sessionSize
    rw [if_pos (hall.mpr hmeasured), List.getLast?_map, hlast]
    rfl

end Readings

/-!
## The bound
-/

/-- In a history whose attempts stay with their subagents the bound is exact. -/
theorem measured_bound_exact_while_attempts_stay {reader : ReceiptAccess}
    {sessions : SubagentSessions} {env : Environment} {scope : RepositoryScope}
    {streamId : String} {history : List EventEnvelope} {projection : ExecutionProjection}
    (hreplay : replay env scope streamId history = .ok projection)
    (hsupported : sessions.supported = true) (hreadable : reader.ReceiptsReadable history)
    (hstay : AttemptsStay history) : BoundExact reader sessions history projection := by
  rcases (replay_eq_ok_iff.mp hreplay).right with ⟨st, hfold, hprojection⟩
  have htaken : forall {node : String},
      (takenBy projection)[node]? = recordedWith history node := by
    intro node
    rw [<- hprojection]
    exact takenBy_of_fold hfold
  constructor
  · intro subagent hrecorded
    unfold readBound ReceiptAccess.ownReceipts
    rw [Option.bind_some]
    cases hstart : history.find? isExecutionStart with
    | none =>
        rw [receiptReadings_of_unstarted hstart, measuredBound_unread hsupported hrecorded]
        exact measuresExactly_sessionSize fun _ hmem => absurd hmem List.not_mem_nil
    | some start =>
        have hread : forall attempt, attempt ∈ attempts history ->
            (reader.receiptOf start attempt.receipt).isSome = true := by
          intro attempt hattempt
          rcases hreadable attempt hattempt with ⟨other, receipt, hother, hreceipt⟩
          rw [hstart] at hother
          cases hother
          rw [hreceipt]
          rfl
        have hran : forall attempt, attempt ∈ attempts history ->
            (takenBy projection)[attempt.node]? = attempt.ranUnder := by
          intro attempt hattempt
          rw [htaken, hstay.ranUnder_eq hattempt]
        rw [receiptReadings_eq hstart hreadable, measuredBound_read hsupported hrecorded,
          countedFor_attempts hran,
          map_bind_of_isSome fun attempt hattempt =>
            hread attempt (List.mem_filter.mp hattempt).left]
        refine measuresExactly_sessionSize fun receipt hmem => ?_
        rcases List.mem_filterMap.mp hmem with ⟨attempt, _, hreceipt⟩
        exact countersMeasured_of_receiptOf hreceipt
  · intro attempt subagent hattempt hran
    refine ⟨attempt.node, ?_⟩
    rw [htaken, hstay.ranUnder_eq hattempt, hran]

/-!
## A node that is retried
-/

namespace Sample

def recordedUnder (key subagent : String) : NewEvent :=
  event key (.subagentReused
    { nodeId := id "a"
      subagentId := id subagent
      kind := .explorer
      graphVersion := 1
      basis := .noEligibleSubagent
      fromNodeId := none
      fromKind := none
      tokensUsed := none
      tokensAllocated := none })

def receiptReference : EvidenceReference :=
  { evidenceId := id "exec-e-a-a1-accounting-receipt", contentSha256 := "", ciphertextSha256 := "" }

/-- The first attempt of the node fails, and its receipt is sealed. -/
def accounted : NewEvent :=
  { outcome "fail" "a" .retryableFailure .ready with
    evidenceRefs := [receiptReference] }

def attemptedOnce : List EventEnvelope :=
  history [started, recordedUnder "first" "sa-1", accounted]

/-- The node is dispatched again, under a fresh subagent. -/
def attemptedAnew : List EventEnvelope :=
  history [started, recordedUnder "first" "sa-1", accounted, recordedUnder "second" "sa-2"]

def startEnvelope : EventEnvelope :=
  sealEnvelope env (id "event-0") scope streamId 1 1000000000 started genesisHash

def measuredField (value : Nat) (note : String) : CostField :=
  { value := some value
    provenance := .measured
    producer := some modelUsageProducer
    note := note }

/-- Ten tokens in, and five out. -/
def costOf (name : String) : CostField :=
  if name = providerReportedInputTokensField then measuredField 10 providerReportedInputNote
  else if name = outputTokensField then measuredField 5 ""
  else if name = providerTotalInputTokensField then
    CostField.unavailable providerTotalInputUnavailableNote
  else
    CostField.unavailable unavailableNote

def costReceipt : ExecutionAccountingReceipt :=
  { executionBinding :=
      { eventId := startEnvelope.eventId
        eventHash := startEnvelope.eventHash
        scope := startEnvelope.scope
        producerActor := startEnvelope.actor }
    providerUsage := none
    fields := accountingFieldNames.map fun name => (name, costOf name) }

def jsonString (text : String) : String :=
  String.ofList (quoted text)

def fieldJson (entry : String × CostField) : String :=
  "\x7b\"name\":" ++ jsonString entry.1 ++ ",\"value\":" ++
    (entry.2.value.map toString).getD "null" ++ ",\"provenance\":" ++
    jsonString (if entry.2.isMeasured then "measured" else "unavailable") ++ ",\"producer\":" ++
    (entry.2.producer.map jsonString).getD "null" ++ ",\"note\":" ++ jsonString entry.2.note ++
    "\x7d"

/-- The evidence of the receipt, as the driver seals it. -/
def receiptJson : Bytes :=
  utf8 ("\x7b\"schemaVersion\":\"1.0.0\",\"executionBinding\":\x7b" ++
    "\"bindingKind\":\"execution_started_event\"," ++
    "\"schemaId\":\"https://p50.dev/schemas/event-envelope.schema.json\"," ++
    "\"schemaVersion\":\"1.0.0\",\"eventId\":" ++ jsonString startEnvelope.eventId.text ++
    ",\"eventHash\":" ++ jsonString startEnvelope.eventHash ++
    ",\"scope\":\x7b\"workspaceId\":\"workspace\",\"projectId\":\"project\"," ++
    "\"executionId\":\"execution\"\x7d,\"producerActor\":\x7b\"type\":\"owner\"," ++
    "\"id\":\"owner\"\x7d\x7d,\"fields\":[" ++
    String.intercalate "," (costReceipt.fields.map fieldJson) ++ "]\x7d")

def readReceiptJson (bytes : Bytes) : Option OwnedAccountingReceiptWire :=
  if bytes = receiptJson then
    some { costReceipt with schemaVersion := accountingReceiptSchemaVersion }
  else
    none

def sealedReceipt (id : EvidenceId) : SealedEvidence :=
  { scope := scope
    reference := { receiptReference with evidenceId := id }
    ciphertextLength := 0
    body := "" }

def receiptAccess : ReceiptAccess :=
  { env := env
    access :=
      { sealedEvidence := fun id => .ok (.available (sealedReceipt id))
        openBytes := fun _ => some receiptJson
        servedAsAsked := by
          intro id item h
          cases h
          rfl }
    readWire := readReceiptJson }

theorem length_toList_le (text : String) : text.toList.length <= text.utf8ByteSize := by
  rw [<- length_utf8]
  unfold utf8
  generalize text.toList = chars
  induction chars with
  | nil => exact Nat.le_refl 0
  | cons c rest ih =>
      rw [List.flatMap_cons, List.length_append, List.length_cons]
      have hchar := List.length_pos_of_ne_nil (@String.utf8EncodeChar_ne_nil c)
      omega

theorem costOf_valid (name : String) : validField ((name, costOf name), name) = true := by
  have hreported : providerReportedInputNote.toList.length <= 2048 :=
    Nat.le_trans (length_toList_le _) (by decide)
  have htotal : providerTotalInputUnavailableNote.toList.length <= 2048 :=
    Nat.le_trans (length_toList_le _) (by decide)
  have hunavailable : unavailableNote.toList.length <= 2048 :=
    Nat.le_trans (length_toList_le _) (by decide)
  unfold validField validShape costOf
  dsimp only
  split
  · simp [measuredField, validCounter, maxJsonSafeInteger, hreported]
  · split
    · simp [measuredField, validCounter, maxJsonSafeInteger]
    · split
      · simp [CostField.unavailable, validUnavailable, htotal]
      · simp [CostField.unavailable, validUnavailable, hunavailable]

theorem costReceipt_valid : costReceipt.validateWireContract = .ok () := by
  have hfields : (costReceipt.fields.zip accountingFieldNames).all validField = true := by
    unfold costReceipt
    dsimp only
    rw [List.zip_map_left, List.zip_eq_zipWith, List.zipWith_self, List.all_map, List.all_map,
      List.all_eq_true]
    exact fun name _ => costOf_valid name
  have hcount : (costReceipt.executionBinding.scope.executionId.isSome &&
      decide (costReceipt.fields.length = accountingFieldNames.length)) = true := by
    unfold costReceipt
    rw [List.length_map, decide_eq_true rfl]
    rfl
  have husage : costReceipt.validateUsage costReceipt.providerUsage = .ok () := rfl
  unfold ExecutionAccountingReceipt.validateWireContract
  rw [Except.check_bind hcount, husage, Except.ok_bind]
  exact check_eq_ok.mpr hfields

theorem readReceipt_costReceipt (item : SealedEvidence) :
    receiptAccess.readReceipt startEnvelope item = some costReceipt := by
  have hwire : readReceiptJson receiptJson =
      some { costReceipt with schemaVersion := accountingReceiptSchemaVersion } := by
    unfold readReceiptJson
    exact if_pos rfl
  have hbinding : validatedExecutionBinding env startEnvelope =
      .ok costReceipt.executionBinding := by
    unfold validatedExecutionBinding
    have hhash : eventHash env startEnvelope startEnvelope.previousHash =
        startEnvelope.eventHash := sealEnvelope_eventHash
    change (check (decide (startEnvelope.scope.executionId = some executionId)) _ >>= _) = _
    have hscope : startEnvelope.scope.executionId = some executionId := rfl
    rw [Except.check_bind (decide_eq_true hscope), Except.check_bind (decide_eq_true hhash)]
    rfl
  have hreceipt : receiptOfStableBytes env readReceiptJson receiptJson startEnvelope =
      .ok costReceipt := by
    unfold receiptOfStableBytes
    rw [Except.orRefuse_bind hwire, Except.check_bind (decide_eq_true rfl)]
    dsimp only
    rw [costReceipt_valid, Except.ok_bind, hbinding, Except.ok_bind,
      Except.check_bind (decide_eq_true rfl)]
  unfold ReceiptAccess.readReceipt receiptAccess
  dsimp only
  rw [Option.bind_eq_bind, Option.bind_some, hreceipt]
  rfl

def firstAttempt : Attempt :=
  { node := "a", ranUnder := some "sa-1", receipt := receiptReference }

theorem readable_of_firstAttempt {events : List EventEnvelope}
    (hattempts : attempts events = [firstAttempt])
    (hstart : events.find? isExecutionStart = some startEnvelope) :
    receiptAccess.ReceiptsReadable events := by
  intro attempt hattempt
  rw [hattempts] at hattempt
  rw [List.mem_singleton.mp hattempt]
  exact ⟨startEnvelope, costReceipt, hstart, readReceipt_costReceipt _⟩

theorem attempts_attemptedOnce : attempts attemptedOnce = [firstAttempt] := rfl

theorem attempts_attemptedAnew : attempts attemptedAnew = [firstAttempt] := rfl

theorem attemptedOnce_stay : AttemptsStay attemptedOnce := by
  have hsplit : attemptedOnce = attemptedOnce.take 2 ++ attemptedOnce.drop 2 :=
    (List.take_append_drop 2 attemptedOnce).symm
  rw [hsplit]
  refine AttemptsStay.of_early rfl fun event hmem payload hkind => ?_
  rw [List.mem_singleton.mp hmem] at hkind
  cases hkind

end Sample

/-- One attempt is measured for its subagent. -/
theorem measured_bound_exact_after_one_attempt : exists projection,
    replay Sample.env Sample.scope Sample.streamId.text Sample.attemptedOnce = .ok projection ∧
      BoundExact Sample.receiptAccess (SubagentSessions.new (some 1000)) Sample.attemptedOnce
        projection := by
  have hreadable : Readable Sample.env Sample.scope Sample.streamId.text Sample.attemptedOnce :=
    Sample.history_readable (by decide) (by decide) (by decide) (by decide)
  rcases hreadable.replay_isOk (by decide) with ⟨projection, hreplay⟩
  exact ⟨projection, hreplay, measured_bound_exact_while_attempts_stay hreplay rfl
    (Sample.readable_of_firstAttempt Sample.attempts_attemptedOnce rfl)
    Sample.attemptedOnce_stay⟩

/-- The second subagent is measured by the attempt of the first. -/
theorem measured_bound_counts_an_earlier_attempt : exists projection,
    replay Sample.env Sample.scope Sample.streamId.text Sample.attemptedAnew = .ok projection ∧
      Sample.receiptAccess.ReceiptsReadable Sample.attemptedAnew ∧
        ¬ BoundExact Sample.receiptAccess (SubagentSessions.new (some 1000))
          Sample.attemptedAnew projection := by
  have hreadable : Readable Sample.env Sample.scope Sample.streamId.text Sample.attemptedAnew :=
    Sample.history_readable (by decide) (by decide) (by decide) (by decide)
  rcases hreadable.replay_isOk (by decide) with ⟨projection, hreplay⟩
  have hreceipts : Sample.receiptAccess.ReceiptsReadable Sample.attemptedAnew :=
    Sample.readable_of_firstAttempt Sample.attempts_attemptedAnew rfl
  refine ⟨projection, hreplay, hreceipts, fun hexact => ?_⟩
  rcases (replay_eq_ok_iff.mp hreplay).right with ⟨st, hfold, hprojection⟩
  have htaken : (takenBy projection)["a"]? = some "sa-2" := by
    rw [<- hprojection, takenBy_of_fold hfold]
    rfl
  have hrecorded : StandsRecorded projection "sa-2" := ⟨"a", htaken⟩
  have hown : Sample.receiptAccess.ownReceipts Sample.attemptedAnew "sa-2" = [] := rfl
  have hnone := (hexact.exact hrecorded).unmeasured.mpr (Or.inl hown)
  have hstart : Sample.attemptedAnew.find? isExecutionStart = some Sample.startEnvelope := rfl
  unfold readBound at hnone
  rw [Option.bind_some, receiptReadings_eq hstart hreceipts, measuredBound_read rfl hrecorded,
    Sample.attempts_attemptedAnew, List.map_singleton] at hnone
  have hreceipt : Sample.receiptAccess.receiptOf Sample.startEnvelope
      Sample.firstAttempt.receipt = some Sample.costReceipt := Sample.readReceipt_costReceipt _
  have htotal : Sample.costReceipt.providerReportedTotal = some 15 := by decide +kernel
  have hcounted : countedFor (takenBy projection) "sa-2" [("a", some 15)] = [some 15] := by
    simp [countedFor, htaken]
  rw [hreceipt, Option.bind_some, htotal] at hnone
  have hsize := hcounted ▸ Option.some.inj hnone
  cases hsize

end GraphHelm
