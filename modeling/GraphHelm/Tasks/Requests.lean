import GraphHelm.Library.OrderedMap
import GraphHelm.Tasks.State
import Mathlib.Data.List.Induction

/-!
# Owner requests

What an owner asked for, what was linked to it, and the lane it was handed to
(`requests.rs`).
-/

namespace GraphHelm
namespace Tasks

open Std

inductive RequestStatus where
  | «open»
  | inProgress
  | delivered
deriving DecidableEq

structure RequestSlice where
  pr : Option Nat
  step : String
  merged : Bool
deriving DecidableEq

structure RequestIssue where
  issue : Nat
  slices : List RequestSlice
deriving DecidableEq

/-- One owner request as the requests route serves it. -/
structure RequestView where
  requestId : TaskIdentity
  ask : String
  title : Option String
  recordedBy : String
  revision : Nat
  sequence : Nat
  recordedAt : Option PersistedTimestamp
  status : RequestStatus := .open
  issues : List RequestIssue := []
  dispatchedTo : Option String := none
  dispatchLapsed : List String := []
  dispatchAttempts : Nat := 0
deriving DecidableEq

/-!
## The requests of a log
-/

def requestIssue (tasks : List TaskState) (issue : Nat) : RequestIssue where
  issue := issue
  slices :=
    (tasks.filter fun task => task.issue = some issue && task.pr.isSome).map fun task =>
      { pr := task.pr, step := task.step.asStr, merged := task.step = .merged }

def status (issues : List RequestIssue) : RequestStatus :=
  if issues.isEmpty then
    .open
  else if issues.all fun issue => issue.slices.any RequestSlice.merged then
    .delivered
  else
    .inProgress

def newView (requestId : TaskIdentity) (record : TaskEventRecord) : RequestView where
  requestId := requestId
  ask := record.ask.getD ""
  title := record.title
  recordedBy := record.actorId
  revision := record.revision.getD 1
  sequence := record.sequence
  recordedAt := record.occurredAt

/-- A later record of a request: only the first recorder supersedes, with a higher revision. -/
def RequestView.supersede (view : RequestView) (record : TaskEventRecord) : RequestView :=
  if view.recordedBy = record.actorId && view.revision < record.revision.getD 1 then
    { view with
        ask := record.ask.getD ""
        title := record.title
        revision := record.revision.getD 1 }
  else
    view

/-- The requests and their linked issues, by the text of the request's identity. -/
structure Gathered where
  views : ExtTreeMap String RequestView := ∅
  links : ExtTreeMap String (List Nat) := ∅

def gather (gathered : Gathered) (record : TaskEventRecord) : Gathered :=
  match record.requestId with
  | none => gathered
  | some requestId =>
      match record.kind with
      | .requestRecorded =>
          let view :=
            match gathered.views[requestId.text]? with
            | some view => view.supersede record
            | none => newView requestId record
          { gathered with views := gathered.views.insert requestId.text view }
      | .requestLinked =>
          -- a link to a request of another run attaches to none of this run
          if record.requestExecutionId.isSome then
            gathered
          else
            match record.issue with
            | none => gathered
            | some issue =>
                let issues := gathered.links[requestId.text]?.getD []
                let linked := if issues.contains issue then issues else issues ++ [issue]
                { gathered with links := gathered.links.insert requestId.text linked }
      | _ => gathered

def requests (records : List TaskEventRecord) (tasks : List TaskState) : List RequestView :=
  let gathered := (bySequence records).foldl gather {}
  let out := gathered.views.toList.map fun (requestId, view) =>
    let issues := (gathered.links[requestId]?.getD []).map (requestIssue tasks)
    { view with issues := issues, status := status issues }
  out.insertionSort fun first second => first.sequence <= second.sequence

/-!
## Handing requests to lanes
-/

/-- How many times one request is handed before only the owner's Hand off is left. -/
def maxDispatchAttempts : Nat := 3

section Dispatch

-- the lowercase hexadecimal SHA-256 digest of a text
variable (sha256Hex : String -> String)

/-- What a dispatch signal is derived from. -/
def dispatchSeed (requestId : TaskIdentity) (attempt : Nat) : String :=
  if attempt = 0 then
    "request-dispatch\n" ++ requestId.text
  else
    "request-dispatch\n" ++ requestId.text ++ "\n" ++ toString attempt

def dispatchSignalId (requestId : TaskIdentity) (attempt : Nat) : String :=
  "dispatch-" ++ String.ofList ((sha256Hex (dispatchSeed requestId attempt)).toList.take 32)

/-- One hand-off note: the lane it names and when the Runtime appended it. -/
structure DispatchNote where
  lane : String
  «at» : PersistedTimestamp
deriving DecidableEq

/-- The hand-offs of one request as the loop over its attempts reads them. -/
structure HandOffs where
  newest : Option DispatchNote := none
  lapsed : List String := []
  attempts : Nat := 0

/-- The loop over the attempts, which breaks at the first that has no note. -/
def handOffs (notes : ExtTreeMap String DispatchNote) (requestId : TaskIdentity) :
    List Nat -> HandOffs -> HandOffs
  | [], found => found
  | attempt :: rest, found =>
      match notes[dispatchSignalId sha256Hex requestId attempt]? with
      | none => found
      | some note =>
          handOffs notes requestId rest
            { newest := some note
              lapsed := found.lapsed ++ found.newest.toList.map DispatchNote.lane
              attempts := attempt + 1 }

/-- Whole seconds between two instants, towards zero. -/
def ageSeconds (now «at» : PersistedTimestamp) : Int :=
  (now - «at»).tdiv 1000000000

def markOne (notes : ExtTreeMap String DispatchNote) (now : PersistedTimestamp)
    (leaseSeconds : Int) (gone : String -> Bool) (view : RequestView) : RequestView :=
  let found := handOffs sha256Hex notes view.requestId (List.range maxDispatchAttempts) {}
  let cleared :=
    { view with
        dispatchedTo := none
        dispatchLapsed := found.lapsed
        dispatchAttempts := found.attempts }
  match found.newest with
  | none => cleared
  | some note =>
      if !view.issues.isEmpty then
        { cleared with dispatchLapsed := [] }
      else if ageSeconds now note.at < leaseSeconds && !gone note.lane then
        { cleared with dispatchedTo := some note.lane }
      else
        { cleared with dispatchLapsed := found.lapsed ++ [note.lane] }

/-- Fills each request's hand-offs from the notes on the journal. -/
def markDispatched (views : List RequestView) (notes : ExtTreeMap String DispatchNote)
    (now : PersistedTimestamp) (leaseSeconds : Int) (gone : String -> Bool) : List RequestView :=
  views.map (markOne sha256Hex notes now leaseSeconds gone)

end Dispatch

def waiting (view : RequestView) : Bool :=
  view.status = .open && view.issues.isEmpty

structure Planned where
  requestId : TaskIdentity
  lane : String
  attempt : Nat
deriving DecidableEq

/-- The loop that gives each request the first free lane it may go to. -/
def giveLanes (freeLanes : List String) : List RequestView -> List String -> List Planned
  | [], _ => []
  | view :: rest, busy =>
      match freeLanes.find? fun lane =>
          !busy.contains lane && !view.dispatchLapsed.contains lane with
      | none => giveLanes freeLanes rest busy
      | some lane =>
          { requestId := view.requestId, lane := lane, attempt := view.dispatchAttempts } ::
            giveLanes freeLanes rest (busy ++ [lane])

def planDispatch (views : List RequestView) (freeLanes : List String) : List Planned :=
  let busy := (views.filter waiting).filterMap RequestView.dispatchedTo
  let ordered := views.filter fun view =>
    waiting view && view.dispatchedTo.isNone && view.dispatchAttempts < maxDispatchAttempts
  giveLanes freeLanes
    (ordered.insertionSort fun first second => first.sequence <= second.sequence) busy

/-!
## Which requests are recorded and linked
-/

def Records (requestId : TaskIdentity) (record : TaskEventRecord) : Prop :=
  record.kind = .requestRecorded ∧ record.requestId = some requestId

def Links (requestId : TaskIdentity) (record : TaskEventRecord) : Prop :=
  record.kind = .requestLinked ∧ record.requestId = some requestId ∧
    record.requestExecutionId = none ∧ record.issue.isSome = true

def Recorded (records : List TaskEventRecord) (requestId : TaskIdentity) : Prop :=
  exists record, record ∈ records ∧ Records requestId record

def Linked (records : List TaskEventRecord) (requestId : TaskIdentity) : Prop :=
  exists record, record ∈ records ∧ Links requestId record

theorem TaskIdentity.eq_of_text {first second : TaskIdentity} (h : first.text = second.text) :
    first = second := by
  cases first
  cases second
  cases h
  rfl

structure Gathers (seen : List TaskEventRecord) (gathered : Gathered) : Prop where
  named : forall text (view : RequestView), gathered.views[text]? = some view -> view.requestId.text = text
  viewed : forall requestId : TaskIdentity,
    gathered.views[requestId.text]?.isSome = true <-> Recorded seen requestId
  linked : forall requestId : TaskIdentity,
    gathered.links[requestId.text]?.getD [] ≠ [] <-> Linked seen requestId

section Gathering

variable {seen records : List TaskEventRecord} {gathered : Gathered} {record : TaskEventRecord}
  {requestId : TaskIdentity} {tasks : List TaskState} {view : RequestView}

theorem recorded_concat :
    Recorded (seen ++ [record]) requestId <->
      Recorded seen requestId ∨ Records requestId record := by
  unfold Recorded
  simp only [List.mem_append, List.mem_singleton, or_and_right, exists_or, exists_eq_left]

theorem linked_concat :
    Linked (seen ++ [record]) requestId <-> Linked seen requestId ∨ Links requestId record := by
  unfold Linked
  simp only [List.mem_append, List.mem_singleton, or_and_right, exists_or, exists_eq_left]

theorem RequestView.supersede_requestId :
    (view.supersede record).requestId = view.requestId := by
  unfold RequestView.supersede
  split
  · rfl
  · rfl

theorem Gathers.skip (h : Gathers seen gathered)
    (hrecorded : forall requestId, Not (Records requestId record))
    (hlinked : forall requestId, Not (Links requestId record)) :
    Gathers (seen ++ [record]) gathered where
  named := h.named
  viewed := by
    intro requestId
    rw [h.viewed, recorded_concat, or_iff_left (hrecorded requestId)]
  linked := by
    intro requestId
    rw [h.linked, linked_concat, or_iff_left (hlinked requestId)]

theorem Gathers.recorded (h : Gathers seen gathered) (hkind : record.kind = .requestRecorded)
    (hrequest : record.requestId = some requestId) {view : RequestView}
    (hview : view.requestId = requestId) :
    Gathers (seen ++ [record])
      { gathered with views := gathered.views.insert requestId.text view } where
  named := by
    intro text other hother
    rcases Decidable.em (requestId.text = text) with rfl | hne
    · rw [ExtTreeMap.getElem?_insert_self] at hother
      cases hother
      rw [hview]
    · rw [OrderedMap.getElem?_insert_of_ne hne] at hother
      exact h.named text other hother
  viewed := by
    intro other
    rw [recorded_concat]
    rcases Decidable.em (requestId = other) with rfl | hne
    · rw [ExtTreeMap.getElem?_insert_self]
      exact iff_of_true rfl (Or.inr (And.intro hkind hrequest))
    · have htext : requestId.text ≠ other.text :=
        fun heq => hne (TaskIdentity.eq_of_text heq)
      have hnot : Not (Records other record) := by
        rintro ⟨_, hsame⟩
        exact hne (Option.some.inj (hrequest.symm.trans hsame))
      rw [OrderedMap.getElem?_insert_of_ne htext, h.viewed, or_iff_left hnot]
  linked := by
    intro other
    have hnot : Not (Links other record) := by
      rintro ⟨hlink, _⟩
      cases hkind.symm.trans hlink
    rw [h.linked, linked_concat, or_iff_left hnot]

theorem Gathers.link (h : Gathers seen gathered) (hlinks : Links requestId record)
    {issues : List Nat} (hissues : issues ≠ []) :
    Gathers (seen ++ [record])
      { gathered with links := gathered.links.insert requestId.text issues } where
  named := h.named
  viewed := by
    intro other
    have hnot : Not (Records other record) := by
      rintro ⟨hrecords, _⟩
      cases hlinks.left.symm.trans hrecords
    rw [h.viewed, recorded_concat, or_iff_left hnot]
  linked := by
    intro other
    rw [linked_concat]
    rcases Decidable.em (requestId = other) with rfl | hne
    · rw [ExtTreeMap.getElem?_insert_self]
      exact iff_of_true hissues (Or.inr hlinks)
    · have htext : requestId.text ≠ other.text :=
        fun heq => hne (TaskIdentity.eq_of_text heq)
      have hnot : Not (Links other record) := by
        rintro ⟨_, hsame, _⟩
        exact hne (Option.some.inj (hlinks.right.left.symm.trans hsame))
      rw [OrderedMap.getElem?_insert_of_ne htext, h.linked, or_iff_left hnot]

theorem Gathers.step (h : Gathers seen gathered) :
    Gathers (seen ++ [record]) (gather gathered record) := by
  unfold gather
  split
  · rename_i hnone
    refine h.skip ?_ ?_
    · rintro other ⟨_, hsome⟩
      cases hnone.symm.trans hsome
    · rintro other ⟨_, hsome, _⟩
      cases hnone.symm.trans hsome
  · rename_i requestId hrequest
    split
    · rename_i hkind
      refine h.recorded hkind hrequest ?_
      cases hview : gathered.views[requestId.text]? with
      | none =>
          rfl
      | some view =>
          exact RequestView.supersede_requestId.trans
            (TaskIdentity.eq_of_text (h.named requestId.text view hview))
    · rename_i hkind
      have hnot : forall other, Not (Records other record) := by
        rintro other ⟨hrecords, _⟩
        cases hkind.symm.trans hrecords
      split
      · rename_i helsewhere
        refine h.skip hnot ?_
        rintro other ⟨_, _, hlocal, _⟩
        rw [hlocal] at helsewhere
        cases helsewhere
      · rename_i hlocal
        split
        · rename_i hissue
          refine h.skip hnot ?_
          rintro other ⟨_, _, _, hsome⟩
          rw [hissue] at hsome
          cases hsome
        · rename_i issue hissue
          refine h.link ⟨hkind, hrequest, Option.not_isSome_iff_eq_none.mp hlocal, ?_⟩ ?_
          · rw [hissue]
            rfl
          · intro hempty
            split at hempty
            · rename_i hcontains
              rw [hempty] at hcontains
              cases hcontains
            · exact List.append_ne_nil_of_right_ne_nil _ (List.cons_ne_nil issue []) hempty
    · rename_i hother hlink
      refine h.skip ?_ ?_
      · rintro other ⟨hrecords, _⟩
        exact hother hrecords
      · rintro other ⟨hlinks, _⟩
        exact hlink hlinks

theorem gathers_foldl : Gathers records (records.foldl gather {}) := by
  induction records using List.reverseRecOn with
  | nil =>
      constructor
      · intro text view hview
        cases hview
      · intro requestId
        refine iff_of_false (fun hsome => nomatch hsome) ?_
        rintro ⟨_, hmem, _⟩
        cases hmem
      · intro requestId
        refine iff_of_false (fun hne => hne rfl) ?_
        rintro ⟨_, hmem, _⟩
        cases hmem
  | append_singleton seen record ih =>
      rw [List.foldl_concat]
      exact ih.step

theorem recorded_bySequence : Recorded (bySequence records) requestId <->
    Recorded records requestId := by
  unfold Recorded
  simp only [mem_bySequence]

theorem linked_bySequence : Linked (bySequence records) requestId <->
    Linked records requestId := by
  unfold Linked
  simp only [mem_bySequence]

theorem mem_requests (h : view ∈ requests records tasks) :
    Recorded records view.requestId ∧ (view.issues = [] <-> Not (Linked records view.requestId)) ∧
      view.status = status view.issues := by
  have hgathers := @gathers_foldl (bySequence records)
  unfold requests at h
  rw [List.mem_insertionSort] at h
  rcases List.mem_map.mp h with ⟨⟨text, held⟩, hmem, rfl⟩
  have hget := ExtTreeMap.mem_toList_iff_getElem?_eq_some.mp hmem
  have htext := hgathers.named text held hget
  have hviewed := hgathers.viewed held.requestId
  have hlinked := hgathers.linked held.requestId
  rw [htext] at hviewed hlinked
  rw [hget, recorded_bySequence] at hviewed
  rw [linked_bySequence] at hlinked
  refine ⟨hviewed.mp rfl, ?_, rfl⟩
  rw [← hlinked, List.map_eq_nil_iff, not_not]

theorem exists_mem_requests (h : Recorded records requestId) (tasks : List TaskState) :
    exists view, view ∈ requests records tasks ∧ view.requestId = requestId := by
  have hgathers := @gathers_foldl (bySequence records)
  have hsome := (hgathers.viewed requestId).mpr (recorded_bySequence.mpr h)
  rcases Option.isSome_iff_exists.mp hsome with ⟨held, hget⟩
  have hmem := List.mem_map_of_mem (f := fun entry : String × RequestView =>
    let issues := ((((bySequence records).foldl gather {}).links[entry.1]?.getD []).map
      (requestIssue tasks))
    { entry.2 with issues := issues, status := status issues })
    (ExtTreeMap.mem_toList_iff_getElem?_eq_some.mpr hget)
  refine ⟨_, (List.mem_insertionSort _).mpr hmem, ?_⟩
  exact TaskIdentity.eq_of_text (hgathers.named requestId.text held hget)

theorem nodup_requests : ((requests records tasks).map RequestView.requestId).Nodup := by
  have hgathers := @gathers_foldl (bySequence records)
  unfold requests
  refine (((List.perm_insertionSort _ _).map _).nodup_iff).mpr ?_
  rw [List.map_map]
  refine List.Nodup.of_map TaskIdentity.text ?_
  rw [List.map_map]
  have hkeys : (((bySequence records).foldl gather {}).views.toList.map Prod.fst).Nodup := by
    rw [ExtTreeMap.map_fst_toList_eq_keys]
    exact ExtTreeMap.nodup_keys
  convert hkeys using 1
  apply List.map_congr_left
  rintro ⟨text, held⟩ hmem
  exact hgathers.named text held (ExtTreeMap.mem_toList_iff_getElem?_eq_some.mp hmem)

end Gathering

end Tasks
end GraphHelm
