import GraphHelm.Library.Acyclic
import GraphHelm.Projection.Supersessions

/-!
# Superseding memory records

`supersede` of `core/governor/src/memory.rs`, the event that records it, and
sequences of calls over a set of records.  A call looks at no record but its own
two, so it may close a loop of records that supersede one another.
-/

namespace GraphHelm

open Std Relation

/-!
## Records
-/

inductive MemorySemanticState where
  | candidate
  | validated
  | contradicted
  | deprecated
  | expired
deriving DecidableEq

inductive MemoryPublicationState where
  | unpublished
  | proposed
  | published
  | withdrawn
deriving DecidableEq

inductive SupersessionReason where
  | contradicted
  | deprecated
deriving DecidableEq

def SupersessionReason.target : SupersessionReason -> MemorySemanticState
  | .contradicted => .contradicted
  | .deprecated => .deprecated

inductive MemoryField where
  | content
  | state
  | scope
  | validators
  | origin
  | evidence
  | dependency
deriving DecidableEq

inductive MemoryRefusalCode where
  | optInAbsent
  | scopeMismatch
  | recaptureLoop
  | secretDetected
  | selfValidated
  | transitionNotAllowed
  | resealFailed
  | dependencyStale
  | handoffTargetNotOptedIn
deriving DecidableEq

structure MemoryRefusal where
  code : MemoryRefusalCode
  field : MemoryField
deriving DecidableEq

/-- A memory record, without the provenance that superseding neither reads nor writes. -/
structure MemoryRecord where
  id : OpaqueId
  semantic : MemorySemanticState
  publication : MemoryPublicationState
  supersedes : Option OpaqueId
deriving DecidableEq

namespace MemoryRecord

/-- A fresh record with the given identity. -/
def new (id : OpaqueId) : MemoryRecord :=
  { id := id
    semantic := .candidate
    publication := .unpublished
    supersedes := none }

end MemoryRecord

/-- The two records a call borrows. -/
structure SupersessionPair where
  predecessor : MemoryRecord
  successor : MemoryRecord
deriving DecidableEq

def supersede (reason : SupersessionReason) : EStateM MemoryRefusal SupersessionPair Unit :=
  fun pair =>
    if pair.predecessor.id = pair.successor.id then
      .error { code := .transitionNotAllowed, field := .state } pair
    else if pair.successor.supersedes.isSome then
      .error { code := .transitionNotAllowed, field := .state } pair
    else
      .ok ()
        { predecessor := { pair.predecessor with semantic := reason.target }
          successor := { pair.successor with supersedes := some pair.predecessor.id } }

def persistedSupersessionReason : SupersessionReason -> PersistedSupersessionReason
  | .contradicted => .contradicted
  | .deprecated => .deprecated

def persistedSemanticState : MemorySemanticState -> PersistedMemorySemanticState
  | .candidate => .candidate
  | .validated => .validated
  | .contradicted => .contradicted
  | .deprecated => .deprecated
  | .expired => .expired

/-- The payload `record_memory_record_superseded` persists of the pair as the call left it. -/
def recordMemoryRecordSuperseded (pair : SupersessionPair) (reason : SupersessionReason) :
    MemoryRecordSuperseded :=
  { predecessorId := pair.predecessor.id
    successorId := pair.successor.id
    reason := persistedSupersessionReason reason
    predecessorNewSemanticState := persistedSemanticState pair.predecessor.semantic }

/-!
## One call
-/

def SupersessionPair.Free (pair : SupersessionPair) : Prop :=
  pair.predecessor.id ≠ pair.successor.id ∧ pair.successor.supersedes = none

/-- The two records once the one supersedes the other. -/
def SupersessionPair.superseded (pair : SupersessionPair) (reason : SupersessionReason) :
    SupersessionPair :=
  { predecessor := { pair.predecessor with semantic := reason.target }
    successor := { pair.successor with supersedes := some pair.predecessor.id } }

theorem supersede_of_free {pair : SupersessionPair} (hfree : pair.Free)
    (reason : SupersessionReason) :
    supersede reason pair = .ok () (pair.superseded reason) := by
  rw [supersede, if_neg hfree.left, if_neg]
  · rfl
  · rw [hfree.right]
    exact Bool.false_ne_true

theorem supersede_of_not_free {pair : SupersessionPair} (hfree : ¬ pair.Free)
    (reason : SupersessionReason) :
    supersede reason pair = .error { code := .transitionNotAllowed, field := .state } pair := by
  unfold supersede
  rcases Decidable.em (pair.predecessor.id = pair.successor.id) with heq | hne
  · rw [if_pos heq]
  · rw [if_neg hne, if_pos]
    rw [Option.isSome_iff_ne_none]
    exact fun hnone => hfree ⟨hne, hnone⟩

theorem supersede_refused {pair left : SupersessionPair} {reason : SupersessionReason}
    {refusal : MemoryRefusal} (h : supersede reason pair = .error refusal left) : left = pair := by
  rcases Classical.em pair.Free with hfree | hfree
  · rw [supersede_of_free hfree] at h
    cases h
  · rw [supersede_of_not_free hfree] at h
    cases h
    rfl

/-!
## Sets of records
-/

structure MemoryRecords where
  byId : ExtTreeMap String MemoryRecord
  named : forall {key : String} {record : MemoryRecord}, byId[key]? = some record -> record.id.text = key

namespace MemoryRecords

def empty : MemoryRecords where
  byId := ∅
  named := by
    intro key record hget
    rw [ExtTreeMap.getElem?_empty] at hget
    cases hget

def find (records : MemoryRecords) (id : OpaqueId) : Option MemoryRecord :=
  records.byId[id.text]?

@[simp] theorem find_empty (id : OpaqueId) : empty.find id = none :=
  ExtTreeMap.getElem?_empty

variable {id : OpaqueId} {record : MemoryRecord} {records : MemoryRecords}

theorem id_of_find (h : records.find id = some record) : record.id = id :=
  OpaqueId.text_injective (records.named h)

/-- The set with the record under its identity, in place of the one that was there. -/
def put (records : MemoryRecords) (record : MemoryRecord) : MemoryRecords where
  byId := records.byId.insert record.id.text record
  named := by
    intro key other hget
    rcases Decidable.em (record.id.text = key) with heq | hne
    · rw [heq, ExtTreeMap.getElem?_insert_self] at hget
      rw [← Option.some.inj hget]
      exact heq
    · rw [OrderedMap.getElem?_insert_of_ne hne] at hget
      exact records.named hget

theorem find_put_self (records : MemoryRecords) (record : MemoryRecord) :
    (records.put record).find record.id = some record := by
  simp [put, find]

theorem find_put_of_ne (records : MemoryRecords) (hne : record.id ≠ id) :
    (records.put record).find id = records.find id :=
  OrderedMap.getElem?_insert_of_ne fun htext => hne (OpaqueId.text_injective htext)

/-- Putting a record back as it was changes nothing. -/
theorem put_of_find (h : records.find id = some record) : records.put record = records := by
  have hid := id_of_find h
  have hmap : records.byId.insert record.id.text record = records.byId := by
    apply ExtTreeMap.ext_getElem?
    intro key
    rcases Decidable.em (record.id.text = key) with rfl | hne
    · rw [ExtTreeMap.getElem?_insert_self, hid]
      exact h.symm
    · exact OrderedMap.getElem?_insert_of_ne hne
  cases records
  simp only [put, MemoryRecords.mk.injEq]
  exact hmap

def Supersedes (records : MemoryRecords) (successor predecessor : OpaqueId) : Prop :=
  exists record, records.find successor = some record ∧ record.supersedes = some predecessor

theorem supersedes_iff {predecessor : OpaqueId} (h : records.find id = some record) :
    records.Supersedes id predecessor <-> record.supersedes = some predecessor := by
  unfold Supersedes
  simp only [h, Option.some.injEq, exists_eq_left']

theorem supersedes_congr {other : MemoryRecords} {predecessor : OpaqueId}
    (h : records.find id = other.find id) :
    records.Supersedes id predecessor <-> other.Supersedes id predecessor := by
  unfold Supersedes
  rw [h]

end MemoryRecords

/-!
## Sequences of calls
-/

structure SupersedeCall where
  predecessor : OpaqueId
  successor : OpaqueId
  reason : SupersessionReason
deriving DecidableEq

/-- The records, and the supersessions that were recorded on the way to them. -/
structure MemoryLedger where
  records : MemoryRecords
  recorded : List MemoryRecordSuperseded

namespace MemoryLedger

/-- Records of which no call has been made yet. -/
def start (records : MemoryRecords) : MemoryLedger :=
  { records := records
    recorded := [] }

def call (ledger : MemoryLedger) (request : SupersedeCall) : Option MemoryLedger := do
  let predecessor <- ledger.records.find request.predecessor
  let successor <- ledger.records.find request.successor
  match supersede request.reason { predecessor := predecessor, successor := successor } with
  | .ok _ left =>
      some
        { records := (ledger.records.put left.predecessor).put left.successor
          recorded := ledger.recorded ++ [recordMemoryRecordSuperseded left request.reason] }
  | .error _ left =>
      some
        { ledger with
          records := (ledger.records.put left.predecessor).put left.successor }

/-- The ledger after a call that succeeds on `pair`. -/
def superseded (ledger : MemoryLedger) (pair : SupersessionPair) (reason : SupersessionReason) :
    MemoryLedger :=
  { records :=
      (ledger.records.put (pair.superseded reason).predecessor).put
        (pair.superseded reason).successor
    recorded := ledger.recorded ++ [recordMemoryRecordSuperseded (pair.superseded reason) reason] }

structure Names (ledger : MemoryLedger) (request : SupersedeCall) (pair : SupersessionPair) :
    Prop where
  predecessor : ledger.records.find request.predecessor = some pair.predecessor
  successor : ledger.records.find request.successor = some pair.successor

/-- A call finds its two records, and either is refused and changes nothing or is accepted. -/
theorem call_cases {ledger next : MemoryLedger} {request : SupersedeCall}
    (h : ledger.call request = some next) :
    exists pair, ledger.Names request pair ∧
      (¬ pair.Free ∧ next = ledger ∨
        pair.Free ∧ next = ledger.superseded pair request.reason) := by
  unfold call at h
  rcases Option.bind_eq_some_iff.mp h with ⟨predecessor, hpredecessor, h⟩
  rcases Option.bind_eq_some_iff.mp h with ⟨successor, hsuccessor, h⟩
  refine ⟨⟨predecessor, successor⟩, ⟨hpredecessor, hsuccessor⟩, ?_⟩
  rcases Classical.em (SupersessionPair.Free ⟨predecessor, successor⟩) with hfree | hfree
  · rw [supersede_of_free hfree] at h
    exact Or.inr ⟨hfree, (Option.some.inj h).symm⟩
  · rw [supersede_of_not_free hfree] at h
    have hback := Option.some.inj h
    simp only [MemoryRecords.put_of_find hpredecessor, MemoryRecords.put_of_find hsuccessor]
      at hback
    exact Or.inl ⟨hfree, hback.symm⟩

/-!
## What an accepted call makes of the set
-/

section Accepted

variable {ledger : MemoryLedger} {request : SupersedeCall} {pair : SupersessionPair}

theorem Names.find_predecessor (hnames : ledger.Names request pair) :
    ledger.records.find pair.predecessor.id = some pair.predecessor := by
  rw [MemoryRecords.id_of_find hnames.predecessor]
  exact hnames.predecessor

theorem Names.find_successor (hnames : ledger.Names request pair) :
    ledger.records.find pair.successor.id = some pair.successor := by
  rw [MemoryRecords.id_of_find hnames.successor]
  exact hnames.successor

variable {reason : SupersessionReason}

theorem find_successor :
    (ledger.superseded pair reason).records.find pair.successor.id =
      some (pair.superseded reason).successor :=
  MemoryRecords.find_put_self _ _

theorem find_predecessor (hne : pair.predecessor.id ≠ pair.successor.id) :
    (ledger.superseded pair reason).records.find pair.predecessor.id =
      some (pair.superseded reason).predecessor := by
  have hother : (pair.superseded reason).successor.id ≠ pair.predecessor.id := hne.symm
  unfold superseded
  rw [MemoryRecords.find_put_of_ne _ hother]
  exact MemoryRecords.find_put_self _ _

theorem find_other {id : OpaqueId} (hpredecessor : pair.predecessor.id ≠ id)
    (hsuccessor : pair.successor.id ≠ id) :
    (ledger.superseded pair reason).records.find id = ledger.records.find id := by
  have hfirst : (pair.superseded reason).predecessor.id ≠ id := hpredecessor
  have hlast : (pair.superseded reason).successor.id ≠ id := hsuccessor
  unfold superseded
  rw [MemoryRecords.find_put_of_ne _ hlast, MemoryRecords.find_put_of_ne _ hfirst]

theorem supersedes_superseded (hnames : ledger.Names request pair) (hfree : pair.Free) :
    (ledger.superseded pair reason).records.Supersedes =
      Extended ledger.records.Supersedes pair.successor.id pair.predecessor.id := by
  funext a b
  apply propext
  rcases Decidable.em (pair.successor.id = a) with rfl | hsuccessor
  · have hnone : ¬ ledger.records.Supersedes pair.successor.id b := by
      rw [MemoryRecords.supersedes_iff hnames.find_successor, hfree.right]
      exact Option.some_ne_none b ∘ Eq.symm
    rw [MemoryRecords.supersedes_iff find_successor]
    constructor
    · intro hlink
      exact Or.inr ⟨rfl, (Option.some.inj hlink).symm⟩
    · rintro (hold | ⟨_, rfl⟩)
      · exact absurd hold hnone
      · rfl
  · have hold : Extended ledger.records.Supersedes pair.successor.id pair.predecessor.id a b <->
        ledger.records.Supersedes a b :=
      or_iff_left fun hpair => hsuccessor hpair.left.symm
    rw [hold]
    rcases Decidable.em (pair.predecessor.id = a) with rfl | hpredecessor
    · rw [MemoryRecords.supersedes_iff (find_predecessor hfree.left),
        MemoryRecords.supersedes_iff hnames.find_predecessor]
      exact Iff.rfl
    · exact MemoryRecords.supersedes_congr (find_other hpredecessor hsuccessor)

end Accepted

end MemoryLedger
end GraphHelm
