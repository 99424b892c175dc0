import GraphHelm.Governor.Supersession
import Mathlib.Data.Finset.Card

/-!
# Sequences of supersessions

What a sequence of calls leaves behind: when the records it links stay free of
loops, and what the fold of the supersessions it recorded says about them.
-/

namespace GraphHelm
namespace MemoryLedger

open Std Relation

/-!
## The records and the fold
-/

/--
An entry of the fold has a record's semantic state and link, where the record before
the first supersession stands for what no event names.
-/
structure EntryAgrees (earlier record : MemoryRecord) (entry : MemoryRecordProjection) : Prop where
  semantic : persistedSemanticState record.semantic =
    entry.semantic.getD (persistedSemanticState earlier.semantic)
  supersedes : record.supersedes = entry.supersedes.or earlier.supersedes

structure FoldAgrees (before after : MemoryRecords) (folded : MemoryRecordMap) : Prop where
  entries : forall {id : OpaqueId} {record : MemoryRecord}, after.find id = some record ->
    exists earlier, before.find id = some earlier ∧ EntryAgrees earlier record (folded.get id)
  kept : forall {id : OpaqueId}, (after.find id).isSome = (before.find id).isSome
  inside : forall {id : OpaqueId}, folded.contains id.text = true ->
    (after.find id).isSome = true

def named (recorded : List MemoryRecordSuperseded) : List OpaqueId :=
  recorded.flatMap fun payload => [payload.predecessorId, payload.successorId]

structure Mirrors (before : MemoryRecords) (ledger : MemoryLedger) (folded : MemoryRecordMap) :
    Prop where
  agrees : FoldAgrees before ledger.records folded
  keys : forall {id : OpaqueId}, folded.contains id.text = true <-> id ∈ named ledger.recorded
  size : folded.size = (named ledger.recorded).toFinset.card

theorem mirrors_start (records : MemoryRecords) : Mirrors records (start records) ∅ where
  agrees :=
    { entries := fun {id record} h => by
        have hget : MemoryRecordMap.get ∅ id = MemoryRecordProjection.default := by
          simp [MemoryRecordMap.get]
        rw [hget]
        exact ⟨record, h, ⟨rfl, rfl⟩⟩
      kept := rfl
      inside := by simp }
  keys := by simp [start, named]
  size := by simp [start, named]

/-- Whether there is room for the two keys of one more supersession. -/
def HasRoom (ledger : MemoryLedger) (request : SupersedeCall) : Prop :=
  (request.successor :: request.predecessor :: named ledger.recorded).toFinset.card <=
    maxProjectionNodes

def payload (pair : SupersessionPair) (reason : SupersessionReason) : MemoryRecordSuperseded :=
  recordMemoryRecordSuperseded (pair.superseded reason) reason

section Accepted

variable {before : MemoryRecords} {ledger : MemoryLedger} {folded after : MemoryRecordMap}
  {request : SupersedeCall} {pair : SupersessionPair} {reason : SupersessionReason}

theorem named_superseded :
    named (ledger.superseded pair reason).recorded =
      named ledger.recorded ++ [pair.predecessor.id, pair.successor.id] := by
  unfold named superseded
  rw [List.flatMap_append]
  rfl

/-- The keys there would be after one more supersession. -/
theorem size_add_newKeys (hmirrors : Mirrors before ledger folded)
    (hne : pair.predecessor.id ≠ pair.successor.id) :
    folded.size + folded.newKeys (payload pair reason) =
      (pair.successor.id :: pair.predecessor.id :: named ledger.recorded).toFinset.card := by
  have hpresent : forall id : OpaqueId,
      folded.contains id.text = decide (id ∈ named ledger.recorded) := by
    intro id
    rw [Bool.eq_iff_iff, hmirrors.keys, decide_eq_true_iff]
  have hnew : folded.newKeys (payload pair reason) =
      (!decide (pair.predecessor.id ∈ named ledger.recorded)).toNat +
        (!decide (pair.successor.id ∈ named ledger.recorded)).toNat := by
    rw [← hpresent, ← hpresent]
    rfl
  rw [hnew, hmirrors.size, List.toFinset_cons, List.toFinset_cons, Finset.card_insert_eq_ite,
    Finset.card_insert_eq_ite]
  simp only [Finset.mem_insert, List.mem_toFinset, hne.symm, false_or]
  rcases Decidable.em (pair.predecessor.id ∈ named ledger.recorded) with hpredecessor | hpredecessor
    <;> rcases Decidable.em (pair.successor.id ∈ named ledger.recorded) with hsuccessor | hsuccessor
    <;> simp [hpredecessor, hsuccessor]

theorem isSome_find_superseded (hnames : ledger.Names request pair)
    (hne : pair.predecessor.id ≠ pair.successor.id) (id : OpaqueId) :
    ((ledger.superseded pair reason).records.find id).isSome = (ledger.records.find id).isSome := by
  rcases Decidable.em (pair.successor.id = id) with rfl | hsuccessor
  · rw [find_successor, hnames.find_successor]
    rfl
  · rcases Decidable.em (pair.predecessor.id = id) with rfl | hpredecessor
    · rw [find_predecessor hne, hnames.find_predecessor]
      rfl
    · rw [find_other hpredecessor hsuccessor]

theorem foldAgrees_superseded (hnames : ledger.Names request pair) (hfree : pair.Free)
    (hagrees : FoldAgrees before ledger.records folded)
    (hafter : folded.supersede (payload pair reason) = some after) :
    FoldAgrees before (ledger.superseded pair reason).records after where
  entries := by
    intro id record hrecord
    rcases Decidable.em (pair.successor.id = id) with rfl | hsuccessor
    · -- The successor takes the link and keeps its semantic state.
      rcases hagrees.entries hnames.find_successor with ⟨earlier, hearlier, hentry⟩
      rw [find_successor] at hrecord
      cases hrecord
      have hget : after.get pair.successor.id =
          { folded.get pair.successor.id with supersedes := some pair.predecessor.id } :=
        MemoryRecordMap.get_successor hfree.left hafter
      rw [hget]
      exact ⟨earlier, hearlier, ⟨hentry.semantic, rfl⟩⟩
    · rcases Decidable.em (pair.predecessor.id = id) with rfl | hpredecessor
      · -- The predecessor takes the reason's semantic state and keeps its link.
        rcases hagrees.entries hnames.find_predecessor with ⟨earlier, hearlier, hentry⟩
        rw [find_predecessor hfree.left] at hrecord
        cases hrecord
        have hget : after.get pair.predecessor.id =
            { folded.get pair.predecessor.id with
              semantic := some (persistedSemanticState reason.target) } :=
          MemoryRecordMap.get_predecessor hfree.left hafter
        rw [hget]
        exact ⟨earlier, hearlier, ⟨rfl, hentry.supersedes⟩⟩
      · rw [find_other hpredecessor hsuccessor] at hrecord
        rw [MemoryRecordMap.get_other hafter hpredecessor hsuccessor]
        exact hagrees.entries hrecord
  kept := by
    intro id
    rw [isSome_find_superseded hnames hfree.left]
    exact hagrees.kept
  inside := by
    intro id hcontains
    rw [isSome_find_superseded hnames hfree.left]
    rcases (MemoryRecordMap.contains_supersede hafter id).mp hcontains with heq | heq | hold
    · rw [← heq]
      exact Option.isSome_iff_exists.mpr ⟨_, hnames.find_successor⟩
    · rw [← heq]
      exact Option.isSome_iff_exists.mpr ⟨_, hnames.find_predecessor⟩
    · exact hagrees.inside hold

theorem mirrors_superseded (hnames : ledger.Names request pair) (hfree : pair.Free)
    (hmirrors : Mirrors before ledger folded)
    (hafter : folded.supersede (payload pair reason) = some after) :
    Mirrors before (ledger.superseded pair reason) after where
  agrees := foldAgrees_superseded hnames hfree hmirrors.agrees hafter
  keys := by
    intro id
    rw [MemoryRecordMap.contains_supersede hafter, hmirrors.keys, named_superseded,
      List.mem_append]
    simp only [List.mem_cons, List.not_mem_nil, or_false]
    constructor
    · rintro (rfl | rfl | hold)
      · exact Or.inr (Or.inr rfl)
      · exact Or.inr (Or.inl rfl)
      · exact Or.inl hold
    · rintro (hold | rfl | rfl)
      · exact Or.inr (Or.inr hold)
      · exact Or.inr (Or.inl rfl)
      · exact Or.inl rfl
  size := by
    rw [MemoryRecordMap.size_supersede hfree.left hafter, size_add_newKeys hmirrors hfree.left,
      named_superseded]
    congr 1
    ext id
    simp only [List.mem_toFinset, List.mem_cons, List.mem_append, List.not_mem_nil, or_false]
    tauto

end Accepted

/-!
## Sequences of calls
-/

def folds (ledger : MemoryLedger) : Option MemoryRecordMap :=
  run MemoryRecordMap.supersede ∅ ledger.recorded

/--
A call that would be accepted names a predecessor that no chain of links leads
from to the successor, and two keys the fold has room for.
-/
def Admits (ledger : MemoryLedger) (request : SupersedeCall) : Prop :=
  forall pair, ledger.Names request pair -> pair.Free ->
    ¬ ReflTransGen ledger.records.Supersedes request.predecessor request.successor ∧
      ledger.HasRoom request

def Good (ledger : MemoryLedger) : Prop :=
  Acyclic ledger.records.Supersedes ∧ ledger.folds.isSome = true

def Sound (before : MemoryRecords) (ledger : MemoryLedger) : Prop :=
  forall folded, ledger.folds = some folded -> Mirrors before ledger folded

section Steps

variable {before : MemoryRecords} {ledger next : MemoryLedger} {request : SupersedeCall}
  {pair : SupersessionPair} {reason : SupersessionReason}

theorem folds_superseded :
    (ledger.superseded pair reason).folds =
      ledger.folds.bind fun folded => folded.supersede (payload pair reason) := by
  unfold folds superseded
  rw [run_append]
  simp only [run_singleton]
  rfl

theorem sound_start : Sound before (start before) := by
  intro _ h
  cases h
  exact mirrors_start before

theorem sound_call (hsound : Sound before ledger) (h : ledger.call request = some next) :
    Sound before next := by
  rcases call_cases h with ⟨pair, hnames, ⟨_, rfl⟩ | ⟨hfree, rfl⟩⟩
  · exact hsound
  · intro after hfolds
    rw [folds_superseded] at hfolds
    rcases Option.bind_eq_some_iff.mp hfolds with ⟨folded, hfolded, hafter⟩
    exact mirrors_superseded hnames hfree (hsound folded hfolded) hafter

theorem acyclic_superseded (hnames : ledger.Names request pair) (hfree : pair.Free) :
    Acyclic (ledger.superseded pair reason).records.Supersedes <->
      Acyclic ledger.records.Supersedes ∧
        ¬ ReflTransGen ledger.records.Supersedes request.predecessor request.successor := by
  rw [supersedes_superseded hnames hfree, Extended.acyclic_iff,
    MemoryRecords.id_of_find hnames.predecessor, MemoryRecords.id_of_find hnames.successor]

theorem folds_superseded_isSome (hsound : Sound before ledger)
    (hnames : ledger.Names request pair) (hfree : pair.Free)
    (hfolds : ledger.folds.isSome = true) :
    (ledger.superseded pair reason).folds.isSome = true <-> ledger.HasRoom request := by
  rcases Option.isSome_iff_exists.mp hfolds with ⟨folded, hfolded⟩
  rw [folds_superseded, hfolded, Option.bind_some, HasRoom,
    ← MemoryRecords.id_of_find hnames.predecessor, ← MemoryRecords.id_of_find hnames.successor,
    ← @size_add_newKeys _ _ _ _ reason (hsound folded hfolded) hfree.left]
  unfold MemoryRecordMap.supersede
  simp

theorem Names.unique {other : SupersessionPair} (hother : ledger.Names request other)
    (hnames : ledger.Names request pair) : other = pair := by
  cases other
  cases pair
  have hpredecessor := hother.predecessor.symm.trans hnames.predecessor
  have hsuccessor := hother.successor.symm.trans hnames.successor
  cases hpredecessor
  cases hsuccessor
  rfl

theorem admits_iff (hnames : ledger.Names request pair) (hfree : pair.Free) :
    ledger.Admits request <->
      ¬ ReflTransGen ledger.records.Supersedes request.predecessor request.successor ∧
        ledger.HasRoom request := by
  constructor
  · intro h
    exact h pair hnames hfree
  · intro h _ _ _
    exact h

theorem good_call_iff (hsound : Sound before ledger) (hgood : ledger.Good)
    (h : ledger.call request = some next) : next.Good <-> ledger.Admits request := by
  rcases call_cases h with ⟨pair, hnames, ⟨hfree, rfl⟩ | ⟨hfree, rfl⟩⟩
  · refine iff_of_true hgood ?_
    intro other hother hfreeOther
    rw [Names.unique hother hnames] at hfreeOther
    exact absurd hfreeOther hfree
  · rw [admits_iff hnames hfree, Good, acyclic_superseded hnames hfree,
      folds_superseded_isSome hsound hnames hfree hgood.right]
    exact and_congr_left fun _ => and_iff_right hgood.left

theorem good_of_call (h : ledger.call request = some next) (hgood : next.Good) : ledger.Good := by
  rcases call_cases h with ⟨pair, hnames, ⟨hfree, rfl⟩ | ⟨hfree, rfl⟩⟩
  · exact hgood
  · constructor
    · exact ((acyclic_superseded hnames hfree).mp hgood.left).left
    · have hfolds := hgood.right
      rw [folds_superseded] at hfolds
      exact Option.isSome_of_isSome_bind hfolds

end Steps

section Calls

variable {before : MemoryRecords} {calls : List SupersedeCall} {after : MemoryLedger}

theorem sound_run (hrun : run call (start before) calls = some after) : Sound before after :=
  run_invariant (fun hsound h => sound_call hsound h) sound_start hrun

theorem good_run_iff (hrun : run call (start before) calls = some after) :
    after.Good <-> Acyclic before.Supersedes ∧ StepsMeet call Admits (start before) calls := by
  rcases Classical.em (start before).Good with hstart | hstart
  · have hmeet := run_good_iff_stepsMeet (fun ledger => Sound before ledger ∧ ledger.Good) Good
      (fun hinv => hinv.right)
      (fun hinv hadmits h =>
        ⟨sound_call hinv.left h, (good_call_iff hinv.left hinv.right h).mpr hadmits⟩)
      (fun hinv hrefused h hgood =>
        hrefused ((good_call_iff hinv.left hinv.right h).mp hgood))
      (fun hbad h hgood => hbad (good_of_call h hgood))
      ⟨sound_start, hstart⟩ hrun
    rw [hmeet]
    exact (and_iff_right hstart.left).symm
  · have hstay : forall {ledger request next}, ¬ Good ledger ->
        ledger.call request = some next -> ¬ Good next :=
      fun hbad h hgood => hbad (good_of_call h hgood)
    have hbad : ¬ after.Good := run_invariant hstay hstart hrun
    exact iff_of_false hbad fun h => hstart ⟨h.left, rfl⟩

theorem folds_iff (env : Environment) {events : List EventEnvelope}
    (hrun : run call (start before) calls = some after)
    (hkinds : events.map EventEnvelope.kind =
      after.recorded.map EventKind.memoryRecordSuperseded) :
    (exists st, foldHistory env events = some st ∧
        FoldAgrees before after.records st.projection.memoryRecords) <->
      after.folds.isSome = true := by
  have hiff : forall folded,
      (exists st, foldHistory env events = some st ∧
        st.projection.memoryRecords = folded) <-> after.folds = some folded :=
    fun _ => MemoryRecordMap.run_accept_superseded_iff env hkinds
  constructor
  · rintro ⟨st, hfold, _⟩
    exact Option.isSome_iff_exists.mpr ⟨_, (hiff _).mp ⟨st, hfold, rfl⟩⟩
  · intro h
    rcases Option.isSome_iff_exists.mp h with ⟨folded, hfolds⟩
    rcases (hiff folded).mpr hfolds with ⟨st, hfold, hrecords⟩
    refine ⟨st, hfold, ?_⟩
    rw [hrecords]
    exact (sound_run hrun folded hfolds).agrees

/--
A call that is refused changes neither of its records.  After a sequence of calls
the records supersede one another without a loop, and the fold of the recorded
supersessions has their semantic states and links, exactly when the records began
without a loop and every call was admitted.
-/
theorem supersession_holds_iff (env : Environment) {events : List EventEnvelope}
    (hrun : run call (start before) calls = some after)
    (hkinds : events.map EventEnvelope.kind =
      after.recorded.map EventKind.memoryRecordSuperseded) :
    (forall {pair left : SupersessionPair} {reason : SupersessionReason} {refusal : MemoryRefusal},
        supersede reason pair = .error refusal left -> left = pair) ∧
      ((Acyclic after.records.Supersedes ∧
          exists st, foldHistory env events = some st ∧
            FoldAgrees before after.records st.projection.memoryRecords) <->
        Acyclic before.Supersedes ∧ StepsMeet call Admits (start before) calls) := by
  constructor
  · exact supersede_refused
  · rw [folds_iff env hrun hkinds]
    exact good_run_iff hrun

end Calls

/-!
## A loop of two records
-/

namespace Sample

def first : OpaqueId := GraphHelm.Sample.id "first"

def second : OpaqueId := GraphHelm.Sample.id "second"

def two : MemoryRecords :=
  (MemoryRecords.empty.put (MemoryRecord.new first)).put (MemoryRecord.new second)

def forth : SupersedeCall :=
  { predecessor := first, successor := second, reason := .deprecated }

def back : SupersedeCall :=
  { predecessor := second, successor := first, reason := .contradicted }

theorem two_fresh {id : OpaqueId} {record : MemoryRecord} (h : two.find id = some record) :
    record.supersedes = none := by
  unfold two at h
  rcases Decidable.em ((MemoryRecord.new second).id = id) with rfl | hsecond
  · rw [MemoryRecords.find_put_self] at h
    cases h
    rfl
  · rw [MemoryRecords.find_put_of_ne _ hsecond] at h
    rcases Decidable.em ((MemoryRecord.new first).id = id) with rfl | hfirst
    · rw [MemoryRecords.find_put_self] at h
      cases h
      rfl
    · rw [MemoryRecords.find_put_of_ne _ hfirst, MemoryRecords.find_empty] at h
      cases h

theorem two_unlinked (successor predecessor : OpaqueId) :
    ¬ two.Supersedes successor predecessor := by
  rintro ⟨record, hrecord, hlink⟩
  rw [two_fresh hrecord] at hlink
  cases hlink

theorem two_acyclic : Acyclic two.Supersedes := by
  intro id hcycle
  rcases TransGen.head'_iff.mp hcycle with ⟨_, hlink, _⟩
  exact two_unlinked _ _ hlink

theorem two_admit_forth : (start two).Admits forth := by
  intro _ _ _
  constructor
  · intro hchain
    rcases hchain.cases_head with heq | ⟨_, hlink, _⟩
    · exact absurd heq (by decide)
    · exact two_unlinked _ _ hlink
  · show ([second, first].toFinset).card <= maxProjectionNodes
    decide

def links (ledger : MemoryLedger) : Option OpaqueId × Option OpaqueId :=
  ((ledger.records.find first).bind MemoryRecord.supersedes,
    (ledger.records.find second).bind MemoryRecord.supersedes)

end Sample

/-- Two fresh records may come to supersede one another. -/
theorem supersession_closes_a_loop :
    ¬ forall (before : MemoryRecords) (calls : List SupersedeCall) (after : MemoryLedger),
        (forall id record, before.find id = some record -> record.supersedes = none) ->
        run call (start before) calls = some after -> Acyclic after.records.Supersedes := by
  intro hclaim
  have hlinks : (run call (start Sample.two) [Sample.forth, Sample.back]).map Sample.links =
      some (some Sample.second, some Sample.first) := by decide +kernel
  rcases Option.map_eq_some_iff.mp hlinks with ⟨after, hrun, hafter⟩
  rcases Prod.mk.inj hafter with ⟨hfirst, hsecond⟩
  have hback : after.records.Supersedes Sample.first Sample.second :=
    Option.bind_eq_some_iff.mp hfirst
  have hforth : after.records.Supersedes Sample.second Sample.first :=
    Option.bind_eq_some_iff.mp hsecond
  exact hclaim _ _ after (fun _ _ h => Sample.two_fresh h) hrun Sample.first
    (.tail (.single hback) hforth)

/-- One supersession closes no loop, and its record and its event agree. -/
theorem supersession_holds_of_one_call :
    exists after events, run call (start Sample.two) [Sample.forth] = some after ∧
      Acyclic after.records.Supersedes ∧
      exists st, foldHistory GraphHelm.Sample.env events = some st ∧
        FoldAgrees Sample.two after.records st.projection.memoryRecords := by
  have hsome : (run call (start Sample.two) [Sample.forth]).isSome = true := by decide +kernel
  rcases Option.isSome_iff_exists.mp hsome with ⟨after, hrun⟩
  have hkinds : (GraphHelm.Sample.history (after.recorded.map fun payload =>
      GraphHelm.Sample.event "supersession" (.memoryRecordSuperseded payload))).map
        EventEnvelope.kind = after.recorded.map EventKind.memoryRecordSuperseded := by
    have hcarries := (GraphHelm.Sample.history_continuation (after.recorded.map fun payload =>
      GraphHelm.Sample.event "supersession" (.memoryRecordSuperseded payload))).carries
    have hmap := congrArg (List.map NewEvent.kind) hcarries
    rw [List.map_map, List.map_map] at hmap
    exact hmap
  have hholds := (supersession_holds_iff GraphHelm.Sample.env hrun hkinds).right.mpr
    ⟨Sample.two_acyclic, Sample.two_admit_forth, fun _ _ => trivial⟩
  exact ⟨after, _, hrun, hholds⟩

end MemoryLedger
end GraphHelm
