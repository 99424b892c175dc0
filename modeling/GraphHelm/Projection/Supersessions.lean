import GraphHelm.Projection.History

/-!
# Folding supersessions

A supersession changes two entries of the projection's memory records and reads
nothing else.  Folding a history of supersessions is a run of that one change.
-/

namespace GraphHelm

open Std

abbrev MemoryRecordMap := ExtTreeMap String MemoryRecordProjection

namespace MemoryRecordMap

def get (folded : MemoryRecordMap) (id : OpaqueId) : MemoryRecordProjection :=
  folded[id.text]?.getD MemoryRecordProjection.default

/-- The keys a supersession would add. -/
def newKeys (folded : MemoryRecordMap) (payload : MemoryRecordSuperseded) : Nat :=
  (!folded.contains payload.predecessorId.text).toNat +
    (!folded.contains payload.successorId.text).toNat

def update (folded : MemoryRecordMap) (id : OpaqueId)
    (f : MemoryRecordProjection -> MemoryRecordProjection) : MemoryRecordMap :=
  folded.insert id.text (f (folded.get id))

/-- What a supersession makes of the records, as long as there is room for its keys. -/
def supersede (folded : MemoryRecordMap) (payload : MemoryRecordSuperseded) :
    Option MemoryRecordMap :=
  if folded.size + folded.newKeys payload <= maxProjectionNodes then
    some
      ((folded.update payload.predecessorId fun record =>
          { record with semantic := some payload.predecessorNewSemanticState }).update
        payload.successorId fun record =>
          { record with supersedes := some payload.predecessorId })
  else
    none

/-!
## One update
-/

theorem get_update_self (folded : MemoryRecordMap) (id : OpaqueId)
    (f : MemoryRecordProjection -> MemoryRecordProjection) :
    (folded.update id f).get id = f (folded.get id) := by
  simp [update, get]

theorem get_update_of_ne (folded : MemoryRecordMap) {id other : OpaqueId}
    (f : MemoryRecordProjection -> MemoryRecordProjection) (hne : id ≠ other) :
    (folded.update id f).get other = folded.get other := by
  have htext : id.text ≠ other.text := fun h => hne (OpaqueId.text_injective h)
  simp only [update, get, OrderedMap.getElem?_insert_of_ne htext]

theorem contains_update (folded : MemoryRecordMap) (id other : OpaqueId)
    (f : MemoryRecordProjection -> MemoryRecordProjection) :
    (folded.update id f).contains other.text = true <->
      id = other ∨ folded.contains other.text = true := by
  unfold update
  rw [ExtTreeMap.contains_insert, Bool.or_eq_true, beq_iff_eq]
  constructor
  · rintro (heq | hold)
    · exact Or.inl (OpaqueId.text_injective (LawfulEqOrd.eq_of_compare heq))
    · exact Or.inr hold
  · rintro (rfl | hold)
    · exact Or.inl ReflCmp.compare_self
    · exact Or.inr hold

theorem size_update (folded : MemoryRecordMap) (id : OpaqueId)
    (f : MemoryRecordProjection -> MemoryRecordProjection) :
    (folded.update id f).size = folded.size + (!folded.contains id.text).toNat := by
  unfold update
  rw [ExtTreeMap.size_insert]
  cases folded.contains id.text with
  | true =>
      rfl
  | false =>
      rfl

/-!
## A supersession
-/

section Supersede

variable {folded after : MemoryRecordMap} {payload : MemoryRecordSuperseded}

theorem supersede_eq_some :
    folded.supersede payload = some after <->
      folded.size + folded.newKeys payload <= maxProjectionNodes ∧
        ((folded.update payload.predecessorId fun record =>
            { record with semantic := some payload.predecessorNewSemanticState }).update
          payload.successorId fun record =>
            { record with supersedes := some payload.predecessorId }) = after := by
  unfold supersede
  rw [Option.ite_none_right_eq_some, Option.some.injEq]

variable (hne : payload.predecessorId ≠ payload.successorId)
  (hafter : folded.supersede payload = some after)

include hne hafter

theorem get_predecessor :
    after.get payload.predecessorId =
      { folded.get payload.predecessorId with
        semantic := some payload.predecessorNewSemanticState } := by
  rw [← (supersede_eq_some.mp hafter).right, get_update_of_ne _ _ hne.symm, get_update_self]

theorem get_successor :
    after.get payload.successorId =
      { folded.get payload.successorId with supersedes := some payload.predecessorId } := by
  rw [← (supersede_eq_some.mp hafter).right, get_update_self, get_update_of_ne _ _ hne]

theorem size_supersede : after.size = folded.size + folded.newKeys payload := by
  have hsuccessor : (folded.update payload.predecessorId fun record =>
      { record with semantic := some payload.predecessorNewSemanticState }).contains
        payload.successorId.text = folded.contains payload.successorId.text := by
    rw [Bool.eq_iff_iff, contains_update]
    exact or_iff_right hne
  rw [← (supersede_eq_some.mp hafter).right, size_update, size_update, hsuccessor, newKeys,
    Nat.add_assoc]

omit hne

theorem get_other {id : OpaqueId} (hpredecessor : payload.predecessorId ≠ id)
    (hsuccessor : payload.successorId ≠ id) : after.get id = folded.get id := by
  rw [← (supersede_eq_some.mp hafter).right, get_update_of_ne _ _ hsuccessor,
    get_update_of_ne _ _ hpredecessor]

theorem contains_supersede (id : OpaqueId) :
    after.contains id.text = true <->
      payload.successorId = id ∨ payload.predecessorId = id ∨
        folded.contains id.text = true := by
  rw [← (supersede_eq_some.mp hafter).right, contains_update, contains_update]

end Supersede

/-!
## The fold
-/

theorem accept_superseded_iff (env : Environment) {event : EventEnvelope}
    {payload : MemoryRecordSuperseded} (hkind : event.kind = .memoryRecordSuperseded payload)
    {st : FoldState} {after : MemoryRecordMap} :
    (exists st', accept env st event = some st' ∧ st'.projection.memoryRecords = after) <->
      supersede st.projection.memoryRecords payload = some after := by
  simp only [accept_eq_some, applyProjectionEvent, nameStream, foldKind, hkind,
    modifyProjection_bind, foldMemoryRecordSuperseded, getProjection_bind, require_bind_eq_ok,
    updateMemoryRecord, modifyProjection_eq_ok, decide_eq_true_eq]
  rw [supersede_eq_some]
  constructor
  · rintro ⟨st', ⟨hroom, rfl⟩, rfl⟩
    exact ⟨hroom, rfl⟩
  · rintro ⟨hroom, hafter⟩
    exact ⟨_, ⟨hroom, rfl⟩, hafter⟩

theorem run_accept_superseded_iff (env : Environment) {events : List EventEnvelope}
    {payloads : List MemoryRecordSuperseded}
    (hkinds : events.map EventEnvelope.kind = payloads.map EventKind.memoryRecordSuperseded)
    {st : FoldState} {after : MemoryRecordMap} :
    (exists st', run (accept env) st events = some st' ∧ st'.projection.memoryRecords = after) <->
      run supersede st.projection.memoryRecords payloads = some after := by
  induction payloads generalizing events st with
  | nil =>
      cases List.map_eq_nil_iff.mp hkinds
      simp [run]
  | cons payload rest ih =>
      rcases List.map_eq_cons_iff.mp hkinds with ⟨event, later, rfl, hkind, hlater⟩
      simp only [run_cons_eq_some]
      constructor
      · rintro ⟨st', ⟨middle, hfirst, hrest⟩, hafter⟩
        have hstep := (accept_superseded_iff env hkind).mp ⟨middle, hfirst, rfl⟩
        exact ⟨_, hstep, (ih hlater).mp ⟨st', hrest, hafter⟩⟩
      · rintro ⟨_, hstep, hrest⟩
        rcases (accept_superseded_iff env hkind).mpr hstep with ⟨middle, hfirst, rfl⟩
        rcases (ih hlater).mpr hrest with ⟨st', hrun, hafter⟩
        exact ⟨st', ⟨middle, hfirst, hrun⟩, hafter⟩

end MemoryRecordMap
end GraphHelm
