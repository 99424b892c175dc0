import GraphHelm.Library.Runs
import GraphHelm.Tasks.Turns

/-!
# Folds of a log

What holds of the fold after every record of a log, and how the result of the fold is
read off its slices.
-/

namespace GraphHelm
namespace Tasks

open Std

/-!
## Reached folds
-/

def foldStep (fold : Fold) (event : TaskEventRecord) : Option Fold :=
  some (fold.record event)

theorem state_prepare {event : TaskEventRecord} {slice : Slice} {joined : Bool} : (slice.prepare event joined).state =
    if joined then (slice.joinPr event).state else slice.state := by
  have hopened : forall opened : Slice, opened.openBlockers.state = opened.state := by
    intro opened
    unfold Slice.openBlockers
    split
    · rfl
    · rfl
  have hmarked : forall marked : Slice,
      ((marked.markOpening event).revive event).state = marked.state := by
    intro marked
    unfold Slice.revive Slice.markOpening
    split
    · split
      · rfl
      · rfl
    · split
      · rfl
      · rfl
  unfold Slice.prepare
  rw [hmarked, hopened]
  cases joined with
  | true => rfl
  | false => rfl

theorem Turn.id_eq {fold : Fold} {event : TaskEventRecord} {before after : Slice}
    (h : Turn fold event before after) : after.id = before.id := by
  cases h with
  | same => rfl
  | stopped joined _ => exact Slice.prepare_id
  | applied joined _ _ => exact Slice.prepare_id
  | endedWith planMissing _ _ _ => rfl
  | closedIssue planMissing _ _ _ => rfl
  | orphaned => rfl
  | reset => rfl
  | orphanedReset => rfl
  | releasedTo => rfl
  | released => rfl
  | beaten => rfl
  | acted binding activity _ _ _ _ => rfl

/-- What holds of every fold that a log reaches. -/
structure Regular (fold : Fold) : Prop where
  numbered : Numbered fold
  indexed : Indexed fold
  routes : forall route, route ∈ fold.routes -> route.slice < fold.nextId

theorem bySequence_append {records later : List TaskEventRecord}
    (h : forall record, record ∈ records -> forall next, next ∈ later ->
      record.sequence <= next.sequence) :
    bySequence (records ++ later) = bySequence records ++ bySequence later := by
  have hinsert : forall (record : TaskEventRecord) (sorted : List TaskEventRecord),
      (forall next, next ∈ later -> record.sequence <= next.sequence) ->
        (sorted ++ bySequence later).orderedInsert
            (fun first second => first.sequence <= second.sequence) record =
          sorted.orderedInsert (fun first second => first.sequence <= second.sequence) record ++
            bySequence later := by
    intro record sorted hle
    induction sorted with
    | nil =>
        cases hlater : bySequence later with
        | nil =>
            rfl
        | cons next rest =>
            have hmem : next ∈ later := by
              rw [← mem_bySequence, hlater]
              exact List.mem_cons_self
            exact List.orderedInsert_cons_of_le _ rest (hle next hmem)
    | cons first rest ih =>
        rw [List.cons_append, List.orderedInsert_cons, List.orderedInsert_cons]
        split
        · rfl
        · rw [ih, List.cons_append]
  induction records with
  | nil =>
      rfl
  | cons record rest ih =>
      have hrest := ih fun earlier hmem => h earlier (List.mem_cons_of_mem _ hmem)
      show (bySequence (rest ++ later)).orderedInsert _ record = _
      rw [hrest]
      exact hinsert record (bySequence rest) (h record List.mem_cons_self)

section Regular

variable {fold : Fold} {event : TaskEventRecord} {events : List TaskEventRecord}
  {records : List TaskEventRecord}

theorem regular_empty : Regular {} where
  numbered := List.Perm.refl []
  indexed := fun hclean => nomatch hclean
  routes := fun route hmem => absurd hmem List.not_mem_nil

theorem Regular.steps (h : Regular fold) : Steps fold event (fold.record event) :=
  steps_record h.numbered h.indexed

theorem Steps.nextId_le {fold' : Fold} (h : Steps fold event fold') :
    fold.nextId <= fold'.nextId := by
  rcases h.ids with ⟨hnext, _⟩ | ⟨hnext, _⟩
  · exact Nat.le_of_eq hnext.symm
  · rw [hnext]
    exact Nat.le_succ _

theorem Regular.record (h : Regular fold) : Regular (fold.record event) := by
  have hsteps : Steps fold event (fold.record event) := h.steps
  refine
    { numbered := hsteps.numbered h.numbered
      indexed := indexed_record h.indexed
      routes := ?_ }
  intro route hmem
  rcases hsteps.routes route hmem with hbefore | hid
  · exact Nat.lt_of_lt_of_le (h.routes route hbefore) hsteps.nextId_le
  · exact List.mem_range.mp ((hsteps.numbered h.numbered).mem_iff.mp hid)

theorem Regular.foldl (h : Regular fold) : Regular (events.foldl Fold.record fold) := by
  induction events generalizing fold with
  | nil =>
      exact h
  | cons event rest ih =>
      exact ih h.record

theorem regular_foldRecords : Regular (foldRecords records) :=
  regular_empty.foldl

theorem Regular.turned {slice : Slice} (h : Regular fold) (hmem : slice ∈ fold.all) :
    exists after, after ∈ (fold.record event).all ∧ Turn fold event slice after := by
  have hsteps : Steps fold event (fold.record event) := h.steps
  have hid : slice.id ∈ (fold.record event).all.map Slice.id := by
    have hbefore : slice.id ∈ fold.all.map Slice.id := List.mem_map_of_mem hmem
    rcases hsteps.ids with ⟨_, hids⟩ | ⟨_, hids⟩
    · exact hids.mem_iff.mpr hbefore
    · exact hids.mem_iff.mpr (List.mem_append_left _ hbefore)
  rcases List.mem_map.mp hid with ⟨after, hafter, heq⟩
  rcases hsteps.turns after hafter with ⟨before, hbefore, hturn⟩ | ⟨_, hturn⟩
  · have hsame : before = slice :=
      List.inj_on_of_nodup_map h.numbered.nodup hbefore hmem (hturn.id_eq.symm.trans heq)
    exact ⟨after, hafter, hsame ▸ hturn⟩
  · -- an id that was given is not given again
    have hlt := h.numbered.lt hmem
    have hnew : after.id = fold.nextId := hturn.id_eq
    omega

theorem Regular.kept {keeps : Slice -> Prop} {slice : Slice} (h : Regular fold)
    (hmem : slice ∈ fold.all) (hkeeps : keeps slice)
    (hturn : forall fold event before after, event ∈ events -> Turn fold event before after ->
      keeps before -> keeps after) :
    exists after, after ∈ (events.foldl Fold.record fold).all ∧ after.id = slice.id ∧
      keeps after := by
  induction events generalizing fold slice with
  | nil =>
      exact ⟨slice, hmem, rfl, hkeeps⟩
  | cons event rest ih =>
      rcases @Regular.turned fold event slice h hmem with ⟨after, hafter, hturned⟩
      rcases ih h.record hafter (hturn fold event slice after List.mem_cons_self hturned hkeeps)
        (fun fold event before after hlater => hturn fold event before after
          (List.mem_cons_of_mem _ hlater)) with ⟨final, hfinal, hid, hfinalKeeps⟩
      exact ⟨final, hfinal, hid.trans hturned.id_eq, hfinalKeeps⟩

end Regular

/-!
## The result of a fold
-/

section Result

variable {fold : Fold} {slices : List Slice} {slice : Slice}

def Settles (before after : Slice) : Prop :=
  exists issue key, after =
    { before with state := { before.state with issue := issue, key := key } }

theorem Settles.refl : Settles slice slice :=
  ⟨slice.state.issue, slice.state.key, rfl⟩

theorem Settles.trans {first second third : Slice} (h : Settles first second)
    (h' : Settles second third) : Settles first third := by
  rcases h with ⟨_, _, rfl⟩
  rcases h' with ⟨issue, key, rfl⟩
  exact ⟨issue, key, rfl⟩

theorem exists_of_mem_settle {index : Nat} (h : slice ∈ settle slices index) :
    exists before, before ∈ slices ∧ Settles before slice := by
  unfold settle at h
  rcases List.mem_iff_getElem?.mp h with ⟨place, hget⟩
  rw [List.getElem?_modify] at hget
  rcases Option.map_eq_some_iff.mp hget with ⟨before, hbefore, rfl⟩
  refine ⟨before, List.mem_of_getElem? hbefore, ?_⟩
  split
  · dsimp only
    split
    · exact ⟨_, _, rfl⟩
    · exact ⟨_, _, rfl⟩
  · exact Settles.refl

theorem map_id_settle {index : Nat} : (settle slices index).map Slice.id = slices.map Slice.id := by
  unfold settle
  apply map_id_modify
  intro slice
  rfl

theorem settled_spec : (settled slices).map Slice.id = slices.map Slice.id ∧
    forall slice, slice ∈ settled slices -> exists before, before ∈ slices ∧
      Settles before slice := by
  unfold settled
  have hfold : forall (places : List Nat) (middle : List Slice),
      (middle.map Slice.id = slices.map Slice.id ∧ forall slice, slice ∈ middle ->
        exists before, before ∈ slices ∧ Settles before slice) ->
      (places.foldl settle middle).map Slice.id = slices.map Slice.id ∧
        forall slice, slice ∈ places.foldl settle middle -> exists before, before ∈ slices ∧
          Settles before slice := by
    intro places
    induction places with
    | nil =>
        exact fun middle hmiddle => hmiddle
    | cons place rest ih =>
        rintro middle ⟨hids, hmiddle⟩
        refine ih _ (And.intro (map_id_settle.trans hids) ?_)
        intro slice hmem
        rcases exists_of_mem_settle hmem with ⟨after, hafter, hsettles⟩
        rcases hmiddle after hafter with ⟨before, hbefore, hearlier⟩
        exact ⟨before, hbefore, hearlier.trans hsettles⟩
  exact hfold _ slices (And.intro rfl fun slice hmem => ⟨slice, hmem, Settles.refl⟩)

theorem exists_of_mem_finish {result : FoldSlice} (h : result ∈ fold.finish.slices) :
    exists before issue key, before ∈ fold.all ∧ result.id = before.id ∧
      result.ended = before.ended ∧
        result.state = { before.state with issue := issue, key := key } := by
  unfold Fold.finish at h
  dsimp only at h
  rw [List.mem_insertionSort] at h
  rcases List.mem_append.mp h with hlive | habsorbed
  · rcases List.mem_map.mp hlive with ⟨after, hafter, rfl⟩
    rcases settled_spec.right after hafter with ⟨before, hbefore, issue, key, rfl⟩
    exact ⟨before, issue, key, List.mem_append_left _ hbefore, rfl, rfl, rfl⟩
  · rcases List.mem_map.mp habsorbed with ⟨before, hbefore, rfl⟩
    exact ⟨before, before.state.issue, before.state.key, List.mem_append_right _ hbefore, rfl,
      rfl, rfl⟩

/-- The ids of the result are those the fold has given, in order. -/
theorem map_id_finish (h : Numbered fold) :
    fold.finish.slices.map FoldSlice.id = List.range fold.nextId := by
  have hperm : (fold.finish.slices.map FoldSlice.id).Perm (List.range fold.nextId) := by
    refine ((List.perm_insertionSort _ _).map FoldSlice.id).trans ?_
    rw [List.map_append, List.map_map, List.map_map]
    have hlive : (settled fold.slices).map (FoldSlice.id ∘ Slice.fold false) =
        fold.slices.map Slice.id :=
      settled_spec.left
    rw [hlive]
    refine List.Perm.trans ?_ h
    unfold Fold.all
    rw [List.map_append]
    exact List.Perm.refl _
  refine List.Perm.eq_of_pairwise (fun first second _ _ hle hge => Nat.le_antisymm hle hge) ?_
    List.pairwise_le_range hperm
  exact List.pairwise_map.mpr (List.pairwise_insertionSort _ _)

theorem exists_finish_of_mem (h : Numbered fold) (hmem : slice ∈ fold.all) :
    exists result issue key, result ∈ fold.finish.slices ∧ result.id = slice.id ∧
      result.state = { slice.state with issue := issue, key := key } := by
  have hid : slice.id ∈ fold.finish.slices.map FoldSlice.id := by
    rw [map_id_finish h]
    exact List.mem_range.mpr (h.lt hmem)
  rcases List.mem_map.mp hid with ⟨result, hresult, heq⟩
  rcases exists_of_mem_finish hresult with ⟨before, issue, key, hbefore, hsame, _, hstate⟩
  have hslice : before = slice :=
    List.inj_on_of_nodup_map h.nodup hbefore hmem (hsame.symm.trans heq)
  rw [hslice] at hstate
  exact ⟨result, issue, key, hresult, heq, hstate⟩

end Result

end Tasks
end GraphHelm
