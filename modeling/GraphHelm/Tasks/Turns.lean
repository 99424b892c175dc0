import GraphHelm.Library.OrderedMap
import GraphHelm.Tasks.Fold
import Mathlib.Data.List.Perm.Basic

/-!
# What one record does to the slices

Every slice after a record is a slice before it, or the one the record opens, after at
most one turn; the turns are listed once, and what holds of every slice follows from
what each turn keeps.
-/

namespace GraphHelm
namespace Tasks

open Std

/-!
## Absorbing
-/

section Absorbing

variable {p : Slice -> Bool} {absorbing : Absorbing} {place : Nat}

theorem absorb_perm : ((absorb p place absorbing).slices ++ (absorb p place absorbing).absorbed).Perm
    (absorbing.slices ++ absorbing.absorbed) := by
  induction place generalizing absorbing with
  | zero =>
      exact List.Perm.refl _
  | succ place ih =>
      unfold absorb
      split
      · exact ih
      · rename_i held hheld
        split
        · refine ih.trans ?_
          rcases List.getElem?_eq_some_iff.mp hheld with ⟨hbound, hget⟩
          dsimp only
          rw [← List.append_assoc]
          refine (List.perm_append_singleton held _).trans ?_
          rw [← List.cons_append, ← hget]
          exact (List.getElem_cons_eraseIdx_perm hbound).append_right _
        · exact ih

theorem absorb_keeps :
    (absorb p place absorbing).slices[(absorb p place absorbing).index]? =
      absorbing.slices[absorbing.index]? := by
  induction place generalizing absorbing with
  | zero =>
      rfl
  | succ place ih =>
      unfold absorb
      split
      · exact ih
      · rename_i held hheld
        split
        · rename_i htaken
          rw [ih]
          have hne : place ≠ absorbing.index := by
            simp only [ne_eq, Bool.and_eq_true, decide_eq_true_eq] at htaken
            exact htaken.left
          dsimp only
          split
          · rename_i hbelow
            rw [List.getElem?_eraseIdx_of_ge (by omega)]
            congr 1
            omega
          · rw [List.getElem?_eraseIdx_of_lt (by omega)]
        · exact ih

theorem absorb_others {slice : Slice}
    (h : (exists other, other ≠ (absorb p place absorbing).index ∧
        (absorb p place absorbing).slices[other]? = some slice) ∨
      slice ∈ (absorb p place absorbing).absorbed) :
    (exists other, other ≠ absorbing.index ∧ absorbing.slices[other]? = some slice) ∨
      slice ∈ absorbing.absorbed := by
  induction place generalizing absorbing with
  | zero =>
      exact h
  | succ place ih =>
      unfold absorb at h
      split at h
      · exact ih h
      · rename_i held hheld
        split at h
        · rename_i htaken
          have hne : place ≠ absorbing.index := by
            simp only [ne_eq, Bool.and_eq_true, decide_eq_true_eq] at htaken
            exact htaken.left
          rcases ih h with ⟨other, hother, hget⟩ | hmem
          · dsimp only at hother hget
            rw [List.getElem?_eraseIdx] at hget
            split at hget
            · exact Or.inl ⟨other, by split at hother <;> omega, hget⟩
            · exact Or.inl ⟨other + 1, by split at hother <;> omega, hget⟩
          · rcases List.mem_append.mp hmem with hbefore | hnew
            · exact Or.inr hbefore
            · rw [List.mem_singleton.mp hnew]
              exact Or.inl ⟨place, hne, hheld⟩
        · exact ih h

/-- An absorption keeps the slices and the one that absorbs, and takes none from elsewhere. -/
structure Absorbs (before after : Absorbing) : Prop where
  perm : (after.slices ++ after.absorbed).Perm (before.slices ++ before.absorbed)
  here : after.slices[after.index]? = before.slices[before.index]?
  others : forall slice,
    (exists other, other ≠ after.index ∧ after.slices[other]? = some slice) ∨
        slice ∈ after.absorbed ->
      (exists other, other ≠ before.index ∧ before.slices[other]? = some slice) ∨
        slice ∈ before.absorbed

theorem absorbs_absorb : Absorbs absorbing (absorbing.absorb p) where
  perm := absorb_perm
  here := absorb_keeps
  others := fun _ => absorb_others

theorem Absorbs.refl : Absorbs absorbing absorbing where
  perm := List.Perm.refl _
  here := rfl
  others := fun _ h => h

theorem Absorbs.trans {first second third : Absorbing} (h : Absorbs first second)
    (h' : Absorbs second third) : Absorbs first third where
  perm := h'.perm.trans h.perm
  here := h'.here.trans h.here
  others := fun slice hmem => h.others slice (h'.others slice hmem)

variable {event : TaskEventRecord}

theorem absorbs_absorbEarlier :
    Absorbs absorbing (absorbEarlier absorbing event) := by
  unfold absorbEarlier
  split
  · exact Absorbs.refl
  · split
    · exact absorbs_absorb
    · exact Absorbs.refl

theorem absorbs_absorbTaken :
    Absorbs absorbing (absorbTaken absorbing event) := by
  unfold absorbTaken
  split
  · exact absorbs_absorb
  · exact Absorbs.refl

theorem perm_absorbLater {slices : List Slice} :
    ((absorbLater slices event).slices ++ (absorbLater slices event).absorbed).Perm slices := by
  unfold absorbLater
  dsimp only
  split
  · rw [List.append_nil]
  · split
    · rw [List.append_nil]
    · refine absorbs_absorb.perm.trans ?_
      rw [List.append_nil]

end Absorbing

/-!
## Landing
-/

def Slice.prepare (event : TaskEventRecord) (joined : Bool) (slice : Slice) : Slice :=
  (((if joined then slice.joinPr event else slice).openBlockers).markOpening event).revive event

def fresh (nextId : Nat) (event : TaskEventRecord) : Slice :=
  { id := nextId, state := newState event }

variable {change : Slice -> Slice}

section Landing

variable {slices absorbed : List Slice} {nextId : Nat} {event : TaskEventRecord} {slice : Slice}

@[simp] theorem Slice.openBlockers_id : slice.openBlockers.id = slice.id := by
  unfold Slice.openBlockers
  split
  · rfl
  · rfl

@[simp] theorem Slice.markOpening_id : (slice.markOpening event).id = slice.id := by
  unfold Slice.markOpening
  split
  · rfl
  · rfl

@[simp] theorem Slice.revive_id : (slice.revive event).id = slice.id := by
  unfold Slice.revive
  split
  · rfl
  · rfl

@[simp] theorem Slice.joinPr_id : (slice.joinPr event).id = slice.id :=
  rfl

@[simp] theorem Slice.apply_id : (slice.apply event).id = slice.id :=
  rfl

theorem Slice.prepare_id {joined : Bool} : (slice.prepare event joined).id = slice.id := by
  unfold Slice.prepare
  rw [Slice.revive_id, Slice.markOpening_id, Slice.openBlockers_id]
  split
  · rfl
  · rfl

theorem map_id_modify (h : forall slice, (change slice).id = slice.id) (index : Nat) :
    (slices.modify index change).map Slice.id = slices.map Slice.id := by
  apply List.ext_getElem?
  intro place
  rw [List.getElem?_map, List.getElem?_map, List.getElem?_modify]
  cases slices[place]? with
  | none =>
      rfl
  | some slice =>
      split
      · exact congrArg some (h slice)
      · rfl

structure Placed (slices : List Slice) (nextId : Nat) (event : TaskEventRecord)
    (landing : Landing) (joined : Bool) (source : Slice) : Prop where
  known : source ∈ slices ∧ landing.nextId = nextId ∧
      landing.slices.map Slice.id = slices.map Slice.id ∨
    source = fresh nextId event ∧ landing.nextId = nextId + 1 ∧
      landing.slices.map Slice.id = slices.map Slice.id ++ [nextId]
  here : landing.slices[landing.index]? =
    some (if joined then source.joinPr event else source)
  others : forall place slice, place ≠ landing.index -> landing.slices[place]? = some slice ->
    slice ∈ slices

theorem placed_addSlice :
    Placed slices nextId event (addSlice slices nextId event) false (fresh nextId event) where
  known := by
    refine Or.inr ⟨rfl, rfl, ?_⟩
    exact List.map_append
  here := by
    unfold addSlice fresh
    rw [List.getElem?_append_right (Nat.le_refl _), Nat.sub_self]
    rfl
  others := by
    intro place slice hne hget
    unfold addSlice at hne hget
    rcases Nat.lt_or_ge place slices.length with hlt | hge
    · rw [List.getElem?_append_left hlt] at hget
      exact List.mem_of_getElem? hget
    · dsimp only at hne
      rw [List.getElem?_append_right hge, List.getElem?_singleton, if_neg (by omega)] at hget
      cases hget

variable {index : Nat}

theorem placed_at {source : Slice} (h : slices[index]? = some source) :
    Placed slices nextId event { slices := slices, nextId := nextId, index := index } false
      source where
  known := Or.inl ⟨List.mem_of_getElem? h, rfl, rfl⟩
  here := h
  others := fun _ _ _ hget => List.mem_of_getElem? hget

theorem placed_joined {source : Slice} (h : slices[index]? = some source) :
    Placed slices nextId event
      { slices := slices.modify index (Slice.joinPr event), nextId := nextId, index := index } true
      source where
  known := Or.inl ⟨List.mem_of_getElem? h, rfl, map_id_modify (fun _ => Slice.joinPr_id) index⟩
  here := by
    dsimp only
    rw [List.getElem?_modify_eq, h]
    rfl
  others := by
    intro place slice hne hget
    dsimp only at hne hget
    rw [List.getElem?_modify_ne _ _ (Ne.symm hne)] at hget
    exact List.mem_of_getElem? hget

theorem getElem?_of_mem_group {entry : Slice × Nat} (h : entry ∈ group slices event) :
    slices[entry.2]? = some entry.1 :=
  List.mem_zipIdx_iff_getElem?.mp (List.mem_of_mem_filter h)

theorem getElem?_of_byPr (h : byPr slices event = some index) :
    exists source, slices[index]? = some source := by
  unfold byPr at h
  rcases Option.bind_eq_some_iff.mp h with ⟨pr, _, hfound⟩
  have hvalid : forall p : Slice -> Bool, slices.findIdx? p = some index ->
      exists source, slices[index]? = some source := by
    intro p hfind
    rcases List.findIdx?_eq_some_iff_getElem.mp hfind with ⟨hbound, _⟩
    exact ⟨slices[index], List.getElem?_eq_getElem hbound⟩
  dsimp only at hfound
  split at hfound
  · rcases Option.or_eq_some_iff.mp hfound with hhead | ⟨_, hholds⟩
    · exact hvalid _ hhead
    · exact hvalid _ hholds
  · exact hvalid _ hfound

theorem getElem?_of_adopted (h : adopted slices event = some index) :
    exists source, slices[index]? = some source := by
  unfold adopted at h
  rcases Option.map_eq_some_iff.mp h with ⟨entry, hfound, rfl⟩
  refine ⟨entry.1, @getElem?_of_mem_group slices event entry ?_⟩
  rcases Option.or_eq_some_iff.mp hfound with hplan | ⟨_, hcritic⟩
  · exact List.mem_of_find?_eq_some hplan
  · exact List.mem_of_find?_eq_some hcritic

theorem getElem?_of_mineIndex (h : mineIndex slices event = some index) :
    exists source, slices[index]? = some source := by
  unfold mineIndex at h
  rcases Option.map_eq_some_iff.mp h with ⟨entry, hfound, rfl⟩
  have hmem : entry ∈ (ownSlices slices event).reverse := by
    rcases Option.or_eq_some_iff.mp hfound with hclaim | ⟨_, hlive⟩
    · exact List.mem_of_find?_eq_some hclaim
    · exact List.mem_of_find?_eq_some hlive
  exact ⟨entry.1, getElem?_of_mem_group (List.mem_of_mem_filter (List.mem_reverse.mp hmem))⟩

theorem getElem?_of_joinedClaim (h : joinedClaim slices event = some index) :
    exists source, slices[index]? = some source := by
  unfold joinedClaim at h
  rcases Option.map_eq_some_iff.mp h with ⟨entry, hfound, rfl⟩
  refine ⟨entry.1, @getElem?_of_mem_group slices event entry ?_⟩
  split at hfound
  · exact List.mem_reverse.mp (List.mem_of_find?_eq_some hfound)
  · exact List.mem_of_find?_eq_some hfound

theorem exists_placed_joinClaim : exists joined source,
    Placed slices nextId event (joinClaim slices nextId event) joined source := by
  unfold joinClaim
  split
  · rename_i index hindex
    rcases getElem?_of_joinedClaim hindex with ⟨source, hsource⟩
    exact ⟨true, source, placed_joined hsource⟩
  · split
    · rename_i index hindex
      rcases getElem?_of_byPr hindex with ⟨source, hsource⟩
      exact ⟨false, source, placed_at hsource⟩
    · split
      · rename_i last _ hlast
        exact ⟨false, last.1,
          placed_at (getElem?_of_mem_group (List.mem_of_getLast? hlast))⟩
      · exact ⟨false, _, placed_addSlice⟩

theorem exists_placed_sliceFor : exists joined source,
    Placed slices nextId event (sliceFor slices nextId event) joined source := by
  unfold sliceFor
  split
  · rename_i index hindex
    rcases getElem?_of_byPr (Option.filter_eq_some_iff.mp hindex).left with ⟨source, hsource⟩
    exact ⟨false, source, placed_at hsource⟩
  · split
    · split
      · rename_i index hindex
        rcases getElem?_of_adopted hindex with ⟨source, hsource⟩
        exact ⟨false, source, placed_at hsource⟩
      · exact ⟨false, _, placed_addSlice⟩
    · split
      · unfold placeOwn
        split
        · rename_i index hindex
          rcases getElem?_of_mineIndex hindex with ⟨source, hsource⟩
          exact ⟨false, source, placed_at hsource⟩
        · split
          · exact ⟨false, _, placed_addSlice⟩
          · exact exists_placed_joinClaim
      · exact exists_placed_joinClaim

structure Lands (slices absorbed : List Slice) (nextId : Nat) (event : TaskEventRecord)
    (landed : Landed) (joined : Bool) (source : Slice) : Prop where
  known : source ∈ slices ∧ landed.nextId = nextId ∧
      ((landed.slices ++ landed.absorbed).map Slice.id).Perm ((slices ++ absorbed).map Slice.id) ∨
    source = fresh nextId event ∧ landed.nextId = nextId + 1 ∧
      ((landed.slices ++ landed.absorbed).map Slice.id).Perm
        ((slices ++ absorbed).map Slice.id ++ [nextId])
  here : landed.slices[landed.index]? = some (source.prepare event joined)
  others : forall place slice, place ≠ landed.index -> landed.slices[place]? = some slice ->
    slice ∈ slices
  absorbed : forall slice, slice ∈ landed.absorbed -> slice ∈ slices ∨ slice ∈ absorbed

theorem getElem?_modify_of_ne {place : Nat} (h : place ≠ index) :
    (slices.modify index change)[place]? = slices[place]? :=
  List.getElem?_modify_ne change slices (Ne.symm h)

theorem exists_lands : exists joined source,
    Lands slices absorbed nextId event (land slices absorbed nextId event) joined source := by
  have hlater : forall later : Absorbing,
      later = (if event.kind = .prOpened then absorbLater slices event
        else { slices := slices, absorbed := [], index := 0 }) ->
        (later.slices ++ later.absorbed).Perm slices := by
    intro later heq
    rw [heq]
    split
    · exact perm_absorbLater
    · rw [List.append_nil]
  unfold land
  extract_lets later landing absorbing prepared
  have hperm := hlater later rfl
  rcases @exists_placed_sliceFor later.slices nextId event
    with ⟨joined, source, hplaced⟩
  have habsorbs : Absorbs absorbing prepared := by
    show Absorbs absorbing (if event.kind = .prOpened then _ else _)
    split
    · exact absorbs_absorbEarlier.trans absorbs_absorbTaken
    · exact Absorbs.refl
  have hothers : forall slice,
      (exists other, other ≠ prepared.index ∧ prepared.slices[other]? = some slice) ∨
          slice ∈ prepared.absorbed -> slice ∈ slices := by
    intro slice hslice
    apply hperm.mem_iff.mp
    rcases habsorbs.others slice hslice with ⟨other, hne, hget⟩ | hmem
    · rw [getElem?_modify_of_ne hne] at hget
      exact List.mem_append_left _ (hplaced.others other slice hne hget)
    · exact List.mem_append_right _ hmem
  have hids : ((prepared.slices ++ prepared.absorbed).map Slice.id).Perm
      (landing.slices.map Slice.id ++ later.absorbed.map Slice.id) := by
    refine (habsorbs.perm.map Slice.id).trans ?_
    rw [List.map_append, map_id_modify (fun _ => Slice.openBlockers_id)]
  have hsources : (later.slices.map Slice.id ++ later.absorbed.map Slice.id).Perm
      (slices.map Slice.id) := by
    rw [← List.map_append]
    exact hperm.map Slice.id
  have hall : ((((prepared.slices.modify prepared.index (Slice.markOpening event)).modify
      prepared.index (Slice.revive event)) ++ (absorbed ++ prepared.absorbed)).map Slice.id).Perm
        (landing.slices.map Slice.id ++ later.absorbed.map Slice.id ++
          absorbed.map Slice.id) := by
    rw [List.map_append, map_id_modify (fun _ => Slice.revive_id),
      map_id_modify (fun _ => Slice.markOpening_id), ← List.map_append]
    refine ((List.perm_append_comm.append_left prepared.slices).map Slice.id).trans ?_
    rw [← List.append_assoc, List.map_append]
    exact hids.append_right _
  refine ⟨joined, source, ?_, ?_, ?_, ?_⟩
  · rcases hplaced.known with ⟨hmem, hnext, hlanding⟩ | ⟨hsource, hnext, hlanding⟩
    · refine Or.inl ⟨hperm.mem_iff.mp (List.mem_append_left _ hmem), hnext, hall.trans ?_⟩
      rw [hlanding, List.map_append]
      exact hsources.append_right _
    · refine Or.inr ⟨hsource, hnext, hall.trans ?_⟩
      rw [hlanding, List.map_append, List.append_assoc, List.append_assoc, List.append_assoc]
      refine (List.perm_append_comm.append_left _).trans ?_
      rw [← List.append_assoc, ← List.append_assoc, ← List.append_assoc]
      exact (hsources.append_right _).append_right _
  · dsimp only
    rw [List.getElem?_modify_eq, List.getElem?_modify_eq, habsorbs.here,
      List.getElem?_modify_eq, hplaced.here]
    rfl
  · intro place slice hne hget
    dsimp only at hne hget
    rw [getElem?_modify_of_ne hne, getElem?_modify_of_ne hne] at hget
    exact hothers slice (Or.inl ⟨place, hne, hget⟩)
  · intro slice hmem
    rcases List.mem_append.mp hmem with hbefore | hnew
    · exact Or.inr hbefore
    · exact Or.inl (hothers slice (Or.inr hnew))

end Landing

/-!
## Turns
-/

def Fold.landsIn (fold : Fold) (event : TaskEventRecord) : List Nat :=
  ((fold.record event).routes.drop fold.routes.length).map Route.slice

def Fold.ends (fold : Fold) (event : TaskEventRecord) (slice : Slice) : Bool :=
  let landed := land fold.slices fold.absorbed fold.nextId event
  !fold.retired.contains event.actorId && (fold.slices.any fun live => live.id = slice.id) &&
    (landed.slices[landed.index]?.any fun own => !own.stopped && own.id ≠ slice.id) &&
      ((event.kind = .merged || event.kind = .closed) && sharesPr event slice ||
        event.kind = .merged && event.closes.any fun closes => closedBy event closes slice)

inductive Turn (fold : Fold) (event : TaskEventRecord) : Slice -> Slice -> Prop where
  | same (slice : Slice) : Turn fold event slice slice
  | stopped (slice : Slice) (joined : Bool) (h : (slice.prepare event joined).stopped = true) :
      Turn fold event slice (slice.prepare event joined)
  | applied (slice : Slice) (joined : Bool) (h : (slice.prepare event joined).stopped = false)
      (hlands : slice.id ∈ fold.landsIn event) :
      Turn fold event slice ((slice.prepare event joined).apply event)
  | endedWith (slice : Slice) (planMissing : Bool) (h : sharesPr event slice = true)
      (hkind : event.kind = .merged ∨ event.kind = .closed)
      (hends : fold.ends event slice = true) :
      Turn fold event slice (slice.endWith event planMissing)
  | closedIssue (slice : Slice) (planMissing : Bool) (hkind : event.kind = .merged)
      (hstep : slice.state.step ≠ .merged) (hends : fold.ends event slice = true) :
      Turn fold event slice (slice.closeIssue event planMissing)
  | orphaned (slice : Slice) : Turn fold event slice (slice.orphan event)
  | reset (slice : Slice) : Turn fold event slice (slice.resetReview event)
  | orphanedReset (slice : Slice) :
      Turn fold event slice ((slice.orphan event).resetReview event)
  | releasedTo (slice : Slice) : Turn fold event slice (slice.releaseTo event)
  | released (slice : Slice) : Turn fold event slice (slice.release event)
  | beaten (slice : Slice) : Turn fold event slice (slice.beat event)
  | acted (slice : Slice) (binding : ReviewBinding) (activity : ReviewActivity)
      (hbinding : reviewBinding slice.state = some binding)
      (hnamed : namedBinding event = some binding) (hreviewer : event.reviewer = some event.actorId)
      (hactivity : activityOf event = some activity) :
      Turn fold event slice (slice.act event activity)

def Fold.all (fold : Fold) : List Slice :=
  fold.slices ++ fold.absorbed

structure Steps (fold : Fold) (event : TaskEventRecord) (fold' : Fold) : Prop where
  turns : forall slice, slice ∈ fold'.all ->
    (exists before, before ∈ fold.all ∧ Turn fold event before slice) ∨
      fold'.nextId = fold.nextId + 1 ∧ Turn fold event (fresh fold.nextId event) slice
  ids : fold'.nextId = fold.nextId ∧ (fold'.all.map Slice.id).Perm (fold.all.map Slice.id) ∨
    fold'.nextId = fold.nextId + 1 ∧
      (fold'.all.map Slice.id).Perm (fold.all.map Slice.id ++ [fold.nextId])
  routes : forall route, route ∈ fold'.routes -> route ∈ fold.routes ∨
    route.slice ∈ fold'.all.map Slice.id

section Turns

variable {fold fold' : Fold} {event : TaskEventRecord} {slice : Slice}

theorem steps_same (hslices : fold'.slices = fold.slices) (habsorbed : fold'.absorbed = fold.absorbed)
    (hnext : fold'.nextId = fold.nextId) (hroutes : fold'.routes = fold.routes) :
    Steps fold event fold' where
  turns := by
    intro slice hmem
    unfold Fold.all at hmem
    rw [hslices, habsorbed] at hmem
    exact Or.inl ⟨slice, hmem, Turn.same slice⟩
  ids := by
    unfold Fold.all
    rw [hslices, habsorbed]
    exact Or.inl ⟨hnext, List.Perm.refl _⟩
  routes := by
    intro route hmem
    rw [hroutes] at hmem
    exact Or.inl hmem

theorem steps_touch {index : Nat} {before : Fold} (hslices : fold.slices = before.slices)
    (habsorbed : fold.absorbed = before.absorbed) (hnext : fold.nextId = before.nextId)
    (hroutes : fold.routes = before.routes) (hid : forall slice, (change slice).id = slice.id)
    (hturn : forall slice, fold.slices[index]? = some slice ->
      Turn before event slice (change slice)) :
    Steps before event (fold.touch event index change) := by
  unfold Fold.touch
  split
  · exact steps_same hslices habsorbed hnext hroutes
  · rename_i slice hslice
    have hids : (fold.slices.modify index change ++ fold.absorbed).map Slice.id =
        before.all.map Slice.id := by
      unfold Fold.all
      rw [List.map_append, List.map_append, map_id_modify hid, hslices, habsorbed]
    refine
      { turns := ?_
        ids := Or.inl ⟨hnext, List.Perm.of_eq hids⟩
        routes := ?_ }
    · intro after hmem
      refine Or.inl ?_
      rcases List.mem_append.mp hmem with hmem | hmem
      · rcases List.mem_iff_getElem?.mp hmem with ⟨place, hget⟩
        dsimp only at hget
        rw [List.getElem?_modify] at hget
        rcases Option.map_eq_some_iff.mp hget with ⟨held, hheld, rfl⟩
        have hmem := List.mem_of_getElem? hheld
        rw [hslices] at hmem
        split
        · rename_i heq
          rw [← heq] at hheld
          exact ⟨held, List.mem_append_left _ hmem, hturn held hheld⟩
        · exact ⟨held, List.mem_append_left _ hmem, Turn.same held⟩
      · refine ⟨after, List.mem_append_right _ ?_, Turn.same after⟩
        rw [← habsorbed]
        exact hmem
    · intro route hmem
      rcases List.mem_append.mp hmem with hbefore | hnew
      · rw [hroutes] at hbefore
        exact Or.inl hbefore
      · rw [List.mem_singleton.mp hnew]
        refine Or.inr ?_
        unfold Fold.all
        dsimp only
        rw [hids]
        refine List.mem_map_of_mem (List.mem_append_left _ ?_)
        rw [← hslices]
        exact List.mem_of_getElem? hslice

theorem steps_retireLanes : Steps fold event (fold.retireLanes event) := by
  unfold Fold.retireLanes
  extract_lets lanes orphaned reset
  split
  · have hids : (reset ++ fold.absorbed).map Slice.id = fold.all.map Slice.id := by
      show (List.map _ (List.map _ fold.slices) ++ fold.absorbed).map Slice.id = _
      unfold Fold.all
      rw [List.map_append, List.map_append, List.map_map, List.map_map]
      congr 1
      apply List.map_congr_left
      intro slice _
      simp only [Function.comp]
      split
      · split
        · rfl
        · rfl
      · split
        · rfl
        · rfl
    refine
      { turns := ?_
        ids := Or.inl ⟨rfl, List.Perm.of_eq hids⟩
        routes := fun route hmem => Or.inl hmem }
    intro after hmem
    refine Or.inl ?_
    rcases List.mem_append.mp hmem with hmem | hmem
    · rcases List.mem_map.mp hmem with ⟨middle, hmiddle, rfl⟩
      rcases List.mem_map.mp hmiddle with ⟨slice, hslice, rfl⟩
      refine ⟨slice, List.mem_append_left _ hslice, ?_⟩
      split
      · split
        · exact Turn.orphanedReset slice
        · exact Turn.orphaned slice
      · split
        · exact Turn.reset slice
        · exact Turn.same slice
    · exact ⟨after, List.mem_append_right _ hmem, Turn.same after⟩
  · exact steps_same rfl rfl rfl rfl

theorem steps_releaseByKey {key : String} : Steps fold event (fold.releaseByKey event key) := by
  unfold Fold.releaseByKey
  dsimp only
  split
  · exact steps_same rfl rfl rfl rfl
  · exact steps_touch rfl rfl rfl rfl (fun _ => rfl) fun slice _ => Turn.releasedTo slice

theorem steps_heartbeat : Steps fold event (fold.heartbeat event) := by
  unfold Fold.heartbeat
  dsimp only
  split
  · exact steps_same rfl rfl rfl rfl
  · split
    · exact steps_touch rfl rfl rfl rfl (fun _ => rfl) fun slice _ => Turn.beaten slice
    · exact steps_same rfl rfl rfl rfl

theorem steps_release : Steps fold event (fold.release event) := by
  unfold Fold.release
  dsimp only
  split
  · exact steps_same rfl rfl rfl rfl
  · split
    · exact steps_touch rfl rfl rfl rfl (fun _ => rfl) fun slice _ => Turn.released slice
    · exact steps_same rfl rfl rfl rfl

/-!
## The index of the reviews
-/

def Finds (slices : List Slice) (index : ReviewIndex) : Prop :=
  forall binding place, (binding, some place) ∈ index ->
    exists slice, slices[place]? = some slice ∧ reviewBinding slice.state = some binding

theorem Finds.enter {slices : List Slice} {index : ReviewIndex} {binding : ReviewBinding}
    {place : Nat} (h : Finds slices index) (hslice : slices[place]? = some slice)
    (hbinding : reviewBinding slice.state = some binding) :
    Finds slices (enterBinding index binding place) := by
  intro other found hmem
  unfold enterBinding at hmem
  split at hmem
  · rcases List.mem_map.mp hmem with ⟨entry, hentry, heq⟩
    split at heq
    · cases heq
    · rw [heq] at hentry
      exact h other found hentry
  · rcases List.mem_append.mp hmem with hbefore | hnew
    · exact h other found hbefore
    · cases List.mem_singleton.mp hnew
      exact ⟨slice, hslice, hbinding⟩

theorem finds_buildIndex {slices : List Slice} : Finds slices (buildIndex slices) := by
  unfold buildIndex
  refine List.foldlRecOn (motive := Finds slices) _ _ ?_ ?_
  · exact fun binding place hmem => absurd hmem List.not_mem_nil
  · intro index hindex entry hmem
    have hentry : slices[entry.2]? = some entry.1 := List.mem_zipIdx_iff_getElem?.mp hmem
    split
    · rename_i binding hbinding
      split at hbinding
      · exact hindex.enter hentry hbinding
      · cases hbinding
    · exact hindex

def Indexed (fold : Fold) : Prop :=
  fold.reviewIndexDirty = false -> Finds fold.slices fold.reviewIndex

theorem finds_refresh (h : Indexed fold) : Finds fold.refresh.slices fold.refresh.reviewIndex := by
  unfold Fold.refresh
  split
  · exact finds_buildIndex
  · rename_i hclean
    exact h (Bool.eq_false_iff.mpr hclean)

theorem binding_of_boundSlice (h : Finds fold.slices fold.reviewIndex) {index : Nat}
    (hbound : fold.boundSlice event = some index) (hslice : fold.slices[index]? = some slice) :
    exists binding, reviewBinding slice.state = some binding ∧
      namedBinding event = some binding ∧ event.reviewer = some event.actorId := by
  unfold Fold.boundSlice at hbound
  split at hbound
  · cases hbound
  · rename_i found hfound
    split at hbound
    · rename_i hguard
      cases hbound
      rcases Option.join_eq_some_iff.mp hfound with hlookup
      rcases Option.bind_eq_some_iff.mp hlookup with ⟨binding, hnamed, hget⟩
      rcases List.lookup_eq_some_iff.mp hget with ⟨before, later, hsplit, _⟩
      have hmem : (binding, some index) ∈ fold.reviewIndex := by
        rw [hsplit]
        exact List.mem_append_right before List.mem_cons_self
      rcases h binding index hmem with ⟨held, hheld, hbinding⟩
      rw [Bool.and_eq_true, decide_eq_true_eq] at hguard
      cases hslice.symm.trans hheld
      exact ⟨binding, hbinding, hnamed, hguard.left⟩
    · cases hbound

theorem steps_reviewActivity (h : Indexed fold) : Steps fold event (fold.reviewActivity event) := by
  have hfinds := finds_refresh h
  have hsame : fold.refresh.slices = fold.slices ∧ fold.refresh.absorbed = fold.absorbed ∧
      fold.refresh.nextId = fold.nextId ∧ fold.refresh.routes = fold.routes := by
    unfold Fold.refresh
    split
    · exact ⟨rfl, rfl, rfl, rfl⟩
    · exact ⟨rfl, rfl, rfl, rfl⟩
  rcases hsame with ⟨hslices, habsorbed, hnext, hroutes⟩
  unfold Fold.reviewActivity
  dsimp only
  split
  · rename_i index activity hbound hactivity
    refine steps_touch hslices habsorbed hnext hroutes (fun _ => rfl) ?_
    intro slice hslice
    rcases binding_of_boundSlice hfinds hbound hslice with
      ⟨binding, hbinding, hnamed, hreviewer⟩
    exact Turn.acted slice binding activity hbinding hnamed hreviewer hactivity
  · exact steps_same hslices habsorbed hnext hroutes

theorem indexed_reviewActivity (h : Indexed fold) : Indexed (fold.reviewActivity event) := by
  have hfinds := finds_refresh h
  intro _
  unfold Fold.reviewActivity
  dsimp only
  split
  · rename_i index activity hbound hactivity
    unfold Fold.touch
    split
    · exact hfinds
    · intro binding place hmem
      rcases hfinds binding place hmem with ⟨slice, hslice, hbinding⟩
      dsimp only
      rw [List.getElem?_modify, hslice]
      split
      · exact ⟨_, rfl, hbinding⟩
      · exact ⟨slice, rfl, hbinding⟩
  · exact hfinds

/-!
## Applying a record
-/

variable {slices : List Slice} {index place : Nat} {planMissing : Bool}

theorem map_id_mapIdx {change : Nat -> Slice -> Slice}
    (h : forall place slice, (change place slice).id = slice.id) :
    (slices.mapIdx change).map Slice.id = slices.map Slice.id := by
  apply List.ext_getElem?
  intro place
  rw [List.getElem?_map, List.getElem?_map, List.getElem?_mapIdx]
  cases slices[place]? with
  | none => rfl
  | some slice => exact congrArg some (h place slice)

theorem map_id_endSiblings :
    (endSiblings slices event index planMissing).map Slice.id = slices.map Slice.id := by
  unfold endSiblings
  split
  · apply map_id_mapIdx
    intro place slice
    split
    · rfl
    · rfl
  · rfl

theorem map_id_endIssues :
    (endIssues slices event index planMissing).map Slice.id = slices.map Slice.id := by
  unfold endIssues
  split
  · split
    · apply map_id_mapIdx
      intro place slice
      split
      · rfl
      · rfl
    · rfl
  · rfl

theorem map_id_applyRecord :
    (applyRecord slices event index).map Slice.id = slices.map Slice.id := by
  unfold applyRecord
  rw [map_id_endIssues, map_id_endSiblings, map_id_modify (fun _ => Slice.apply_id)]

theorem getElem?_endSiblings
    (h : (endSiblings slices event index planMissing)[place]? = some slice) :
    exists before, slices[place]? = some before ∧
      (slice = before ∨
        place ≠ index ∧ (event.kind = .merged ∨ event.kind = .closed) ∧
          sharesPr event before = true ∧ slice = before.endWith event planMissing) := by
  unfold endSiblings at h
  split at h
  · rename_i hkind
    rw [List.getElem?_mapIdx] at h
    rcases Option.map_eq_some_iff.mp h with ⟨before, hbefore, hslice⟩
    refine ⟨before, hbefore, ?_⟩
    split at hslice
    · rename_i hends
      simp only [ne_eq, Bool.and_eq_true, Bool.or_eq_true, decide_eq_true_eq] at hends hkind
      exact Or.inr ⟨hends.left, hkind, hends.right, hslice.symm⟩
    · exact Or.inl hslice.symm
  · exact ⟨slice, h, Or.inl rfl⟩

theorem getElem?_endIssues
    (h : (endIssues slices event index planMissing)[place]? = some slice) :
    exists before, slices[place]? = some before ∧
      (slice = before ∨
        place ≠ index ∧ event.kind = .merged ∧
          (event.closes.any fun closes => closedBy event closes before) = true ∧
            slice = before.closeIssue event planMissing) := by
  unfold endIssues at h
  split at h
  · rename_i closes hcloses
    split at h
    · rename_i hkind
      rw [List.getElem?_mapIdx] at h
      rcases Option.map_eq_some_iff.mp h with ⟨before, hbefore, hslice⟩
      refine ⟨before, hbefore, ?_⟩
      split at hslice
      · rename_i hends
        simp only [ne_eq, Bool.and_eq_true, decide_eq_true_eq] at hends
        refine Or.inr ⟨hends.left, hkind, ?_, hslice.symm⟩
        rw [hcloses]
        exact hends.right
      · exact Or.inl hslice.symm
    · exact ⟨slice, h, Or.inl rfl⟩
  · exact ⟨slice, h, Or.inl rfl⟩

theorem closedBy_endWith {closes : List Nat} (h : sharesPr event slice = true) :
    closedBy event closes (slice.endWith event planMissing) = false := by
  have hpr : slice.state.pr = event.pr := by
    unfold sharesPr at h
    simp only [Bool.and_eq_true, decide_eq_true_eq] at h
    exact h.left.left
  have hsame : (slice.endWith event planMissing).state.pr = event.pr := by
    unfold Slice.endWith
    dsimp only
    split
    · exact hpr
    · exact hpr
  unfold closedBy
  rw [hsame]
  simp

theorem getElem?_applyRecord (h : (applyRecord slices event index)[place]? = some slice) :
    exists before, slices[place]? = some before ∧
      (place = index ∧ slice = before.apply event ∨
        place ≠ index ∧
          (slice = before ∨
            (exists planMissing, (event.kind = .merged ∨ event.kind = .closed) ∧
              sharesPr event before = true ∧ slice = before.endWith event planMissing) ∨
            (exists planMissing, event.kind = .merged ∧
              (event.closes.any fun closes => closedBy event closes before) = true ∧
                slice = before.closeIssue event planMissing))) := by
  unfold applyRecord at h
  dsimp only at h
  rcases getElem?_endIssues h with ⟨middle, hmiddle, hissue⟩
  rcases getElem?_endSiblings hmiddle with ⟨first, hfirst, hsibling⟩
  rw [List.getElem?_modify] at hfirst
  rcases Option.map_eq_some_iff.mp hfirst with ⟨before, hbefore, happly⟩
  refine ⟨before, hbefore, ?_⟩
  rcases Decidable.em (index = place) with heq | hne
  · rw [if_pos heq] at happly
    rcases hsibling with rfl | ⟨hother, _⟩
    · rcases hissue with rfl | ⟨hother, _⟩
      · exact Or.inl ⟨heq.symm, happly.symm⟩
      · exact absurd heq.symm hother
    · exact absurd heq.symm hother
  · rw [if_neg hne] at happly
    subst happly
    refine Or.inr ⟨Ne.symm hne, ?_⟩
    rcases hsibling with rfl | ⟨_, hkind, hshares, rfl⟩
    · rcases hissue with rfl | ⟨_, hkind, hcloses, rfl⟩
      · exact Or.inl rfl
      · exact Or.inr (Or.inr ⟨_, hkind, hcloses, rfl⟩)
    · rcases hissue with rfl | ⟨_, _, hcloses, _⟩
      · exact Or.inr (Or.inl ⟨_, hkind, hshares, rfl⟩)
      · cases hnamed : event.closes with
        | none =>
            rw [hnamed] at hcloses
            cases hcloses
        | some closes =>
            rw [hnamed, Option.any_some, closedBy_endWith hshares] at hcloses
            cases hcloses

def Numbered (fold : Fold) : Prop :=
  (fold.all.map Slice.id).Perm (List.range fold.nextId)

theorem Steps.numbered (h : Steps fold event fold') (hnumbered : Numbered fold) :
    Numbered fold' := by
  unfold Numbered at hnumbered ⊢
  rcases h.ids with ⟨hnext, hids⟩ | ⟨hnext, hids⟩
  · rw [hnext]
    exact hids.trans hnumbered
  · rw [hnext, List.range_succ]
    exact hids.trans (hnumbered.append_right _)

theorem Numbered.lt (h : Numbered fold) (hmem : slice ∈ fold.all) : slice.id < fold.nextId :=
  List.mem_range.mp (h.mem_iff.mp (List.mem_map_of_mem hmem))

theorem Numbered.nodup (h : Numbered fold) : (fold.all.map Slice.id).Nodup :=
  h.nodup_iff.mpr List.nodup_range

structure LandsAt (fold : Fold) (event : TaskEventRecord) (own : Slice) (fold' : Fold) : Prop where
  here : (land fold.slices fold.absorbed fold.nextId event).slices[
    (land fold.slices fold.absorbed fold.nextId event).index]? = some own
  slices : fold'.slices =
    if own.stopped then (land fold.slices fold.absorbed fold.nextId event).slices
    else applyRecord (land fold.slices fold.absorbed fold.nextId event).slices event
      (land fold.slices fold.absorbed fold.nextId event).index
  absorbed : fold'.absorbed = (land fold.slices fold.absorbed fold.nextId event).absorbed
  next : fold'.nextId = (land fold.slices fold.absorbed fold.nextId event).nextId
  routes : fold'.routes = fold.routes ++ [{ sequence := event.sequence, slice := own.id }]

theorem exists_landsAt : exists own, LandsAt fold event own (fold.lifecycle event) := by
  rcases @exists_lands fold.slices fold.absorbed fold.nextId event with ⟨joined, source, hlands⟩
  refine ⟨source.prepare event joined, hlands.here, ?_, ?_, ?_, ?_⟩
  all_goals
    unfold Fold.lifecycle
    dsimp only
    rw [hlands.here]

theorem LandsAt.map_id {own : Slice} (h : LandsAt fold event own fold') :
    fold'.all.map Slice.id =
      ((land fold.slices fold.absorbed fold.nextId event).slices ++
        (land fold.slices fold.absorbed fold.nextId event).absorbed).map Slice.id := by
  unfold Fold.all
  rw [h.slices, h.absorbed, List.map_append, List.map_append]
  split
  · rfl
  · rw [map_id_applyRecord]

theorem step_of_closedBy
    (h : (event.closes.any fun closes => closedBy event closes slice) = true) :
    slice.state.step ≠ .merged := by
  cases hnamed : event.closes with
  | none =>
      rw [hnamed] at h
      cases h
  | some closes =>
      rw [hnamed, Option.any_some] at h
      unfold closedBy at h
      simp only [ne_eq, Bool.and_eq_true, decide_eq_true_eq] at h
      exact h.left.left

theorem LandsAt.ends {own : Slice} (h : LandsAt fold event own fold')
    (hactor : event.actorId ∉ fold.retired) (hlive : own.stopped = false)
    (hmem : slice ∈ fold.slices) (hdistinct : own.id ≠ slice.id)
    (hguard : (event.kind = .merged ∨ event.kind = .closed) ∧ sharesPr event slice = true ∨
      event.kind = .merged ∧
        (event.closes.any fun closes => closedBy event closes slice) = true) :
    fold.ends event slice = true := by
  have hretired : fold.retired.contains event.actorId = false :=
    Bool.eq_false_iff.mpr fun hcontains => hactor (ExtTreeSet.contains_iff_mem.mp hcontains)
  have hheld : (fold.slices.any fun live => live.id = slice.id) = true :=
    List.any_eq_true.mpr ⟨slice, hmem, decide_eq_true rfl⟩
  unfold Fold.ends
  dsimp only
  rw [h.here, Option.any_some, hlive, hretired, hheld]
  simp only [Bool.not_false, Bool.true_and, ne_eq, Bool.and_eq_true, Bool.or_eq_true,
    decide_eq_true_eq]
  exact And.intro hdistinct hguard

theorem steps_lifecycle {own : Slice} (hnumbered : Numbered fold)
    (h : LandsAt fold event own (fold.record event))
    (hactor : event.actorId ∉ fold.retired) : Steps fold event (fold.record event) := by
  rcases @exists_lands fold.slices fold.absorbed fold.nextId event with ⟨joined, source, hlands⟩
  have hown : own = source.prepare event joined :=
    Option.some.inj (h.here.symm.trans hlands.here)
  have hids := h.map_id
  have hsource : source.id ∈ fold.landsIn event := by
    unfold Fold.landsIn
    rw [h.routes, List.drop_left, hown]
    exact List.mem_singleton.mpr Slice.prepare_id.symm
  have hfrom : forall slice, Turn fold event source slice ->
      (exists before, before ∈ fold.all ∧ Turn fold event before slice) ∨
        (fold.record event).nextId = fold.nextId + 1 ∧
          Turn fold event (fresh fold.nextId event) slice := by
    intro slice hturn
    rw [h.next]
    rcases hlands.known with ⟨hmem, _⟩ | ⟨hfresh, hnext, _⟩
    · exact Or.inl ⟨source, List.mem_append_left _ hmem, hturn⟩
    · rw [hfresh] at hturn
      exact Or.inr ⟨hnext, hturn⟩
  have hsteps : (fold.record event).nextId = fold.nextId ∧
      ((fold.record event).all.map Slice.id).Perm (fold.all.map Slice.id) ∨
        (fold.record event).nextId = fold.nextId + 1 ∧
          ((fold.record event).all.map Slice.id).Perm
            (fold.all.map Slice.id ++ [fold.nextId]) := by
    rw [h.next, hids]
    rcases hlands.known with ⟨_, hnext, hperm⟩ | ⟨_, hnext, hperm⟩
    · exact Or.inl ⟨hnext, hperm⟩
    · exact Or.inr ⟨hnext, hperm⟩
  have hnodup : ((fold.record event).all.map Slice.id).Nodup := by
    have hnext : Numbered (fold.record event) := by
      unfold Numbered at hnumbered ⊢
      rcases hsteps with ⟨hnext, hperm⟩ | ⟨hnext, hperm⟩
      · rw [hnext]
        exact hperm.trans hnumbered
      · rw [hnext, List.range_succ]
        exact hperm.trans (hnumbered.append_right _)
    exact hnext.nodup
  refine { turns := ?_, ids := hsteps, routes := ?_ }
  · intro slice hmem
    rcases List.mem_append.mp hmem with hmem | hmem
    · rw [h.slices] at hmem
      rcases List.mem_iff_getElem?.mp hmem with ⟨place, hget⟩
      split at hget
      · rename_i hstopped
        rcases Decidable.em (place =
          (land fold.slices fold.absorbed fold.nextId event).index) with rfl | hne
        · cases h.here.symm.trans hget
          rw [hown] at hstopped ⊢
          exact hfrom _ (Turn.stopped source joined hstopped)
        · exact Or.inl ⟨slice, List.mem_append_left _ (hlands.others place slice hne hget),
            Turn.same slice⟩
      · rename_i hrunning
        have hlive : own.stopped = false := Bool.eq_false_iff.mpr hrunning
        rcases getElem?_applyRecord hget with ⟨before, hbefore, ⟨rfl, rfl⟩ | ⟨hne, hother⟩⟩
        · cases h.here.symm.trans hbefore
          rw [hown] at hlive ⊢
          exact hfrom _ (Turn.applied source joined hlive hsource)
        · have hbeforeMem := hlands.others place before hne hbefore
          have hdistinct : own.id ≠ before.id := by
            intro hsame
            rw [hids, List.map_append] at hnodup
            have hleft := (List.nodup_append.mp hnodup).left
            rcases List.getElem?_eq_some_iff.mp hbefore with ⟨hbound, _⟩
            apply hne
            refine (List.getElem?_inj (by rwa [List.length_map]) hleft).mp ?_
            rw [List.getElem?_map, List.getElem?_map, hbefore, h.here, Option.map_some,
              Option.map_some, hsame]
          refine Or.inl ⟨before, List.mem_append_left _ hbeforeMem, ?_⟩
          rcases hother with rfl | ⟨planMissing, hkind, hshares, rfl⟩ |
            ⟨planMissing, hkind, hcloses, rfl⟩
          · exact Turn.same _
          · exact Turn.endedWith before planMissing hshares hkind
              (h.ends hactor hlive hbeforeMem hdistinct (Or.inl ⟨hkind, hshares⟩))
          · exact Turn.closedIssue before planMissing hkind (step_of_closedBy hcloses)
              (h.ends hactor hlive hbeforeMem hdistinct (Or.inr ⟨hkind, hcloses⟩))
    · rw [h.absorbed] at hmem
      rcases hlands.absorbed slice hmem with hslice | hslice
      · exact Or.inl ⟨slice, List.mem_append_left _ hslice, Turn.same slice⟩
      · exact Or.inl ⟨slice, List.mem_append_right _ hslice, Turn.same slice⟩
  · intro route hmem
    rw [h.routes] at hmem
    rcases List.mem_append.mp hmem with hbefore | hnew
    · exact Or.inl hbefore
    · rw [List.mem_singleton.mp hnew, hids]
      exact Or.inr (List.mem_map_of_mem (List.mem_append_left _ (List.mem_of_getElem? h.here)))

/-!
## One record
-/

/-- The fold as a record finds it: any but a review activity has the index built again. -/
def Fold.soiled (fold : Fold) : Fold :=
  { fold with reviewIndexDirty := true }

theorem record_soiled (hkind : event.kind ≠ .reviewActivity) :
    fold.soiled.record event = fold.record event := by
  unfold Fold.record Fold.soiled
  rw [if_neg hkind, if_neg hkind]

theorem turn_soiled (hkind : event.kind ≠ .reviewActivity) {before after : Slice}
    (h : Turn fold.soiled event before after) : Turn fold event before after := by
  cases h with
  | same => exact Turn.same _
  | stopped joined hstopped => exact Turn.stopped _ joined hstopped
  | applied joined hlive hlands =>
      unfold Fold.landsIn at hlands
      rw [record_soiled hkind] at hlands
      exact Turn.applied _ joined hlive hlands
  | endedWith planMissing hshares hmerged hends =>
      exact Turn.endedWith _ planMissing hshares hmerged hends
  | closedIssue planMissing hmerged hstep hends =>
      exact Turn.closedIssue _ planMissing hmerged hstep hends
  | orphaned => exact Turn.orphaned _
  | reset => exact Turn.reset _
  | orphanedReset => exact Turn.orphanedReset _
  | releasedTo => exact Turn.releasedTo _
  | released => exact Turn.released _
  | beaten => exact Turn.beaten _
  | acted binding activity hbinding hnamed hreviewer hactivity =>
      exact Turn.acted _ binding activity hbinding hnamed hreviewer hactivity

theorem Steps.of_soiled (hkind : event.kind ≠ .reviewActivity)
    (h : Steps fold.soiled event fold') : Steps fold event fold' where
  turns := by
    intro slice hmem
    rcases h.turns slice hmem with ⟨before, hbefore, hturn⟩ | ⟨hnext, hturn⟩
    · exact Or.inl ⟨before, hbefore, turn_soiled hkind hturn⟩
    · exact Or.inr ⟨hnext, turn_soiled hkind hturn⟩
  ids := h.ids
  routes := h.routes

theorem record_cases (hkind : event.kind ≠ .reviewActivity) :
    fold.record event = fold.soiled ∨ fold.record event = fold.soiled.retireLanes event ∨
      (exists key, fold.record event = fold.soiled.releaseByKey event key) ∨
        fold.record event = fold.soiled.release event ∨
          fold.record event = fold.soiled.heartbeat event ∨
            event.actorId ∉ fold.retired ∧
              fold.record event = fold.soiled.lifecycle event := by
  unfold Fold.record
  dsimp only
  rw [if_neg hkind]
  split
  · exact Or.inl rfl
  · exact Or.inl rfl
  · exact Or.inl rfl
  · exact Or.inl rfl
  · exact Or.inr (Or.inl rfl)
  · split
    · exact Or.inl rfl
    · rename_i hactor
      split
      · exact Or.inr (Or.inr (Or.inl ⟨_, rfl⟩))
      · exact Or.inr (Or.inr (Or.inr (Or.inl rfl)))
      · rename_i hactivity
        exact absurd hactivity hkind
      · exact Or.inr (Or.inr (Or.inr (Or.inr (Or.inl rfl))))
      · exact Or.inr (Or.inr (Or.inr (Or.inr (Or.inr ⟨hactor, rfl⟩))))

theorem record_reviewActivity (hkind : event.kind = .reviewActivity) :
    fold.record event = fold ∨ fold.record event = fold.reviewActivity event := by
  unfold Fold.record
  rw [if_pos hkind, hkind]
  dsimp only
  split
  · exact Or.inl rfl
  · exact Or.inr rfl

/-- One record of a log turns each slice at most once. -/
theorem steps_record (hnumbered : Numbered fold) (hindexed : Indexed fold) :
    Steps fold event (fold.record event) := by
  rcases Decidable.em (event.kind = .reviewActivity) with hkind | hkind
  · rcases @record_reviewActivity fold _ hkind with hsame | hactivity
    · rw [hsame]
      exact steps_same rfl rfl rfl rfl
    · rw [hactivity]
      exact steps_reviewActivity hindexed
  · rcases @record_cases fold _ hkind with
      hsame | hretire | ⟨key, hkey⟩ | hrelease | hbeat | ⟨hactor, hlife⟩
    · rw [hsame]
      exact steps_same rfl rfl rfl rfl
    · rw [hretire]
      exact steps_retireLanes.of_soiled hkind
    · rw [hkey]
      exact steps_releaseByKey.of_soiled hkind
    · rw [hrelease]
      exact steps_release.of_soiled hkind
    · rw [hbeat]
      exact steps_heartbeat.of_soiled hkind
    · rcases @exists_landsAt fold.soiled event with ⟨own, hlands⟩
      rw [← hlife] at hlands
      have hhere : LandsAt fold event own (fold.record event) :=
        ⟨hlands.here, hlands.slices, hlands.absorbed, hlands.next, hlands.routes⟩
      exact steps_lifecycle hnumbered hhere hactor

theorem touch_dirty :
    (fold.touch event index change).reviewIndexDirty = fold.reviewIndexDirty := by
  unfold Fold.touch
  split
  · rfl
  · rfl

theorem indexed_record (hindexed : Indexed fold) : Indexed (fold.record event) := by
  rcases Decidable.em (event.kind = .reviewActivity) with hkind | hkind
  · rcases @record_reviewActivity fold _ hkind with hsame | hactivity
    · rw [hsame]
      exact hindexed
    · rw [hactivity]
      exact indexed_reviewActivity hindexed
  · have hdirty : (fold.record event).reviewIndexDirty = true := by
      rcases @record_cases fold _ hkind with
        hsame | hretire | ⟨key, hkey⟩ | hrelease | hbeat | ⟨_, hlife⟩
      · rw [hsame]
        rfl
      · rw [hretire]
        unfold Fold.retireLanes
        dsimp only
        split
        · rfl
        · rfl
      · rw [hkey]
        unfold Fold.releaseByKey
        dsimp only
        split
        · rfl
        · rw [touch_dirty]
          rfl
      · rw [hrelease]
        unfold Fold.release
        dsimp only
        split
        · rfl
        · split
          · rw [touch_dirty]
            rfl
          · rfl
      · rw [hbeat]
        unfold Fold.heartbeat
        dsimp only
        split
        · rfl
        · split
          · rw [touch_dirty]
            rfl
          · rfl
      · rw [hlife]
        unfold Fold.lifecycle
        dsimp only
        split
        · rfl
        · rfl
    intro hclean
    rw [hdirty] at hclean
    cases hclean

end Turns

end Tasks
end GraphHelm
