import Mathlib.Algebra.BigOperators.Group.List.Basic
import Mathlib.Data.List.Nodup
import Mathlib.Algebra.Order.Ring.Int

/-!
# Ordered maps

Facts about `ExtTreeMap` with a lawful comparison that the library does not
state: lookups away from an updated key, two updates of the same key, and what
holds of every value a map was filled with.
-/

namespace GraphHelm
namespace OrderedMap

open Std

variable {κ ν : Type} [Ord κ] [TransOrd κ] [LawfulEqOrd κ]

variable {other : κ} {α : Type} {set : ExtTreeSet κ}

theorem getElem?_insert_of_ne {map : ExtTreeMap κ ν} {key : κ} {value : ν} (h : key ≠ other) :
    (map.insert key value)[other]? = map[other]? := by
  rw [ExtTreeMap.getElem?_insert, if_neg]
  intro hcompare
  exact h (LawfulEqOrd.eq_of_compare hcompare)

theorem getElem?_erase_of_ne {map : ExtTreeMap κ ν} {key : κ} (h : key ≠ other) :
    (map.erase key)[other]? = map[other]? := by
  rw [ExtTreeMap.getElem?_erase, if_neg]
  intro hcompare
  exact h (LawfulEqOrd.eq_of_compare hcompare)

@[simp] theorem insert_insert_self (map : ExtTreeMap κ ν) (key : κ) (first second : ν) :
    (map.insert key first).insert key second = map.insert key second := by
  apply ExtTreeMap.ext_getElem?
  intro other
  by_cases h : key = other
  · rw [h, ExtTreeMap.getElem?_insert_self, ExtTreeMap.getElem?_insert_self]
  · rw [getElem?_insert_of_ne h, getElem?_insert_of_ne h, getElem?_insert_of_ne h]

/-!
## Filling a map
-/

section Filling

variable {key : ν -> κ}

theorem getElem?_foldl_insert_of [DecidableEq κ] {key : α -> κ} {value : α -> ν} {xs : List α}
    {map : ExtTreeMap κ ν} {k : κ} :
    (xs.foldl (fun filled x => filled.insert (key x) (value x)) map)[k]? =
      ((xs.reverse.find? fun x => decide (key x = k)).map value).or map[k]? := by
  induction xs generalizing map with
  | nil => rfl
  | cons x rest ih =>
      rw [List.foldl_cons, ih, List.reverse_cons, List.find?_append, List.find?_singleton]
      cases rest.reverse.find? (fun x => decide (key x = k)) with
      | some found => rfl
      | none =>
          by_cases h : key x = k
          · simp [h]
          · simp [h, getElem?_insert_of_ne h]

theorem getElem?_foldl_insert [DecidableEq κ] {values : List ν} {map : ExtTreeMap κ ν} {k : κ} :
    (values.foldl (fun filled value => filled.insert (key value) value) map)[k]? =
      (values.reverse.find? fun value => decide (key value = k)).or map[k]? := by
  have hfilled : (values.foldl (fun filled value => filled.insert (key value) (id value)) map)[k]? =
      ((values.reverse.find? fun value => decide (key value = k)).map id).or map[k]? :=
    getElem?_foldl_insert_of
  rw [Option.map_id] at hfilled
  exact hfilled

/-- Of the values that are entered under one key the first stays. -/
theorem getElem?_foldl_insertIfNew {value : κ -> ν} {keys : List κ} {map : ExtTreeMap κ ν} {k : κ}
    [DecidableEq κ] :
    (keys.foldl (fun filled key => filled.insertIfNew key (value key)) map)[k]? =
      map[k]?.or (if k ∈ keys then some (value k) else none) := by
  induction keys generalizing map with
  | nil => simp
  | cons key rest ih =>
      rw [List.foldl_cons, ih, ExtTreeMap.getElem?_insertIfNew]
      by_cases heq : key = k
      · subst heq
        cases hget : map[key]? with
        | none =>
            have hnew : ¬ key ∈ map := by
              rw [← ExtTreeMap.isSome_getElem?_iff_mem, hget]
              simp
            simp [hnew]
        | some found =>
            have hold : key ∈ map := by
              rw [← ExtTreeMap.isSome_getElem?_iff_mem, hget]
              simp
            simp [hold]
      · have hcompare : ¬ (compare key k = .eq ∧ ¬ key ∈ map) := fun h =>
          heq (LawfulEqOrd.eq_of_compare h.left)
        rw [if_neg hcompare]
        simp [Ne.symm heq]

def insertSome (map : ExtTreeMap κ ν) (key : κ) : Option ν -> ExtTreeMap κ ν
  | some value => map.insert key value
  | none => map

theorem getElem?_foldl_insertSome {value : κ -> Option ν} {keys : List κ} {map : ExtTreeMap κ ν}
    {k : κ} [DecidableEq κ] :
    (keys.foldl (fun filled key => insertSome filled key (value key)) map)[k]? =
      (if k ∈ keys then value k else none).or map[k]? := by
  induction keys generalizing map with
  | nil =>
      rfl
  | cons key rest ih =>
      rw [List.foldl_cons, ih]
      rcases Decidable.em (k = key) with rfl | hne
      · rw [if_pos List.mem_cons_self]
        cases hvalue : value k with
        | none => simp [insertSome]
        | some found =>
            unfold insertSome
            rw [ExtTreeMap.getElem?_insert_self]
            split
            · rfl
            · rfl
      · have hmem : k ∈ key :: rest <-> k ∈ rest := by
          rw [List.mem_cons, or_iff_right hne]
        simp only [hmem]
        congr 1
        cases value key with
        | none => rfl
        | some found => exact getElem?_insert_of_ne (Ne.symm hne)

theorem foldl_insert_toList {map : ExtTreeMap κ ν}
    (hkeys : forall k value, map[k]? = some value -> key value = k) :
    (map.toList.map Prod.snd).foldl (fun filled value => filled.insert (key value) value) ∅ =
      map := by
  classical
  apply ExtTreeMap.ext_getElem?
  intro k
  rw [getElem?_foldl_insert]
  cases hfound : (map.toList.map Prod.snd).reverse.find? (fun value => decide (key value = k)) with
  | some value =>
      have hmem := List.mem_of_find?_eq_some hfound
      rw [List.mem_reverse] at hmem
      rcases List.mem_map.mp hmem with ⟨binding, hbinding, heq⟩
      have hget := ExtTreeMap.mem_toList_iff_getElem?_eq_some.mp hbinding
      have hnamed := List.find?_some hfound
      have hkey : binding.1 = k := by
        rw [← hkeys _ _ hget, heq]
        exact of_decide_eq_true hnamed
      rw [← hkey, hget, ← heq]
      rfl
  | none =>
      cases hget : map[k]? with
      | none =>
          rw [ExtTreeMap.getElem?_empty]
          rfl
      | some value =>
          have hmem : value ∈ (map.toList.map Prod.snd).reverse := by
            rw [List.mem_reverse]
            exact List.mem_map.mpr ⟨(k, value), ExtTreeMap.mem_toList_iff_getElem?_eq_some.mpr hget, rfl⟩
          have hnot := List.find?_eq_none.mp hfound value hmem
          exact absurd (decide_eq_true (hkeys k value hget)) hnot

end Filling

/-!
## Properties of every value
-/

def AllValues (P : ν -> Prop) (map : ExtTreeMap κ ν) : Prop :=
  forall (key : κ) (value : ν), map[key]? = some value -> P value

section AllValues

variable {P : ν -> Prop} {map : ExtTreeMap κ ν} {key : κ} {value : ν}

theorem AllValues.empty : AllValues P (∅ : ExtTreeMap κ ν) := by
  intro key value hget
  simp at hget

theorem AllValues.insert (h : AllValues P map) (hvalue : P value) :
    AllValues P (map.insert key value) := by
  intro other found hget
  by_cases heq : key = other
  · rw [heq, ExtTreeMap.getElem?_insert_self] at hget
    cases hget
    exact hvalue
  · rw [getElem?_insert_of_ne heq] at hget
    exact h other found hget

theorem AllValues.insertIfNew (h : AllValues P map) (hvalue : P value) :
    AllValues P (map.insertIfNew key value) := by
  intro other found hget
  rw [ExtTreeMap.getElem?_insertIfNew] at hget
  split at hget
  · cases hget
    exact hvalue
  · exact h other found hget

theorem AllValues.foldl {step : ExtTreeMap κ ν -> α -> ExtTreeMap κ ν}
    (hstep : forall map x, AllValues P map -> AllValues P (step map x)) {xs : List α}
    (h : AllValues P map) : AllValues P (xs.foldl step map) := by
  induction xs generalizing map with
  | nil =>
      exact h
  | cons x rest ih =>
      exact ih (hstep map x h)

end AllValues

/-!
## Sets
-/

theorem mem_insert {key : κ} :
    other ∈ set.insert key <-> other = key ∨ other ∈ set := by
  rw [ExtTreeSet.mem_insert, Std.compare_eq_iff_eq]
  exact or_congr_left eq_comm

theorem mem_erase {key : κ} :
    other ∈ set.erase key <-> other ≠ key ∧ other ∈ set := by
  rw [ExtTreeSet.mem_erase, ne_eq, Std.compare_eq_iff_eq]
  exact and_congr_left' (not_congr eq_comm)

theorem mem_foldl_insert {f : α -> κ} {xs : List α} {key : κ} :
    key ∈ xs.foldl (fun set x => set.insert (f x)) set <->
      key ∈ set ∨ exists x, x ∈ xs ∧ f x = key := by
  induction xs generalizing set with
  | nil =>
      simp
  | cons x rest ih =>
      rw [List.foldl_cons, ih, mem_insert]
      constructor
      · rintro ((heq | hmem) | ⟨y, hy, heq⟩)
        · exact Or.inr ⟨x, List.mem_cons_self, heq.symm⟩
        · exact Or.inl hmem
        · exact Or.inr ⟨y, List.mem_cons_of_mem x hy, heq⟩
      · rintro (hmem | ⟨y, hy, heq⟩)
        · exact Or.inl (Or.inr hmem)
        · rcases List.mem_cons.mp hy with hhead | htail
          · exact Or.inl (Or.inl (hhead ▸ heq.symm))
          · exact Or.inr ⟨y, htail, heq⟩

/-!
## Lists under keys
-/

theorem find?_key_eq_some {β : Type} [DecidableEq β] {key : α -> β} {items : List α}
    (h : (items.map key).Nodup) {name : β} {item : α} :
    (items.find? fun other => key other = name) = some item <->
      item ∈ items ∧ key item = name := by
  constructor
  · intro hfind
    exact ⟨List.mem_of_find?_eq_some hfind, by simpa using List.find?_some hfind⟩
  · intro hmem
    rcases hmem with ⟨hmem, hname⟩
    subst hname
    cases hfind : items.find? fun other => key other = key item with
    | none =>
        have hnone := List.find?_eq_none.mp hfind item hmem
        simp at hnone
    | some found =>
        have hname : key found = key item := by simpa using List.find?_some hfind
        rw [List.inj_on_of_nodup_map h (List.mem_of_find?_eq_some hfind) hmem hname]

theorem filter_key_eq_singleton {β : Type} [DecidableEq β] {key : α -> β} {items : List α}
    (h : (items.map key).Nodup) {item : α} (hmem : item ∈ items) :
    (items.filter fun other => decide (key other = key item)) = [item] := by
  induction items with
  | nil => cases hmem
  | cons first rest ih =>
      rw [List.map_cons, List.nodup_cons] at h
      rcases List.mem_cons.mp hmem with rfl | hrest
      · have hothers : (rest.filter fun other => decide (key other = key item)) = [] := by
          rw [List.filter_eq_nil_iff]
          intro other hother heq
          exact h.left (of_decide_eq_true heq ▸ List.mem_map_of_mem hother)
        rw [List.filter_cons, if_pos (decide_eq_true rfl), hothers]
      · have hother : ¬ key first = key item := by
          intro heq
          exact h.left (heq ▸ List.mem_map_of_mem hrest)
        rw [List.filter_cons, if_neg (by simp [hother]), ih h.right hrest]

/-!
## Sums
-/

section Totals

variable {map : ExtTreeMap κ Int} {key : κ} {value : Int} [DecidableEq κ]

def total (map : ExtTreeMap κ Int) : Int :=
  (map.toList.map Prod.snd).sum

theorem nodup_toList {ν : Type} {map : ExtTreeMap κ ν} : map.toList.Nodup := by
  refine List.Pairwise.imp ?_ map.distinct_keys_toList
  intro first second hdistinct heq
  rw [heq] at hdistinct
  exact hdistinct ReflCmp.compare_self

theorem perm_toList_insert {ν : Type} {map : ExtTreeMap κ ν} {value : ν} :
    (map.insert key value).toList.Perm
      ((key, value) :: map.toList.filter fun entry => entry.1 ≠ key) := by
  rw [List.perm_ext_iff_of_nodup nodup_toList]
  · rintro ⟨other, held⟩
    rw [ExtTreeMap.mem_toList_iff_getElem?_eq_some, List.mem_cons, List.mem_filter,
      ExtTreeMap.mem_toList_iff_getElem?_eq_some, Prod.mk.injEq, decide_eq_true_eq]
    rcases Decidable.em (other = key) with rfl | hne
    · rw [ExtTreeMap.getElem?_insert_self, Option.some.injEq]
      constructor
      · exact fun h => Or.inl (And.intro rfl h.symm)
      · rintro (⟨_, rfl⟩ | ⟨_, hother⟩)
        · rfl
        · exact absurd rfl hother
    · rw [getElem?_insert_of_ne (Ne.symm hne)]
      constructor
      · exact fun h => Or.inr (And.intro h hne)
      · rintro (⟨hsame, _⟩ | ⟨h, _⟩)
        · exact absurd hsame hne
        · exact h
  · refine List.nodup_cons.mpr (And.intro ?_ (nodup_toList.filter _))
    intro hmem
    exact of_decide_eq_true (List.mem_filter.mp hmem).right rfl

theorem total_insert_eq : total (map.insert key value) =
    value + ((map.toList.filter fun entry => entry.1 ≠ key).map Prod.snd).sum := by
  unfold total
  rw [(perm_toList_insert.map Prod.snd).sum_eq, List.map_cons, List.sum_cons]

/-- An update changes the sum by the new value less the one it replaces. -/
theorem total_insert :
    total (map.insert key value) = total map - map[key]?.getD 0 + value := by
  have hothers : total map = map[key]?.getD 0 +
      ((map.toList.filter fun entry => entry.1 ≠ key).map Prod.snd).sum := by
    cases hget : map[key]? with
    | some held =>
        have hsame : map.insert key held = map := by
          apply ExtTreeMap.ext_getElem?
          intro other
          rcases Decidable.em (key = other) with rfl | hne
          · rw [ExtTreeMap.getElem?_insert_self, hget]
          · rw [getElem?_insert_of_ne hne]
        calc
          total map = total (map.insert key held) := by rw [hsame]
          _ = _ := total_insert_eq
    | none =>
        have hall : (map.toList.filter fun entry => entry.1 ≠ key) = map.toList := by
          rw [List.filter_eq_self]
          rintro ⟨other, held⟩ hmem
          rw [ExtTreeMap.mem_toList_iff_getElem?_eq_some] at hmem
          refine decide_eq_true ?_
          rintro rfl
          cases hget.symm.trans hmem
        rw [hall, Option.getD_none, Int.zero_add]
        rfl
  rw [total_insert_eq, hothers]
  omega

end Totals
/-!
## Looking for an entry
-/

section Looking

theorem any_of_loop {κ ν : Type} (entries : List (κ × ν)) (p : κ -> ν -> Bool) :
    (Id.run do
      for entry in entries do
        if p entry.1 entry.2 then return true
      return false) = entries.any fun entry => p entry.1 entry.2 := by
  induction entries with
  | nil => rfl
  | cons entry rest ih =>
      rw [List.any_cons]
      cases hentry : p entry.1 entry.2 with
      | true => simp [hentry]
      | false =>
          rw [Bool.false_or, ← ih]
          simp [hentry]

theorem any_eq_any_toList (map : ExtTreeMap κ ν) (p : κ -> ν -> Bool) :
    map.any p = map.toList.any fun entry => p entry.1 entry.2 := by
  rcases map with ⟨inner⟩
  induction inner using ExtDTreeMap.inductionOn with
  | _ table =>
      rw [← any_of_loop]
      show _ = (Id.run do
        for entry in DTreeMap.Const.toList table do
          if p entry.1 entry.2 then return true
        return false)
      rw [← DTreeMap.Const.forInUncurried_eq_forIn_toList]
      rfl

theorem any_iff_exists_mem {p : κ -> Bool} :
    set.any p = true <-> exists key, key ∈ set ∧ p key = true := by
  unfold ExtTreeSet.any
  rw [any_eq_any_toList, List.any_eq_true]
  constructor
  · rintro ⟨⟨key, value⟩, hmem, hkey⟩
    have hlookup := ExtTreeMap.mem_toList_iff_getElem?_eq_some.mp hmem
    exact ⟨key, ExtTreeMap.mem_iff_isSome_getElem?.mpr (Option.isSome_of_eq_some hlookup), hkey⟩
  · rintro ⟨key, hmem, hkey⟩
    rcases Option.isSome_iff_exists.mp (ExtTreeMap.mem_iff_isSome_getElem?.mp hmem) with
      ⟨value, hlookup⟩
    exact ⟨(key, value), ExtTreeMap.mem_toList_iff_getElem?_eq_some.mpr hlookup, hkey⟩

end Looking

end OrderedMap
end GraphHelm
