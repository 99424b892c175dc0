import GraphHelm.Evolution.Migration
import GraphHelm.Library.Runs
import Mathlib.Data.Prod.Lex

/-!
# Remote references and migrations

A manifest is checked for remote references in the values its operations bring.
An operation keeps a document free of them exactly when it does not write the text
of one under `$ref`, whoever brought that text.
-/

namespace GraphHelm
namespace Evolution
namespace Migration

/-!
## Documents without remote references
-/

def IsLocal (value : Json) : Prop :=
  containsRemoteReference value = false

instance (value : Json) : Decidable (IsLocal value) :=
  inferInstanceAs (Decidable (_ = _))

def isRemoteText (value : Json) : Bool :=
  value.asString.any isRemoteReference

theorem itemsContainRemoteReference_eq_false {items : List Json} :
    itemsContainRemoteReference items = false <-> forall item, item ∈ items -> IsLocal item := by
  induction items with
  | nil =>
      exact iff_of_true rfl fun item hmem => absurd hmem List.not_mem_nil
  | cons first rest ih =>
      unfold itemsContainRemoteReference
      rw [Bool.or_eq_false_iff, ih, List.forall_mem_cons]
      rfl

theorem membersContainRemoteReference_eq_false {members : List (String × Json)} :
    membersContainRemoteReference members = false <->
      forall member, member ∈ members -> IsLocal member.2 := by
  induction members with
  | nil =>
      exact iff_of_true rfl fun member hmem => absurd hmem List.not_mem_nil
  | cons first rest ih =>
      unfold membersContainRemoteReference
      rw [Bool.or_eq_false_iff, ih, List.forall_mem_cons]
      rfl

theorem isLocal_array {items : List Json} :
    IsLocal (.array items) <-> forall item, item ∈ items -> IsLocal item :=
  itemsContainRemoteReference_eq_false

theorem isLocal_object {members : List (String × Json)} :
    IsLocal (.object members) <->
      (forall value, members.lookup "$ref" = some value -> isRemoteText value = false) ∧
        forall member, member ∈ members -> IsLocal member.2 := by
  change (((members.lookup "$ref").bind Json.asString).any isRemoteReference ||
    membersContainRemoteReference members) = false <-> _
  rw [Bool.or_eq_false_iff, membersContainRemoteReference_eq_false]
  refine and_congr_left fun _ => ?_
  cases members.lookup "$ref" with
  | none =>
      exact iff_of_true rfl fun value h => nomatch h
  | some value =>
      constructor
      · intro h other hother
        cases hother
        exact h
      · intro h
        exact h value rfl

/-!
## Members
-/

section Members

variable {key other : String} {value : Json} {members : List (String × Json)}

theorem lookup_insertMember_self : (insertMember key value members).lookup key = some value := by
  induction members with
  | nil =>
      exact List.lookup_cons_self
  | cons member rest ih =>
      unfold insertMember
      split
      · exact List.lookup_cons_self
      · rename_i hother
        split
        · exact List.lookup_cons_self
        · rw [List.lookup_cons, beq_false_of_ne (Ne.symm hother)]
          exact ih

theorem lookup_insertMember_of_ne (h : other ≠ key) :
    (insertMember key value members).lookup other = members.lookup other := by
  have hbeq : (other == key) = false := beq_false_of_ne h
  induction members with
  | nil =>
      unfold insertMember
      rw [List.lookup_cons, hbeq]
  | cons member rest ih =>
      unfold insertMember
      split
      · rename_i hsame
        rw [List.lookup_cons, List.lookup_cons, hsame, hbeq]
      · split
        · rw [List.lookup_cons, hbeq]
        · rw [List.lookup_cons, List.lookup_cons, ih]

theorem mem_insertMember_self : (key, value) ∈ insertMember key value members := by
  induction members with
  | nil =>
      exact List.mem_singleton_self _
  | cons member rest ih =>
      unfold insertMember
      split
      · exact List.mem_cons_self
      · split
        · exact List.mem_cons_self
        · exact List.mem_cons_of_mem _ ih

theorem eq_or_mem_of_mem_insertMember {member : String × Json}
    (h : member ∈ insertMember key value members) : member = (key, value) ∨ member ∈ members := by
  induction members with
  | nil =>
      exact Or.inl (List.mem_singleton.mp h)
  | cons first rest ih =>
      unfold insertMember at h
      split at h
      · rcases List.mem_cons.mp h with hnew | hold
        · exact Or.inl hnew
        · exact Or.inr (List.mem_cons_of_mem _ hold)
      · split at h
        · rcases List.mem_cons.mp h with hnew | hold
          · exact Or.inl hnew
          · exact Or.inr hold
        · rcases List.mem_cons.mp h with hfirst | hlater
          · exact Or.inr (hfirst ▸ List.mem_cons_self)
          · rcases ih hlater with hnew | hold
            · exact Or.inl hnew
            · exact Or.inr (List.mem_cons_of_mem _ hold)

theorem mem_of_lookup (h : members.lookup key = some value) : (key, value) ∈ members := by
  rcases List.lookup_eq_some_iff.mp h with ⟨before, after, heq, _⟩
  rw [heq]
  exact List.mem_append_right before List.mem_cons_self

/-- What is still found was found before. -/
theorem lookup_removeMember (h : (removeMember key members).lookup other = some value) :
    members.lookup other = some value := by
  have hne : other ≠ key := by
    have hmem := (List.mem_filter.mp (mem_of_lookup h)).right
    simpa using hmem
  unfold removeMember at h
  induction members with
  | nil =>
      exact h
  | cons member rest ih =>
      rw [List.lookup_cons]
      rw [List.filter_cons] at h
      split at h
      · rw [List.lookup_cons] at h
        split at h
        · exact h
        · exact ih h
      · rename_i hkey
        have hsame : member.1 = key := by simpa using hkey
        rw [hsame, beq_false_of_ne hne]
        exact ih h

end Members

section Places

variable {key : String} {value : Json} {members : List (String × Json)} {items : List Json}
  {index : Nat}

theorem isLocal_insertMember (h : IsLocal (.object members)) :
    IsLocal (.object (insertMember key value members)) <->
      IsLocal value ∧ (key = "$ref" -> isRemoteText value = false) := by
  rw [isLocal_object] at h ⊢
  constructor
  · rintro ⟨href, hmembers⟩
    refine And.intro (hmembers _ mem_insertMember_self) ?_
    intro hkey
    rw [← hkey] at href
    exact href value lookup_insertMember_self
  · rintro ⟨hvalue, hkey⟩
    constructor
    · intro other hother
      rcases Decidable.em (key = "$ref") with hsame | hne
      · rw [← hsame, lookup_insertMember_self] at hother
        cases hother
        exact hkey hsame
      · rw [lookup_insertMember_of_ne (Ne.symm hne)] at hother
        exact h.left other hother
    · intro member hmem
      rcases eq_or_mem_of_mem_insertMember hmem with rfl | hold
      · exact hvalue
      · exact h.right member hold

theorem isLocal_removeMember (h : IsLocal (.object members)) :
    IsLocal (.object (removeMember key members)) := by
  rw [isLocal_object] at h ⊢
  constructor
  · intro value hvalue
    exact h.left value (lookup_removeMember hvalue)
  · intro member hmem
    exact h.right member (List.mem_filter.mp hmem).left

theorem isLocal_set (h : IsLocal (.array items)) (hindex : index < items.length) :
    IsLocal (.array (items.set index value)) <-> IsLocal value := by
  rw [isLocal_array] at h ⊢
  constructor
  · intro hall
    exact hall value (List.mem_set hindex value)
  · intro hvalue item hmem
    rcases List.mem_or_eq_of_mem_set hmem with hold | rfl
    · exact h item hold
    · exact hvalue

theorem isLocal_insertIdx (h : IsLocal (.array items)) (hindex : index <= items.length) :
    IsLocal (.array (items.insertIdx index value)) <-> IsLocal value := by
  rw [isLocal_array] at h ⊢
  constructor
  · intro hall
    exact hall value ((List.mem_insertIdx hindex).mpr (Or.inl rfl))
  · intro hvalue item hmem
    rcases (List.mem_insertIdx hindex).mp hmem with rfl | hold
    · exact hvalue
    · exact h item hold

theorem isLocal_concat (h : IsLocal (.array items)) :
    IsLocal (.array (items ++ [value])) <-> IsLocal value := by
  rw [isLocal_array] at h ⊢
  constructor
  · intro hall
    exact hall value (List.mem_append_right items (List.mem_singleton_self value))
  · intro hvalue item hmem
    rcases List.mem_append.mp hmem with hold | hnew
    · exact h item hold
    · rw [List.mem_singleton.mp hnew]
      exact hvalue

theorem isLocal_eraseIdx (h : IsLocal (.array items)) :
    IsLocal (.array (items.eraseIdx index)) := by
  rw [isLocal_array] at h ⊢
  intro item hmem
  exact h item (List.mem_of_mem_eraseIdx hmem)

theorem IsLocal.of_lookup (h : IsLocal (.object members)) (hvalue : members.lookup key = some value) :
    IsLocal value :=
  (isLocal_object.mp h).right _ (mem_of_lookup hvalue)

theorem IsLocal.of_getElem? (h : IsLocal (.array items)) (hvalue : items[index]? = some value) :
    IsLocal value :=
  isLocal_array.mp h _ (List.mem_of_getElem? hvalue)

theorem ne_ref_of_arrayIndex {token : String} {allowEnd : Bool} {length : Nat}
    (h : arrayIndex token allowEnd length = .ok index) : token ≠ "$ref" := by
  rintro rfl
  cases h

theorem arrayIndex_lt {token : String} {length : Nat}
    (h : arrayIndex token false length = .ok index) : index < length := by
  unfold arrayIndex at h
  split at h
  · split at h
    · rename_i hguard
      cases h
      simp only [Bool.false_and, Bool.or_false, Bool.and_eq_true, decide_eq_true_eq] at hguard
      exact hguard.right
    · cases h
  · cases h

theorem arrayIndex_le {token : String} {length : Nat}
    (h : arrayIndex token true length = .ok index) : index <= length := by
  unfold arrayIndex at h
  split at h
  · split at h
    · rename_i hguard
      cases h
      simp only [Bool.true_and, Bool.and_eq_true, Bool.or_eq_true, decide_eq_true_eq] at hguard
      omega
    · cases h
  · cases h

end Places

/-!
## What a pointer names
-/

section Get

variable {token : String} {rest : List String} {members : List (String × Json)}
  {items : List Json} {child target : Json} {index : Nat}

theorem get_object (h : members.lookup token = some child) :
    get (token :: rest) (.object members) = get rest child := by
  rw [get, h]

theorem get_array (hindex : arrayIndex token false items.length = .ok index)
    (hitem : items[index]? = some child) :
    get (token :: rest) (.array items) = get rest child := by
  rw [get, hindex, Except.ok_bind, hitem]

theorem get_object_eq_ok (h : get (token :: rest) (.object members) = .ok target) :
    exists child, members.lookup token = some child ∧ get rest child = .ok target := by
  cases hlookup : members.lookup token with
  | none =>
      unfold get at h
      rw [hlookup] at h
      cases h
  | some child =>
      rw [get_object hlookup] at h
      exact ⟨child, rfl, h⟩

theorem get_array_eq_ok (h : get (token :: rest) (.array items) = .ok target) :
    exists index child, arrayIndex token false items.length = .ok index ∧
      items[index]? = some child ∧ get rest child = .ok target := by
  have hbind := h
  unfold get at hbind
  rcases bind_ok hbind with ⟨index, hindex, hrest⟩
  cases hitem : items[index]? with
  | none =>
      rw [hitem] at hrest
      cases hrest
  | some child =>
      rw [get_array hindex hitem] at h
      exact ⟨index, child, hindex, hitem, h⟩

end Get

/-!
## Changes below a pointer
-/

/-- Something written at a place leaves the document local. -/
def WritesLocal (tokens : List String) (value : Json) : Prop :=
  IsLocal value ∧ (tokens.getLast? = some "$ref" -> isRemoteText value = false)

/-- What a change below a pointer did, and what the document is then. -/
structure Updated {α : Type} (change : Json -> Except String (Json × α)) (tokens : List String)
    (document next : Json) (result : α) (target changed : Json) : Prop where
  found : get tokens document = .ok target
  wasLocal : IsLocal target
  changes : change target = .ok (changed, result)
  isLocal_iff : IsLocal next <-> WritesLocal tokens changed
  root : tokens = [] -> next = changed
  container : tokens ≠ [] -> isRemoteText next = false

theorem writesLocal_cons {token : String} {rest : List String} {child changed : Json}
    (hchild : IsLocal child <-> WritesLocal rest changed) (hroot : rest = [] -> child = changed)
    (hcontainer : rest ≠ [] -> isRemoteText child = false) :
    IsLocal child ∧ (token = "$ref" -> isRemoteText child = false) <->
      WritesLocal (token :: rest) changed := by
  cases rest with
  | nil =>
      rw [hroot rfl]
      unfold WritesLocal
      rw [List.getLast?_singleton, Option.some.injEq]
  | cons first later =>
      rw [hchild, hcontainer (List.cons_ne_nil first later)]
      unfold WritesLocal
      rw [List.getLast?_cons_cons]
      exact and_iff_left fun _ => rfl

variable {document next : Json} {tokens : List String} {operation : PatchOperation}

theorem updated_of_update {α : Type} {change : Json -> Except String (Json × α)} {result : α}
    (h : update change tokens document = .ok (next, result)) (hlocal : IsLocal document) :
    exists target changed, Updated change tokens document next result target changed := by
  induction tokens generalizing document next with
  | nil =>
      refine ⟨document, next, ?_⟩
      exact
        { found := rfl
          wasLocal := hlocal
          changes := h
          isLocal_iff := by simp [WritesLocal]
          root := fun _ => rfl
          container := fun hne => absurd rfl hne }
  | cons token rest ih =>
      cases document with
      | object members =>
          unfold update at h
          cases hlookup : members.lookup token with
          | none =>
              simp only [hlookup] at h
              cases h
          | some child =>
              simp only [hlookup] at h
              rcases bind_ok h with ⟨⟨child', result'⟩, hchild, h⟩
              cases h
              rcases ih hchild (hlocal.of_lookup hlookup) with ⟨target, changed, hupdated⟩
              refine ⟨target, changed, ?_⟩
              exact
                { found := (get_object hlookup).trans hupdated.found
                  wasLocal := hupdated.wasLocal
                  changes := hupdated.changes
                  isLocal_iff := (isLocal_insertMember hlocal).trans
                    (writesLocal_cons hupdated.isLocal_iff hupdated.root hupdated.container)
                  root := fun hempty => nomatch hempty
                  container := fun _ => rfl }
      | array items =>
          unfold update at h
          rcases bind_ok h with ⟨index, hindex, h⟩
          cases hitem : items[index]? with
          | none =>
              simp only [hitem] at h
              cases h
          | some child =>
              simp only [hitem] at h
              rcases bind_ok h with ⟨⟨child', result'⟩, hchild, h⟩
              cases h
              rcases ih hchild (hlocal.of_getElem? hitem) with ⟨target, changed, hupdated⟩
              have hne := ne_ref_of_arrayIndex hindex
              refine ⟨target, changed, ?_⟩
              exact
                { found := (get_array hindex hitem).trans hupdated.found
                  wasLocal := hupdated.wasLocal
                  changes := hupdated.changes
                  isLocal_iff := (isLocal_set hlocal (arrayIndex_lt hindex)).trans
                    ((and_iff_left fun hsame => absurd hsame hne).symm.trans
                      (writesLocal_cons hupdated.isLocal_iff hupdated.root hupdated.container))
                  root := fun hempty => nomatch hempty
                  container := fun _ => rfl }
      | null | bool value | number value | string value =>
          cases h

/-!
## Operations
-/

theorem splitLast_eq_some {parents : List String} {last : String}
    (h : splitLast tokens = some (last, parents)) : tokens = parents ++ [last] := by
  induction tokens generalizing parents with
  | nil =>
      cases h
  | cons token rest ih =>
      cases rest with
      | nil =>
          cases h
          rfl
      | cons next later =>
          rcases Option.map_eq_some_iff.mp h with ⟨⟨other, before⟩, hsplit, heq⟩
          cases heq
          rw [ih hsplit, List.cons_append]

theorem eq_nil_of_splitLast (h : splitLast tokens = none) :
    tokens = [] := by
  induction tokens with
  | nil =>
      rfl
  | cons token rest ih =>
      cases rest with
      | nil =>
          cases h
      | cons next later =>
          cases ih (Option.map_eq_none_iff.mp h)

theorem addTo_eq_ok {last : String} {value target changed : Json}
    (h : addTo last value target = .ok (changed, ())) (hlocal : IsLocal target) :
    (IsLocal changed <-> IsLocal value ∧ (last = "$ref" -> isRemoteText value = false)) ∧
      isRemoteText changed = false := by
  cases target with
  | object members =>
      cases h
      exact And.intro (isLocal_insertMember hlocal) rfl
  | array items =>
      rcases Decidable.em (last = "-") with hend | hindexed
      · have happend : addTo last value (.array items) = .ok (.array (items ++ [value]), ()) :=
          if_pos hend
        rw [happend] at h
        cases h
        refine And.intro ((isLocal_concat hlocal).trans (and_iff_left ?_).symm) rfl
        intro hsame
        rw [hend] at hsame
        exact absurd hsame (by decide)
      · have hinsert : addTo last value (.array items) =
            (arrayIndex last true items.length).bind fun index =>
              .ok (.array (items.insertIdx index value), ()) := if_neg hindexed
        rw [hinsert] at h
        rcases bind_ok h with ⟨index, hindex, h⟩
        cases h
        refine And.intro ((isLocal_insertIdx hlocal (arrayIndex_le hindex)).trans
          (and_iff_left ?_).symm) rfl
        exact fun hsame => absurd hsame (ne_ref_of_arrayIndex hindex)
  | null | bool other | number other | string other =>
      cases h

theorem isLocal_add_iff {value : Json} (h : add tokens value document = .ok next)
    (hlocal : IsLocal document) :
    IsLocal next <-> WritesLocal tokens value := by
  unfold add at h
  split at h
  · rename_i hroot
    cases h
    rw [eq_nil_of_splitLast hroot]
    simp [WritesLocal]
  · rename_i last parents hsplit
    rcases bind_ok h with ⟨⟨changed, _⟩, hupdate, h⟩
    cases h
    rcases updated_of_update hupdate hlocal with ⟨target, child, hupdated⟩
    rcases addTo_eq_ok hupdated.changes hupdated.wasLocal with ⟨hchild, htext⟩
    rw [hupdated.isLocal_iff, splitLast_eq_some hsplit]
    unfold WritesLocal
    rw [List.getLast?_concat, Option.some.injEq, hchild]
    exact and_iff_left fun _ => htext

theorem isLocal_replace_iff {value : Json} (h : replace tokens value document = .ok next)
    (hlocal : IsLocal document) :
    IsLocal next <-> WritesLocal tokens value := by
  rcases bind_ok h with ⟨⟨changed, _⟩, hupdate, h⟩
  cases h
  rcases updated_of_update hupdate hlocal with ⟨target, child, hupdated⟩
  have hchanges := hupdated.changes
  cases hchanges
  exact hupdated.isLocal_iff

theorem get_append {first second : List String} {target : Json}
    (h : get first document = .ok target) :
    get (first ++ second) document = get second target := by
  induction first generalizing document with
  | nil =>
      cases h
      rfl
  | cons token rest ih =>
      cases document with
      | object members =>
          rcases get_object_eq_ok h with ⟨child, hchild, hrest⟩
          rw [List.cons_append, get_object hchild, ih hrest]
      | array items =>
          rcases get_array_eq_ok h with ⟨index, child, hindex, hitem, hrest⟩
          rw [List.cons_append, get_array hindex hitem, ih hrest]
      | null | bool value | number value | string value =>
          cases h

theorem removeFrom_eq_ok {last : String} {target changed value : Json}
    (h : removeFrom last target = .ok (changed, value)) (hlocal : IsLocal target) :
    IsLocal changed ∧ isRemoteText changed = false ∧ IsLocal value ∧
      get [last] target = .ok value := by
  cases target with
  | object members =>
      unfold removeFrom at h
      cases hlookup : members.lookup last with
      | none =>
          simp only [hlookup] at h
          cases h
      | some held =>
          simp only [hlookup] at h
          cases h
          exact ⟨isLocal_removeMember hlocal, rfl, hlocal.of_lookup hlookup, get_object hlookup⟩
  | array items =>
      unfold removeFrom at h
      rcases bind_ok h with ⟨index, hindex, h⟩
      cases hitem : items[index]? with
      | none =>
          simp only [hitem] at h
          cases h
      | some held =>
          simp only [hitem] at h
          cases h
          exact ⟨isLocal_eraseIdx hlocal, rfl, hlocal.of_getElem? hitem, get_array hindex hitem⟩
  | null | bool other | number other | string other =>
      cases h

theorem remove_eq_ok {value : Json} (h : remove tokens document = .ok (next, value))
    (hlocal : IsLocal document) :
    IsLocal next ∧ IsLocal value ∧ get tokens document = .ok value := by
  unfold remove at h
  split at h
  · cases h
  · rename_i last parents hsplit
    rcases updated_of_update h hlocal with ⟨target, changed, hupdated⟩
    rcases removeFrom_eq_ok hupdated.changes hupdated.wasLocal with
      ⟨hchanged, htext, hvalue, hget⟩
    refine ⟨hupdated.isLocal_iff.mpr (And.intro hchanged fun _ => htext), hvalue, ?_⟩
    rw [splitLast_eq_some hsplit, get_append hupdated.found, hget]

theorem IsLocal.of_get {value : Json} (hlocal : IsLocal document)
    (h : get tokens document = .ok value) : IsLocal value := by
  induction tokens generalizing document with
  | nil =>
      cases h
      exact hlocal
  | cons token rest ih =>
      cases document with
      | object members =>
          rcases get_object_eq_ok h with ⟨child, hchild, hrest⟩
          exact ih (hlocal.of_lookup hchild) hrest
      | array items =>
          rcases get_array_eq_ok h with ⟨index, child, _, hitem, hrest⟩
          exact ih (hlocal.of_getElem? hitem) hrest
      | null | bool other | number other | string other =>
          cases h

def written (document : Json) : PatchOperation -> Option Json
  | .add _ value | .replace _ value => some value
  | .move «from» path =>
      if parsePointer «from» = parsePointer path then none
      else (parsePointer «from»).bind fun tokens => (get tokens document).toOption
  | .copy «from» _ => (parsePointer «from»).bind fun tokens => (get tokens document).toOption
  | .remove _ | .test _ _ => none

/-- The operation writes the text of a remote reference under `$ref`. -/
def writesRemoteReference (document : Json) (operation : PatchOperation) : Bool :=
  (parsePointer operation.path).bind List.getLast? = some "$ref" &&
    (written document operation).any isRemoteText

theorem pointerTokens_eq_ok {field pointer : String}
    (h : pointerTokens field pointer = .ok tokens) : parsePointer pointer = some tokens := by
  unfold pointerTokens at h
  split at h
  · rename_i parsed hparsed
    cases h
    exact hparsed
  · cases h

theorem under_eq_ok {α : Type} {field : String} {result : Except String α} {value : α}
    (h : under field result = .ok value) : result = .ok value := by
  unfold under at h
  split at h
  · cases h
    rfl
  · cases h

theorem writesLocal_iff {value : Json} (hpath : parsePointer operation.path = some tokens)
    (hwritten : written document operation = some value) (hvalue : IsLocal value) :
    WritesLocal tokens value <-> writesRemoteReference document operation = false := by
  unfold WritesLocal writesRemoteReference
  rw [hpath, hwritten, Option.bind_some, Option.any_some, Bool.and_eq_false_iff,
    decide_eq_false_iff_not]
  constructor
  · rintro ⟨_, hlast⟩
    rcases Decidable.em (tokens.getLast? = some "$ref") with href | hother
    · exact Or.inr (hlast href)
    · exact Or.inl hother
  · intro h
    refine And.intro hvalue ?_
    intro href
    rcases h with hother | htext
    · exact absurd href hother
    · exact htext

theorem writesRemoteReference_of_none (hwritten : written document operation = none) :
    writesRemoteReference document operation = false := by
  unfold writesRemoteReference
  rw [hwritten, Option.any_none, Bool.and_false]

theorem isLocal_applyOperation_iff
    (hvalue : forall value, operation.value? = some value -> IsLocal value)
    (hlocal : IsLocal document) (h : applyOperation document operation = .ok next) :
    IsLocal next <-> writesRemoteReference document operation = false := by
  cases operation with
  | add path value =>
      rcases bind_ok h with ⟨tokens, htokens, h⟩
      rw [isLocal_add_iff h hlocal]
      exact writesLocal_iff (pointerTokens_eq_ok htokens) rfl (hvalue value rfl)
  | remove path =>
      rcases bind_ok h with ⟨tokens, htokens, h⟩
      rcases bind_ok h with ⟨⟨changed, value⟩, hremove, h⟩
      cases h
      exact iff_of_true (remove_eq_ok hremove hlocal).left (writesRemoteReference_of_none rfl)
  | replace path value =>
      rcases bind_ok h with ⟨tokens, htokens, h⟩
      rw [isLocal_replace_iff h hlocal]
      exact writesLocal_iff (pointerTokens_eq_ok htokens) rfl (hvalue value rfl)
  | move «from» path =>
      rcases bind_ok h with ⟨fromTokens, hfrom, h⟩
      rcases bind_ok h with ⟨pathTokens, hpath, h⟩
      have hfrom := pointerTokens_eq_ok hfrom
      have hpath := pointerTokens_eq_ok hpath
      split at h
      · rename_i hsame
        rcases bind_ok h with ⟨_, _, h⟩
        cases h
        refine iff_of_true hlocal (writesRemoteReference_of_none ?_)
        exact if_pos (by rw [hfrom, hpath, hsame])
      · rename_i hdiffer
        split at h
        · cases h
        · rcases bind_ok h with ⟨⟨changed, value⟩, hremove, h⟩
          rcases remove_eq_ok (under_eq_ok hremove) hlocal with ⟨hchanged, hmoved, hget⟩
          rw [isLocal_add_iff h hchanged]
          have hne : parsePointer «from» ≠ parsePointer path := by
            rw [hfrom, hpath]
            exact fun heq => hdiffer (Option.some.inj heq)
          have hwritten : written document (.move «from» path) = some value := by
            refine (if_neg hne).trans ?_
            rw [hfrom, Option.bind_some, hget]
            rfl
          exact writesLocal_iff hpath hwritten hmoved
  | copy «from» path =>
      rcases bind_ok h with ⟨fromTokens, hfrom, h⟩
      rcases bind_ok h with ⟨value, hget, h⟩
      rcases bind_ok h with ⟨pathTokens, hpath, h⟩
      have hget := under_eq_ok hget
      have hwritten : written document (.copy «from» path) = some value := by
        change ((parsePointer «from»).bind fun tokens => (get tokens document).toOption) = _
        rw [pointerTokens_eq_ok hfrom, Option.bind_some, hget]
        rfl
      rw [isLocal_add_iff h hlocal]
      exact writesLocal_iff (pointerTokens_eq_ok hpath) hwritten (hlocal.of_get hget)
  | test path value =>
      rcases bind_ok h with ⟨tokens, htokens, h⟩
      rcases bind_ok h with ⟨found, hget, h⟩
      split at h
      · cases h
        exact iff_of_true hlocal (writesRemoteReference_of_none rfl)
      · cases h

/-!
## Whole migrations
-/

def patchStep (document : Json) (operation : PatchOperation) : Option Json :=
  (applyOperation document operation).toOption

section Migrations

variable {serializedSize : Json -> Option Nat}

theorem isLocal_of_validateValue {index : Nat} {value : Json}
    (h : validateValue serializedSize index value = .ok ()) : IsLocal value := by
  unfold validateValue at h
  split at h
  · cases h
  · split at h
    · cases h
    · rename_i hremote
      exact Bool.eq_false_iff.mpr hremote

theorem validateOperations_eq_ok {index : Nat} {operations : List PatchOperation}
    (h : validateOperations serializedSize index operations = .ok ())
    (hmem : operation ∈ operations) {value : Json} (hvalue : operation.value? = some value) :
    IsLocal value := by
  induction operations generalizing index with
  | nil =>
      exact absurd hmem List.not_mem_nil
  | cons first rest ih =>
      rcases bind_ok h with ⟨_, hfirst, hrest⟩
      rcases List.mem_cons.mp hmem with rfl | hlater
      · rcases bind_ok hfirst with ⟨_, _, hfirst⟩
        rcases bind_ok hfirst with ⟨_, _, hfirst⟩
        rw [hvalue] at hfirst
        exact isLocal_of_validateValue hfirst
      · exact ih hrest hlater

theorem validateMigrationManifest_eq_ok [LinearOrder Version] {manifest : MigrationManifest}
    {sourceCatalog : Option MigrationCatalog} {targetCatalog : MigrationCatalog}
    (h : validateMigrationManifest serializedSize manifest sourceCatalog targetCatalog = .ok ())
    (hmem : operation ∈ manifest.operations) {value : Json}
    (hvalue : operation.value? = some value) : IsLocal value := by
  unfold validateMigrationManifest at h
  split at h
  · cases h
  · split at h
    · cases h
    · split at h
      · cases h
      · rcases bind_ok h with ⟨_, _, h⟩
        rcases bind_ok h with ⟨_, _, h⟩
        rcases bind_ok h with ⟨_, _, h⟩
        exact validateOperations_eq_ok h hmem hvalue

theorem run_of_applySteps {index : Nat} {operations : List PatchOperation} {candidate : Json}
    (h : applySteps serializedSize index operations document = .ok candidate) :
    run patchStep document operations = some candidate := by
  induction operations generalizing index document with
  | nil =>
      cases h
      rfl
  | cons operation rest ih =>
      rcases bind_ok h with ⟨next, hstep, hrest⟩
      refine run_cons_eq_some.mpr ⟨next, ?_, ih hrest⟩
      unfold applyStep at hstep
      split at hstep
      · cases hstep
      · rename_i changed hchanged
        have hnext : next = changed := by
          split at hstep
          · rcases bind_ok hstep with ⟨_, _, hstep⟩
            cases hstep
            rfl
          · cases hstep
            rfl
        unfold patchStep
        rw [hchanged, hnext]
        rfl

theorem applyMigration_eq_ok [LinearOrder Version] {result : Json} {manifest : MigrationManifest}
    {catalogs : MigrationCatalogs} {validateSource validateTarget : Json -> List Diagnostic}
    (h : applyMigration serializedSize document manifest catalogs validateSource validateTarget =
      .ok result) :
    validateMigrationManifest serializedSize manifest (some catalogs.source) catalogs.target =
        .ok () ∧
      run patchStep document manifest.operations = some result := by
  rcases bind_ok h with ⟨_, hmanifest, h⟩
  rcases bind_ok h with ⟨_, _, h⟩
  rcases bind_ok h with ⟨_, _, h⟩
  rcases bind_ok h with ⟨candidate, hsteps, h⟩
  rcases bind_ok h with ⟨_, _, h⟩
  cases h
  exact And.intro hmanifest (run_of_applySteps hsteps)

/--
Every document an accepted migration passes through is local exactly when no
operation of it writes the text of a remote reference under `$ref`; the document it
results in is then local.
-/
theorem migration_local_iff [LinearOrder Version] {document result : Json}
    {manifest : MigrationManifest} {catalogs : MigrationCatalogs}
    {validateSource validateTarget : Json -> List Diagnostic}
    (hlocal : containsRemoteReference document = false)
    (h : applyMigration serializedSize document manifest catalogs validateSource validateTarget =
      .ok result) :
    (Throughout patchStep (fun document => containsRemoteReference document = false) document
        manifest.operations <->
      StepsMeet patchStep
        (fun document operation => writesRemoteReference document operation = false) document
        manifest.operations) ∧
      (StepsMeet patchStep
          (fun document operation => writesRemoteReference document operation = false) document
          manifest.operations ->
        containsRemoteReference result = false) := by
  rcases applyMigration_eq_ok h with ⟨hmanifest, hrun⟩
  have hiff := @throughout_iff_stepsMeet_of_mem _ _ patchStep
    (fun document => containsRemoteReference document = false)
    (fun document operation => writesRemoteReference document operation = false) document result
    manifest.operations
    (fun hmem hbefore hstep =>
      isLocal_applyOperation_iff
        (fun value hvalue => validateMigrationManifest_eq_ok hmanifest hmem hvalue) hbefore
        (Except.toOption_eq_some hstep))
    hlocal hrun
  exact And.intro hiff fun hmeet => (hiff.mpr hmeet).last hrun

end Migrations

namespace Sample

@[reducible] def stableOrder : LinearOrder Version :=
  LinearOrder.lift'
    (fun version => toLex (version.major, toLex (version.minor, toLex (version.patch,
      toLex (version.pre, version.build)))))
    (by
      rintro ⟨a, b, c, d, e⟩ ⟨a', b', c', d', e'⟩ h
      simpa using h)

def digest : SchemaDigest :=
  { text := "sha256:0000000000000000000000000000000000000000000000000000000000000000"
    valid := by decide }

def entry (major : Nat) : MigrationEntry :=
  { id := "graph", documentVersion := Version.new major 0 0, sha256 := digest }

def catalogs : MigrationCatalogs :=
  { source := (∅ : MigrationCatalog).insert "graph" (entry 1)
    target := (∅ : MigrationCatalog).insert "graph" (entry 2) }

def manifest (operations : List PatchOperation) : MigrationManifest :=
  { formatVersion := 1
    schema := "graph"
    fromVersion := Version.new 1 0 0
    toVersion := Version.new 2 0 0
    sourceSchemaHash := digest
    targetSchemaHash := digest
    operations := operations }

def migrate (document : Json) (operations : List PatchOperation) : Except Diagnostic Json :=
  @applyMigration (fun _ => some 0) stableOrder document (manifest operations) catalogs
    (fun _ => []) (fun _ => [])

/-- The text of a remote reference is moved to `$ref`. -/
def assembling : List PatchOperation :=
  [.add "/a" (.string "https://example.com/schema"), .move "/a" "/$ref"]

end Sample

theorem migration_local_of_a_local_move : exists result,
    Sample.migrate (.object []) [.add "/a" (.string "#/b"), .move "/a" "/$ref"] = .ok result ∧
      containsRemoteReference result = false := by
  have happly : Sample.migrate (.object []) [.add "/a" (.string "#/b"), .move "/a" "/$ref"] =
      .ok (.object [("$ref", .string "#/b")]) := by decide +kernel
  have hmeet : StepsMeet patchStep
      (fun document operation => writesRemoteReference document operation = false)
      (.object []) [.add "/a" (.string "#/b"), .move "/a" "/$ref"] := by decide +kernel
  exact ⟨_, happly, (@migration_local_iff _ Sample.stableOrder _ _ _ _ _ _ (by decide +kernel)
    happly).right hmeet⟩

/-- An accepted migration assembles a remote reference out of two harmless operations. -/
theorem migration_assembles_a_remote_reference :
    containsRemoteReference (.object []) = false ∧
      exists result, Sample.migrate (.object []) Sample.assembling = .ok result ∧
        containsRemoteReference result = true := by
  have happly : Sample.migrate (.object []) Sample.assembling =
      .ok (.object [("$ref", .string "https://example.com/schema")]) := by decide +kernel
  exact ⟨rfl, _, happly, by decide +kernel⟩

end Migration
end Evolution
end GraphHelm
