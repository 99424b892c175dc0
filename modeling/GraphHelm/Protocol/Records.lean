import GraphHelm.Protocol.Canonical

/-!
# Values told by their JSON

What a derived serializer writes for a struct: an object with a member for each
field, less the fields that are skipped.  Equal objects have equal members, in
whatever order they are held, so a struct is told by its object where each of its
fields is told by its member.
-/

namespace GraphHelm
namespace Canonical

variable {α : Type} {encode : α -> Json} {a b : α}

structure Told (encode : α -> Json) : Prop where
  distinct : forall a, KeysDistinct (encode a)
  eq_of_same : forall {a b}, Same (encode a) (encode b) -> a = b

/-!
## Scalars and arrays
-/

theorem told_string : Told Json.string where
  distinct := fun _ => .scalar rfl
  eq_of_same := by
    intro a b h
    cases h
    rfl

theorem told_natural : Told fun value : Nat => .number (.integer value) where
  distinct := fun _ => .scalar rfl
  eq_of_same := by
    intro a b h
    cases h
    rfl

theorem Same.forall₂ {as bs : List Json} (h : Same (.array as) (.array bs)) :
    List.Forall₂ Same as bs := by
  cases h with
  | scalar h => cases h
  | array hlength h =>
      refine List.forall₂_iff_get.mpr (And.intro hlength fun i hin hin' => ?_)
      exact h i _ _ (List.getElem?_eq_getElem hin) (List.getElem?_eq_getElem hin')

theorem Same.members {as bs : List (String × Json)} (h : Same (.object as) (.object bs)) :
    (forall name, name ∈ as.map Prod.fst <-> name ∈ bs.map Prod.fst) ∧
      forall name value other, (name, value) ∈ as -> (name, other) ∈ bs -> Same value other := by
  cases h with
  | scalar h => cases h
  | object hnames h => exact And.intro hnames h

theorem told_array (h : Told encode) : Told fun items : List α => .array (items.map encode) where
  distinct := by
    intro items
    refine .array fun item hmem => ?_
    rcases List.mem_map.mp hmem with ⟨value, _, rfl⟩
    exact h.distinct value
  eq_of_same := by
    intro as bs hsame
    have hvalues := List.forall₂_map_left_iff.mp (List.forall₂_map_right_iff.mp hsame.forall₂)
    exact List.forall₂_eq_eq_eq ▸ hvalues.imp fun _ _ => h.eq_of_same

/-!
## Structs
-/

/-- A field under its name, and the member it is written as, if it is written. -/
abbrev Field (α : Type) := String × (α -> Option Json)

/-- A field that is always written. -/
def field (name : String) (encode : α -> Json) : Field α := (name, fun a => some (encode a))

/-- `skip_serializing_if = "Option::is_none"`. -/
def optional (name : String) (encode : α -> Option Json) : Field α := (name, encode)

def members (fields : List (Field α)) (a : α) : List (String × Json) :=
  fields.filterMap fun field => (field.2 a).map fun value => (field.1, value)

def record (fields : List (Field α)) (a : α) : Json := .object (members fields a)

section Record

variable {fields : List (Field α)}

theorem mem_members {name : String} {value : Json} :
    (name, value) ∈ members fields a <->
      exists encode, (name, encode) ∈ fields ∧ encode a = some value := by
  unfold members
  rw [List.mem_filterMap]
  constructor
  · rintro ⟨⟨other, encode⟩, hmem, hvalue⟩
    rcases Option.map_eq_some_iff.mp hvalue with ⟨written, hwritten, heq⟩
    cases heq
    exact ⟨encode, hmem, hwritten⟩
  · rintro ⟨encode, hmem, hvalue⟩
    exact ⟨(name, encode), hmem, Option.map_eq_some_iff.mpr ⟨value, hvalue, rfl⟩⟩

theorem mem_names {name : String} :
    name ∈ (members fields a).map Prod.fst <->
      exists encode, (name, encode) ∈ fields ∧ (encode a).isSome = true := by
  rw [List.mem_map]
  constructor
  · rintro ⟨⟨_, value⟩, hmem, rfl⟩
    rcases mem_members.mp hmem with ⟨encode, hin, hvalue⟩
    exact ⟨encode, hin, Option.isSome_of_eq_some hvalue⟩
  · rintro ⟨encode, hin, hsome⟩
    rcases Option.isSome_iff_exists.mp hsome with ⟨value, hvalue⟩
    exact ⟨(name, value), mem_members.mpr ⟨encode, hin, hvalue⟩, rfl⟩

def Field.Written (field : Field α) (a : α) : Prop :=
  forall value, field.2 a = some value -> KeysDistinct value

/-- Two values have the same member written for a field, or leave it out alike. -/
def Field.Agrees (field : Field α) (a b : α) : Prop :=
  Option.Rel Same (field.2 a) (field.2 b)

theorem record_distinct (hnames : (fields.map Prod.fst).Nodup)
    (h : fields.Forall fun field => field.Written a) : KeysDistinct (record fields a) := by
  refine .object ?_ fun name value hmem => ?_
  · have hsublist : ((members fields a).map Prod.fst).Sublist (fields.map Prod.fst) := by
      unfold members
      clear h hnames
      induction fields with
      | nil => exact List.Sublist.refl _
      | cons field rest ih =>
          rw [List.filterMap_cons]
          cases field.2 a with
          | none => exact ih.cons _
          | some value => exact ih.cons_cons _
    exact hnames.sublist hsublist
  · rcases mem_members.mp hmem with ⟨encode, hin, hvalue⟩
    exact List.forall_iff_forall_mem.mp h (name, encode) hin value hvalue

theorem agrees_of_same (hnames : (fields.map Prod.fst).Nodup)
    (h : Same (record fields a) (record fields b)) :
    fields.Forall fun field => field.Agrees a b := by
  refine List.forall_iff_forall_mem.mpr fun field hmem => ?_
  have hparts := h.members
  have hpresent : forall {c : α}, field.1 ∈ (members fields c).map Prod.fst <->
      (field.2 c).isSome = true := by
    intro c
    rw [mem_names]
    constructor
    · rintro ⟨encode, hin, hsome⟩
      have heq := List.inj_on_of_nodup_map hnames hin hmem rfl
      exact heq ▸ hsome
    · intro hsome
      exact ⟨field.2, hmem, hsome⟩
  have hagree := (hpresent.symm.trans (hparts.left field.1)).trans hpresent
  unfold Field.Agrees
  cases hleft : field.2 a with
  | none =>
      rw [hleft] at hagree
      cases hright : field.2 b with
      | none => exact .none
      | some other =>
          rw [hright] at hagree
          exact absurd (hagree.mpr rfl) Bool.false_ne_true
  | some value =>
      rw [hleft] at hagree
      cases hright : field.2 b with
      | none =>
          rw [hright] at hagree
          exact absurd (hagree.mp rfl) Bool.false_ne_true
      | some other =>
          exact .some (hparts.right field.1 value other (mem_members.mpr ⟨field.2, hmem, hleft⟩)
            (mem_members.mpr ⟨field.2, hmem, hright⟩))

theorem told_record (hnames : (fields.map Prod.fst).Nodup)
    (hwritten : forall a, fields.Forall fun field => field.Written a)
    (htold : forall a b, (fields.Forall fun field => field.Agrees a b) -> a = b) :
    Told (record fields) where
  distinct := fun _ => record_distinct hnames (hwritten _)
  eq_of_same := fun h => htold _ _ (agrees_of_same hnames h)

end Record

section Fields

variable {β : Type} {name : String} {part : β -> α} {whole other : β}

theorem written_field (h : Told encode) : (field name fun b => encode (part b)).Written whole := by
  intro value heq
  rw [← Option.some.inj heq]
  exact h.distinct (part whole)

theorem same_of_agrees {encode : β -> Json} (h : (field name encode).Agrees whole other) :
    Same (encode whole) (encode other) := by
  cases h with
  | some hsame => exact hsame

theorem agrees_field (h : Told encode)
    (hagrees : (field name fun b => encode (part b)).Agrees whole other) : part whole = part other := by
  cases hagrees with
  | some hsame => exact h.eq_of_same hsame

theorem written_optional {part : β -> Option α} (h : Told encode) :
    (optional name fun b => (part b).map encode).Written whole := by
  intro value heq
  rcases Option.map_eq_some_iff.mp heq with ⟨a, _, rfl⟩
  exact h.distinct a

theorem agrees_optional {part : β -> Option α} (h : Told encode)
    (hagrees : (optional name fun b => (part b).map encode).Agrees whole other) :
    part whole = part other := by
  change Option.Rel Same ((part whole).map encode) ((part other).map encode) at hagrees
  cases hwhole : part whole with
  | none =>
      rw [hwhole] at hagrees
      cases hother : part other with
      | none => rfl
      | some b =>
          rw [hother] at hagrees
          cases hagrees
  | some a =>
      rw [hwhole] at hagrees
      cases hother : part other with
      | none =>
          rw [hother] at hagrees
          cases hagrees
      | some b =>
          rw [hother] at hagrees
          cases hagrees with
          | some hsame => rw [h.eq_of_same hsame]

end Fields

end Canonical
end GraphHelm
