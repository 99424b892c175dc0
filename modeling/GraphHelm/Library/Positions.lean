import GraphHelm.Library.Json

/-!
# Positions

The places of a whole at which values stand, each under a name: what stands there,
and how to put something else there. Positions compose along the structure of the
whole, and what they promise is a field, so that a composite keeps its promises
without a proof of its own.
-/

namespace GraphHelm

/-- Named places of an `S` that hold an `A` each, the names from `I`. -/
structure Positions (S I A : Type) where
  entries : S -> List (I × A)
  put : (I -> A -> A) -> S -> S
  /-- Putting values in moves none of the places. -/
  entries_put : forall f s, entries (put f s) = (entries s).map fun e => (e.1, f e.1 e.2)
  /-- Nothing but what stands at the places is ever changed. -/
  put_congr : forall f g s, (forall e, e ∈ entries s -> f e.1 e.2 = g e.1 e.2) ->
    put f s = put g s
  put_put : forall f g s, put f (put g s) = put (fun i a => f i (g i a)) s

namespace Positions

variable {S T I A B K : Type}

theorem names_put (p : Positions S I A) (f : I -> A -> A) (s : S) :
    (p.entries (p.put f s)).map Prod.fst = (p.entries s).map Prod.fst := by
  rw [p.entries_put, List.map_map]
  rfl

/-!
## The whole and no place
-/

/-- The whole itself, under one name. -/
def here (i : I) : Positions A I A where
  entries a := [(i, a)]
  put f a := f i a
  entries_put _ _ := rfl
  put_congr _ _ a h := h (i, a) List.mem_cons_self
  put_put _ _ _ := rfl

def nowhere : Positions S I A where
  entries _ := []
  put _ s := s
  entries_put _ _ := rfl
  put_congr _ _ _ _ := rfl
  put_put _ _ _ := rfl

@[simp] theorem here_put (i : I) (f : I -> A -> A) (a : A) : (here i).put f a = f i a := rfl

@[simp] theorem nowhere_put (f : I -> A -> A) (s : S) :
    (nowhere : Positions S I A).put f s = s := rfl

/-!
## Inside a list
-/

section Lists

/-- The places inside the elements of a list, from the place numbered `start` on. -/
def entriesFrom (p : Nat -> Positions B I A) : Nat -> List B -> List (I × A)
  | _, [] => []
  | start, x :: rest => (p start).entries x ++ entriesFrom p (start + 1) rest

def putFrom (p : Nat -> Positions B I A) (f : I -> A -> A) : Nat -> List B -> List B
  | _, [] => []
  | start, x :: rest => (p start).put f x :: putFrom p f (start + 1) rest

/-- Inside every element of a list, by its index. -/
def listed (p : Nat -> Positions B I A) : Positions (List B) I A where
  entries := entriesFrom p 0
  put f := putFrom p f 0
  entries_put f xs := by
    generalize 0 = start
    induction xs generalizing start with
    | nil => rfl
    | cons x rest ih =>
        simp only [putFrom, entriesFrom, (p start).entries_put, ih, List.map_append]
  put_congr f g xs := by
    generalize 0 = start
    induction xs generalizing start with
    | nil =>
        intro _
        rfl
    | cons x rest ih =>
        intro h
        have hhead : (p start).put f x = (p start).put g x :=
          (p start).put_congr f g x fun e he => h e (List.mem_append_left _ he)
        have htail := ih (start + 1) fun e he => h e (List.mem_append_right _ he)
        simp only [putFrom, hhead, htail]
  put_put f g xs := by
    generalize 0 = start
    induction xs generalizing start with
    | nil => rfl
    | cons x rest ih =>
        simp only [putFrom, (p start).put_put, ih]

@[simp] theorem overFrom_length (p : Nat -> Positions B I A) (f : I -> A -> A) (start : Nat)
    (xs : List B) : (putFrom p f start xs).length = xs.length := by
  induction xs generalizing start with
  | nil => rfl
  | cons x rest ih =>
      simp only [putFrom, List.length_cons, ih]

def keyed (p : K -> Positions B I A) : Positions (List (K × B)) I A where
  entries members := members.flatMap fun m => (p m.1).entries m.2
  put f members := members.map fun m => (m.1, (p m.1).put f m.2)
  entries_put f members := by
    induction members with
    | nil => rfl
    | cons m rest ih =>
        simp only [List.map_cons, List.flatMap_cons, (p m.1).entries_put, ih, List.map_append]
  put_congr f g members h := by
    apply List.map_congr_left
    intro m hm
    have hvalue : (p m.1).put f m.2 = (p m.1).put g m.2 :=
      (p m.1).put_congr f g m.2 fun e he => h e (List.mem_flatMap.mpr ⟨m, hm, he⟩)
    rw [hvalue]
  put_put f g members := by
    rw [List.map_map]
    apply List.map_congr_left
    intro m _
    simp only [Function.comp_apply, (p m.1).put_put]

theorem lookup_keyed_put [BEq K] [LawfulBEq K] (p : K -> Positions B I A) (f : I -> A -> A)
    (members : List (K × B)) (key : K) :
    ((keyed p).put f members).lookup key = (members.lookup key).map ((p key).put f) := by
  induction members with
  | nil => rfl
  | cons m rest ih =>
      rcases m with ⟨other, value⟩
      show List.lookup key ((other, (p other).put f value) :: (keyed p).put f rest) = _
      rw [List.lookup_cons, List.lookup_cons]
      cases hkey : key == other with
      | true =>
          rw [eq_of_beq hkey]
          rfl
      | false =>
          exact ih

@[simp] theorem keys_keyed_put (p : K -> Positions B I A) (f : I -> A -> A)
    (members : List (K × B)) :
    ((keyed p).put f members).map Prod.fst = members.map Prod.fst := by
  show List.map Prod.fst (List.map _ members) = _
  rw [List.map_map]
  rfl

@[simp] theorem length_keyed_put (p : K -> Positions B I A) (f : I -> A -> A)
    (members : List (K × B)) : ((keyed p).put f members).length = members.length :=
  List.length_map _

end Lists

/-!
## Under one key
-/

section Keys

variable [DecidableEq K]

/-- Changes the value that `lookup` finds under a key. -/
def alter (key : K) (change : B -> B) : List (K × B) -> List (K × B)
  | [] => []
  | m :: rest => if m.1 = key then (m.1, change m.2) :: rest else m :: alter key change rest

@[simp] theorem length_alter (key : K) (change : B -> B) (members : List (K × B)) :
    (alter key change members).length = members.length := by
  induction members with
  | nil => rfl
  | cons m rest ih =>
      rw [alter]
      split
      · rfl
      · rw [List.length_cons, List.length_cons, ih]

@[simp] theorem lookup_alter (key : K) (change : B -> B) (members : List (K × B)) :
    (alter key change members).lookup key = (members.lookup key).map change := by
  induction members with
  | nil => rfl
  | cons m rest ih =>
      rcases m with ⟨other, value⟩
      rw [alter]
      split
      · next heq =>
          cases heq
          simp
      · next hne =>
          have hkey : (key == other) = false := by
            simpa using fun h : key = other => hne h.symm
          rw [List.lookup_cons, List.lookup_cons, hkey, ih]

theorem lookup_alter_of_ne {key other : K} (hne : other ≠ key) (change : B -> B)
    (members : List (K × B)) : (alter key change members).lookup other = members.lookup other := by
  induction members with
  | nil => rfl
  | cons m rest ih =>
      rcases m with ⟨first, value⟩
      rw [alter]
      split
      · next heq =>
          have hkey : (other == first) = false := by
            simpa [show first = key from heq] using hne
          rw [List.lookup_cons, List.lookup_cons, hkey]
      · rw [List.lookup_cons, List.lookup_cons, ih]

theorem alter_alter (key : K) (change again : B -> B) (members : List (K × B)) :
    alter key again (alter key change members) = alter key (again ∘ change) members := by
  induction members with
  | nil => rfl
  | cons m rest ih =>
      by_cases heq : m.1 = key
      · simp [alter, heq]
      · simp [alter, heq, ih]

theorem alter_comm {key other : K} (hne : other ≠ key) (change again : B -> B)
    (members : List (K × B)) :
    alter key change (alter other again members) =
      alter other again (alter key change members) := by
  induction members with
  | nil => rfl
  | cons m rest ih =>
      by_cases heq : m.1 = key
      · have hother : m.1 ≠ other := fun h => hne (h.symm.trans heq)
        simp [alter, heq, hne.symm]
      · by_cases hother : m.1 = other
        · simp [alter, hother, hne]
        · simp [alter, heq, hother, ih]

theorem alter_congr {key : K} {change again : B -> B} {members : List (K × B)}
    (h : forall value, members.lookup key = some value -> change value = again value) :
    alter key change members = alter key again members := by
  induction members with
  | nil => rfl
  | cons m rest ih =>
      rcases m with ⟨other, value⟩
      rw [alter, alter]
      split
      · next heq =>
          cases heq
          rw [h value (by simp)]
      · next hne =>
          have hkey : (key == other) = false := by
            simpa using fun h : key = other => hne h.symm
          rw [ih fun found hfound => h found (by rw [List.lookup_cons, hkey]; exact hfound)]

/-- Inside the value that `lookup` finds under a key. -/
def field (key : K) (p : Positions B I A) : Positions (List (K × B)) I A where
  entries members := ((members.lookup key).map p.entries).getD []
  put f := alter key (p.put f)
  entries_put f members := by
    rw [lookup_alter]
    cases members.lookup key with
    | none => rfl
    | some value =>
        exact p.entries_put f value
  put_congr f g members h := by
    apply alter_congr
    intro value hvalue
    apply p.put_congr
    intro e he
    apply h
    rw [hvalue]
    exact he
  put_put f g members := by
    rw [alter_alter]
    apply alter_congr
    intro value _
    exact p.put_put f g value

theorem field_put (key : K) (p : Positions B I A) (f : I -> A -> A) (members : List (K × B)) :
    (field key p).put f members = alter key (p.put f) members := rfl

end Keys

/-!
## Two at once
-/

/-- Neither looks at, nor changes, what the other does. -/
structure Apart (p q : Positions S I A) : Prop where
  left : forall f s, p.entries (q.put f s) = p.entries s
  right : forall f s, q.entries (p.put f s) = q.entries s
  commute : forall f g s, p.put f (q.put g s) = q.put g (p.put f s)

theorem field_apart [DecidableEq K] {key other : K} (hne : key ≠ other)
    (p q : Positions B I A) : Apart (field key p) (field other q) where
  left f members := by
    show ((List.lookup key (alter other (q.put f) members)).map p.entries).getD [] = _
    rw [lookup_alter_of_ne hne]
    rfl
  right f members := by
    show ((List.lookup other (alter key (p.put f) members)).map q.entries).getD [] = _
    rw [lookup_alter_of_ne hne.symm]
    rfl
  commute f g members := alter_comm hne.symm (p.put f) (q.put g) members

/-- The places of two that are apart, the ones of the first before the others. -/
def both (p q : Positions S I A) (h : Apart p q) : Positions S I A where
  entries s := p.entries s ++ q.entries s
  put f s := q.put f (p.put f s)
  entries_put f s := by
    rw [h.left, q.entries_put, h.right, p.entries_put, List.map_append]
  put_congr f g s hagree := by
    have hp : p.put f s = p.put g s :=
      p.put_congr f g s fun e he => hagree e (List.mem_append_left _ he)
    rw [hp]
    apply q.put_congr
    intro e he
    rw [h.right] at he
    exact hagree e (List.mem_append_right _ he)
  put_put f g s := by
    rw [h.commute, p.put_put, q.put_put]

theorem both_put {p q : Positions S I A} (h : Apart p q) (f : I -> A -> A) (s : S) :
    (both p q h).put f s = q.put f (p.put f s) := rfl

/-- Places that depend on a shape of the whole which they leave as it is. -/
def shaped (shape : S -> B) (p : B -> Positions S I A)
    (hshape : forall b f s, shape ((p b).put f s) = shape s) : Positions S I A where
  entries s := (p (shape s)).entries s
  put f s := (p (shape s)).put f s
  entries_put f s := by
    rw [hshape, (p (shape s)).entries_put]
  put_congr f g s h := (p (shape s)).put_congr f g s h
  put_put f g s := by
    rw [hshape, (p (shape s)).put_put]

theorem shaped_put {shape : S -> B} {p : B -> Positions S I A}
    (hshape : forall b f s, shape ((p b).put f s) = shape s) (f : I -> A -> A) (s : S) :
    (shaped shape p hshape).put f s = (p (shape s)).put f s := rfl

/-!
## Inside a JSON value
-/

def object (p : Positions (List (String × Json)) I A) : Positions Json I A where
  entries
    | .object members => p.entries members
    | _ => []
  put f
    | .object members => .object (p.put f members)
    | value => value
  entries_put f value := by
    cases value with
    | object members => exact p.entries_put f members
    | _ => rfl
  put_congr f g value h := by
    cases value with
    | object members => exact congrArg Json.object (p.put_congr f g members h)
    | _ => rfl
  put_put f g value := by
    cases value with
    | object members => exact congrArg Json.object (p.put_put f g members)
    | _ => rfl

theorem object_put (p : Positions (List (String × Json)) I A) (f : I -> A -> A)
    (members : List (String × Json)) :
    (object p).put f (.object members) = .object (p.put f members) := rfl

def array (p : Positions (List Json) I A) : Positions Json I A where
  entries
    | .array items => p.entries items
    | _ => []
  put f
    | .array items => .array (p.put f items)
    | value => value
  entries_put f value := by
    cases value with
    | array items => exact p.entries_put f items
    | _ => rfl
  put_congr f g value h := by
    cases value with
    | array items => exact congrArg Json.array (p.put_congr f g items h)
    | _ => rfl
  put_put f g value := by
    cases value with
    | array items => exact congrArg Json.array (p.put_put f g items)
    | _ => rfl

end Positions

end GraphHelm
