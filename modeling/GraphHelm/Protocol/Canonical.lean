import GraphHelm.Library.Checks
import GraphHelm.Library.Joined
import GraphHelm.Library.Json
import Mathlib.Data.List.Sort

/-!
# Canonical JSON

`core/protocols/src/canonical.rs`: the one writer the persisted digests are taken
over.  The members of an object are written in the order of their keys, whatever
order they have in memory, and a value that sits deeper than the limit is refused.
-/

namespace GraphHelm
namespace Canonical

open GraphHelm.Joined

/-!
## Scalars
-/

def isScalar : Json -> Bool
  | .array _ | .object _ => false
  | _ => true

/-- What a number is spelled with. -/
def isNumeric (c : Char) : Bool :=
  c.isDigit || c = '-' || c = '+' || c = '.' || c = 'e' || c = 'E'

/-- How `serde_json` spells a finite float: never like an integer. -/
structure FloatText where
  chars : Rat -> List Char
  injective : forall {a b : Rat}, chars a = chars b -> a = b
  numeric : forall (value : Rat) (c : Char), c ∈ chars value -> isNumeric c = true
  fractional : forall value : Rat, exists c, c ∈ chars value ∧ (c = '.' ∨ c = 'e')

def integerChars : Int -> List Char
  | .ofNat value => Nat.toDigits 10 value
  | .negSucc value => '-' :: Nat.toDigits 10 (value + 1)

def numberChars (floats : FloatText) : JsonNumber -> List Char
  | .integer value => integerChars value
  | .float value => floats.chars value

def scalar (floats : FloatText) : Json -> List Char
  | .null => ['n', 'u', 'l', 'l']
  | .bool true => ['t', 'r', 'u', 'e']
  | .bool false => ['f', 'a', 'l', 's', 'e']
  | .number value => numberChars floats value
  | .string value => quoted value
  | .array _ | .object _ => []

/-!
## The writer
-/

inductive CanonicalDepthExceeded where
  | canonicalDepthExceeded
deriving DecidableEq

/-- No limit at all stands for `usize::MAX`, which no nesting in memory reaches. -/
def exceeds (maxDepth : Option Nat) (depth : Nat) : Bool :=
  maxDepth.any fun limit => decide (limit < depth)

def memberText (entry : String × List Char) : List Char :=
  quoted entry.1 ++ ':' :: entry.2

/-- The members in the order of their keys. -/
def sortMembers {α : Type} (members : List (String × α)) : List (String × α) :=
  members.insertionSort fun left right => left.1 <= right.1

mutual

/-- `write`; the order of an object's members is that of the keys, written or not. -/
def write (floats : FloatText) (maxDepth : Option Nat) :
    Json -> Nat -> Except CanonicalDepthExceeded (List Char)
  | .object members, depth =>
      if exceeds maxDepth depth then .error .canonicalDepthExceeded
      else do
        let written <- writeMembers floats maxDepth members (depth + 1)
        .ok ('{' :: (joined ',' ((sortMembers written).map memberText) ++ ['}']))
  | .array items, depth =>
      if exceeds maxDepth depth then .error .canonicalDepthExceeded
      else do
        let written <- writeItems floats maxDepth items (depth + 1)
        .ok ('[' :: (joined ',' written ++ [']']))
  | value, depth =>
      if exceeds maxDepth depth then .error .canonicalDepthExceeded
      else .ok (scalar floats value)

def writeItems (floats : FloatText) (maxDepth : Option Nat) :
    List Json -> Nat -> Except CanonicalDepthExceeded (List (List Char))
  | [], _ => .ok []
  | item :: rest, depth => do
      let written <- write floats maxDepth item depth
      let later <- writeItems floats maxDepth rest depth
      .ok (written :: later)

def writeMembers (floats : FloatText) (maxDepth : Option Nat) :
    List (String × Json) -> Nat -> Except CanonicalDepthExceeded (List (String × List Char))
  | [], _ => .ok []
  | (key, nested) :: rest, depth => do
      let written <- write floats maxDepth nested depth
      let later <- writeMembers floats maxDepth rest depth
      .ok ((key, written) :: later)

end

def bytesOf (text : List Char) : Bytes :=
  utf8 (String.ofList text)

def canonicalBytes (floats : FloatText) (value : Json) : Bytes :=
  match write floats none value 0 with
  | .ok text => bytesOf text
  -- `expect("no depth limit")`
  | .error _ => []

def canonicalBytesWithin (floats : FloatText) (value : Json) (maxDepth : Nat) :
    Except CanonicalDepthExceeded Bytes :=
  (write floats (some maxDepth) value 0).map bytesOf

/-!
## What the writer is for
-/

/-- Two values are equal when their objects are taken as finite maps. -/
inductive Same : Json -> Json -> Prop where
  | scalar {value : Json} (h : isScalar value = true) : Same value value
  | array {as bs : List Json} (hlength : as.length = bs.length)
      (h : forall (i : Nat) (a b : Json), as[i]? = some a -> bs[i]? = some b -> Same a b) :
      Same (.array as) (.array bs)
  | object {as bs : List (String × Json)}
      (hkeys : forall key, key ∈ as.map Prod.fst <-> key ∈ bs.map Prod.fst)
      (h : forall (key : String) (a b : Json), (key, a) ∈ as -> (key, b) ∈ bs -> Same a b) :
      Same (.object as) (.object bs)

inductive KeysDistinct : Json -> Prop where
  | scalar {value : Json} (h : isScalar value = true) : KeysDistinct value
  | array {items : List Json} (h : forall item, item ∈ items -> KeysDistinct item) :
      KeysDistinct (.array items)
  | object {members : List (String × Json)} (hkeys : (members.map Prod.fst).Nodup)
      (h : forall (key : String) (value : Json), (key, value) ∈ members -> KeysDistinct value) :
      KeysDistinct (.object members)

/-- A value as `serde_json` holds it: a map has each of its keys once. -/
structure Document where
  value : Json
  distinct : KeysDistinct value

/-- `nested` sits `depth` levels below a value: an item or a member sits one below its container. -/
inductive SitsAt : Json -> Nat -> Json -> Prop where
  | here (value : Json) : SitsAt value 0 value
  | item {items : List Json} {item nested : Json} {depth : Nat} (hmem : item ∈ items)
      (h : SitsAt item depth nested) : SitsAt (.array items) (depth + 1) nested
  | member {members : List (String × Json)} {key : String} {value nested : Json} {depth : Nat}
      (hmem : (key, value) ∈ members) (h : SitsAt value depth nested) :
      SitsAt (.object members) (depth + 1) nested

/-- A property of every value follows from what containers pass on to themselves. -/
theorem json_induction {P : Json -> Prop} (hscalar : forall value, isScalar value = true -> P value)
    (harray : forall items, (forall item, item ∈ items -> P item) -> P (.array items))
    (hobject : forall members, (forall entry, entry ∈ members -> P entry.2) ->
      P (.object members)) (value : Json) : P value :=
  @Json.rec P (fun items => forall item, item ∈ items -> P item)
    (fun members => forall entry, entry ∈ members -> P entry.2) (fun entry => P entry.2)
    (hscalar .null rfl) (fun value => hscalar (.bool value) rfl)
    (fun value => hscalar (.number value) rfl) (fun value => hscalar (.string value) rfl)
    harray hobject (fun _ hmem => absurd hmem List.not_mem_nil)
    (fun _ _ hfirst hrest item hmem =>
      (List.mem_cons.mp hmem).elim (fun heq => heq ▸ hfirst) (hrest item))
    (fun _ hmem => absurd hmem List.not_mem_nil)
    (fun _ _ hfirst hrest entry hmem =>
      (List.mem_cons.mp hmem).elim (fun heq => heq ▸ hfirst) (hrest entry))
    (fun _ _ hvalue => hvalue) value

/-!
## The text of a value, whatever the limit
-/

mutual

/-- What is written when nothing is too deep. -/
def text (floats : FloatText) : Json -> List Char
  | .object members =>
      '{' :: (joined ',' ((sortMembers (memberTexts floats members)).map memberText) ++ ['}'])
  | .array items => '[' :: (joined ',' (itemTexts floats items) ++ [']'])
  | value => scalar floats value

def itemTexts (floats : FloatText) : List Json -> List (List Char)
  | [] => []
  | item :: rest => text floats item :: itemTexts floats rest

def memberTexts (floats : FloatText) : List (String × Json) -> List (String × List Char)
  | [] => []
  | (key, nested) :: rest => (key, text floats nested) :: memberTexts floats rest

end

section Written

variable {floats : FloatText} {maxDepth : Option Nat}

theorem itemTexts_eq (items : List Json) : itemTexts floats items = items.map (text floats) := by
  induction items with
  | nil => rfl
  | cons item rest ih => exact congrArg (text floats item :: ·) ih

theorem memberTexts_eq (members : List (String × Json)) :
    memberTexts floats members = members.map fun entry => (entry.1, text floats entry.2) := by
  induction members with
  | nil => rfl
  | cons entry rest ih => exact congrArg ((entry.1, text floats entry.2) :: ·) ih

variable {value : Json} {depth : Nat}

theorem text_of_scalar (h : isScalar value = true) :
    text floats value = scalar floats value := by
  cases value <;> first
    | rfl
    | cases h

theorem write_of_scalar (h : isScalar value = true) (depth : Nat) :
    write floats maxDepth value depth =
      if exceeds maxDepth depth then .error .canonicalDepthExceeded
      else .ok (scalar floats value) := by
  cases value <;> first
    | rfl
    | cases h

def FitsAt (maxDepth : Option Nat) (value : Json) (depth : Nat) : Prop :=
  forall (below : Nat) (nested : Json), SitsAt value below nested ->
    exceeds maxDepth (depth + below) = false

theorem fitsAt_of_scalar (h : isScalar value = true) :
    FitsAt maxDepth value depth <-> exceeds maxDepth depth = false := by
  constructor
  · intro hfits
    exact hfits 0 value (.here value)
  · intro hdepth below nested hsits
    cases hsits with
    | here => exact hdepth
    | item hmem hnested => cases h
    | member hmem hnested => cases h

theorem fitsAt_array {items : List Json} :
    FitsAt maxDepth (.array items) depth <->
      exceeds maxDepth depth = false ∧
        forall item, item ∈ items -> FitsAt maxDepth item (depth + 1) := by
  constructor
  · intro hfits
    refine And.intro (hfits 0 _ (.here _)) fun item hmem below nested hsits => ?_
    rw [Nat.add_assoc, Nat.add_comm 1 below]
    exact hfits (below + 1) nested (.item hmem hsits)
  · rintro ⟨hdepth, hitems⟩ below nested hsits
    cases hsits with
    | here => exact hdepth
    | @item _ item _ below hmem hnested =>
        have hfits := hitems item hmem below nested hnested
        rwa [Nat.add_assoc, Nat.add_comm 1 below] at hfits

theorem fitsAt_object {members : List (String × Json)} :
    FitsAt maxDepth (.object members) depth <->
      exceeds maxDepth depth = false ∧
        forall entry, entry ∈ members -> FitsAt maxDepth entry.2 (depth + 1) := by
  constructor
  · intro hfits
    refine And.intro (hfits 0 _ (.here _)) fun entry hmem below nested hsits => ?_
    rw [Nat.add_assoc, Nat.add_comm 1 below]
    exact hfits (below + 1) nested (.member hmem hsits)
  · rintro ⟨hdepth, hmembers⟩ below nested hsits
    cases hsits with
    | here => exact hdepth
    | @member _ key value _ below hmem hnested =>
        have hfits := hmembers (key, value) hmem below nested hnested
        rwa [Nat.add_assoc, Nat.add_comm 1 below] at hfits

def Answers (floats : FloatText) (maxDepth : Option Nat) (value : Json) : Prop :=
  forall (depth : Nat) (written : List Char),
    write floats maxDepth value depth = .ok written <->
      FitsAt maxDepth value depth ∧ text floats value = written

theorem writeItems_eq_ok {items : List Json} {written : List (List Char)}
    (h : forall item, item ∈ items -> Answers floats maxDepth item) :
    writeItems floats maxDepth items depth = .ok written <->
      (forall item, item ∈ items -> FitsAt maxDepth item depth) ∧
        itemTexts floats items = written := by
  induction items generalizing written with
  | nil =>
      show Except.ok [] = Except.ok written <-> _
      rw [Except.ok.injEq]
      exact (and_iff_right fun item hmem => absurd hmem List.not_mem_nil).symm
  | cons item rest ih =>
      have hrest := fun {written} =>
        @ih written fun other hmem => h other (List.mem_cons_of_mem item hmem)
      show (write floats maxDepth item depth).bind (fun text =>
        (writeItems floats maxDepth rest depth).bind fun later => .ok (text :: later)) = _ <-> _
      rw [List.forall_mem_cons]
      constructor
      · intro heq
        rcases bind_ok heq with ⟨first, hfirst, heq⟩
        rcases bind_ok heq with ⟨later, hlater, heq⟩
        rcases (h item List.mem_cons_self depth first).mp hfirst with ⟨hfits, rfl⟩
        rcases hrest.mp hlater with ⟨hothers, rfl⟩
        exact And.intro (And.intro hfits hothers) (Except.ok.inj heq)
      · rintro ⟨⟨hfits, hothers⟩, rfl⟩
        refine Except.bind_eq_ok.mpr ⟨_, (h item List.mem_cons_self depth _).mpr ⟨hfits, rfl⟩, ?_⟩
        exact Except.bind_eq_ok.mpr ⟨_, hrest.mpr ⟨hothers, rfl⟩, rfl⟩

theorem writeMembers_eq_ok {members : List (String × Json)} {written : List (String × List Char)}
    (h : forall entry, entry ∈ members -> Answers floats maxDepth entry.2) :
    writeMembers floats maxDepth members depth = .ok written <->
      (forall entry, entry ∈ members -> FitsAt maxDepth entry.2 depth) ∧
        memberTexts floats members = written := by
  induction members generalizing written with
  | nil =>
      show Except.ok [] = Except.ok written <-> _
      rw [Except.ok.injEq]
      exact (and_iff_right fun entry hmem => absurd hmem List.not_mem_nil).symm
  | cons entry rest ih =>
      have hrest := fun {written} =>
        @ih written fun other hmem => h other (List.mem_cons_of_mem entry hmem)
      show (write floats maxDepth entry.2 depth).bind (fun text =>
        (writeMembers floats maxDepth rest depth).bind fun later =>
          .ok ((entry.1, text) :: later)) = _ <-> _
      rw [List.forall_mem_cons]
      constructor
      · intro heq
        rcases bind_ok heq with ⟨first, hfirst, heq⟩
        rcases bind_ok heq with ⟨later, hlater, heq⟩
        rcases (h entry List.mem_cons_self depth first).mp hfirst with ⟨hfits, rfl⟩
        rcases hrest.mp hlater with ⟨hothers, rfl⟩
        exact And.intro (And.intro hfits hothers) (Except.ok.inj heq)
      · rintro ⟨⟨hfits, hothers⟩, rfl⟩
        refine Except.bind_eq_ok.mpr
          ⟨_, (h entry List.mem_cons_self depth _).mpr ⟨hfits, rfl⟩, ?_⟩
        exact Except.bind_eq_ok.mpr ⟨_, hrest.mpr ⟨hothers, rfl⟩, rfl⟩

theorem write_eq_ok : forall value, Answers floats maxDepth value := by
  refine json_induction ?_ ?_ ?_
  · intro value hscalar depth written
    rw [write_of_scalar hscalar, fitsAt_of_scalar hscalar, text_of_scalar hscalar]
    cases hexceeds : exceeds maxDepth depth with
    | true => exact iff_of_false (fun h => nomatch h) fun h => Bool.noConfusion h.left
    | false =>
        rw [if_neg Bool.false_ne_true, and_iff_right rfl]
        exact Iff.intro Except.ok.inj (congrArg Except.ok)
  · intro items hitems depth written
    rw [fitsAt_array]
    unfold write
    cases hexceeds : exceeds maxDepth depth with
    | true => exact iff_of_false (fun h => nomatch h) fun h => Bool.noConfusion h.left.left
    | false =>
        rw [if_neg Bool.false_ne_true, and_iff_right rfl]
        constructor
        · intro heq
          rcases bind_ok heq with ⟨texts, htexts, heq⟩
          rcases (writeItems_eq_ok hitems).mp htexts with ⟨hfits, rfl⟩
          exact And.intro hfits (Except.ok.inj heq)
        · rintro ⟨hfits, rfl⟩
          exact Except.bind_eq_ok.mpr ⟨_, (writeItems_eq_ok hitems).mpr ⟨hfits, rfl⟩, rfl⟩
  · intro members hmembers depth written
    rw [fitsAt_object]
    unfold write
    cases hexceeds : exceeds maxDepth depth with
    | true => exact iff_of_false (fun h => nomatch h) fun h => Bool.noConfusion h.left.left
    | false =>
        rw [if_neg Bool.false_ne_true, and_iff_right rfl]
        constructor
        · intro heq
          rcases bind_ok heq with ⟨texts, htexts, heq⟩
          rcases (writeMembers_eq_ok hmembers).mp htexts with ⟨hfits, rfl⟩
          exact And.intro hfits (Except.ok.inj heq)
        · rintro ⟨hfits, rfl⟩
          exact Except.bind_eq_ok.mpr ⟨_, (writeMembers_eq_ok hmembers).mpr ⟨hfits, rfl⟩, rfl⟩

theorem write_unlimited (value : Json) : write floats none value 0 = .ok (text floats value) :=
  (write_eq_ok value 0 _).mpr (And.intro (fun _ _ _ => rfl) rfl)

theorem canonicalBytes_eq (value : Json) :
    canonicalBytes floats value = bytesOf (text floats value) := by
  unfold canonicalBytes
  rw [write_unlimited]

theorem canonicalBytesWithin_eq_ok {limit : Nat} {bytes : Bytes} :
    canonicalBytesWithin floats value limit = .ok bytes <->
      (forall (depth : Nat) (nested : Json), SitsAt value depth nested -> depth <= limit) ∧
        canonicalBytes floats value = bytes := by
  have hfits : FitsAt (some limit) value 0 <->
      forall (depth : Nat) (nested : Json), SitsAt value depth nested -> depth <= limit := by
    refine forall_congr' fun depth => forall_congr' fun nested => imp_congr_right fun _ => ?_
    show decide (limit < 0 + depth) = false <-> _
    rw [Nat.zero_add, decide_eq_false_iff_not, Nat.not_lt]
  unfold canonicalBytesWithin
  rw [← hfits, canonicalBytes_eq]
  cases hwrite : write floats (some limit) value 0 with
  | error failure =>
      refine iff_of_false (fun h => nomatch h) fun h => ?_
      rw [(write_eq_ok value 0 _).mpr (And.intro h.left rfl)] at hwrite
      cases hwrite
  | ok written =>
      rcases (write_eq_ok value 0 written).mp hwrite with ⟨hfit, rfl⟩
      rw [and_iff_right hfit]
      exact Iff.intro Except.ok.inj (congrArg Except.ok)

end Written

/-!
## Texts told apart
-/

/-- What may stand behind a value inside a document, or nothing at its end. -/
def Follows (rest : List Char) : Prop :=
  forall c, rest.head? = some c -> c ∈ [',', ':', ']', '}']

def kind : Json -> Nat
  | .null => 0
  | .bool true => 1
  | .bool false => 2
  | .string _ => 3
  | .number _ => 4
  | .array _ => 5
  | .object _ => 6

/-- The kind of the values that begin with a character; nothing begins with what follows. -/
def leadKind (c : Char) : Nat :=
  if isNumeric c then 4
  else if c = 'n' then 0
  else if c = 't' then 1
  else if c = 'f' then 2
  else if c = '"' then 3
  else if c = '[' then 5
  else if c = '{' then 6
  else 7

section Apart

variable {floats : FloatText} {value : Json}

theorem isNumeric_of_isDigit {c : Char} (h : c.isDigit = true) : isNumeric c = true := by
  unfold isNumeric
  rw [h]
  rfl

theorem integerChars_numeric (value : Int) (c : Char) (h : c ∈ integerChars value) :
    c.isDigit = true ∨ c = '-' := by
  cases value with
  | ofNat value => exact Or.inl (isDigit_toDigits value c h)
  | negSucc value =>
      rcases List.mem_cons.mp h with rfl | hmem
      · exact Or.inr rfl
      · exact Or.inl (isDigit_toDigits (value + 1) c hmem)

theorem numberChars_numeric (value : JsonNumber) (c : Char) (h : c ∈ numberChars floats value) :
    isNumeric c = true := by
  cases value with
  | integer value =>
      rcases integerChars_numeric value c h with hdigit | rfl
      · exact isNumeric_of_isDigit hdigit
      · rfl
  | float value => exact floats.numeric value c h

theorem toDigits_injective {a b : Nat} (h : Nat.toDigits 10 a = Nat.toDigits 10 b) : a = b := by
  calc
    a = Nat.ofDigitChars 10 (Nat.toDigits 10 a) 0 := Nat.ofDigitChars_ten_toDigits.symm
    _ = Nat.ofDigitChars 10 (Nat.toDigits 10 b) 0 := by rw [h]
    _ = b := Nat.ofDigitChars_ten_toDigits

theorem integerChars_injective {a b : Int} (h : integerChars a = integerChars b) : a = b := by
  have hsign : forall value rest, Nat.toDigits 10 value ≠ '-' :: rest := by
    intro value rest heq
    have hdigit := isDigit_toDigits value '-' (heq ▸ List.mem_cons_self)
    exact absurd hdigit (by decide)
  cases a with
  | ofNat a =>
      cases b with
      | ofNat b => exact congrArg Int.ofNat (toDigits_injective h)
      | negSucc b => exact absurd h (hsign a _)
  | negSucc a =>
      cases b with
      | ofNat b => exact absurd h.symm (hsign b _)
      | negSucc b =>
          have hdigits := toDigits_injective (List.cons.inj h).right
          exact congrArg Int.negSucc (Nat.succ.inj hdigits)

theorem numberChars_injective {a b : JsonNumber}
    (h : numberChars floats a = numberChars floats b) : a = b := by
  have hmixed : forall (integer : Int) (value : Rat),
      integerChars integer ≠ floats.chars value := by
    intro integer value heq
    rcases floats.fractional value with ⟨c, hmem, hfraction⟩
    rcases integerChars_numeric integer c (heq ▸ hmem) with hdigit | rfl
    · rcases hfraction with rfl | rfl
      · exact absurd hdigit (by decide)
      · exact absurd hdigit (by decide)
    · rcases hfraction with heq | heq
      · exact absurd heq (by decide)
      · exact absurd heq (by decide)
  cases a with
  | integer a =>
      cases b with
      | integer b => exact congrArg JsonNumber.integer (integerChars_injective h)
      | float b => exact absurd h (hmixed a b)
  | float a =>
      cases b with
      | integer b => exact absurd h.symm (hmixed b a)
      | float b => exact congrArg JsonNumber.float (floats.injective h)

theorem numberChars_ne_nil (value : JsonNumber) : numberChars floats value ≠ [] := by
  cases value with
  | integer value =>
      cases value with
      | ofNat value => exact Nat.toDigits_ne_nil
      | negSucc value => exact List.cons_ne_nil _ _
  | float value =>
      rcases floats.fractional value with ⟨c, hmem, _⟩
      exact List.ne_nil_of_mem hmem

theorem text_lead (value : Json) :
    exists c rest, text floats value = c :: rest ∧ leadKind c = kind value := by
  cases value with
  | null => exact ⟨_, _, rfl, by decide⟩
  | bool value =>
      cases value with
      | true => exact ⟨_, _, rfl, by decide⟩
      | false => exact ⟨_, _, rfl, by decide⟩
  | string value => exact ⟨_, _, rfl, rfl⟩
  | array items => exact ⟨_, _, rfl, rfl⟩
  | object members => exact ⟨_, _, rfl, rfl⟩
  | number value =>
      rcases List.exists_cons_of_ne_nil (@numberChars_ne_nil floats value) with ⟨c, rest, heq⟩
      refine ⟨c, rest, heq, if_pos ?_⟩
      exact @numberChars_numeric floats value c (heq ▸ List.mem_cons_self)

theorem kind_eq_of_append {other : Json} {x y : List Char}
    (h : text floats value ++ x = text floats other ++ y) : kind value = kind other := by
  rcases @text_lead floats value with ⟨c, rest, hvalue, hkind⟩
  rcases @text_lead floats other with ⟨d, rest', hother, hkind'⟩
  rw [hvalue, hother] at h
  rw [← hkind, ← hkind', (List.cons.inj h).left]

theorem text_not_close (value : Json) (rest : List Char) {close : Char}
    (hclose : leadKind close = 7) : (text floats value ++ rest).head? ≠ some close := by
  rcases @text_lead floats value with ⟨c, later, hvalue, hkind⟩
  rw [hvalue]
  intro heq
  rw [Option.some.inj heq, hclose] at hkind
  cases value with
  | bool value => cases value <;> cases hkind
  | _ => cases hkind

theorem Follows.not_numeric {rest : List Char} (h : Follows rest) (c : Char)
    (hc : rest.head? = some c) : isNumeric c = false := by
  have hall : [',', ':', ']', '}'].all (fun d => !isNumeric d) = true := by decide
  have hnot := List.all_eq_true.mp hall c (h c hc)
  rwa [Bool.not_eq_true'] at hnot

theorem scalar_delimits (h : isScalar value = true) :
    Delimits Follows (text floats) Same value := by
  intro other x y hx hy heq
  have hkind := kind_eq_of_append heq
  cases value with
  | array items => cases h
  | object members => cases h
  | null =>
      cases other with
      | null => exact And.intro (.scalar rfl) (List.append_cancel_left heq)
      | bool other => cases other <;> cases hkind
      | _ => cases hkind
  | bool value =>
      cases value with
      | true =>
          cases other with
          | bool other =>
              cases other with
              | true => exact And.intro (.scalar rfl) (List.append_cancel_left heq)
              | false => cases hkind
          | _ => cases hkind
      | false =>
          cases other with
          | bool other =>
              cases other with
              | true => cases hkind
              | false => exact And.intro (.scalar rfl) (List.append_cancel_left heq)
          | _ => cases hkind
  | string value =>
      cases other with
      | string other =>
          rcases quoted_delimiting heq with ⟨rfl, hrest⟩
          exact And.intro (.scalar rfl) hrest
      | bool other => cases other <;> cases hkind
      | _ => cases hkind
  | number value =>
      cases other with
      | number other =>
          rcases cut_of_class (numberChars_numeric value) (numberChars_numeric other)
            hx.not_numeric hy.not_numeric heq with ⟨hchars, hrest⟩
          rw [numberChars_injective hchars]
          exact And.intro (.scalar rfl) hrest
      | bool other => cases other <;> cases hkind
      | _ => cases hkind

theorem follows_nil : Follows [] := by
  intro c hc
  cases hc

theorem follows_cons {c : Char} (h : c ∈ [',', ':', ']', '}']) (rest : List Char) :
    Follows (c :: rest) := by
  intro d hd
  cases hd
  exact h

end Apart

/-!
## Containers
-/

section Containers

variable {floats : FloatText} {as bs : List (String × Json)}

def entryText (floats : FloatText) (entry : String × Json) : List Char :=
  quoted entry.1 ++ ':' :: text floats entry.2

def SameEntry (entry other : String × Json) : Prop :=
  entry.1 = other.1 ∧ Same entry.2 other.2

theorem sortMembers_map {α β : Type} (f : α -> β) (members : List (String × α)) :
    sortMembers (members.map fun entry => (entry.1, f entry.2)) =
      (sortMembers members).map fun entry => (entry.1, f entry.2) :=
  (List.map_insertionSort (r := fun left right : String × α => left.1 <= right.1)
    (s := fun left right : String × β => left.1 <= right.1) _ members
    fun _ _ _ _ => Iff.rfl).symm

theorem text_object (members : List (String × Json)) : text floats (.object members) =
    '{' :: (joined ',' ((sortMembers members).map (entryText floats)) ++ ['}']) := by
  show '{' :: (joined ',' ((sortMembers (memberTexts floats members)).map memberText) ++ ['}']) = _
  rw [memberTexts_eq, sortMembers_map, List.map_map]
  rfl

theorem text_array (items : List Json) : text floats (.array items) =
    '[' :: (joined ',' (items.map (text floats)) ++ [']']) := by
  show '[' :: (joined ',' (itemTexts floats items) ++ [']']) = _
  rw [itemTexts_eq]

theorem entry_delimits {entry : String × Json}
    (h : Delimits Follows (text floats) Same entry.2) :
    Delimits Follows (entryText floats) SameEntry entry := by
  intro other x y hx hy heq
  unfold entryText at heq
  rw [List.append_assoc, List.append_assoc] at heq
  rcases quoted_delimiting heq with ⟨hkey, hvalue⟩
  rcases h hx hy (List.cons.inj hvalue).right with ⟨hsame, hrest⟩
  exact And.intro (And.intro hkey hsame) hrest

theorem entryText_not_close (entry : String × Json) (rest : List Char) :
    (entryText floats entry ++ rest).head? ≠ some '}' :=
  fun h => absurd (Option.some.inj h) (by decide)

theorem forall₂_getElem? {R : Json -> Json -> Prop} {as bs : List Json} (h : List.Forall₂ R as bs)
    (i : Nat) (a b : Json) (ha : as[i]? = some a) (hb : bs[i]? = some b) : R a b := by
  induction h generalizing i with
  | nil =>
      cases ha
  | cons hfirst hrest ih =>
      cases i with
      | zero =>
          cases ha
          cases hb
          exact hfirst
      | succ i => exact ih i ha hb

theorem keys_eq_of_forall₂ (h : List.Forall₂ SameEntry as bs) :
    as.map Prod.fst = bs.map Prod.fst := by
  induction h with
  | nil => rfl
  | cons hfirst _ ih => rw [List.map_cons, List.map_cons, hfirst.left, ih]

theorem exists_of_forall₂ (h : List.Forall₂ SameEntry as bs) {entry : String × Json}
    (hmem : entry ∈ as) : exists other, other ∈ bs ∧ SameEntry entry other := by
  induction h with
  | nil =>
      cases hmem
  | @cons _ other _ _ hfirst _ ih =>
      rcases List.mem_cons.mp hmem with rfl | hmem
      · exact ⟨other, List.mem_cons_self, hfirst⟩
      · rcases ih hmem with ⟨found, hin, hsame⟩
        exact ⟨found, List.mem_cons_of_mem _ hin, hsame⟩

theorem mem_sortMembers {α : Type} {members : List (String × α)} {entry : String × α} :
    entry ∈ sortMembers members <-> entry ∈ members :=
  List.mem_insertionSort _

theorem value_eq_of_key {α : Type} {members : List (String × α)}
    (h : (members.map Prod.fst).Nodup) {key : String} {a b : α} (ha : (key, a) ∈ members)
    (hb : (key, b) ∈ members) : a = b :=
  congrArg Prod.snd (List.inj_on_of_nodup_map h ha hb rfl)

theorem same_of_forall₂ (hkeys : (as.map Prod.fst).Nodup)
    (h : List.Forall₂ SameEntry (sortMembers as) (sortMembers bs)) :
    Same (.object as) (.object bs) := by
  have hperm := (List.perm_insertionSort (fun left right : String × Json => left.1 <= right.1)
    as).map Prod.fst
  have hperm' := (List.perm_insertionSort (fun left right : String × Json => left.1 <= right.1)
    bs).map Prod.fst
  have hsame : (sortMembers as).map Prod.fst = (sortMembers bs).map Prod.fst :=
    keys_eq_of_forall₂ h
  have hdistinct : (bs.map Prod.fst).Nodup := by
    rw [← hperm'.nodup_iff]
    show ((sortMembers bs).map Prod.fst).Nodup
    rw [← hsame]
    exact hperm.nodup_iff.mpr hkeys
  refine .object ?_ ?_
  · intro key
    rw [← hperm.mem_iff, ← hperm'.mem_iff]
    show key ∈ (sortMembers as).map Prod.fst <-> key ∈ (sortMembers bs).map Prod.fst
    rw [hsame]
  · intro key a b ha hb
    rcases exists_of_forall₂ h (mem_sortMembers.mpr ha) with ⟨⟨key', b'⟩, hmem, hkey, hvalue⟩
    have hkey : key = key' := hkey
    rw [← hkey] at hmem
    rw [value_eq_of_key hdistinct hb (mem_sortMembers.mp hmem)]
    exact hvalue

theorem text_delimits : forall value, KeysDistinct value ->
    Delimits Follows (text floats) Same value := by
  refine json_induction ?_ ?_ ?_
  · intro value hscalar _
    exact scalar_delimits hscalar
  · intro items hitems hdistinct other x y hx hy heq
    have hitem : forall item, item ∈ items -> KeysDistinct item := by
      cases hdistinct with
      | scalar h => cases h
      | array h => exact h
    have hkind := kind_eq_of_append heq
    cases other with
    | array others =>
        rw [text_array, text_array] at heq
        simp only [List.cons_append, List.append_assoc, List.nil_append] at heq
        rcases @forall₂_of_joined _ _ Follows _ Same _ _ _ _ _ _
          (follows_cons (by decide)) (follows_cons (by decide)) (by decide)
          (fun item rest => text_not_close item rest (by decide))
          (fun item hmem => hitems item hmem (hitem item hmem)) (List.cons.inj heq).right with
          ⟨hforall, hrest⟩
        exact And.intro (.array hforall.length_eq (forall₂_getElem? hforall)) hrest
    | bool other => cases other <;> cases hkind
    | _ => cases hkind
  · intro members hmembers hdistinct other x y hx hy heq
    have hmember : (members.map Prod.fst).Nodup ∧
        forall entry, entry ∈ members -> KeysDistinct entry.2 := by
      cases hdistinct with
      | scalar h => cases h
      | object hkeys h => exact And.intro hkeys fun entry hmem => h entry.1 entry.2 hmem
    have hkind := kind_eq_of_append heq
    cases other with
    | object others =>
        rw [text_object, text_object] at heq
        simp only [List.cons_append, List.append_assoc, List.nil_append] at heq
        rcases @forall₂_of_joined _ _ Follows _ SameEntry _ _ _ _ _ _
          (follows_cons (by decide)) (follows_cons (by decide)) (by decide)
          (fun entry rest => entryText_not_close entry rest)
          (fun entry hmem => entry_delimits
            (hmembers entry (mem_sortMembers.mp hmem)
              (hmember.right entry (mem_sortMembers.mp hmem))))
          (List.cons.inj heq).right with ⟨hforall, hrest⟩
        exact And.intro (same_of_forall₂ hmember.left hforall) hrest
    | bool other => cases other <;> cases hkind
    | _ => cases hkind

theorem sortMembers_eq_of_perm {α : Type} {members others : List (String × α)}
    (hkeys : (members.map Prod.fst).Nodup) (h : members.Perm others) :
    sortMembers members = sortMembers others := by
  have hsorted := fun entries : List (String × α) =>
    List.pairwise_insertionSort (fun left right : String × α => left.1 <= right.1) entries
  have hperm := fun entries : List (String × α) =>
    List.perm_insertionSort (fun left right : String × α => left.1 <= right.1) entries
  refine @List.Perm.eq_of_pairwise _ (fun left right : String × α => left.1 <= right.1) _ _ ?_
    (hsorted members) (hsorted others) ((hperm members).trans (h.trans (hperm others).symm))
  intro first second hfirst hsecond hle hge
  have hin := (hperm members).mem_iff.mp hfirst
  have hin' := h.mem_iff.mpr ((hperm others).mem_iff.mp hsecond)
  exact List.inj_on_of_nodup_map hkeys hin hin' (String.le_antisymm hle hge)

/-- Equal finite maps are written alike, whatever order their members have. -/
theorem text_eq_of_same {a b : Json} (h : Same a b) (ha : KeysDistinct a) (hb : KeysDistinct b) :
    text floats a = text floats b := by
  induction h with
  | scalar h =>
      rfl
  | @array as bs hlength h ih =>
      have hitems : forall {items : List Json}, KeysDistinct (.array items) ->
          forall item, item ∈ items -> KeysDistinct item := by
        intro items hdistinct
        cases hdistinct with
        | scalar h => cases h
        | array h => exact h
      rw [text_array, text_array]
      congr 3
      refine List.ext_getElem? fun i => ?_
      rw [List.getElem?_map, List.getElem?_map]
      rcases Nat.lt_or_ge i as.length with hin | hout
      · have hin' : i < bs.length := hlength ▸ hin
        rw [List.getElem?_eq_getElem hin, List.getElem?_eq_getElem hin']
        exact congrArg some (ih i _ _ (List.getElem?_eq_getElem hin)
          (List.getElem?_eq_getElem hin') (hitems ha _ (List.getElem_mem hin))
          (hitems hb _ (List.getElem_mem hin')))
      · rw [List.getElem?_eq_none hout, List.getElem?_eq_none (hlength ▸ hout)]
  | @object as bs hkeys h ih =>
      have hmembers : forall {members : List (String × Json)}, KeysDistinct (.object members) ->
          (members.map Prod.fst).Nodup ∧
            forall (key : String) (value : Json), (key, value) ∈ members -> KeysDistinct value := by
        intro members hdistinct
        cases hdistinct with
        | scalar h => cases h
        | object hkeys h => exact And.intro hkeys h
      rcases hmembers ha with ⟨hnodup, hvalues⟩
      rcases hmembers hb with ⟨hnodup', hvalues'⟩
      have hkept : forall members : List (String × Json),
          (memberTexts floats members).map Prod.fst = members.map Prod.fst := by
        intro members
        rw [memberTexts_eq, List.map_map]
        rfl
      have hperm : (memberTexts floats as).Perm (memberTexts floats bs) := by
        have hdistinct : ((memberTexts floats as).map Prod.fst).Nodup := by
          rw [hkept]
          exact hnodup
        have hdistinct' : ((memberTexts floats bs).map Prod.fst).Nodup := by
          rw [hkept]
          exact hnodup'
        rw [List.perm_ext_iff_of_nodup hdistinct.of_map hdistinct'.of_map]
        intro entry
        rw [memberTexts_eq, memberTexts_eq, List.mem_map, List.mem_map]
        constructor
        · rintro ⟨⟨key, a⟩, hmem, heq⟩
          rw [← heq]
          rcases List.mem_map.mp ((hkeys key).mp (List.mem_map_of_mem hmem)) with
            ⟨⟨key', b⟩, hmem', rfl⟩
          exact ⟨(key', b), hmem', Prod.ext rfl
            (ih key' a b hmem hmem' (hvalues key' a hmem) (hvalues' key' b hmem')).symm⟩
        · rintro ⟨⟨key, b⟩, hmem', heq⟩
          rw [← heq]
          rcases List.mem_map.mp ((hkeys key).mpr (List.mem_map_of_mem hmem')) with
            ⟨⟨key', a⟩, hmem, rfl⟩
          exact ⟨(key', a), hmem, Prod.ext rfl
            (ih key' a b hmem hmem' (hvalues key' a hmem) (hvalues' key' b hmem'))⟩
      show '{' :: (joined ',' ((sortMembers (memberTexts floats as)).map memberText) ++ ['}']) =
        '{' :: (joined ',' ((sortMembers (memberTexts floats bs)).map memberText) ++ ['}'])
      rw [sortMembers_eq_of_perm ((hkept as).symm ▸ hnodup) hperm]

end Containers

theorem bytesOf_injective {first second : List Char} (h : bytesOf first = bytesOf second) :
    first = second :=
  String.ofList_inj.mp (utf8_injective h)

theorem same_of_canonicalBytes {a b : Json} (ha : KeysDistinct a)
    (h : canonicalBytes floats a = canonicalBytes floats b) : Same a b := by
  rw [canonicalBytes_eq, canonicalBytes_eq] at h
  have htexts : text floats a ++ [] = text floats b ++ [] := by
    rw [bytesOf_injective h]
  exact (text_delimits a ha follows_nil follows_nil htexts).left

namespace Sample

/-- A float as its numerator and its denominator, with a point between them. -/
def floats : FloatText where
  chars := fun value => integerChars value.num ++ '.' :: Nat.toDigits 10 value.den
  injective := by
    intro a b h
    have hpoint : forall (value : Int) (c : Char), c ∈ integerChars value ->
        (c != '.') = true := by
      intro value c hmem
      rcases integerChars_numeric value c hmem with hdigit | rfl
      · rw [bne_iff_ne]
        rintro rfl
        exact absurd hdigit (by decide)
      · rfl
    have hends : forall (rest : List Char) (c : Char), ('.' :: rest).head? = some c ->
        (c != '.') = false := by
      intro rest c hc
      cases hc
      rfl
    rcases cut_of_class (hpoint a.num) (hpoint b.num) (hends _) (hends _) h with ⟨hnum, hden⟩
    exact Rat.ext (integerChars_injective hnum) (toDigits_injective (List.cons.inj hden).right)
  numeric := by
    intro value c hmem
    rcases List.mem_append.mp hmem with hin | hin
    · rcases integerChars_numeric value.num c hin with hdigit | rfl
      · exact isNumeric_of_isDigit hdigit
      · rfl
    · rcases List.mem_cons.mp hin with rfl | hin
      · rfl
      · exact isNumeric_of_isDigit (isDigit_toDigits value.den c hin)
  fractional := fun value => ⟨'.', List.mem_append_right _ List.mem_cons_self, Or.inl rfl⟩

theorem distinct_pair {first second : String} {a b : Json} (hne : first ≠ second)
    (ha : isScalar a = true) (hb : isScalar b = true) :
    KeysDistinct (.object [(first, a), (second, b)]) := by
  refine .object ?_ fun key value hmem => ?_
  · show [first, second].Nodup
    rw [List.nodup_cons, List.mem_singleton]
    exact And.intro hne (List.nodup_singleton second)
  · rcases List.mem_cons.mp hmem with heq | hmem
    · exact .scalar ((Prod.mk.inj heq).right ▸ ha)
    · exact .scalar ((Prod.mk.inj (List.mem_singleton.mp hmem)).right ▸ hb)

def ordered : Document :=
  { value := .object [("node", .string "a"), ("attempt", .number (.integer 1))]
    distinct := distinct_pair (by decide) rfl rfl }

def reordered : Document :=
  { value := .object [("attempt", .number (.integer 1)), ("node", .string "a")]
    distinct := distinct_pair (by decide) rfl rfl }

end Sample

end Canonical
end GraphHelm
