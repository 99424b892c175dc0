import GraphHelm.Library.Segments

/-!
# Texts told apart by what follows them

A number goes on as long as digits follow, so it says where it ends only before
something that is no digit.  An encoding delimits a value when nothing it may be
followed by can be taken for a part of it, and a list of such values with a mark
between them and a close behind them is delimited again.
-/

namespace GraphHelm
namespace Joined

variable {α B : Type}

/-- What may follow is told apart from the encoded value, up to a relation of the values. -/
def Delimits (follows : List B -> Prop) (encode : α -> List B) (same : α -> α -> Prop) (a : α) :
    Prop :=
  forall {b : α} {x y : List B}, follows x -> follows y -> encode a ++ x = encode b ++ y ->
    same a b ∧ x = y

def joined (mark : B) : List (List B) -> List B
  | [] => []
  | [piece] => piece
  | piece :: other :: rest => piece ++ mark :: joined mark (other :: rest)

/-- What stands behind the first of several pieces. -/
def behind (mark : B) (rest : List (List B)) (tail : List B) : List B :=
  match rest with
  | [] => tail
  | other :: later => mark :: (joined mark (other :: later) ++ tail)

section Joined

variable {follows : List B -> Prop} {encode : α -> List B} {same : α -> α -> Prop}
  {mark close : B} {as bs : List α} {x y : List B}

theorem joined_cons {piece : List B} {rest : List (List B)} {tail : List B} :
    joined mark (piece :: rest) ++ tail = piece ++ behind mark rest tail := by
  cases rest with
  | nil =>
      rfl
  | cons other later =>
      show (piece ++ mark :: joined mark (other :: later)) ++ tail = _
      rw [List.append_assoc]
      rfl

theorem forall₂_of_joined (hmark : forall rest, follows (mark :: rest))
    (hclose : forall rest, follows (close :: rest)) (hne : mark ≠ close)
    (hopens : forall a rest, (encode a ++ rest).head? ≠ some close)
    (hdelimits : forall a, a ∈ as -> Delimits follows encode same a)
    (h : joined mark (as.map encode) ++ close :: x = joined mark (bs.map encode) ++ close :: y) :
    List.Forall₂ same as bs ∧ x = y := by
  have hfollows : forall {rest : List (List B)} {tail : List B},
      follows (behind mark rest (close :: tail)) := by
    intro rest tail
    cases rest with
    | nil => exact hclose tail
    | cons other later => exact hmark _
  induction as generalizing bs with
  | nil =>
      cases bs with
      | nil =>
          exact And.intro .nil (List.cons.inj h).right
      | cons b bs =>
          rw [List.map_cons, joined_cons] at h
          exact absurd (congrArg List.head? h).symm (hopens b _)
  | cons a as ih =>
      rw [List.map_cons, joined_cons] at h
      cases bs with
      | nil =>
          exact absurd (congrArg List.head? h) (hopens a _)
      | cons b bs =>
          rw [List.map_cons, joined_cons] at h
          rcases hdelimits a List.mem_cons_self hfollows hfollows h with ⟨hsame, hbehind⟩
          have hrest : List.Forall₂ same as bs ∧ x = y := by
            cases as with
            | nil =>
                cases bs with
                | nil => exact And.intro .nil (List.cons.inj hbehind).right
                | cons b bs => exact absurd (List.cons.inj hbehind).left.symm hne
            | cons a as =>
                cases bs with
                | nil => exact absurd (List.cons.inj hbehind).left hne
                | cons b bs =>
                    exact ih (fun c hmem => hdelimits c (List.mem_cons_of_mem _ hmem))
                      (List.cons.inj hbehind).right
          exact And.intro (.cons hsame hrest.left) hrest.right

/-- A run of one kind of characters is told apart from what does not go on with it. -/
theorem cut_of_class {p : B -> Bool} {l m : List B} (hl : forall c, c ∈ l -> p c = true)
    (hm : forall c, c ∈ m -> p c = true) (hx : forall c, x.head? = some c -> p c = false)
    (hy : forall c, y.head? = some c -> p c = false) (h : l ++ x = m ++ y) : l = m ∧ x = y := by
  have htake : forall {l x : List B}, (forall c, c ∈ l -> p c = true) ->
      (forall c, x.head? = some c -> p c = false) -> (l ++ x).takeWhile p = l := by
    intro l x hl hx
    rw [List.takeWhile_append_of_pos hl]
    cases x with
    | nil =>
        exact List.append_nil l
    | cons c rest =>
        rw [List.takeWhile_cons_of_neg (Bool.eq_false_iff.mp (hx c rfl)), List.append_nil]
  have hsame : l = m := by
    rw [← htake hl hx, h, htake hm hy]
  rw [hsame] at h
  exact And.intro hsame (List.append_cancel_left h)

end Joined

end Joined

/-!
## JSON strings
-/

def shortEscape (c : Char) : Char :=
  if c = 'n' then '\n'
  else if c = 'r' then '\r'
  else if c = 't' then '\t'
  else if c = 'b' then Char.ofNat 8
  else if c = 'f' then Char.ofNat 12
  else c

/-- The first character of what a string has between its quotes. -/
def unescape : List Char -> Option (Char × List Char)
  | '\\' :: 'u' :: '0' :: '0' :: high :: low :: rest =>
      some (Char.ofNat ((hexValue high).getD 0 * 16 + (hexValue low).getD 0), rest)
  | '\\' :: c :: rest => some (shortEscape c, rest)
  | c :: rest => some (c, rest)
  | [] => none

theorem unescape_escapeChar (c : Char) (rest : List Char) :
    unescape (escapeChar c ++ rest) = some (c, rest) := by
  unfold escapeChar
  split
  · rename_i h
    rw [h]
    rfl
  split
  · rename_i h
    rw [h]
    rfl
  split
  · rename_i h
    rw [h]
    rfl
  split
  · rename_i h
    rw [h]
    rfl
  split
  · rename_i h
    rw [h]
    rfl
  split
  · rename_i h
    rw [← Char.ofNat_toNat c, h]
    rfl
  split
  · rename_i h
    rw [← Char.ofNat_toNat c, h]
    rfl
  split
  · rename_i h
    have hhigh : hexValue (lowerHexDigit (c.toNat / 16)) = some (c.toNat / 16) :=
      hexValue_digitChar _ (by omega)
    have hlow : hexValue (lowerHexDigit (c.toNat % 16)) = some (c.toNat % 16) :=
      hexValue_digitChar _ (by omega)
    show some (Char.ofNat ((hexValue (lowerHexDigit (c.toNat / 16))).getD 0 * 16 +
      (hexValue (lowerHexDigit (c.toNat % 16))).getD 0), rest) = _
    rw [hhigh, hlow, Option.getD_some, Option.getD_some, Nat.div_add_mod', Char.ofNat_toNat]
  · rename_i hslash _ _ _ _ _ _
    rw [List.singleton_append]
    unfold unescape
    split
    · rename_i heq
      exact absurd (List.cons.inj heq).left hslash
    · rename_i heq
      exact absurd (List.cons.inj heq).left hslash
    · rename_i heq
      rcases List.cons.inj heq with ⟨rfl, rfl⟩
      rfl
    · rename_i heq
      cases heq

theorem escapeChar_delimiting : SelfDelimiting escapeChar := by
  intro c d x y heq
  have hread := congrArg unescape heq
  rw [unescape_escapeChar, unescape_escapeChar] at hread
  exact Prod.ext_iff.mp (Option.some.inj hread)

/-- No character of a string is spelled like the closing quote. -/
theorem escapeChar_head (c : Char) (rest : List Char) :
    (escapeChar c ++ rest).head? ≠ some '"' := by
  unfold escapeChar
  split
  · exact fun h => absurd (Option.some.inj h) (by decide)
  · rename_i hquote
    repeat' split
    all_goals first
      | exact fun h => absurd (Option.some.inj h) (by decide)
      | exact fun h => hquote (Option.some.inj h)

/-- A string between its quotes is told apart from whatever follows. -/
theorem quoted_delimiting : SelfDelimiting quoted := by
  have hchars : forall {s t : List Char} {x y : List Char},
      s.flatMap escapeChar ++ '"' :: x = t.flatMap escapeChar ++ '"' :: y -> s = t ∧ x = y := by
    intro s
    induction s with
    | nil =>
        intro t x y heq
        cases t with
        | nil =>
            exact And.intro rfl (List.cons.inj heq).right
        | cons d t =>
            rw [List.flatMap_cons, List.append_assoc] at heq
            exact absurd (congrArg List.head? heq).symm (escapeChar_head d _)
    | cons c s ih =>
        intro t x y heq
        rw [List.flatMap_cons, List.append_assoc] at heq
        cases t with
        | nil =>
            exact absurd (congrArg List.head? heq) (escapeChar_head c _)
        | cons d t =>
            rw [List.flatMap_cons, List.append_assoc] at heq
            rcases escapeChar_delimiting heq with ⟨hfirst, hrest⟩
            rcases ih hrest with ⟨hlater, hsame⟩
            exact And.intro (by rw [hfirst, hlater]) hsame
  intro s t x y heq
  unfold quoted at heq
  simp only [List.cons_append, List.append_assoc, List.nil_append] at heq
  rcases hchars (List.cons.inj heq).right with ⟨hsame, hrest⟩
  exact And.intro (String.toList_inj.mp hsame) hrest

end GraphHelm
