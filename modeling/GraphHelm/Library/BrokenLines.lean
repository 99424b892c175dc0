import Mathlib.Data.List.Basic
import Mathlib.Data.List.TakeWhile

/-!
# Lines with their breaks

A text is cut after each break, which is a newline, a carriage return or the two
together.  A prefix put before some of the lines makes no new line and joins none,
so the lines of the quoted text are the quoted lines.
-/

namespace GraphHelm
namespace BrokenLines

def isBreak (c : Char) : Bool :=
  c = '\n' || c = '\r'

/-- A text up to its first break, that break included, and what follows. -/
def nextLine (text : List Char) : List Char × List Char :=
  let body := text.takeWhile fun c => !isBreak c
  match text.dropWhile fun c => !isBreak c with
  | '\r' :: '\n' :: rest => (body ++ ['\r', '\n'], rest)
  | c :: rest => (body ++ [c], rest)
  | [] => (body, [])

theorem nextLine_append (text : List Char) : (nextLine text).1 ++ (nextLine text).2 = text := by
  unfold nextLine
  dsimp only
  have hcut := List.takeWhile_append_dropWhile (p := fun c => !isBreak c) (l := text)
  split
  · rename_i rest hrest
    rw [hrest] at hcut
    exact (List.append_assoc _ _ _).trans hcut
  · rename_i c rest _ hrest
    rw [hrest] at hcut
    exact (List.append_assoc _ _ _).trans hcut
  · rename_i hrest
    rw [hrest] at hcut
    exact hcut

theorem nextLine_ne_nil {text : List Char} (h : text ≠ []) : (nextLine text).1 ≠ [] := by
  unfold nextLine
  dsimp only
  split
  · exact List.append_ne_nil_of_right_ne_nil _ (List.cons_ne_nil _ _)
  · exact List.append_ne_nil_of_right_ne_nil _ (List.cons_ne_nil _ _)
  · rename_i hrest
    intro hbody
    change text.takeWhile (fun c => !isBreak c) = [] at hbody
    apply h
    rw [← List.takeWhile_append_dropWhile (p := fun c => !isBreak c) (l := text), hbody, hrest]
    rfl

theorem length_nextLine_lt {text : List Char} (h : text ≠ []) :
    (nextLine text).2.length < text.length := by
  have hlength := congrArg List.length (nextLine_append text)
  have hpos := List.length_pos_iff.mpr (nextLine_ne_nil h)
  rw [List.length_append] at hlength
  omega

def lines (text : List Char) : List (List Char) :=
  if _ : text = [] then [] else (nextLine text).1 :: lines (nextLine text).2
termination_by text.length
decreasing_by exact length_nextLine_lt ‹_›

@[simp] theorem lines_nil : lines [] = [] := by
  rw [lines, dif_pos rfl]

theorem lines_of_ne_nil {text : List Char} (h : text ≠ []) :
    lines text = (nextLine text).1 :: lines (nextLine text).2 := by
  rw [lines, dif_neg h]

theorem flatten_lines (text : List Char) : (lines text).flatten = text := by
  induction text using lines.induct with
  | case1 =>
      rw [lines_nil]
      rfl
  | case2 text h ih =>
      rw [lines_of_ne_nil h, List.flatten_cons, ih]
      exact nextLine_append text

/-!
## What a list of lines looks like
-/

/-- A break, where it is followed by `rest`: a return before a newline is not one of its own. -/
def Breaks (sep rest : List Char) : Prop :=
  sep = ['\n'] ∨ sep = ['\r', '\n'] ∨ sep = ['\r'] ∧ rest.head? ≠ some '\n'

/-- Lines in a row: each ends with a break, the last one perhaps not. -/
inductive Lined : List (List Char) -> Prop where
  | nil : Lined []
  | last {body : List Char} (hbody : forall c, c ∈ body -> isBreak c = false) (hne : body ≠ []) :
      Lined [body]
  | cons {body sep : List Char} {later : List (List Char)}
      (hbody : forall c, c ∈ body -> isBreak c = false) (hsep : Breaks sep later.flatten)
      (hlater : Lined later) : Lined ((body ++ sep) :: later)

variable {line : List Char}

section Lined

variable {body sep rest text : List Char} {later lines' : List (List Char)}

theorem takeWhile_body (hbody : forall c, c ∈ body -> isBreak c = false) {c : Char}
    (hc : isBreak c = true) :
    (body ++ c :: rest).takeWhile (fun c => !isBreak c) = body ∧
      (body ++ c :: rest).dropWhile (fun c => !isBreak c) = c :: rest := by
  have hall : forall c, c ∈ body -> (fun c => !isBreak c) c = true := by
    intro c hmem
    show (!isBreak c) = true
    rw [hbody c hmem]
    rfl
  have hstop : ¬ (fun c => !isBreak c) c = true := by
    show ¬ (!isBreak c) = true
    rw [hc]
    exact Bool.false_ne_true
  constructor
  · rw [List.takeWhile_append_of_pos hall]
    exact (congrArg (body ++ ·) (List.takeWhile_cons_of_neg hstop)).trans (List.append_nil body)
  · rw [List.dropWhile_append_of_pos hall]
    exact List.dropWhile_cons_of_neg hstop

theorem nextLine_of_breaks (hbody : forall c, c ∈ body -> isBreak c = false)
    (hsep : Breaks sep rest) : nextLine (body ++ sep ++ rest) = (body ++ sep, rest) := by
  unfold nextLine
  dsimp only
  rw [List.append_assoc]
  rcases hsep with rfl | rfl | ⟨rfl, hrest⟩
  · rcases @takeWhile_body body rest hbody _ (show isBreak '\n' = true by decide) with
      ⟨htake, hdrop⟩
    rw [List.singleton_append, htake, hdrop]
    rfl
  · rcases @takeWhile_body body ('\n' :: rest) hbody _ (show isBreak '\r' = true by decide) with
      ⟨htake, hdrop⟩
    rw [List.cons_append, List.singleton_append, htake, hdrop]
    rfl
  · rcases @takeWhile_body body rest hbody _ (show isBreak '\r' = true by decide) with
      ⟨htake, hdrop⟩
    rw [List.singleton_append, htake, hdrop]
    split
    · rename_i later heq
      cases heq
      exact absurd rfl hrest
    · rename_i c later _ heq
      cases heq
      rfl
    · rename_i heq
      cases heq

theorem nextLine_of_body (hbody : forall c, c ∈ body -> isBreak c = false) :
    nextLine body = (body, []) := by
  have hall : forall c, c ∈ body -> (!isBreak c) = true := by
    intro c hmem
    rw [hbody c hmem]
    rfl
  have htake : body.takeWhile (fun c => !isBreak c) = body := List.takeWhile_eq_self_iff.mpr hall
  have hdrop : body.dropWhile (fun c => !isBreak c) = [] := List.dropWhile_eq_nil_iff.mpr hall
  unfold nextLine
  dsimp only
  rw [htake, hdrop]

theorem Breaks.ne_nil (h : Breaks sep rest) : sep ≠ [] := by
  rcases h with rfl | rfl | ⟨rfl, _⟩
  · exact List.cons_ne_nil _ _
  · exact List.cons_ne_nil _ _
  · exact List.cons_ne_nil _ _

theorem Lined.lines_flatten (h : Lined later) : lines later.flatten = later := by
  induction h with
  | nil =>
      exact lines_nil
  | @last body hbody hne =>
      rw [List.flatten_singleton, lines_of_ne_nil hne, nextLine_of_body hbody, lines_nil]
  | @cons body sep later hbody hsep hlater ih =>
      have hne : body ++ sep ++ later.flatten ≠ [] :=
        List.append_ne_nil_of_left_ne_nil
          (List.append_ne_nil_of_right_ne_nil body hsep.ne_nil) _
      rw [List.flatten_cons, lines_of_ne_nil hne, nextLine_of_breaks hbody hsep, ih]

theorem nextLine_cases {text : List Char} :
    (exists body sep, (nextLine text).1 = body ++ sep ∧
        (forall c, c ∈ body -> isBreak c = false) ∧ Breaks sep (nextLine text).2) ∨
      (nextLine text).2 = [] ∧ forall c, c ∈ (nextLine text).1 -> isBreak c = false := by
  have hbody : forall c, c ∈ text.takeWhile (fun c => !isBreak c) -> isBreak c = false := by
    intro c hmem
    have hpos := List.mem_takeWhile_imp hmem
    rwa [Bool.not_eq_true'] at hpos
  unfold nextLine
  dsimp only
  split
  · exact Or.inl ⟨_, _, rfl, hbody, Or.inr (Or.inl rfl)⟩
  · rename_i c rest hapart hrest
    have hbreak : isBreak c = true := by
      have hne : text.dropWhile (fun c => !isBreak c) ≠ [] := by
        rw [hrest]
        exact List.cons_ne_nil c rest
      have hstop := List.head_dropWhile_not (fun c => !isBreak c) hne
      simp only [hrest, List.head_cons, Bool.not_eq_false'] at hstop
      exact hstop
    refine Or.inl ⟨_, [c], rfl, hbody, ?_⟩
    unfold isBreak at hbreak
    rw [Bool.or_eq_true, decide_eq_true_iff, decide_eq_true_iff] at hbreak
    rcases hbreak with rfl | rfl
    · exact Or.inl rfl
    · refine Or.inr (Or.inr (And.intro rfl fun hnewline => ?_))
      rcases List.head?_eq_some_iff.mp hnewline with ⟨later, rfl⟩
      exact hapart later rfl rfl
  · exact Or.inr (And.intro rfl hbody)

theorem lined_lines (text : List Char) : Lined (lines text) := by
  induction text using lines.induct with
  | case1 =>
      rw [lines_nil]
      exact .nil
  | case2 text h ih =>
      rw [lines_of_ne_nil h]
      rcases @nextLine_cases text with ⟨body, sep, hline, hbody, hsep⟩ | ⟨hrest, hbody⟩
      · rw [hline]
        refine .cons hbody ?_ ih
        rw [flatten_lines]
        exact hsep
      · rw [hrest, lines_nil]
        exact .last hbody (nextLine_ne_nil h)

theorem Lined.line_ne_nil (h : Lined later) (hmem : line ∈ later) :
    line ≠ [] := by
  induction h with
  | nil =>
      cases hmem
  | last hbody hne =>
      rw [List.mem_singleton.mp hmem]
      exact hne
  | cons hbody hsep hlater ih =>
      rcases List.mem_cons.mp hmem with rfl | hmem
      · exact List.append_ne_nil_of_right_ne_nil _ hsep.ne_nil
      · exact ih hmem

theorem Lined.flatten_ne_nil (h : Lined later) (hne : later ≠ []) : later.flatten ≠ [] := by
  cases later with
  | nil =>
      exact absurd rfl hne
  | cons line more =>
      rw [List.flatten_cons]
      exact List.append_ne_nil_of_left_ne_nil (h.line_ne_nil List.mem_cons_self) _

theorem Breaks.of_head? (h : Breaks sep rest) (hhead : text.head? = some '\n' ->
    rest.head? = some '\n') : Breaks sep text := by
  rcases h with rfl | rfl | ⟨rfl, hrest⟩
  · exact Or.inl rfl
  · exact Or.inr (Or.inl rfl)
  · exact Or.inr (Or.inr (And.intro rfl fun hnewline => hrest (hhead hnewline)))

theorem Breaks.append (h : Breaks sep rest) (hne : rest ≠ []) : Breaks sep (rest ++ text) := by
  refine h.of_head? fun hnewline => ?_
  rwa [List.head?_append_of_ne_nil _ hne] at hnewline

theorem Lined.append (h : Lined later) (hends : later = [] ∨ later.flatten.getLast? = some '\n')
    (h' : Lined lines') : Lined (later ++ lines') := by
  induction h with
  | nil =>
      exact h'
  | @last body hbody hne =>
      rcases hends with hnil | hlast
      · exact absurd hnil (List.cons_ne_nil _ _)
      · rw [List.flatten_singleton] at hlast
        exact absurd (hbody '\n' (List.mem_of_getLast? hlast)) (by decide)
  | @cons body sep later hbody hsep hlater ih =>
      have hlast := hends.resolve_left (List.cons_ne_nil _ _)
      rw [List.cons_append]
      rcases Decidable.em (later = []) with rfl | hne
      · refine .cons hbody ?_ (ih (Or.inl rfl))
        rcases hsep with rfl | rfl | ⟨rfl, _⟩
        · exact Or.inl rfl
        · exact Or.inr (Or.inl rfl)
        · simp at hlast
      · have hflat := hlater.flatten_ne_nil hne
        rw [List.flatten_cons, List.getLast?_append_of_ne_nil _ hflat] at hlast
        refine .cons hbody ?_ (ih (Or.inr hlast))
        rw [List.flatten_append]
        exact hsep.append hflat

theorem lines_append_newline (text rest : List Char) :
    lines (text ++ '\n' :: rest) = lines (text ++ ['\n']) ++ lines rest := by
  have hlined : Lined (lines (text ++ ['\n']) ++ lines rest) := by
    refine (lined_lines _).append (Or.inr ?_) (lined_lines rest)
    rw [flatten_lines, List.getLast?_append_of_ne_nil _ (List.cons_ne_nil _ _)]
    rfl
  rw [← hlined.lines_flatten, List.flatten_append, flatten_lines, flatten_lines, List.append_assoc,
    List.singleton_append]

theorem lines_singleton (hbody : forall c, c ∈ body -> isBreak c = false) :
    lines (body ++ ['\n']) = [body ++ ['\n']] := by
  have hlined : Lined [body ++ ['\n']] := .cons hbody (Or.inl rfl) .nil
  have hlines := hlined.lines_flatten
  rwa [List.flatten_singleton] at hlines

theorem Lined.mem_lines_newline (h : Lined later)
    (hmem : line ∈ lines (later.flatten ++ ['\n'])) :
    line = ['\n'] ∨ line ∈ later ∨ exists old, old ∈ later ∧ line = old ++ ['\n'] := by
  induction h with
  | nil =>
      have hlines : lines (([] : List (List Char)).flatten ++ ['\n']) = [['\n']] :=
        lines_singleton fun c hc => absurd hc List.not_mem_nil
      rw [hlines] at hmem
      exact Or.inl (List.mem_singleton.mp hmem)
  | @last body hbody hne =>
      rw [List.flatten_singleton, lines_singleton hbody] at hmem
      exact Or.inr (Or.inr ⟨body, List.mem_cons_self, List.mem_singleton.mp hmem⟩)
  | @cons body sep later hbody hsep hlater ih =>
      have hne : forall rest, body ++ sep ++ rest ≠ [] := fun rest =>
        List.append_ne_nil_of_left_ne_nil
          (List.append_ne_nil_of_right_ne_nil body hsep.ne_nil) rest
      have hcut : Breaks sep (later.flatten ++ ['\n']) ->
          line = body ++ sep ∨ line ∈ lines (later.flatten ++ ['\n']) := by
        intro hsep
        rw [List.flatten_cons, List.append_assoc (body ++ sep), lines_of_ne_nil (hne _),
          nextLine_of_breaks hbody hsep] at hmem
        exact List.mem_cons.mp hmem
      have hkept : line = body ++ sep ∨ line ∈ lines (later.flatten ++ ['\n']) ->
          line = ['\n'] ∨ line ∈ (body ++ sep) :: later ∨
            exists old, old ∈ (body ++ sep) :: later ∧ line = old ++ ['\n'] := by
        intro hline
        rcases hline with rfl | hline
        · exact Or.inr (Or.inl List.mem_cons_self)
        · rcases ih hline with hnewline | hin | ⟨old, hold, heq⟩
          · exact Or.inl hnewline
          · exact Or.inr (Or.inl (List.mem_cons_of_mem _ hin))
          · exact Or.inr (Or.inr ⟨old, List.mem_cons_of_mem _ hold, heq⟩)
      rcases Decidable.em (later = []) with rfl | hlaterne
      · rcases hsep with rfl | rfl | ⟨rfl, _⟩
        · exact hkept (hcut (Or.inl rfl))
        · exact hkept (hcut (Or.inr (Or.inl rfl)))
        · -- The newline joins the return the text ended on.
          have hjoined : ([body ++ ['\r']] : List (List Char)).flatten ++ ['\n'] =
              body ++ ['\r', '\n'] ++ [] := by
            simp
          have hjoin : Breaks ['\r', '\n'] [] := Or.inr (Or.inl rfl)
          rw [hjoined, lines_of_ne_nil (by simp), nextLine_of_breaks hbody hjoin, lines_nil,
            List.mem_singleton] at hmem
          refine Or.inr (Or.inr ⟨body ++ ['\r'], List.mem_cons_self, ?_⟩)
          rw [hmem, List.append_assoc]
          rfl
      · exact hkept (hcut (hsep.append (hlater.flatten_ne_nil hlaterne)))

end Lined

/-!
## Quoting
-/

section Quoting

variable (forged : List Char -> Bool) (quote : List Char)

def quoteLine (line : List Char) : List Char :=
  if forged line then quote ++ line else line

def quoteLines (text : List Char) : List Char :=
  ((lines text).map (quoteLine forged quote)).flatten

variable {forged quote} {text : List Char} {later : List (List Char)}

theorem quoteLine_of_forged (h : forged line = true) :
    quoteLine forged quote line = quote ++ line :=
  if_pos h

theorem quoteLine_of_honest (h : forged line = false) :
    quoteLine forged quote line = line :=
  if_neg (Bool.eq_false_iff.mp h)

theorem head?_quoted (hquote : forall c, c ∈ quote -> isBreak c = false) (h : Lined later)
    (hnewline : (later.map (quoteLine forged quote)).flatten.head? = some '\n') :
    later.flatten.head? = some '\n' := by
  cases later with
  | nil =>
      exact hnewline
  | cons line more =>
      have hline := h.line_ne_nil (List.mem_cons_self (a := line) (l := more))
      rw [List.map_cons, List.flatten_cons] at hnewline
      rw [List.flatten_cons, List.head?_append_of_ne_nil _ hline]
      cases hforged : forged line with
      | false =>
          rwa [quoteLine_of_honest hforged, List.head?_append_of_ne_nil _ hline] at hnewline
      | true =>
          rw [quoteLine_of_forged hforged] at hnewline
          cases quote with
          | nil =>
              rwa [List.nil_append, List.head?_append_of_ne_nil _ hline] at hnewline
          | cons c quote =>
              have hc : c = '\n' := Option.some.inj hnewline
              exact absurd (hquote c List.mem_cons_self) (by rw [hc]; decide)

theorem Lined.quoted (hquote : forall c, c ∈ quote -> isBreak c = false) (h : Lined later) :
    Lined (later.map (quoteLine forged quote)) := by
  induction h with
  | nil =>
      exact .nil
  | @last body hbody hne =>
      rw [List.map_singleton]
      cases hforged : forged body with
      | false =>
          rw [quoteLine_of_honest hforged]
          exact .last hbody hne
      | true =>
          rw [quoteLine_of_forged hforged]
          refine .last ?_ (List.append_ne_nil_of_right_ne_nil quote hne)
          intro c hmem
          exact (List.mem_append.mp hmem).elim (hquote c) (hbody c)
  | @cons body sep later hbody hsep hlater ih =>
      have hfollows : Breaks sep (later.map (quoteLine forged quote)).flatten :=
        hsep.of_head? (head?_quoted hquote hlater)
      rw [List.map_cons]
      cases hforged : forged (body ++ sep) with
      | false =>
          rw [quoteLine_of_honest hforged]
          exact .cons hbody hfollows ih
      | true =>
          rw [quoteLine_of_forged hforged, ← List.append_assoc]
          refine .cons ?_ hfollows ih
          intro c hmem
          exact (List.mem_append.mp hmem).elim (hquote c) (hbody c)

theorem lines_quoteLines (hquote : forall c, c ∈ quote -> isBreak c = false) :
    lines (quoteLines forged quote text) = (lines text).map (quoteLine forged quote) :=
  ((lined_lines text).quoted hquote).lines_flatten

theorem quoteLines_eq_self (h : forall line, line ∈ lines text -> forged line = false) :
    quoteLines forged quote text = text := by
  have hmap : (lines text).map (quoteLine forged quote) = lines text := by
    rw [List.map_congr_left fun line hmem => quoteLine_of_honest (h line hmem)]
    exact List.map_id' _
  unfold quoteLines
  rw [hmap, flatten_lines]

theorem honest_of_quoted (hquote : forall c, c ∈ quote -> isBreak c = false)
    (hsafe : forall line, forged (quote ++ line) = false)
    (hmem : line ∈ lines (quoteLines forged quote text)) : forged line = false := by
  rw [lines_quoteLines hquote] at hmem
  rcases List.mem_map.mp hmem with ⟨old, _, rfl⟩
  cases hforged : forged old with
  | false =>
      rw [quoteLine_of_honest hforged]
      exact hforged
  | true =>
      rw [quoteLine_of_forged hforged]
      exact hsafe old

end Quoting

end BrokenLines
end GraphHelm
