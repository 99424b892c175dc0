import Mathlib.Data.List.DropRight

/-!
# Texts made of lines

A text over any alphabet is cut at a separator.  The whole lines of a text are
those a separator ends; what follows the last separator is a torn line.
-/

namespace GraphHelm

section Lines

variable {α : Type} {sep : α} {text more line torn : List α} {lines lines' : List (List α)}

/-- Each line followed by the separator. -/
def unlines (sep : α) (lines : List (List α)) : List α :=
  lines.flatMap fun line => line ++ [sep]

def Separate (sep : α) (lines : List (List α)) : Prop :=
  forall line, line ∈ lines -> sep ∉ line

theorem unlines_append :
    unlines sep (lines ++ lines') = unlines sep lines ++ unlines sep lines' :=
  List.flatMap_append

theorem unlines_cons : unlines sep (line :: lines) = line ++ sep :: unlines sep lines := by
  unfold unlines
  rw [List.flatMap_cons, List.append_assoc]
  rfl

theorem unlines_singleton : unlines sep [line] = line ++ [sep] :=
  unlines_cons

theorem Separate.nil : Separate sep [] :=
  fun _ hline => absurd hline List.not_mem_nil

theorem Separate.append (h : Separate sep lines) (h' : Separate sep lines') :
    Separate sep (lines ++ lines') := by
  intro line hline
  rcases List.mem_append.mp hline with hmem | hmem
  · exact h line hmem
  · exact h' line hmem

variable [DecidableEq α]

def isWhole (sep : α) (text : List α) : Bool :=
  text.isEmpty || decide (text.getLast? = some sep)

/-- A text up to its last separator. -/
def wholePart (sep : α) (text : List α) : List α :=
  text.rdropWhile fun x => decide (x ≠ sep)

/-- What follows the last separator of a text. -/
def tornPart (sep : α) (text : List α) : List α :=
  text.rtakeWhile fun x => decide (x ≠ sep)

theorem isWhole_concat {x : α} : isWhole sep (text ++ [x]) = decide (x = sep) := by
  unfold isWhole
  rw [List.getLast?_concat]
  simp

theorem isWhole_append_of_ne_nil (h : more ≠ []) :
    isWhole sep (text ++ more) = isWhole sep more := by
  rcases List.eq_nil_or_concat more with hnil | ⟨init, last, hmore⟩
  · exact absurd hnil h
  · rw [hmore, List.concat_eq_append, ← List.append_assoc, isWhole_concat, isWhole_concat]

theorem isWhole_unlines : isWhole sep (unlines sep lines) = true := by
  rcases List.eq_nil_or_concat lines with hnil | ⟨init, last, hlines⟩
  · rw [hnil]
    rfl
  · rw [hlines, List.concat_eq_append, unlines_append, unlines_singleton, ← List.append_assoc,
      isWhole_concat]
    exact decide_eq_true rfl

/-!
## Cutting a text
-/

theorem splitOn_unlines (h : Separate sep lines) :
    (unlines sep lines ++ text).splitOn sep = lines ++ text.splitOn sep := by
  induction lines with
  | nil =>
      rfl
  | cons line rest ih =>
      have hline := h line List.mem_cons_self
      have hrest := ih fun other hother => h other (List.mem_cons_of_mem line hother)
      rw [unlines_cons, List.append_assoc, List.cons_append,
        List.splitOn_append_cons_self_of_not_mem hline, hrest]
      rfl

theorem exists_lines (sep : α) (text : List α) :
    exists lines torn, Separate sep lines ∧ sep ∉ torn ∧ text = unlines sep lines ++ torn := by
  induction text with
  | nil =>
      exact ⟨[], [], Separate.nil, List.not_mem_nil, rfl⟩
  | cons x rest ih =>
      rcases ih with ⟨lines, torn, hlines, htorn, hrest⟩
      by_cases hx : x = sep
      · refine ⟨[] :: lines, torn, ?_, htorn, ?_⟩
        · intro line hline
          rcases List.mem_cons.mp hline with heq | hmem
          · rw [heq]
            exact List.not_mem_nil
          · exact hlines line hmem
        · rw [unlines_cons, hrest, hx]
          rfl
      · cases lines with
        | nil =>
            refine ⟨[], x :: torn, Separate.nil, ?_, by rw [hrest]; rfl⟩
            intro hmem
            rcases List.mem_cons.mp hmem with heq | hmem
            · exact hx heq.symm
            · exact htorn hmem
        | cons line others =>
            refine ⟨(x :: line) :: others, torn, ?_, htorn, ?_⟩
            · intro other hother
              rcases List.mem_cons.mp hother with heq | hmem
              · rw [heq]
                intro hmem
                rcases List.mem_cons.mp hmem with hsame | hmem
                · exact hx hsame.symm
                · exact hlines line List.mem_cons_self hmem
              · exact hlines other (List.mem_cons_of_mem line hmem)
            · rw [hrest, unlines_cons, unlines_cons]
              rfl

theorem isWhole_unlines_append (h : sep ∉ torn) :
    isWhole sep (unlines sep lines ++ torn) = torn.isEmpty := by
  rcases List.eq_nil_or_concat torn with hnil | ⟨init, last, htorn⟩
  · rw [hnil, List.append_nil]
    exact isWhole_unlines
  · rw [List.concat_eq_append] at htorn
    have hlast : last ≠ sep := by
      rintro rfl
      exact h (htorn ▸ List.mem_append_right init (List.mem_singleton_self last))
    rw [htorn, ← List.append_assoc, isWhole_concat, decide_eq_false hlast]
    simp

theorem exists_lines_of_isWhole (h : isWhole sep text = true) :
    exists lines, Separate sep lines ∧ text = unlines sep lines := by
  rcases exists_lines sep text with ⟨lines, torn, hlines, htorn, htext⟩
  rw [htext, isWhole_unlines_append htorn, List.isEmpty_iff] at h
  rw [h, List.append_nil] at htext
  exact ⟨lines, hlines, htext⟩

theorem wholePart_append (h : isWhole sep text = true) (htorn : sep ∉ torn) :
    wholePart sep (text ++ torn) = text := by
  unfold wholePart
  induction torn using List.reverseRecOn with
  | nil =>
      rw [List.append_nil, List.rdropWhile_eq_self_iff]
      intro hne
      rcases List.eq_nil_or_concat text with hnil | ⟨init, last, hconcat⟩
      · exact absurd hnil hne
      · rw [List.concat_eq_append] at hconcat
        rw [hconcat, isWhole_concat, decide_eq_true_eq] at h
        simp [hconcat, h]
  | append_singleton init last ih =>
      have hlast : last ≠ sep := by
        rintro rfl
        exact htorn (List.mem_append_right init (List.mem_singleton_self last))
      rw [← List.append_assoc, List.rdropWhile_concat, if_pos (decide_eq_true hlast)]
      exact ih fun hmem => htorn (List.mem_append_left _ hmem)

theorem wholePart_append_tornPart : wholePart sep text ++ tornPart sep text = text :=
  List.rdropWhile_append_rtakeWhile

theorem tornPart_append (h : isWhole sep text = true) (htorn : sep ∉ torn) :
    tornPart sep (text ++ torn) = torn := by
  have hparts := @wholePart_append_tornPart α sep (text ++ torn) _
  rw [wholePart_append h htorn] at hparts
  exact List.append_cancel_left hparts

theorem isWhole_wholePart : isWhole sep (wholePart sep text) = true := by
  rcases exists_lines sep text with ⟨lines, torn, _, htorn, htext⟩
  rw [htext, wholePart_append isWhole_unlines htorn]
  exact isWhole_unlines

end Lines

end GraphHelm
