import GraphHelm.Policy.KeelDiff

/-!
# The lines a reader is given

The lines of a diff that was printed are its rows, each as its label and what
carriage returns leave of the rest.
-/

namespace GraphHelm
namespace Keel

/-!
## Carriage returns
-/

theorem stripReturn_append {first : Text} (h : '\r' ∉ first) (second : Text) :
    stripReturn (first ++ second) = first ++ stripReturn second := by
  unfold stripReturn
  cases second with
  | nil =>
      have hlast : first.getLast? ≠ some '\r' := fun heq => h (List.mem_of_getLast? heq)
      simp [hlast]
  | cons c rest =>
      have hne : c :: rest ≠ [] := List.cons_ne_nil c rest
      rw [List.getLast?_append_of_ne_nil first hne, List.dropLast_append_of_ne_nil hne]
      split
      · rfl
      · rfl

theorem stripReturn_of_not_mem {text : Text} (h : '\r' ∉ text) : stripReturn text = text := by
  have happend := stripReturn_append h []
  rw [List.append_nil] at happend
  rw [happend]
  exact List.append_nil text

/-- What a reader is left with of a line. -/
def chomp (text : Text) : Text := stripReturn (stripReturn text)

theorem chomp_append {first : Text} (h : '\r' ∉ first) (second : Text) :
    chomp (first ++ second) = first ++ chomp second := by
  unfold chomp
  rw [stripReturn_append h, stripReturn_append h]

theorem chomp_of_not_mem {text : Text} (h : '\r' ∉ text) : chomp text = text := by
  unfold chomp
  rw [stripReturn_of_not_mem h, stripReturn_of_not_mem h]

/-- A reader keeps the text of a line unless another carriage return is at its end. -/
theorem chomp_raw_eq_text {line : Line} :
    chomp line.raw = line.text <-> line.text.getLast? ≠ some '\r' := by
  unfold chomp Line.text
  generalize stripReturn line.raw = text
  unfold stripReturn
  split
  · rename_i hlast
    constructor
    · intro hsame
      rcases List.getLast?_eq_some_iff.mp hlast with ⟨init, hinit⟩
      rw [hinit, List.dropLast_concat] at hsame
      have hlength := congrArg List.length hsame
      simp at hlength
    · intro hne
      exact absurd hlast hne
  · rename_i hlast
    exact iff_of_true rfl hlast

/-!
## Rows as they are read
-/

theorem not_mem_of_plain {path : PlainPath} {c : Char} (h : isPlainChar c = false) :
    c ∉ path.text := by
  intro hmem
  have hplain := List.all_eq_true.mp path.plain c hmem
  rw [h] at hplain
  cases hplain

theorem not_mem_natText {number : Nat} {c : Char} (h : c.isDigit = false) :
    c ∉ natText number := by
  intro hmem
  have hdigit := Nat.isDigit_of_mem_toDigits (by decide) (by decide) hmem
  rw [h] at hdigit
  cases hdigit

theorem not_mem_rangeText {start count : Nat} {c : Char} (h : c.isDigit = false)
    (hcomma : c ≠ ',') : c ∉ rangeText start count := by
  unfold rangeText
  split
  · exact not_mem_natText h
  · rw [List.mem_append, List.mem_cons]
    intro hmem
    rcases hmem with hstart | heq | hcount
    · exact not_mem_natText h hstart
    · exact hcomma heq
    · exact not_mem_natText h hcount

theorem not_mem_sideText {letter : Char} {path : Option PlainPath} {c : Char}
    (h : isPlainChar c = false) (hletter : c ≠ letter) (htab : c ≠ '\t') :
    c ∉ sideText letter path := by
  cases path with
  | none =>
      intro hmem
      have hplain : devNull.all isPlainChar = true := by decide
      rw [List.all_eq_true.mp hplain c hmem] at h
      cases h
  | some path =>
      have hslash : c ≠ '/' := by
        intro heq
        subst heq
        revert h
        decide
      have hpath := @not_mem_of_plain path c h
      unfold sideText
      dsimp only
      split
      · simp [hletter, hslash, hpath, htab]
      · simp [hletter, hslash, hpath]

theorem HunkRow.rest_whole (row : HunkRow) : '\n' ∉ row.rest := by
  cases row with
  | context line => exact line.whole
  | removed line => exact line.whole
  | added line => exact line.whole
  | unterminated =>
      show '\n' ∉ " No newline at end of file".toList
      decide

theorem Row.rest_whole (row : Row) : '\n' ∉ row.rest := by
  cases row with
  | git old new =>
      have hold := @not_mem_of_plain old '\n' rfl
      have hnew := @not_mem_of_plain new '\n' rfl
      show '\n' ∉ pathsText old new
      simp [pathsText, hold, hnew]
  | newMode mode => exact mode.whole
  | deletedMode mode => exact mode.whole
  | similarity percent => exact percent.whole
  | renameFrom path => exact not_mem_of_plain rfl
  | renameTo path => exact not_mem_of_plain rfl
  | index blobs => exact blobs.whole
  | oldSide path => exact not_mem_sideText rfl (by decide) (by decide)
  | newSide path => exact not_mem_sideText rfl (by decide) (by decide)
  | header hunk =>
      have hranges := fun start count => @not_mem_rangeText start count '\n' rfl (by decide)
      show '\n' ∉ hunk.rangesText
      unfold Hunk.rangesText
      split
      · simp [hranges]
      · simp [hranges, hunk.heading.whole]
  | body row => exact row.rest_whole

theorem Row.label_whole (row : Row) : '\n' ∉ row.label ∧ '\r' ∉ row.label := by
  have hmarks : row.label.contains '\n' = false ∧ row.label.contains '\r' = false := by
    cases row with
    | body row => cases row <;> exact ⟨rfl, rfl⟩
    | _ => exact ⟨rfl, rfl⟩
  simpa using hmarks

theorem Row.whole (row : Row) : '\n' ∉ row.text := by
  unfold Row.text
  rw [List.mem_append]
  intro hmem
  rcases hmem with hlabel | hrest
  · exact row.label_whole.left hlabel
  · exact row.rest_whole hrest

/-- A row as a reader takes it. -/
def Row.read (row : Row) : Text := row.label ++ chomp row.rest

theorem readLines_unlines {rows : List Text} (h : Separate '\n' rows) :
    readLines (unlines '\n' rows) = rows.map chomp := by
  have hsplit : (unlines '\n' rows).splitOn '\n' = rows ++ [[]] := by
    have hmore := @splitOn_unlines Char '\n' [] rows _ h
    rw [List.append_nil] at hmore
    exact hmore
  unfold readLines lines
  dsimp only
  rw [hsplit, List.dropLast_concat, List.getLast?_concat, List.map_append, List.map_map]
  exact List.append_nil _

theorem readLines_render (files : List FileChange) :
    readLines (render files) = (files.flatMap FileChange.printed).map Row.read := by
  have hseparate : Separate '\n' ((files.flatMap FileChange.printed).map Row.text) := by
    intro line hline
    rcases List.mem_map.mp hline with ⟨row, _, hrow⟩
    exact hrow ▸ row.whole
  unfold render
  rw [readLines_unlines hseparate, List.map_map]
  apply List.map_congr_left
  intro row _
  exact chomp_append row.label_whole.right row.rest

end Keel
end GraphHelm
