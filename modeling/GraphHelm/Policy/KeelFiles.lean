import GraphHelm.Policy.KeelPaths

/-!
# What `parse` and `added_lines` find

Both readers hold the files whose new side they have read; while no line that is
added reads like the header of a new side, each hunk adds its lines to the last.
-/

namespace GraphHelm
namespace Keel

/-!
## The last of a list
-/

theorem modifyLast_id {α : Type} (items : List α) : items.modifyLast id = items := by
  rcases List.eq_nil_or_concat items with hnil | ⟨init, last, hconcat⟩
  · rw [hnil]
    rfl
  · rw [hconcat, List.concat_eq_append, List.modifyLast_concat]
    rfl

theorem length_modifyLast {α : Type} (f : α -> α) (items : List α) :
    (items.modifyLast f).length = items.length := by
  rcases List.eq_nil_or_concat items with hnil | ⟨init, last, hconcat⟩
  · rw [hnil]
    rfl
  · rw [hconcat, List.concat_eq_append, List.modifyLast_concat, List.length_append,
      List.length_append]
    rfl

/-!
## Sides
-/

theorem beforeTab_plain (path : PlainPath) (more : Text) (h : more = [] ∨ more = ['\t']) :
    beforeTab (path.text ++ more) = path.text := by
  have hpath := @not_mem_of_plain path '\t' rfl
  rcases h with heq | heq
  · rw [heq, List.append_nil]
    exact beforeTab_of_not_mem hpath
  · subst heq
    unfold beforeTab
    rw [List.takeWhile_append_of_pos]
    · exact List.append_nil _
    · intro c hmem
      have hne : c ≠ '\t' := fun heq => hpath (heq ▸ hmem)
      simpa using hne

def sideName (path : Option PlainPath) : Text := path.elim devNull PlainPath.text

theorem parse_newSide (path : Option PlainPath) :
    beforeTab (((chomp (sideText 'b' path)).dropPrefix? "b/".toList).getD
      (chomp (sideText 'b' path))) = sideName path := by
  rw [chomp_sideText 'b' (by decide)]
  cases path with
  | none => rfl
  | some path =>
      have htext : sideText 'b' (some path) =
          "b/".toList ++ (path.text ++ if path.text.contains ' ' then ['\t'] else []) := rfl
      rw [htext, dropPrefix?_append]
      apply beforeTab_plain
      split
      · exact Or.inr rfl
      · exact Or.inl rfl

/-!
## `parse` over rows
-/

/-- Whether a row adds a line that reads like the header of a new side. -/
def HunkRow.mimics : HunkRow -> Bool
  | .added line => ((stripReturn line.text).dropPrefix? "++ ".toList).isSome
  | _ => false

namespace ParseScan

variable (scan : ParseScan)

theorem step_git (old new : PlainPath) :
    scan.step (Row.read (.git old new)) = { scan with pendingNew := false, inHunk := false } := rfl

theorem step_newSide (path : Option PlainPath) :
    scan.step (Row.read (.newSide path)) =
      { scan with
        files :=
          scan.files ++
            [{ path := sideName path
               isNew := scan.pendingNew
               added := []
               addedWithContext := [] }]
        inHunk := false } := by
  have hread : Row.read (.newSide path) = "+++ ".toList ++ chomp (sideText 'b' path) := rfl
  rw [← parse_newSide]
  unfold step
  rw [hread, dropPrefix?_append]
  rfl

theorem step_header (hunk : Hunk) :
    scan.step (Row.read (.header hunk)) = { scan with inHunk := true } := rfl

theorem step_oldSide (path : Option PlainPath) :
    (scan.step (Row.read (.oldSide path))).files = scan.files ∧
      (scan.step (Row.read (.oldSide path))).inHunk = scan.inHunk := by
  have hread : Row.read (.oldSide path) = "--- ".toList ++ sideText 'a' path :=
    congrArg ("--- ".toList ++ ·) (chomp_sideText 'a' (by decide) path)
  rw [hread]
  cases path with
  | none => exact ⟨rfl, rfl⟩
  | some path => exact ⟨rfl, rfl⟩

theorem step_context (line : Line) :
    scan.step (Row.read (.body (.context line))) =
      if scan.inHunk then
        { scan with
          files := scan.files.modifyLast (readHunkLine (' ' :: chomp line.raw)) }
      else
        scan := rfl

theorem step_plus (line : Line) :
    scan.step (Row.read (.body (.added line))) =
      match (stripReturn line.text).dropPrefix? "++ ".toList with
      | some named =>
          { scan with
            files :=
              scan.files ++
                [{ path := beforeTab ((named.dropPrefix? "b/".toList).getD named)
                   isNew := scan.pendingNew
                   added := []
                   addedWithContext := [] }]
            inHunk := false }
      | none =>
          if scan.inHunk then
            { scan with
              files := scan.files.modifyLast (readHunkLine ('+' :: chomp line.raw)) }
          else
            scan := rfl

theorem step_added {line : Line}
    (h : (stripReturn line.text).dropPrefix? "++ ".toList = none) :
    scan.step (Row.read (.body (.added line))) =
      if scan.inHunk then
        { scan with
          files := scan.files.modifyLast (readHunkLine ('+' :: chomp line.raw)) }
      else
        scan := by
  rw [step_plus, h]

theorem step_mimicking {line : Line} {named : Text}
    (h : (stripReturn line.text).dropPrefix? "++ ".toList = some named) :
    scan.step (Row.read (.body (.added line))) =
      { scan with
        files :=
          scan.files ++
            [{ path := beforeTab ((named.dropPrefix? "b/".toList).getD named)
               isNew := scan.pendingNew
               added := []
               addedWithContext := [] }]
        inHunk := false } := by
  rw [step_plus, h]

theorem step_removed (line : Line) :
    (scan.step (Row.read (.body (.removed line)))).files = scan.files ∧
      (scan.step (Row.read (.body (.removed line)))).inHunk = scan.inHunk := by
  have hread : Row.read (.body (.removed line)) = '-' :: chomp line.raw := rfl
  have hstep : scan.step ('-' :: chomp line.raw) =
      if decide ('-' :: chomp line.raw = "--- /dev/null".toList) then
        { scan with pendingNew := true }
      else if "--- ".toList.isPrefixOf ('-' :: chomp line.raw) then
        scan
      else if scan.inHunk then
        { scan with files := scan.files.modifyLast (readHunkLine ('-' :: chomp line.raw)) }
      else
        scan := rfl
  have hsame : scan.files.modifyLast (readHunkLine ('-' :: chomp line.raw)) = scan.files := by
    have hid : readHunkLine ('-' :: chomp line.raw) = id := rfl
    rw [hid]
    exact modifyLast_id _
  rw [hread, hstep, hsame]
  split
  · exact ⟨rfl, rfl⟩
  · split
    · exact ⟨rfl, rfl⟩
    · split
      · exact ⟨rfl, rfl⟩
      · exact ⟨rfl, rfl⟩

theorem step_unterminated :
    scan.step (Row.read (.body .unterminated)) = scan := by
  have hstep : scan.step (Row.read (.body .unterminated)) =
      if scan.inHunk then
        { scan with
          files := scan.files.modifyLast (readHunkLine "\\ No newline at end of file".toList) }
      else
        scan := rfl
  have hid : readHunkLine "\\ No newline at end of file".toList = id := rfl
  rw [hstep, hid, modifyLast_id]
  exact ite_self scan

theorem foldl_body {rows : List HunkRow} {before : List DiffFile} {file : DiffFile}
    (hclear : forall row, row ∈ rows -> row.mimics = false)
    (hfiles : scan.files = before ++ [file]) (hin : scan.inHunk = true) :
    exists last,
      ((rows.map fun row => Row.read (.body row)).foldl step scan).files = before ++ [last] ∧
        ((rows.map fun row => Row.read (.body row)).foldl step scan).inHunk = true ∧
        last.path = file.path ∧
        last.added = file.added ++ (rows.filterMap HunkRow.addedLine).map fun line => chomp line.raw := by
  induction rows generalizing scan file with
  | nil => exact ⟨file, hfiles, hin, rfl, (List.append_nil _).symm⟩
  | cons row rest ih =>
      have hrest := fun other hmem => hclear other (List.mem_cons_of_mem row hmem)
      rw [List.map_cons, List.foldl_cons]
      cases row with
      | context line =>
          have hread : (scan.step (Row.read (.body (.context line)))).files =
              before ++ [readHunkLine (' ' :: chomp line.raw) file] := by
            rw [step_context, if_pos hin, hfiles]
            exact List.modifyLast_concat _ _ _
          rcases ih _ hrest hread (by rw [step_context, if_pos hin]; exact hin) with
            ⟨last, hlast, hstill, hpath, hadded⟩
          exact ⟨last, hlast, hstill, hpath, hadded⟩
      | removed line =>
          rcases scan.step_removed line with ⟨hsame, hstays⟩
          rcases ih _ hrest (hsame.trans hfiles) (hstays.trans hin) with
            ⟨last, hlast, hstill, hpath, hadded⟩
          exact ⟨last, hlast, hstill, hpath, hadded⟩
      | added line =>
          have hnone : (stripReturn line.text).dropPrefix? "++ ".toList = none :=
            Option.isSome_eq_false_iff.mp (hclear _ List.mem_cons_self) |> Option.isNone_iff_eq_none.mp
          have hread : (scan.step (Row.read (.body (.added line)))).files =
              before ++ [readHunkLine ('+' :: chomp line.raw) file] := by
            rw [step_added scan hnone, if_pos hin, hfiles]
            exact List.modifyLast_concat _ _ _
          rcases ih _ hrest hread (by rw [step_added scan hnone, if_pos hin]; exact hin) with
            ⟨last, hlast, hstill, hpath, hadded⟩
          refine ⟨last, hlast, hstill, hpath, ?_⟩
          have hcons : (HunkRow.added line :: rest).filterMap HunkRow.addedLine =
              line :: rest.filterMap HunkRow.addedLine := rfl
          rw [hadded, hcons, List.map_cons]
          exact List.append_assoc file.added [chomp line.raw] _
      | unterminated =>
          rw [step_unterminated]
          exact ih scan hrest hfiles hin

theorem foldl_hunks {hunks : List Hunk} {before : List DiffFile} {file : DiffFile}
    (hclear : forall row, row ∈ hunks.flatMap Hunk.rows -> row.mimics = false)
    (hfiles : scan.files = before ++ [file]) :
    exists last,
      (((hunks.flatMap Hunk.printed).map Row.read).foldl step scan).files = before ++ [last] ∧
        last.path = file.path ∧
        last.added = file.added ++
          ((hunks.flatMap Hunk.rows).filterMap HunkRow.addedLine).map fun line => chomp line.raw := by
  induction hunks generalizing scan file with
  | nil => exact ⟨file, hfiles, rfl, (List.append_nil _).symm⟩
  | cons hunk rest ih =>
      have hhead : forall row, row ∈ hunk.rows -> row.mimics = false := fun row hmem =>
        hclear row (List.mem_append_left _ hmem)
      have htail : forall row, row ∈ rest.flatMap Hunk.rows -> row.mimics = false := fun row hmem =>
        hclear row (List.mem_append_right _ hmem)
      have hprinted : hunk.printed.map Row.read =
          Row.read (.header hunk) :: hunk.rows.map fun row => Row.read (.body row) := by
        unfold Hunk.printed
        rw [List.map_cons, List.map_map]
        rfl
      have hopened : ({ scan with inHunk := true } : ParseScan).files = before ++ [file] := hfiles
      rcases foldl_body { scan with inHunk := true } hhead hopened rfl with
        ⟨middle, hmiddle, _, hpath, hadded⟩
      rcases ih _ htail hmiddle with ⟨last, hlast, hsame, hmore⟩
      refine ⟨last, ?_, hsame.trans hpath, ?_⟩
      · rw [List.flatMap_cons, List.map_append, List.foldl_append, hprinted, List.foldl_cons,
          step_header]
        exact hlast
      · rw [hmore, hadded, List.append_assoc, List.flatMap_cons, List.filterMap_append,
          List.map_append]

end ParseScan

def Row.describes : Row -> Bool
  | .newMode _ => true
  | .deletedMode _ => true
  | .similarity _ => true
  | .renameFrom _ => true
  | .renameTo _ => true
  | .index _ => true
  | _ => false

theorem headers_describe {file : FileChange} {row : Row} (h : row ∈ file.headers) :
    row.describes = true := by
  have hall : file.headers.all Row.describes = true := by
    unfold FileChange.headers
    cases file.change with
    | rename old new hunks =>
        dsimp only
        split
        · rfl
        · rfl
    | _ => rfl
  exact List.all_eq_true.mp hall row h

def FileChange.newName (file : FileChange) : Text :=
  sideName (if file.change.deletes then none else some file.change.newPath)

namespace ParseScan

theorem step_describes {scan : ParseScan} {row : Row} (h : row.describes = true)
    (hin : scan.inHunk = false) :
    (scan.step row.read).files = scan.files ∧ (scan.step row.read).inHunk = false := by
  have hkeep : forall text : Text,
      (if scan.inHunk then { scan with files := scan.files.modifyLast (readHunkLine text) }
        else scan) = scan := by
    intro text
    rw [hin]
    rfl
  cases row with
  | newMode mode => exact ⟨rfl, hin⟩
  | deletedMode mode =>
      have hstep : scan.step (Row.read (.deletedMode mode)) = scan := hkeep _
      rw [hstep]
      exact ⟨rfl, hin⟩
  | similarity percent =>
      have hstep : scan.step (Row.read (.similarity percent)) = scan := hkeep _
      rw [hstep]
      exact ⟨rfl, hin⟩
  | renameFrom path =>
      have hstep : scan.step (Row.read (.renameFrom path)) = scan := hkeep _
      rw [hstep]
      exact ⟨rfl, hin⟩
  | renameTo path =>
      have hstep : scan.step (Row.read (.renameTo path)) = scan := hkeep _
      rw [hstep]
      exact ⟨rfl, hin⟩
  | index blobs =>
      have hstep : scan.step (Row.read (.index blobs)) = scan := hkeep _
      rw [hstep]
      exact ⟨rfl, hin⟩
  | _ => cases h

theorem foldl_describes {scan : ParseScan} {rows : List Row}
    (h : forall row, row ∈ rows -> row.describes = true) (hin : scan.inHunk = false) :
    ((rows.map Row.read).foldl step scan).files = scan.files ∧
      ((rows.map Row.read).foldl step scan).inHunk = false := by
  induction rows generalizing scan with
  | nil => exact ⟨rfl, hin⟩
  | cons row rest ih =>
      rcases step_describes (h row List.mem_cons_self) hin with ⟨hfiles, hstays⟩
      rcases ih (fun other hmem => h other (List.mem_cons_of_mem row hmem)) hstays with
        ⟨hrest, hlast⟩
      exact ⟨hrest.trans hfiles, hlast⟩

/-- A file as the property of the readers sees it. -/
def shownOf (file : DiffFile) : Text × List Text := (file.path, file.added)

theorem foldl_printed {scan : ParseScan} {file : FileChange}
    (hclear : forall row, row ∈ file.change.rows -> row.mimics = false) :
    (((file.printed.map Row.read).foldl step scan).files).map shownOf =
      scan.files.map shownOf ++
        if file.change.hunks.isEmpty then
          []
        else
          [(file.newName,
            (file.change.rows.filterMap HunkRow.addedLine).map fun line => chomp line.raw)] := by
  rw [FileChange.printed_eq, List.map_cons, List.foldl_cons, step_git, FileChange.rows,
    List.map_append, List.map_append, List.foldl_append, List.foldl_append]
  rcases @foldl_describes { scan with pendingNew := false, inHunk := false } file.headers
    (fun row => headers_describe) rfl with ⟨hfiles, hin⟩
  generalize ((file.headers.map Row.read).foldl step
    { scan with pendingNew := false, inHunk := false }) = described at hfiles hin
  cases hhunks : file.change.hunks with
  | nil =>
      unfold FileChange.sides
      rw [hhunks]
      simp [hfiles]
  | cons hunk rest =>
      rw [<- hhunks]
      have hsides : file.sides =
          [.oldSide (if file.change.creates then none else some file.change.oldPath),
            .newSide (if file.change.deletes then none else some file.change.newPath)] := by
        unfold FileChange.sides
        rw [hhunks]
        rfl
      rw [hsides, List.map_cons, List.map_cons, List.map_nil, List.foldl_cons, List.foldl_cons,
        List.foldl_nil, step_newSide, (step_oldSide described _).left, hfiles]
      rcases @foldl_hunks
        { files := scan.files ++
            [{ path := file.newName
               isNew := (described.step (Row.read (.oldSide
                 (if file.change.creates then none else some file.change.oldPath)))).pendingNew
               added := []
               addedWithContext := [] }]
          pendingNew := (described.step (Row.read (.oldSide
            (if file.change.creates then none else some file.change.oldPath)))).pendingNew
          inHunk := false } file.change.hunks scan.files _ hclear rfl with
        ⟨last, hlast, hpath, hadded⟩
      have hlisted : file.change.hunks.isEmpty = false := by
        rw [hhunks]
        rfl
      rw [hlisted]
      refine (congrArg (List.map shownOf) hlast).trans ?_
      rw [List.map_append]
      congr 1
      show [(last.path, last.added)] = _
      rw [hpath, hadded]
      rfl

end ParseScan

/-!
## How many files `parse` makes
-/

def Row.heads : Row -> Bool
  | .newSide _ => true
  | .body row => row.mimics
  | _ => false

theorem ParseScan.length_step (scan : ParseScan) (row : Row) :
    (scan.step row.read).files.length = scan.files.length + row.heads.toNat := by
  have hkeep : forall text : Text,
      (if scan.inHunk then { scan with files := scan.files.modifyLast (readHunkLine text) }
        else scan).files.length = scan.files.length := by
    intro text
    split
    · exact length_modifyLast _ _
    · rfl
  cases row with
  | git old new => rfl
  | newMode mode => rfl
  | deletedMode mode => exact hkeep _
  | similarity percent => exact hkeep _
  | renameFrom path => exact hkeep _
  | renameTo path => exact hkeep _
  | index blobs => exact hkeep _
  | oldSide path => rw [(step_oldSide scan path).left]; rfl
  | newSide path =>
      rw [step_newSide, List.length_append]
      rfl
  | header hunk => rfl
  | body row =>
      cases row with
      | context line => exact hkeep _
      | removed line => rw [(step_removed scan line).left]; rfl
      | unterminated => rw [step_unterminated]; rfl
      | added line =>
          show _ = scan.files.length +
            ((stripReturn line.text).dropPrefix? "++ ".toList).isSome.toNat
          cases hnamed : (stripReturn line.text).dropPrefix? "++ ".toList with
          | none =>
              rw [step_added scan hnamed]
              exact hkeep _
          | some named =>
              rw [step_mimicking scan hnamed, List.length_append]
              rfl

theorem length_parse (files : List FileChange) :
    (parse (render files)).length = (files.flatMap FileChange.printed).countP Row.heads := by
  have hfold : forall (rows : List Row) (scan : ParseScan),
      (((rows.map Row.read).foldl ParseScan.step scan).files).length =
        scan.files.length + rows.countP Row.heads := by
    intro rows
    induction rows with
    | nil =>
        intro scan
        rfl
    | cons row rest ih =>
        intro scan
        rw [List.map_cons, List.foldl_cons, ih, ParseScan.length_step, List.countP_cons]
        cases row.heads with
        | true => simp; omega
        | false => simp
  unfold parse
  rw [readLines_render, hfold]
  exact Nat.zero_add _

theorem countP_heads_printed (file : FileChange) :
    file.printed.countP Row.heads =
      (!file.change.hunks.isEmpty).toNat + file.change.rows.countP HunkRow.mimics := by
  have hheaders : file.headers.countP Row.heads = 0 := by
    rw [List.countP_eq_zero]
    intro row hmem
    have hdescribes := headers_describe hmem
    cases row with
    | newSide path => cases hdescribes
    | body row => cases hdescribes
    | _ => exact Bool.false_ne_true
  have hsides : file.sides.countP Row.heads = (!file.change.hunks.isEmpty).toNat := by
    unfold FileChange.sides
    split
    · rename_i hempty
      rw [hempty]
      rfl
    · rename_i hlisted
      rw [Bool.not_eq_true] at hlisted
      rw [hlisted]
      rfl
  have hhunks : forall hunks : List Hunk,
      (hunks.flatMap Hunk.printed).countP Row.heads =
        (hunks.flatMap Hunk.rows).countP HunkRow.mimics := by
    intro hunks
    induction hunks with
    | nil => rfl
    | cons hunk rest ih =>
        have hhead : hunk.printed.countP Row.heads = hunk.rows.countP HunkRow.mimics := by
          unfold Hunk.printed
          rw [List.countP_cons_of_neg Bool.false_ne_true, List.countP_map]
          rfl
        rw [List.flatMap_cons, List.flatMap_cons, List.countP_append, List.countP_append, ih, hhead]
  rw [FileChange.printed_eq, List.countP_cons_of_neg Bool.false_ne_true, FileChange.rows,
    List.countP_append, List.countP_append, hheaders, hsides, hhunks, Nat.zero_add]
  rfl

/-- A change that `parse` makes no file of but the one it is due. -/
structure FileChange.Clear (file : FileChange) : Prop where
  kept : file.change.deletes = true -> file.change.hunks = []
  rows : forall row, row ∈ file.change.rows -> row.mimics = false

theorem clear_iff {file : FileChange} :
    file.Clear <-> file.printed.countP Row.heads <= file.change.shown.toNat := by
  rw [countP_heads_printed]
  unfold Change.shown
  constructor
  · intro hclear
    have hrows : file.change.rows.countP HunkRow.mimics = 0 := by
      rw [List.countP_eq_zero]
      intro row hmem
      simp [hclear.rows row hmem]
    rw [hrows]
    cases hdeletes : file.change.deletes with
    | false => simp
    | true => simp [hclear.kept hdeletes]
  · intro hcount
    have hshown : (!file.change.deletes && !file.change.hunks.isEmpty).toNat <=
        (!file.change.hunks.isEmpty).toNat := by
      cases file.change.deletes with
      | true => simp
      | false => simp
    have hrows : file.change.rows.countP HunkRow.mimics = 0 := by omega
    constructor
    · intro hdeletes
      rw [hrows, hdeletes] at hcount
      cases hhunks : file.change.hunks with
      | nil => rfl
      | cons hunk rest =>
          rw [hhunks] at hcount
          simp at hcount
    · intro row hmem
      simpa using List.countP_eq_zero.mp hrows row hmem

theorem shown_le_heads (file : FileChange) :
    file.change.shown.toNat <= file.printed.countP Row.heads := by
  rw [countP_heads_printed]
  unfold Change.shown
  cases file.change.deletes with
  | true => simp
  | false => simp

theorem length_shown_le (files : List FileChange) :
    (files.filter fun file => file.change.shown).length <=
      (files.flatMap FileChange.printed).countP Row.heads := by
  induction files with
  | nil => exact Nat.le_refl 0
  | cons file rest ih =>
      have hfile := shown_le_heads file
      rw [List.flatMap_cons, List.countP_append, List.filter_cons]
      split
      · rename_i hshown
        rw [hshown] at hfile
        rw [List.length_cons]
        simp only [Bool.toNat_true] at hfile
        omega
      · omega

/-- `parse` makes as many files as are due only where no row and no deletion makes another. -/
theorem clear_of_length {files : List FileChange}
    (h : (parse (render files)).length = (files.filter fun file => file.change.shown).length)
    {file : FileChange} (hmem : file ∈ files) : file.Clear := by
  rw [length_parse] at h
  induction files with
  | nil => cases hmem
  | cons first rest ih =>
      have hfirst := shown_le_heads first
      have hrest := length_shown_le rest
      have hlength : ((first :: rest).filter fun file => file.change.shown).length =
          first.change.shown.toNat + (rest.filter fun file => file.change.shown).length := by
        rw [List.filter_cons]
        cases first.change.shown with
        | true =>
            rw [if_pos rfl, List.length_cons, Bool.toNat_true]
            omega
        | false =>
            rw [if_neg Bool.false_ne_true, Bool.toNat_false]
            omega
      rw [List.flatMap_cons, List.countP_append, hlength] at h
      rcases List.mem_cons.mp hmem with heq | hlater
      · rw [heq, clear_iff]
        omega
      · exact ih (by omega) hlater

end Keel
end GraphHelm
