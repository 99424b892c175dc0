import GraphHelm.Policy.KeelFiles

/-!
# When the readers find exactly what was changed

`added_lines` numbers the lines that `parse` adds, from the start that the header
of their hunk names.  With what is known of the other two readers this settles
for which changes all three find what was changed and nothing else.
-/

namespace GraphHelm
namespace Keel

/-!
## The start of a hunk
-/

theorem isWhiteSpace_of_isDigit {c : Char} (h : c.isDigit = true) : isWhiteSpace c = false := by
  have hrange : 48 <= c.toNat ∧ c.toNat <= 57 := by
    simp only [Char.isDigit, Bool.and_eq_true, decide_eq_true_eq, ge_iff_le,
      UInt32.le_iff_toNat_le] at h
    exact h
  unfold isWhiteSpace
  simp
  omega

theorem rangeText_blankless {start count : Nat} {c : Char} (h : c ∈ rangeText start count) :
    isWhiteSpace c = false := by
  by_contra hspace
  rw [Bool.not_eq_false] at hspace
  have hdigit : c.isDigit = false := by
    cases hd : c.isDigit with
    | false => rfl
    | true =>
        rw [isWhiteSpace_of_isDigit hd] at hspace
        cases hspace
  have hcomma : c ≠ ',' := by
    intro heq
    subst heq
    revert hspace
    decide
  exact not_mem_rangeText hdigit hcomma h

/-- What stands before the first comma of a range is its start. -/
theorem rangeText_start (start count : Nat) :
    (rangeText start count).takeWhile (fun c => c != ',') = natText start := by
  have hdigits : forall c, c ∈ natText start -> (c != ',') = true := by
    intro c hmem
    have hne : c ≠ ',' := by
      intro heq
      subst heq
      exact not_mem_natText rfl hmem
    simpa using hne
  unfold rangeText
  split
  · rw [List.takeWhile_eq_self_iff]
    exact hdigits
  · rw [List.takeWhile_append_of_pos hdigits]
    simp

theorem parseU32_natText (number : Nat) :
    parseU32 (natText number) = if number <= u32Max then some number else none := by
  have hplus : (natText number).dropPrefix? ['+'] = none := by
    cases htext : natText number with
    | nil => rfl
    | cons c rest =>
        have hne : c ≠ '+' := by
          intro heq
          subst heq
          exact @not_mem_natText number '+' rfl (htext ▸ List.mem_cons_self)
        simp [List.dropPrefix?, hne]
  have hvalue : Nat.ofDigitChars 10 (natText number) 0 = number :=
    Nat.ofDigitChars_toDigits (by decide) (by decide)
  have hdigits : (natText number).all Char.isDigit = true :=
    List.all_eq_true.mpr fun c hmem => Nat.isDigit_of_mem_toDigits (by decide) (by decide) hmem
  have hsome : natText number ≠ [] := Nat.toDigits_ne_nil
  unfold parseU32
  rw [hplus]
  simp [hvalue, hdigits, hsome]

def Hunk.readStart (hunk : Hunk) : Nat := if hunk.newStart <= u32Max then hunk.newStart else 0

theorem splitOnP_of_blankless {text : Text} (h : forall c, c ∈ text -> isWhiteSpace c = false) :
    text.splitOnP isWhiteSpace = [text] := by
  apply List.splitOnP_eq_singleton
  exact h

theorem hunkStart_ranges (hunk : Hunk) :
    hunkStart ('-' :: chomp hunk.rangesText) = hunk.readStart := by
  let old := rangeText hunk.oldStart (hunk.rows.countP HunkRow.isOld)
  let new := rangeText hunk.newStart (hunk.rows.countP HunkRow.isNew)
  let tail := if hunk.heading.raw.isEmpty then [] else ' ' :: hunk.heading.raw
  have hreturn : '\r' ∉ old ++ " +".toList ++ new ++ " @@".toList := by
    have hranges := fun start count => @not_mem_rangeText start count '\r' rfl (by decide)
    simp [old, new, hranges]
  have hread : '-' :: chomp hunk.rangesText =
      ('-' :: old) ++ ' ' :: (('+' :: new) ++ ' ' :: ("@@".toList ++ chomp tail)) := by
    have hchomp : chomp hunk.rangesText =
        (old ++ " +".toList ++ new ++ " @@".toList) ++ chomp tail := chomp_append hreturn tail
    rw [hchomp]
    simp
  have hold : forall c, c ∈ '-' :: old -> isWhiteSpace c = false := by
    intro c hmem
    rcases List.mem_cons.mp hmem with heq | hmem
    · rw [heq]
      rfl
    · exact rangeText_blankless hmem
  have hnew : forall c, c ∈ '+' :: new -> isWhiteSpace c = false := by
    intro c hmem
    rcases List.mem_cons.mp hmem with heq | hmem
    · rw [heq]
      rfl
    · exact rangeText_blankless hmem
  have hparts : splitWhitespace ('-' :: chomp hunk.rangesText) =
      ('-' :: old) :: ('+' :: new) :: splitWhitespace ("@@".toList ++ chomp tail) := by
    unfold splitWhitespace
    rw [hread, List.splitOnP_append_cons _ _ rfl, List.splitOnP_append_cons _ _ rfl,
      splitOnP_of_blankless hold, splitOnP_of_blankless hnew]
    rfl
  have hfound : (splitWhitespace ('-' :: chomp hunk.rangesText)).findSome?
      (fun part => part.dropPrefix? ['+']) = some new := by
    rw [hparts, List.findSome?_cons, List.findSome?_cons]
    have hplus : ('+' :: new).dropPrefix? ['+'] = some new := dropPrefix?_append ['+'] new
    rw [hplus]
    rfl
  unfold hunkStart
  rw [hfound, Option.bind_some, rangeText_start, parseU32_natText]
  unfold Hunk.readStart
  split
  · rfl
  · rfl

/-!
## `added_lines` over rows
-/

/-- The lines that rows add, each under the number `added_lines` gives it. -/
def readNumbers : Nat -> List HunkRow -> List (Nat × Text)
  | _, [] => []
  | number, .added line :: rest => (number, chomp line.raw) :: readNumbers (nextLine number) rest
  | number, .context _ :: rest => readNumbers (nextLine number) rest
  | number, .removed _ :: rest => readNumbers number rest
  | number, .unterminated :: rest => readNumbers number rest

namespace LineScan

variable (scan : LineScan)

theorem step_git (old new : PlainPath) :
    scan.step (Row.read (.git old new)) = { scan with inHunk := false } := rfl

theorem step_newSide (path : Option PlainPath) :
    scan.step (Row.read (.newSide path)) =
      { files := scan.files ++
          match path with
          | none => []
          | some path => [{ path := path.text, added := [] }]
        next := scan.next
        inHunk := false } := by
  have hread : Row.read (.newSide path) = "+++ ".toList ++ sideText 'b' path :=
    congrArg ("+++ ".toList ++ ·) (chomp_sideText 'b' (by decide) path)
  have hgit : "diff --git ".toList.isPrefixOf ("+++ ".toList ++ sideText 'b' path) = false := rfl
  unfold step
  rw [hread, hgit, dropPrefix?_append]
  cases path with
  | none =>
      show ({ scan with inHunk := false } : LineScan) = _
      rw [List.append_nil]
  | some path =>
      simp only [Bool.false_eq_true, if_false]
      rw [beforeTab_sideText 'b' (by decide)]
      have hname : ('b' :: '/' :: path.text).dropPrefix? "b/".toList = some path.text :=
        dropPrefix?_append "b/".toList path.text
      rw [hname]
      rfl

theorem step_header (hunk : Hunk) :
    scan.step (Row.read (.header hunk)) =
      { scan with next := hunk.readStart, inHunk := true } := by
  have hread : Row.read (.header hunk) = "@@ ".toList ++ '-' :: chomp hunk.rangesText := rfl
  have hstep : scan.step ("@@ ".toList ++ '-' :: chomp hunk.rangesText) =
      { scan with next := hunkStart ('-' :: chomp hunk.rangesText), inHunk := true } := rfl
  rw [hread, hstep, hunkStart_ranges]

theorem step_other {line : Text} (hgit : "diff --git ".toList.isPrefixOf line = false)
    (hside : line.dropPrefix? "+++ ".toList = none) (hheader : line.dropPrefix? "@@ ".toList = none)
    (hread : scan.inHunk = false ∨ scan.readHunkLine line = scan) : scan.step line = scan := by
  unfold step
  rw [hgit, hside, hheader]
  rcases hread with hout | hsame
  · rw [hout]
    rfl
  · rw [hsame]
    simp

theorem step_oldSide (path : Option PlainPath) :
    scan.step (Row.read (.oldSide path)) = scan :=
  step_other scan rfl rfl rfl (Or.inr rfl)

theorem step_describes {row : Row} (h : row.describes = true) (hin : scan.inHunk = false) :
    scan.step row.read = scan := by
  cases row with
  | newMode mode => exact step_other scan rfl rfl rfl (Or.inl hin)
  | deletedMode mode => exact step_other scan rfl rfl rfl (Or.inl hin)
  | similarity percent => exact step_other scan rfl rfl rfl (Or.inl hin)
  | renameFrom path => exact step_other scan rfl rfl rfl (Or.inl hin)
  | renameTo path => exact step_other scan rfl rfl rfl (Or.inl hin)
  | index blobs => exact step_other scan rfl rfl rfl (Or.inl hin)
  | _ => cases h

theorem foldl_describes {rows : List Row} (h : forall row, row ∈ rows -> row.describes = true)
    (hin : scan.inHunk = false) : (rows.map Row.read).foldl step scan = scan := by
  induction rows with
  | nil => rfl
  | cons row rest ih =>
      rw [List.map_cons, List.foldl_cons, step_describes scan (h row List.mem_cons_self) hin]
      exact ih fun other hmem => h other (List.mem_cons_of_mem row hmem)

theorem foldl_body {rows : List HunkRow} {before : List AddedFile} {file : AddedFile}
    (hclear : forall row, row ∈ rows -> row.mimics = false)
    (hfiles : scan.files = before ++ [file]) (hin : scan.inHunk = true) :
    ((rows.map fun row => Row.read (.body row)).foldl step scan).files =
      before ++ [{ file with added := file.added ++ readNumbers scan.next rows }] := by
  induction rows generalizing scan file with
  | nil =>
      rw [readNumbers, List.append_nil]
      exact hfiles
  | cons row rest ih =>
      have hrest := fun other hmem => hclear other (List.mem_cons_of_mem row hmem)
      have hlisted : scan.files.isEmpty = false := by
        rw [hfiles]
        simp
      rw [List.map_cons, List.foldl_cons]
      cases row with
      | context line =>
          have hstep : scan.step (Row.read (.body (.context line))) =
              { scan with next := nextLine scan.next } := by
            have hplain : scan.step (Row.read (.body (.context line))) =
                if scan.inHunk && !scan.files.isEmpty then
                  { scan with next := nextLine scan.next }
                else
                  scan := rfl
            rw [hplain, hin, hlisted]
            rfl
          rw [hstep]
          exact ih { scan with next := nextLine scan.next } hrest hfiles hin
      | removed line =>
          have hstep : scan.step (Row.read (.body (.removed line))) = scan :=
            step_other scan rfl rfl rfl (Or.inr rfl)
          rw [hstep]
          exact ih scan hrest hfiles hin
      | unterminated =>
          have hstep : scan.step (Row.read (.body .unterminated)) = scan :=
            step_other scan rfl rfl rfl (Or.inr rfl)
          rw [hstep]
          exact ih scan hrest hfiles hin
      | added line =>
          have hnone : (stripReturn line.text).dropPrefix? "++ ".toList = none := by
            simpa [HunkRow.mimics] using hclear _ List.mem_cons_self
          have hstep : scan.step (Row.read (.body (.added line))) =
              scan.readHunkLine ('+' :: chomp line.raw) := by
            have hside : ('+' :: chomp line.raw).dropPrefix? "+++ ".toList = none := hnone
            show scan.step ('+' :: chomp line.raw) = _
            unfold step
            rw [hside, hin, hlisted]
            rfl
          have hadded : (scan.readHunkLine ('+' :: chomp line.raw)).files =
              before ++ [{ file with added := file.added ++ [(scan.next, chomp line.raw)] }] := by
            show scan.files.modifyLast _ = _
            rw [hfiles]
            exact List.modifyLast_concat _ _ _
          rw [hstep, ih _ hrest hadded hin, readNumbers, List.append_assoc]
          rfl

theorem foldl_hunks {hunks : List Hunk} {before : List AddedFile} {file : AddedFile}
    (hclear : forall row, row ∈ hunks.flatMap Hunk.rows -> row.mimics = false)
    (hfiles : scan.files = before ++ [file]) :
    (((hunks.flatMap Hunk.printed).map Row.read).foldl step scan).files =
      before ++
        [{ file with
           added := file.added ++
             hunks.flatMap fun hunk => readNumbers hunk.readStart hunk.rows }] := by
  induction hunks generalizing scan file with
  | nil => simpa using hfiles
  | cons hunk rest ih =>
      have hhead : forall row, row ∈ hunk.rows -> row.mimics = false := fun row hmem =>
        hclear row (List.mem_append_left _ hmem)
      have htail : forall row, row ∈ rest.flatMap Hunk.rows -> row.mimics = false := fun row hmem =>
        hclear row (List.mem_append_right _ hmem)
      have hbody := @foldl_body { scan with next := hunk.readStart, inHunk := true } hunk.rows
        before file hhead hfiles rfl
      have hprinted : hunk.printed.map Row.read =
          Row.read (.header hunk) :: hunk.rows.map fun row => Row.read (.body row) := by
        unfold Hunk.printed
        rw [List.map_cons, List.map_map]
        rfl
      rw [List.flatMap_cons, List.map_append, List.foldl_append, hprinted, List.foldl_cons,
        step_header, ih _ htail hbody, List.flatMap_cons, List.append_assoc]

theorem foldl_printed {file : FileChange} (hclear : file.Clear) :
    ((file.printed.map Row.read).foldl step scan).files =
      scan.files ++
        if file.change.shown then
          [{ path := file.change.newPath.text
             added := file.change.hunks.flatMap fun hunk => readNumbers hunk.readStart hunk.rows }]
        else
          [] := by
  rw [FileChange.printed_eq, List.map_cons, List.foldl_cons, step_git, FileChange.rows,
    List.map_append, List.map_append, List.foldl_append, List.foldl_append,
    foldl_describes { scan with inHunk := false } (fun row => headers_describe) rfl]
  cases hhunks : file.change.hunks with
  | nil =>
      have hshown : file.change.shown = false := by
        unfold Change.shown
        rw [hhunks]
        exact Bool.and_false _
      unfold FileChange.sides
      rw [hhunks, hshown]
      exact (List.append_nil _).symm
  | cons hunk rest =>
      rw [<- hhunks]
      have hstays : file.change.deletes = false := by
        cases hdeletes : file.change.deletes with
        | false => rfl
        | true =>
            have hempty := hclear.kept hdeletes
            rw [hhunks] at hempty
            cases hempty
      have hshown : file.change.shown = true := by
        unfold Change.shown
        rw [hhunks, hstays]
        rfl
      have hsides : file.sides =
          [.oldSide (if file.change.creates then none else some file.change.oldPath),
            .newSide (some file.change.newPath)] := by
        unfold FileChange.sides
        rw [hhunks, hstays]
        rfl
      rw [hsides, List.map_cons, List.map_cons, List.map_nil, List.foldl_cons, List.foldl_cons,
        List.foldl_nil, step_oldSide, step_newSide, foldl_hunks _ hclear.rows rfl, hshown]
      rfl

end LineScan

theorem addedLines_render {files : List FileChange}
    (hclear : forall file, file ∈ files -> file.Clear) :
    addedLines (render files) =
      (files.filter fun file => file.change.shown).map fun file =>
        { path := file.change.newPath.text
          added :=
            file.change.hunks.flatMap fun hunk => readNumbers hunk.readStart hunk.rows } := by
  have hfold : forall scan : LineScan,
      (((files.flatMap FileChange.printed).map Row.read).foldl LineScan.step scan).files =
        scan.files ++ (files.filter fun file => file.change.shown).map fun file =>
          { path := file.change.newPath.text
            added :=
              file.change.hunks.flatMap fun hunk => readNumbers hunk.readStart hunk.rows } := by
    induction files with
    | nil =>
        intro scan
        exact (List.append_nil _).symm
    | cons file rest ih =>
        intro scan
        have hrest := ih fun other hmem => hclear other (List.mem_cons_of_mem file hmem)
        rw [List.flatMap_cons, List.map_append, List.foldl_append, hrest,
          LineScan.foldl_printed scan (hclear file List.mem_cons_self), List.append_assoc,
          List.filter_cons]
        congr 1
        split
        · rfl
        · rfl
  unfold addedLines
  rw [readLines_render, hfold]
  exact List.nil_append _

theorem parse_render {files : List FileChange} (hclear : forall file, file ∈ files -> file.Clear) :
    (parse (render files)).map ParseScan.shownOf =
      (files.filter fun file => file.change.shown).map fun file =>
        (file.change.newPath.text,
          (file.change.rows.filterMap HunkRow.addedLine).map fun line => chomp line.raw) := by
  have hfold : forall scan : ParseScan,
      (((files.flatMap FileChange.printed).map Row.read).foldl ParseScan.step scan).files.map
          ParseScan.shownOf =
        scan.files.map ParseScan.shownOf ++
          (files.filter fun file => file.change.shown).map fun file =>
            (file.change.newPath.text,
              (file.change.rows.filterMap HunkRow.addedLine).map fun line => chomp line.raw) := by
    induction files with
    | nil =>
        intro scan
        exact (List.append_nil _).symm
    | cons file rest ih =>
        intro scan
        have hfile := hclear file List.mem_cons_self
        have hrest := ih fun other hmem => hclear other (List.mem_cons_of_mem file hmem)
        rw [List.flatMap_cons, List.map_append, List.foldl_append, hrest,
          ParseScan.foldl_printed hfile.rows, List.append_assoc, List.filter_cons]
        congr 1
        unfold Change.shown FileChange.newName
        cases hdeletes : file.change.deletes with
        | true =>
            rw [hfile.kept hdeletes]
            rfl
        | false =>
            cases file.change.hunks with
            | nil => rfl
            | cons hunk more => rfl
  unfold parse
  rw [readLines_render, hfold]
  exact List.nil_append _

/-!
## Numbers
-/

theorem numbered_lines (number : Nat) (rows : List HunkRow) :
    (numbered number rows).map Prod.snd = rows.filterMap HunkRow.addedLine := by
  induction rows generalizing number with
  | nil => rfl
  | cons row rest ih =>
      cases row with
      | added line => exact congrArg (line :: ·) (ih (number + 1))
      | context line => exact ih (number + 1)
      | removed line => exact ih number
      | unterminated => exact ih number

theorem Change.numbered_lines (change : Change) :
    change.numbered.map Prod.snd = change.rows.filterMap HunkRow.addedLine := by
  unfold Change.numbered Change.rows
  induction change.hunks with
  | nil => rfl
  | cons hunk rest ih =>
      rw [List.flatMap_cons, List.flatMap_cons, List.map_append, List.filterMap_append, ih]
      congr 1
      exact Keel.numbered_lines hunk.newStart hunk.rows

theorem nextLine_le (number : Nat) : nextLine number <= u32Max := Nat.min_le_right _ _

theorem readNumbers_le {number : Nat} {rows : List HunkRow} (hnumber : number <= u32Max)
    {entry : Nat × Text} (h : entry ∈ readNumbers number rows) : entry.1 <= u32Max := by
  induction rows generalizing number with
  | nil => cases h
  | cons row rest ih =>
      cases row with
      | added line =>
          rcases List.mem_cons.mp h with heq | hlater
          · rw [heq]
            exact hnumber
          · exact ih (nextLine_le number) hlater
      | context line => exact ih (nextLine_le number) h
      | removed line => exact ih hnumber h
      | unterminated => exact ih hnumber h

theorem nextLine_eq {number read : Nat} (hread : number <= u32Max -> read = number)
    (hle : number + 1 <= u32Max) : nextLine read = number + 1 := by
  rw [hread (Nat.le_of_succ_le hle)]
  exact Nat.min_eq_left hle

/-- While the lines that are added have numbers a `u32` holds, they are read under them. -/
theorem readNumbers_eq {number read : Nat} {rows : List HunkRow}
    (hread : number <= u32Max -> read = number)
    (h : forall entry, entry ∈ numbered number rows -> entry.1 <= u32Max) :
    readNumbers read rows = (numbered number rows).map fun entry => (entry.1, chomp entry.2.raw) := by
  induction rows generalizing number read with
  | nil => rfl
  | cons row rest ih =>
      cases row with
      | added line =>
          have hhere : number <= u32Max := h (number, line) List.mem_cons_self
          have hrest := ih (nextLine_eq hread) fun entry hmem =>
            h entry (List.mem_cons_of_mem _ hmem)
          rw [readNumbers, hrest, hread hhere]
          rfl
      | context line => exact ih (nextLine_eq hread) h
      | removed line => exact ih hread h
      | unterminated => exact ih hread h

theorem Hunk.readStart_le (hunk : Hunk) : hunk.readStart <= u32Max := by
  unfold Hunk.readStart
  split
  · assumption
  · exact Nat.zero_le _

theorem Hunk.readNumbers_eq {hunk : Hunk}
    (h : forall entry, entry ∈ hunk.numbered -> entry.1 <= u32Max) :
    readNumbers hunk.readStart hunk.rows =
      hunk.numbered.map fun entry => (entry.1, chomp entry.2.raw) :=
  Keel.readNumbers_eq (fun hle => if_pos hle) h

/-!
## What the readers need
-/

structure Legible (files : List FileChange) : Prop where
  /-- No file that has lines is deleted. -/
  kept : forall file, file ∈ files -> file.change.deletes = true -> file.change.hunks = []
  /-- No line that is added begins like the header of a side or keeps a carriage return. -/
  added : forall file, file ∈ files -> forall entry, entry ∈ file.change.numbered ->
    "++ ".toList.isPrefixOf entry.2.text = false ∧ entry.2.text.getLast? ≠ some '\r'
  /-- A `u32` holds the number of every line that is added. -/
  numbers : forall file, file ∈ files -> forall entry, entry ∈ file.change.numbered ->
    entry.1 <= u32Max
  /-- What a removed line or a `diff --git` line is taken to name is changed as well. -/
  strays : forall file, file ∈ files -> forall path, path ∈ file.strays ->
    exists other, other ∈ files ∧ other.change.touches path = true

theorem mimics_added {line : Line} :
    (HunkRow.added line).mimics = "++ ".toList.isPrefixOf line.text := by
  have hmimics : (HunkRow.added line).mimics =
      ((stripReturn line.text).dropPrefix? "++ ".toList).isSome := rfl
  rw [hmimics]
  apply Bool.eq_iff_iff.mpr
  rw [List.isPrefixOf_iff_prefix]
  constructor
  · intro hsome
    rcases Option.isSome_iff_exists.mp hsome with ⟨named, hnamed⟩
    rcases List.dropPrefix?_eq_some_iff.mp hnamed with ⟨mark, hline, hmark⟩
    have hprefix : "++ ".toList <+: stripReturn line.text := by
      rw [hline, eq_of_beq hmark]
      exact List.prefix_append _ _
    unfold stripReturn at hprefix
    split at hprefix
    · exact hprefix.trans (List.dropLast_prefix _)
    · exact hprefix
  · intro hprefix
    rcases hprefix with ⟨rest, hrest⟩
    have hread : stripReturn line.text = "++ ".toList ++ stripReturn rest := by
      rw [<- hrest]
      exact stripReturn_append (by decide) rest
    rw [hread, dropPrefix?_append]
    rfl

variable {change : Change}

theorem mem_numbered_of_added {line : Line} (h : HunkRow.added line ∈ change.rows) :
    exists number, (number, line) ∈ change.numbered := by
  have hmem : line ∈ change.numbered.map Prod.snd := by
    rw [Change.numbered_lines]
    exact List.mem_filterMap.mpr ⟨HunkRow.added line, h, rfl⟩
  rcases List.mem_map.mp hmem with ⟨entry, hentry, heq⟩
  exact ⟨entry.1, heq ▸ hentry⟩

theorem added_of_mem_numbered {entry : Nat × Line} (h : entry ∈ change.numbered) :
    HunkRow.added entry.2 ∈ change.rows := by
  have hmem : entry.2 ∈ change.rows.filterMap HunkRow.addedLine := by
    rw [<- Change.numbered_lines]
    exact List.mem_map_of_mem h
  rcases List.mem_filterMap.mp hmem with ⟨row, hrow, hline⟩
  cases row with
  | added line =>
      cases hline
      exact hrow
  | _ => cases hline

theorem Legible.clear {files : List FileChange} (h : Legible files) {file : FileChange}
    (hmem : file ∈ files) : file.Clear := by
  constructor
  · exact h.kept file hmem
  · intro row hrow
    cases row with
    | added line =>
        rcases mem_numbered_of_added hrow with ⟨number, hnumber⟩
        rw [mimics_added]
        exact (h.added file hmem _ hnumber).left
    | _ => rfl

theorem removed_not_created (h : change.creates = true) {line : Line} :
    HunkRow.removed line ∉ change.rows := by
  intro hmem
  cases change with
  | create path lines terminated =>
      unfold Change.rows Change.hunks wholeFile at hmem
      dsimp only at hmem
      split at hmem
      · cases hmem
      · cases terminated with
        | true => simp at hmem
        | false => simp at hmem
  | _ => cases h

theorem touches_of_stray {file : FileChange} (hclear : file.Clear)
    (h : file.change.creates = true ∨ file.change.deletes = true) {path : Text}
    (hstray : path ∈ file.strays) : file.change.touches path = true := by
  have hheader : forall same : PlainPath,
      path ∈ (symmetricHeaderPath (pathsText same same)).toList -> same.text = path := by
    intro same hmem
    rw [symmetricHeaderPath_self] at hmem
    exact (List.mem_singleton.mp hmem).symm
  rw [Change.touches_iff]
  rcases List.mem_append.mp hstray with hnamed | hrow
  · cases hchange : file.change with
    | create same lines terminated =>
        rw [hchange] at hnamed
        exact Or.inl (hheader same hnamed)
    | delete same lines terminated =>
        rw [hchange] at hnamed
        exact Or.inl (hheader same hnamed)
    | edit same hunks =>
        rw [hchange] at h
        rcases h with hcreates | hdeletes
        · cases hcreates
        · cases hdeletes
    | rename old new hunks =>
        rw [hchange] at h
        rcases h with hcreates | hdeletes
        · cases hcreates
        · cases hdeletes
  · exfalso
    rcases List.mem_filterMap.mp hrow with ⟨row, hmem, hname⟩
    have hfresh : forall line, row ≠ .removed line := by
      intro line heq
      subst heq
      rcases h with hcreates | hdeletes
      · exact removed_not_created hcreates hmem
      · rw [Change.rows, hclear.kept hdeletes] at hmem
        cases hmem
    cases row with
    | removed line => exact hfresh line rfl
    | added line =>
        have hnone : (stripReturn line.text).dropPrefix? "++ ".toList = none := by
          simpa [HunkRow.mimics] using hclear.rows _ hmem
        have hstray : HunkRow.stray (.added line) =
            ((stripReturn line.text).dropPrefix? "++ ".toList).bind namedPath := rfl
        rw [hstray, hnone] at hname
        cases hname
    | context line => cases hname
    | unterminated => cases hname

theorem looksPlain_of_touches {path : Text} (h : change.touches path = true) :
    looksPlain path = true := by
  have hplain : forall known : PlainPath, looksPlain known.text = true := by
    intro known
    have hquote := @not_mem_of_plain known '"' rfl
    have hslash := @not_mem_of_plain known '\\' rfl
    have hhead : known.text.head? ≠ some '"' := fun heq => hquote (List.mem_of_head? heq)
    unfold looksPlain
    simp [hhead, hslash]
  rcases Change.touches_iff.mp h with heq | heq
  · exact heq ▸ hplain change.oldPath
  · exact heq ▸ hplain change.newPath

section Exactness

variable {files : List FileChange}

theorem entryAt_eq_some {path : Text} {entry : ChangedPath} :
    entryAt (entriesOf files) path = some entry <->
      entry ∈ entriesOf files ∧ entry.path = path :=
  OrderedMap.find?_key_eq_some (nodup_entriesOf files)

theorem anyBlock_eq {p : FileChange -> Bool} {path : Text}
    (h : forall file, file ∈ files -> p file = true -> path ∈ file.strays ->
      file.change.touches path = true) :
    anyBlock files p path = files.any fun file => p file && file.change.touches path := by
  unfold anyBlock
  apply Bool.eq_iff_iff.mpr
  rw [List.any_eq_true, List.any_eq_true]
  constructor
  · intro hany
    rcases hany with ⟨file, hmem, hboth⟩
    rw [Bool.and_eq_true, decide_eq_true_eq, mem_block] at hboth
    refine ⟨file, hmem, ?_⟩
    rw [Bool.and_eq_true]
    exact ⟨hboth.left, hboth.right.elim id (h file hmem hboth.left)⟩
  · intro hany
    rcases hany with ⟨file, hmem, hboth⟩
    rw [Bool.and_eq_true] at hboth
    refine ⟨file, hmem, ?_⟩
    rw [Bool.and_eq_true, decide_eq_true_eq, mem_block]
    exact ⟨hboth.left, Or.inl hboth.right⟩

theorem mem_changedPaths_of_legible (h : Legible files) (entry : ChangedPath) :
    entry ∈ changedPaths (render files) <->
      (exists file, file ∈ files ∧ file.change.touches entry.path = true) ∧
        entry = expectedEntry files entry.path := by
  have hlisted : anyBlock files (fun _ => true) entry.path = true <->
      exists file, file ∈ files ∧ file.change.touches entry.path = true := by
    unfold anyBlock
    rw [List.any_eq_true]
    constructor
    · intro hany
      rcases hany with ⟨file, hmem, hblock⟩
      rw [Bool.true_and, decide_eq_true_eq, mem_block] at hblock
      rcases hblock with htouches | hstray
      · exact ⟨file, hmem, htouches⟩
      · exact h.strays file hmem entry.path hstray
    · intro hany
      rcases hany with ⟨file, hmem, htouches⟩
      refine ⟨file, hmem, ?_⟩
      rw [Bool.true_and, decide_eq_true_eq, mem_block]
      exact Or.inl htouches
  have hcreates := @anyBlock_eq files (fun file => file.change.creates) entry.path
    fun file hmem hcreates => touches_of_stray (h.clear hmem) (Or.inl hcreates)
  have hdeletes := @anyBlock_eq files (fun file => file.change.deletes) entry.path
    fun file hmem hdeletes => touches_of_stray (h.clear hmem) (Or.inr hdeletes)
  have hat : entry ∈ entriesOf files <-> entryAt (entriesOf files) entry.path = some entry := by
    rw [entryAt_eq_some]
    exact (and_iff_left rfl).symm
  rw [changedPaths_render, hat, entryAt_entriesOf, hcreates, hdeletes]
  constructor
  · intro hentry
    split at hentry
    · rename_i hany
      rcases hlisted.mp hany with ⟨file, hmem, htouches⟩
      refine ⟨⟨file, hmem, htouches⟩, ?_⟩
      have hsome := Option.some.inj hentry
      rw [looksPlain_of_touches htouches] at hsome
      exact hsome.symm
    · cases hentry
  · intro hexpected
    rcases hexpected with ⟨⟨file, hmem, htouches⟩, heq⟩
    rw [if_pos (hlisted.mpr ⟨file, hmem, htouches⟩), looksPlain_of_touches htouches]
    exact congrArg some heq.symm

theorem Change.added_eq (change : Change) (h : forall entry, entry ∈ change.numbered ->
    entry.2.text.getLast? ≠ some '\r') :
    ((change.rows.filterMap HunkRow.addedLine).map fun line => chomp line.raw) = change.added := by
  unfold Change.added
  apply List.map_congr_left
  intro line hline
  rw [<- Change.numbered_lines] at hline
  rcases List.mem_map.mp hline with ⟨entry, hentry, heq⟩
  exact chomp_raw_eq_text.mpr (heq ▸ h entry hentry)

theorem Change.numbered_eq (change : Change)
    (hnumbers : forall entry, entry ∈ change.numbered -> entry.1 <= u32Max)
    (htexts : forall entry, entry ∈ change.numbered -> entry.2.text.getLast? ≠ some '\r') :
    (change.hunks.flatMap fun hunk => readNumbers hunk.readStart hunk.rows) =
      change.numbered.map fun (number, line) => (number, line.text) := by
  have hhunks : forall hunk, hunk ∈ change.hunks ->
      readNumbers hunk.readStart hunk.rows =
        hunk.numbered.map fun entry => (entry.1, chomp entry.2.raw) := by
    intro hunk hmem
    apply Hunk.readNumbers_eq
    intro entry hentry
    exact hnumbers entry (List.mem_flatMap.mpr ⟨hunk, hmem, hentry⟩)
  have hread : (change.hunks.flatMap fun hunk => readNumbers hunk.readStart hunk.rows) =
      change.numbered.map fun entry => (entry.1, chomp entry.2.raw) := by
    unfold Change.numbered
    rw [List.map_flatMap]
    exact List.flatMap_congr hhunks
  rw [hread]
  apply List.map_congr_left
  intro entry hentry
  rw [chomp_raw_eq_text.mpr (htexts entry hentry)]

theorem ReadExactly.of_legible (h : Legible files) : ReadExactly files := by
  have hclear : forall file, file ∈ files -> file.Clear := fun file hmem => h.clear hmem
  constructor
  · rw [changedPaths_render]
    exact nodup_entriesOf files
  · exact mem_changedPaths_of_legible h
  · refine (parse_render hclear).trans ?_
    apply List.map_congr_left
    intro file hmem
    have hfile := (List.mem_filter.mp hmem).left
    rw [Change.added_eq file.change fun entry hentry => (h.added file hfile entry hentry).right]
  · rw [addedLines_render hclear]
    apply List.map_congr_left
    intro file hmem
    have hfile := (List.mem_filter.mp hmem).left
    rw [Change.numbered_eq file.change (h.numbers file hfile)
      fun entry hentry => (h.added file hfile entry hentry).right]

theorem shown_of_numbered {file : FileChange} (hclear : file.Clear) {entry : Nat × Line}
    (h : entry ∈ file.change.numbered) : file.change.shown = true := by
  have hhunks : file.change.hunks ≠ [] := by
    intro hnil
    unfold Change.numbered at h
    rw [hnil] at h
    cases h
  unfold Change.shown
  cases hdeletes : file.change.deletes with
  | true => exact absurd (hclear.kept hdeletes) hhunks
  | false => simpa using hhunks

theorem legible_of_readExactly (h : ReadExactly files) : Legible files := by
  have hlength := congrArg List.length h.parsed
  rw [List.length_map, List.length_map] at hlength
  have hclear : forall file, file ∈ files -> file.Clear := fun file hmem =>
    clear_of_length hlength hmem
  have hparsed := (parse_render hclear).symm.trans h.parsed
  have hadded := (addedLines_render hclear).symm.trans h.added
  rw [List.map_inj_left] at hparsed hadded
  constructor
  · exact fun file hmem => (hclear file hmem).kept
  · intro file hmem entry hentry
    have hrow := added_of_mem_numbered hentry
    have hshown : file ∈ files.filter fun file => file.change.shown :=
      List.mem_filter.mpr ⟨hmem, shown_of_numbered (hclear file hmem) hentry⟩
    constructor
    · rw [<- mimics_added]
      exact (hclear file hmem).rows _ hrow
    · have htexts := (Prod.mk.inj (hparsed file hshown)).right
      unfold Change.added at htexts
      rw [List.map_inj_left] at htexts
      exact chomp_raw_eq_text.mp (htexts entry.2 (List.mem_filterMap.mpr ⟨_, hrow, rfl⟩))
  · intro file hmem entry hentry
    have hshown : file ∈ files.filter fun file => file.change.shown :=
      List.mem_filter.mpr ⟨hmem, shown_of_numbered (hclear file hmem) hentry⟩
    have hnumbers := congrArg AddedFile.added (hadded file hshown)
    dsimp only at hnumbers
    have hread : (entry.1, entry.2.text) ∈
        file.change.hunks.flatMap fun hunk => readNumbers hunk.readStart hunk.rows := by
      rw [hnumbers]
      exact List.mem_map.mpr ⟨entry, hentry, rfl⟩
    rcases List.mem_flatMap.mp hread with ⟨hunk, _, hnumber⟩
    exact readNumbers_le hunk.readStart_le hnumber
  · intro file hmem path hstray
    have hlisted : anyBlock files (fun _ => true) path = true := by
      unfold anyBlock
      rw [List.any_eq_true]
      refine ⟨file, hmem, ?_⟩
      rw [Bool.true_and, decide_eq_true_eq, mem_block]
      exact Or.inr hstray
    have hentry := entryAt_entriesOf files path
    rw [if_pos hlisted] at hentry
    rcases entryAt_eq_some.mp hentry with ⟨hmem, hpath⟩
    rw [<- changedPaths_render] at hmem
    rcases ((h.changed _).mp hmem).left with ⟨other, hother, htouches⟩
    exact ⟨other, hother, htouches⟩

end Exactness

/-- The readers find exactly what was changed just when nothing in the diff is mistaken. -/
theorem readExactly_iff (files : List FileChange) : ReadExactly files <-> Legible files :=
  ⟨legible_of_readExactly, ReadExactly.of_legible⟩

namespace Sample

def line (text : String) (h : '\n' ∉ text.toList) : Line := { raw := text.toList, whole := h }

def details : Details :=
  { mode := line "100644" (by decide)
    similarity := line "90%" (by decide)
    index := line "1c9b5e2..7d4f0aa 100644" (by decide) }

/-- An edit whose first new line reads like the header of another file's new side. -/
def misleading : FileChange :=
  { change :=
      .edit { text := "src/main.rs".toList, plain := by decide }
        [{ oldStart := 4
           newStart := 4
           heading := line "" (by decide)
           rows :=
             [.context (line "fn main() \x7b" (by decide)), .added (line "++ b/notes.md" (by decide)),
               .added (line "run();" (by decide))] }]
    details := details }

end Sample

/-- A line that begins like the header of a side hides itself and the lines that follow it. -/
theorem readers_are_misled : ¬ forall files, ReadExactly files := by
  intro hclaim
  have hparsed := (hclaim [Sample.misleading]).parsed
  have hlost : (parse (render [Sample.misleading])).map (fun file => file.added) ≠
      [Sample.misleading.change.added] := by decide +kernel
  apply hlost
  have hfiles := congrArg (List.map Prod.snd) hparsed
  rw [List.map_map, List.map_map] at hfiles
  exact hfiles

end Keel
end GraphHelm
