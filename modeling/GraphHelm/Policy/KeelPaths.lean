import GraphHelm.Policy.KeelRows

/-!
# What `changed_paths` finds

The rows of one change are read as one block: the paths it touches, and those
its rows are taken to name.  The entries are the blocks, merged path by path.
-/

namespace GraphHelm
namespace Keel

/-!
## `changed_paths` over rows
-/

def namedPath (named : Text) : Option Text :=
  if beforeTab named = devNull then none else some (stripSide (beforeTab named))

theorem pushSide_eq (scan : PathScan) (named : Text) :
    scan.pushSide named = (namedPath named).elim scan scan.push := by
  unfold PathScan.pushSide namedPath
  split
  · rfl
  · rfl

theorem beforeTab_of_not_mem {text : Text} (h : '\t' ∉ text) : beforeTab text = text := by
  unfold beforeTab
  rw [List.takeWhile_eq_self_iff]
  intro c hmem
  have hne : c ≠ '\t' := fun heq => h (heq ▸ hmem)
  simpa using hne

theorem beforeTab_sideText (letter : Char) (hletter : letter ≠ '\t') (path : PlainPath) :
    beforeTab (sideText letter (some path)) = letter :: '/' :: path.text := by
  have hpath := @not_mem_of_plain path '\t' rfl
  have hside : '\t' ∉ letter :: '/' :: path.text := by
    simp [Ne.symm hletter, hpath]
  show beforeTab (letter :: '/' :: path.text ++ _) = _
  split
  · unfold beforeTab
    rw [List.takeWhile_append_of_pos]
    · simp
    · intro c hmem
      have hne : c ≠ '\t' := fun heq => hside (heq ▸ hmem)
      simpa using hne
  · rw [List.append_nil]
    exact beforeTab_of_not_mem hside

theorem chomp_sideText (letter : Char) (hletter : letter ≠ '\r') (path : Option PlainPath) :
    chomp (sideText letter path) = sideText letter path :=
  chomp_of_not_mem (not_mem_sideText rfl (Ne.symm hletter) (by decide))

theorem dropPrefix?_append (mark text : Text) : (mark ++ text).dropPrefix? mark = some text :=
  List.dropPrefix?_append_of_beq text (beq_self_eq_true mark)

theorem stripSide_old (text : Text) : stripSide ('a' :: '/' :: text) = text := by
  unfold stripSide
  rw [show 'a' :: '/' :: text = "a/".toList ++ text from rfl, dropPrefix?_append]
  rfl

theorem stripSide_new (text : Text) : stripSide ('b' :: '/' :: text) = text := by
  have hother : ('b' :: '/' :: text).dropPrefix? "a/".toList = none := rfl
  unfold stripSide
  rw [hother, show 'b' :: '/' :: text = "b/".toList ++ text from rfl, dropPrefix?_append]
  rfl

theorem namedPath_old (path : Option PlainPath) :
    namedPath (chomp (sideText 'a' path)) = path.map PlainPath.text := by
  rw [chomp_sideText 'a' (by decide)]
  cases path with
  | none => rfl
  | some path =>
      unfold namedPath
      rw [beforeTab_sideText 'a' (by decide)]
      exact congrArg some (stripSide_old path.text)

theorem namedPath_new (path : Option PlainPath) :
    namedPath (chomp (sideText 'b' path)) = path.map PlainPath.text := by
  rw [chomp_sideText 'b' (by decide)]
  cases path with
  | none => rfl
  | some path =>
      unfold namedPath
      rw [beforeTab_sideText 'b' (by decide)]
      exact congrArg some (stripSide_new path.text)

def HunkRow.stray : HunkRow -> Option Text
  | .removed line => ((stripReturn line.text).dropPrefix? "-- ".toList).bind namedPath
  | .added line => ((stripReturn line.text).dropPrefix? "++ ".toList).bind namedPath
  | _ => none

def Row.name : Row -> Option Text
  | .renameFrom path => some path.text
  | .renameTo path => some path.text
  | .oldSide path => path.map PlainPath.text
  | .newSide path => path.map PlainPath.text
  | .body row => row.stray
  | _ => none

def Row.opens : Row -> Bool
  | .git _ _ => true
  | _ => false

def Row.isNewMode : Row -> Bool
  | .newMode _ => true
  | _ => false

def Row.isDeletedMode : Row -> Bool
  | .deletedMode _ => true
  | _ => false

/-- Whether a row leaves the flags of its block alone. -/
def Row.within (row : Row) : Bool := !row.opens && !row.isNewMode && !row.isDeletedMode

namespace PathScan

variable (scan : PathScan)

theorem step_plus (text : Text) :
    scan.step ('+' :: text) = (text.dropPrefix? "++ ".toList).elim scan scan.pushSide := by
  have hside : side ('+' :: text) = text.dropPrefix? "++ ".toList :=
    Option.or_none
  unfold step
  rw [hside]
  cases text.dropPrefix? "++ ".toList with
  | some named => rfl
  | none => rfl

theorem step_minus (text : Text) :
    scan.step ('-' :: text) = (text.dropPrefix? "-- ".toList).elim scan scan.pushSide := by
  have hside : side ('-' :: text) = text.dropPrefix? "-- ".toList := rfl
  unfold step
  rw [hside]
  cases text.dropPrefix? "-- ".toList with
  | some named => rfl
  | none => rfl

theorem step_renamed {line path : Text} (h : renamed line = some path)
    (hopens : line.head? = some 'r') : scan.step line = scan.push path := by
  cases line with
  | nil => cases hopens
  | cons c rest =>
      cases hopens
      unfold step
      rw [h]
      rfl

theorem push_named (named : Option Text) :
    (named.elim scan scan.pushSide) = (named.bind namedPath).elim scan scan.push := by
  cases named with
  | none => rfl
  | some text => exact pushSide_eq scan text

theorem step_within {row : Row} (h : row.within = true) :
    scan.step row.read = row.name.elim scan scan.push := by
  cases row with
  | git old new => cases h
  | newMode mode => cases h
  | deletedMode mode => cases h
  | similarity percent => rfl
  | renameFrom path =>
      have hread : Row.read (.renameFrom path) = "rename from ".toList ++ path.text :=
        congrArg _ (chomp_of_not_mem (not_mem_of_plain rfl))
      apply step_renamed
      · rw [hread]
        unfold renamed
        rw [dropPrefix?_append]
        rfl
      · rfl
  | renameTo path =>
      have hread : Row.read (.renameTo path) = "rename to ".toList ++ path.text :=
        congrArg _ (chomp_of_not_mem (not_mem_of_plain rfl))
      have hother : ("rename to ".toList ++ path.text).dropPrefix? "rename from ".toList = none :=
        rfl
      apply step_renamed
      · rw [hread]
        unfold renamed
        rw [hother, dropPrefix?_append]
        rfl
      · rfl
  | index blobs => rfl
  | oldSide path =>
      have hread : Row.read (.oldSide path) = '-' :: ("-- ".toList ++ chomp (sideText 'a' path)) :=
        rfl
      rw [hread, step_minus, dropPrefix?_append]
      exact (pushSide_eq scan _).trans (by rw [namedPath_old]; rfl)
  | newSide path =>
      have hread : Row.read (.newSide path) = '+' :: ("++ ".toList ++ chomp (sideText 'b' path)) :=
        rfl
      rw [hread, step_plus, dropPrefix?_append]
      exact (pushSide_eq scan _).trans (by rw [namedPath_new]; rfl)
  | header hunk => rfl
  | body row =>
      cases row with
      | context line => rfl
      | removed line => exact (scan.step_minus _).trans (scan.push_named _)
      | added line => exact (scan.step_plus _).trans (scan.push_named _)
      | unterminated => rfl

theorem step_row {row : Row} (h : row.opens = false) :
    scan.step row.read =
      { out := scan.out
        newFile := scan.newFile || row.isNewMode
        deletedFile := scan.deletedFile || row.isDeletedMode
        block := row.name.toList.foldl pushUnique scan.block } := by
  have hother : row.within = true -> row.isNewMode = false -> row.isDeletedMode = false ->
      scan.step row.read =
        { out := scan.out
          newFile := scan.newFile || row.isNewMode
          deletedFile := scan.deletedFile || row.isDeletedMode
          block := row.name.toList.foldl pushUnique scan.block } := by
    intro hwithin hnew hdeleted
    rw [step_within scan hwithin, hnew, hdeleted, Bool.or_false, Bool.or_false]
    cases row.name with
    | none => rfl
    | some path => rfl
  cases row with
  | git old new => cases h
  | newMode mode =>
      show _ = ({ scan with newFile := scan.newFile || true, deletedFile := scan.deletedFile || false } : PathScan)
      rw [Bool.or_true, Bool.or_false]
      rfl
  | deletedMode mode =>
      show _ = ({ scan with newFile := scan.newFile || false, deletedFile := scan.deletedFile || true } : PathScan)
      rw [Bool.or_true, Bool.or_false]
      rfl
  | _ => exact hother rfl rfl rfl

theorem foldl_rows {rows : List Row} (h : forall row, row ∈ rows -> row.opens = false) :
    (rows.map Row.read).foldl step scan =
      { out := scan.out
        newFile := scan.newFile || rows.any Row.isNewMode
        deletedFile := scan.deletedFile || rows.any Row.isDeletedMode
        block := (rows.filterMap Row.name).foldl pushUnique scan.block } := by
  induction rows generalizing scan with
  | nil => simp
  | cons row rest ih =>
      have hrest := ih (scan.step row.read) fun other hmem => h other (List.mem_cons_of_mem row hmem)
      rw [List.map_cons, List.foldl_cons, hrest, step_row scan (h row List.mem_cons_self)]
      cases hname : row.name with
      | none => simp [hname, Bool.or_assoc]
      | some path => simp [hname, Bool.or_assoc]

end PathScan

/-!
## Blocks
-/

variable {path : Text}

theorem mem_foldl_pushUnique {names block : List Text} :
    path ∈ names.foldl pushUnique block <-> path ∈ block ∨ path ∈ names := by
  induction names generalizing block with
  | nil => simp
  | cons name rest ih =>
      have hpush : path ∈ pushUnique block name <-> path ∈ block ∨ path = name := by
        unfold pushUnique
        split
        · rename_i hcontains
          constructor
          · exact Or.inl
          · intro h
            rcases h with hmem | heq
            · exact hmem
            · rw [heq]
              simpa using hcontains
        · simp
      rw [List.foldl_cons, ih, hpush, List.mem_cons, or_assoc]

theorem symmetricHeaderPath_self (path : PlainPath) :
    symmetricHeaderPath (pathsText path path) = some path.text := by
  have hlength : (path.text ++ (" b/".toList ++ path.text)).length = 2 * path.text.length + 3 := by
    rw [List.length_append, List.length_append]
    show path.text.length + (3 + path.text.length) = _
    omega
  have hpaths : pathsText path path =
      "a/".toList ++ (path.text ++ (" b/".toList ++ path.text)) := by
    simp [pathsText]
  have hlong : ¬ 2 * path.text.length + 3 < 3 := by omega
  have heven : (2 * path.text.length + 3 - 3) % 2 = 0 := by omega
  have hhalf : (2 * path.text.length + 3 - 3) / 2 = path.text.length := by omega
  unfold symmetricHeaderPath
  rw [hpaths, dropPrefix?_append]
  simp only [Option.bind_eq_bind, Option.bind_some, hlength, hlong, heven, hhalf, List.drop_left,
    List.take_left, dropPrefix?_append]
  simp

def FileChange.strays (file : FileChange) : List Text :=
  (symmetricHeaderPath (pathsText file.change.oldPath file.change.newPath)).toList ++
    file.change.rows.filterMap HunkRow.stray

def FileChange.block (file : FileChange) : List Text :=
  (file.printed.filterMap Row.name).foldl pushUnique
    (PathScan.opened (pathsText file.change.oldPath file.change.newPath))

theorem opened_pathsText (old new : PlainPath) :
    PathScan.opened (pathsText old new) = (symmetricHeaderPath (pathsText old new)).toList := by
  unfold PathScan.opened
  cases symmetricHeaderPath (pathsText old new) with
  | some path => rfl
  | none => rfl

theorem names_of_hunks (hunks : List Hunk) :
    (hunks.flatMap Hunk.printed).filterMap Row.name =
      (hunks.flatMap Hunk.rows).filterMap HunkRow.stray := by
  induction hunks with
  | nil => rfl
  | cons hunk rest ih =>
      rw [List.flatMap_cons, List.flatMap_cons, List.filterMap_append, List.filterMap_append, ih]
      congr 1
      unfold Hunk.printed
      rw [List.filterMap_cons_none rfl, List.filterMap_map]
      rfl

def FileChange.rows (file : FileChange) : List Row :=
  file.headers ++ file.sides ++ file.change.hunks.flatMap Hunk.printed

theorem FileChange.printed_eq (file : FileChange) :
    file.printed = .git file.change.oldPath file.change.newPath :: file.rows := rfl

theorem mem_hunks_printed {hunks : List Hunk} {row : Row}
    (h : row ∈ hunks.flatMap Hunk.printed) :
    (exists hunk, row = .header hunk) ∨ exists body, row = .body body := by
  rcases List.mem_flatMap.mp h with ⟨hunk, _, hrow⟩
  rcases List.mem_cons.mp hrow with hheader | hbody
  · exact Or.inl ⟨hunk, hheader⟩
  · rcases List.mem_map.mp hbody with ⟨body, _, hbody⟩
    exact Or.inr ⟨body, hbody.symm⟩

theorem any_hunks_printed {hunks : List Hunk} {p : Row -> Bool}
    (hheader : forall hunk, p (.header hunk) = false) (hbody : forall row, p (.body row) = false) :
    (hunks.flatMap Hunk.printed).any p = false := by
  rw [List.any_eq_false]
  intro row hmem
  rcases mem_hunks_printed hmem with ⟨hunk, heq⟩ | ⟨body, heq⟩
  · rw [heq, hheader]
    exact Bool.false_ne_true
  · rw [heq, hbody]
    exact Bool.false_ne_true

variable {file : FileChange}

theorem any_sides {p : Row -> Bool} (hold : forall path, p (.oldSide path) = false)
    (hnew : forall path, p (.newSide path) = false) : file.sides.any p = false := by
  unfold FileChange.sides
  split
  · rfl
  · simp [hold, hnew]

theorem any_rows {p : Row -> Bool} (hold : forall path, p (.oldSide path) = false)
    (hnew : forall path, p (.newSide path) = false)
    (hheader : forall hunk, p (.header hunk) = false)
    (hbody : forall row, p (.body row) = false) : file.rows.any p = file.headers.any p := by
  unfold FileChange.rows
  rw [List.any_append, List.any_append, any_sides hold hnew, any_hunks_printed hheader hbody,
    Bool.or_false, Bool.or_false]

theorem headers_opens (file : FileChange) : file.headers.any Row.opens = false := by
  unfold FileChange.headers
  cases file.change with
  | rename old new hunks =>
      dsimp only
      split
      · rfl
      · rfl
  | _ => rfl

theorem headers_isNewMode (file : FileChange) :
    file.headers.any Row.isNewMode = file.change.creates := by
  unfold FileChange.headers
  cases file.change with
  | rename old new hunks =>
      dsimp only
      split
      · rfl
      · rfl
  | _ => rfl

theorem headers_isDeletedMode (file : FileChange) :
    file.headers.any Row.isDeletedMode = file.change.deletes := by
  unfold FileChange.headers
  cases file.change with
  | rename old new hunks =>
      dsimp only
      split
      · rfl
      · rfl
  | _ => rfl

theorem PathScan.foldl_printed (scan : PathScan) (file : FileChange) :
    (file.printed.map Row.read).foldl step scan =
      { out := scan.flushed
        newFile := file.change.creates
        deletedFile := file.change.deletes
        block := file.block } := by
  have hgit : scan.step (Row.read (.git file.change.oldPath file.change.newPath)) =
      { out := scan.flushed
        newFile := false
        deletedFile := false
        block := opened (pathsText file.change.oldPath file.change.newPath) } := by
    have hread : Row.read (.git file.change.oldPath file.change.newPath) =
        "diff --git ".toList ++ pathsText file.change.oldPath file.change.newPath := by
      apply congrArg ("diff --git ".toList ++ ·)
      apply chomp_of_not_mem
      simp [Row.rest, pathsText, @not_mem_of_plain file.change.oldPath '\r' rfl,
        @not_mem_of_plain file.change.newPath '\r' rfl]
    unfold step
    rw [hread, dropPrefix?_append]
  have hrows : forall row, row ∈ file.rows -> row.opens = false := by
    have hany : file.rows.any Row.opens = false := by
      rw [any_rows (fun _ => rfl) (fun _ => rfl) (fun _ => rfl) (fun _ => rfl), headers_opens]
    intro row hmem
    simpa using List.any_eq_false.mp hany row hmem
  rw [FileChange.printed_eq, List.map_cons, List.foldl_cons, hgit, foldl_rows _ hrows,
    any_rows (fun _ => rfl) (fun _ => rfl) (fun _ => rfl) (fun _ => rfl), headers_isNewMode,
    any_rows (fun _ => rfl) (fun _ => rfl) (fun _ => rfl) (fun _ => rfl), headers_isDeletedMode]
  simp only [Bool.false_or]
  rfl

theorem Change.touches_iff {change : Change} :
    change.touches path = true <-> change.oldPath.text = path ∨ change.newPath.text = path := by
  simp [Change.touches]

theorem touches_of_named (h : path ∈ (file.headers ++ file.sides).filterMap Row.name) :
    file.change.touches path = true := by
  rw [Change.touches_iff]
  rw [List.filterMap_append, List.mem_append] at h
  rcases h with hheader | hside
  · unfold FileChange.headers at hheader
    cases hchange : file.change with
    | rename old new hunks =>
        rw [hchange] at hheader
        dsimp only at hheader
        rw [List.filterMap_append, List.mem_append] at hheader
        rcases hheader with hnamed | hindex
        · have hnames : old.text = path ∨ new.text = path := by simpa [Row.name] using hnamed
          exact hnames
        · split at hindex
          · cases hindex
          · cases hindex
    | _ =>
        rw [hchange] at hheader
        cases hheader
  · unfold FileChange.sides at hside
    split at hside
    · cases hside
    · rcases List.mem_filterMap.mp hside with ⟨row, hrow, hname⟩
      rcases List.mem_cons.mp hrow with heq | hlater
      · subst heq
        rcases Option.map_eq_some_iff.mp hname with ⟨side, hsome, htext⟩
        split at hsome
        · cases hsome
        · cases hsome
          exact Or.inl htext
      · rw [List.mem_singleton.mp hlater] at hname
        rcases Option.map_eq_some_iff.mp hname with ⟨side, hsome, htext⟩
        split at hsome
        · cases hsome
        · cases hsome
          exact Or.inr htext

theorem named_of_touches (h : file.change.touches path = true) :
    path ∈ (symmetricHeaderPath (pathsText file.change.oldPath file.change.newPath)).toList ∨
      path ∈ (file.headers ++ file.sides).filterMap Row.name := by
  rw [Change.touches_iff] at h
  have hsame : forall same : PlainPath, same.text = path ∨ same.text = path ->
      path ∈ (symmetricHeaderPath (pathsText same same)).toList := by
    intro same heq
    rw [symmetricHeaderPath_self, <- or_self_iff.mp heq]
    exact List.mem_singleton_self _
  cases hchange : file.change with
  | create same lines terminated =>
      rw [hchange] at h
      exact Or.inl (hsame same h)
  | delete same lines terminated =>
      rw [hchange] at h
      exact Or.inl (hsame same h)
  | edit same hunks =>
      rw [hchange] at h
      exact Or.inl (hsame same h)
  | rename old new hunks =>
      rw [hchange] at h
      refine Or.inr ?_
      rw [List.filterMap_append, List.mem_append]
      refine Or.inl ?_
      unfold FileChange.headers
      rw [hchange]
      dsimp only
      rw [List.filterMap_append, List.mem_append]
      refine Or.inl ?_
      have hnames : old.text = path ∨ new.text = path := h
      simpa [Row.name, eq_comm] using hnames

theorem mem_block :
    path ∈ file.block <-> file.change.touches path = true ∨ path ∈ file.strays := by
  have hnames : file.printed.filterMap Row.name =
      (file.headers ++ file.sides).filterMap Row.name ++
        file.change.rows.filterMap HunkRow.stray := by
    rw [FileChange.printed_eq, List.filterMap_cons_none rfl, FileChange.rows, List.filterMap_append,
      names_of_hunks]
    rfl
  unfold FileChange.block FileChange.strays
  rw [mem_foldl_pushUnique, hnames, opened_pathsText, List.mem_append, List.mem_append]
  constructor
  · intro h
    rcases h with hheader | hnamed | hstray
    · exact Or.inr (Or.inl hheader)
    · exact Or.inl (touches_of_named hnamed)
    · exact Or.inr (Or.inr hstray)
  · intro h
    rcases h with htouches | hheader | hstray
    · rcases named_of_touches htouches with hheader | hnamed
      · exact Or.inl hheader
      · exact Or.inr (Or.inl hnamed)
    · exact Or.inl hheader
    · exact Or.inr (Or.inr hstray)

/-!
## Entries
-/

def looksPlain (path : Text) : Bool := path.head? != some '"' && !path.contains '\\'

def entryAt (out : List ChangedPath) (path : Text) : Option ChangedPath :=
  out.find? fun entry => entry.path = path

/-- The entry of a path once the flags of a block were noted in it. -/
def noted (isNew isDeleted : Bool) (path : Text) (before : Option ChangedPath) : ChangedPath :=
  match before with
  | some existing =>
      { existing with
        isNew := existing.isNew || isNew
        isDeleted := existing.isDeleted || isDeleted }
  | none =>
      { path := path
        isNew := isNew
        isDeleted := isDeleted
        plain := looksPlain path }

theorem entryAt_flushPath (isNew isDeleted : Bool) (path other : Text) (out : List ChangedPath) :
    entryAt (flushPath isNew isDeleted path out) other =
      if path = other then some (noted isNew isDeleted path (entryAt out other))
      else entryAt out other := by
  unfold entryAt
  induction out with
  | nil =>
      by_cases heq : path = other
      · simp [flushPath, heq, noted, looksPlain]
      · simp [flushPath, heq]
  | cons existing rest ih =>
      unfold flushPath
      by_cases hpath : existing.path = path
      · by_cases heq : path = other
        · simp [hpath, heq, noted]
        · simp [hpath, heq]
      · rw [if_neg hpath, List.find?_cons, List.find?_cons]
        by_cases hother : existing.path = other
        · have hne : path ≠ other := fun heq => hpath (hother.trans heq.symm)
          simp [hother, hne]
        · simpa [hother] using ih

theorem noted_noted (isNew isDeleted : Bool) (path : Text) (before : Option ChangedPath) :
    noted isNew isDeleted path (some (noted isNew isDeleted path before)) =
      noted isNew isDeleted path before := by
  cases before with
  | none => simp [noted]
  | some existing => simp [noted]

theorem entryAt_flushBlock (isNew isDeleted : Bool) (path : Text) (block : List Text)
    (out : List ChangedPath) :
    entryAt (flushBlock block isNew isDeleted out) path =
      if path ∈ block then some (noted isNew isDeleted path (entryAt out path))
      else entryAt out path := by
  unfold flushBlock
  induction block generalizing out with
  | nil => simp
  | cons name rest ih =>
      rw [List.foldl_cons, ih, entryAt_flushPath]
      by_cases heq : name = path
      · subst heq
        by_cases hmem : name ∈ rest
        · simp [hmem, noted_noted]
        · simp [hmem]
      · by_cases hmem : path ∈ rest
        · simp [hmem, heq]
        · simp [hmem, heq, Ne.symm heq]

theorem paths_flushPath (isNew isDeleted : Bool) (path : Text) (out : List ChangedPath) :
    (flushPath isNew isDeleted path out).map ChangedPath.path =
      pushUnique (out.map ChangedPath.path) path := by
  induction out with
  | nil => rfl
  | cons existing rest ih =>
      unfold flushPath
      by_cases hpath : existing.path = path
      · simp [hpath, pushUnique]
      · rw [if_neg hpath, List.map_cons, ih, List.map_cons]
        unfold pushUnique
        by_cases hmem : path ∈ rest.map ChangedPath.path
        · simp [hmem]
        · simp [hmem, Ne.symm hpath]

theorem nodup_pushUnique {block : List Text} (h : block.Nodup) (path : Text) :
    (pushUnique block path).Nodup := by
  unfold pushUnique
  split
  · exact h
  · rename_i hnew
    rw [List.nodup_append]
    refine ⟨h, List.nodup_singleton path, ?_⟩
    intro other hother last hlast heq
    rw [List.mem_singleton.mp hlast] at heq
    rw [heq] at hother
    exact hnew (by simpa using hother)

theorem nodup_flushBlock {isNew isDeleted : Bool} {block : List Text} {out : List ChangedPath}
    (h : (out.map ChangedPath.path).Nodup) :
    ((flushBlock block isNew isDeleted out).map ChangedPath.path).Nodup := by
  unfold flushBlock
  induction block generalizing out with
  | nil => exact h
  | cons path rest ih =>
      apply ih
      rw [paths_flushPath]
      exact nodup_pushUnique h path

def entriesOf (files : List FileChange) : List ChangedPath :=
  files.foldl
    (fun out file => flushBlock file.block file.change.creates file.change.deletes out) []

theorem changedPaths_render (files : List FileChange) :
    changedPaths (render files) = entriesOf files := by
  have hfold : forall scan : PathScan,
      (((files.flatMap FileChange.printed).map Row.read).foldl PathScan.step scan).flushed =
        files.foldl
          (fun out file => flushBlock file.block file.change.creates file.change.deletes out)
          scan.flushed := by
    induction files with
    | nil =>
        intro scan
        rfl
    | cons file rest ih =>
        intro scan
        rw [List.flatMap_cons, List.map_append, List.foldl_append, PathScan.foldl_printed, ih]
        rfl
  unfold changedPaths
  rw [readLines_render, hfold]
  rfl

theorem nodup_entriesOf (files : List FileChange) :
    ((entriesOf files).map ChangedPath.path).Nodup := by
  unfold entriesOf
  exact List.foldlRecOn files _
    (motive := fun out : List ChangedPath => (out.map ChangedPath.path).Nodup) List.nodup_nil
    fun _ hout _ _ => nodup_flushBlock hout

def anyBlock (files : List FileChange) (p : FileChange -> Bool) (path : Text) : Bool :=
  files.any fun file => p file && decide (path ∈ file.block)

theorem entryAt_entriesOf (files : List FileChange) (path : Text) :
    entryAt (entriesOf files) path =
      if anyBlock files (fun _ => true) path then
        some
          { path := path
            isNew := anyBlock files (fun file => file.change.creates) path
            isDeleted := anyBlock files (fun file => file.change.deletes) path
            plain := looksPlain path }
      else
        none := by
  induction files using List.reverseRecOn with
  | nil => rfl
  | append_singleton init last ih =>
      have hlast : entriesOf (init ++ [last]) =
          flushBlock last.block last.change.creates last.change.deletes (entriesOf init) := by
        unfold entriesOf
        rw [List.foldl_append]
        rfl
      have hany : forall p : FileChange -> Bool, anyBlock (init ++ [last]) p path =
          (anyBlock init p path || (p last && decide (path ∈ last.block))) := by
        intro p
        unfold anyBlock
        rw [List.any_append]
        simp
      rw [hlast, entryAt_flushBlock, ih, hany, hany, hany]
      by_cases hmem : path ∈ last.block
      · by_cases hbefore : anyBlock init (fun _ => true) path = true
        · simp [hmem, hbefore, noted]
        · have hnone : forall p : FileChange -> Bool, anyBlock init p path = false := by
            intro p
            unfold anyBlock at hbefore ⊢
            rw [List.any_eq_false]
            intro file hfile hboth
            rw [Bool.and_eq_true] at hboth
            apply hbefore
            rw [List.any_eq_true]
            exact ⟨file, hfile, by simpa using hboth.right⟩
          simp [hmem, hnone, noted]
      · simp [hmem]

end Keel
end GraphHelm
