import GraphHelm.Policy.KeelReaders

/-!
# Changes, and the diff that is printed of them

What a list of file changes is, the rows of the unified diff that git prints of
it, and what a reader of that diff should find.  A path is plain when git prints
it unquoted.
-/

namespace GraphHelm
namespace Keel

/-!
## Changes
-/

/-- What stands before a line feed; a carriage return at its end belongs to the line ending. -/
structure Line where
  raw : Text
  whole : '\n' ∉ raw

def Line.text (line : Line) : Text := stripReturn line.raw

def isPlainChar (c : Char) : Bool :=
  decide (32 <= c.toNat) && c.toNat != 127 && c != '"' && c != '\\'

structure PlainPath where
  text : Text
  plain : text.all isPlainChar = true

inductive HunkRow where
  | context (line : Line)
  | removed (line : Line)
  | added (line : Line)
  /-- The line above has no line feed at its end. -/
  | unterminated

structure Hunk where
  oldStart : Nat
  newStart : Nat
  /-- What git prints after the ranges. -/
  heading : Line
  rows : List HunkRow

/-- What git tells of a file before its sides, which no reader looks at. -/
structure Details where
  mode : Line
  similarity : Line
  index : Line

inductive Change where
  | create (path : PlainPath) (lines : List Line) (terminated : Bool)
  | delete (path : PlainPath) (lines : List Line) (terminated : Bool)
  | edit (path : PlainPath) (hunks : List Hunk)
  | rename (old new : PlainPath) (hunks : List Hunk)

structure FileChange where
  change : Change
  details : Details

namespace Change

def creates : Change -> Bool
  | .create _ _ _ => true
  | _ => false

def deletes : Change -> Bool
  | .delete _ _ _ => true
  | _ => false

def oldPath : Change -> PlainPath
  | .create path _ _ => path
  | .delete path _ _ => path
  | .edit path _ => path
  | .rename old _ _ => old

def newPath : Change -> PlainPath
  | .create path _ _ => path
  | .delete path _ _ => path
  | .edit path _ => path
  | .rename _ new _ => new

/-- Whether the change is of the file under the given path. -/
def touches (change : Change) (path : Text) : Bool :=
  change.oldPath.text = path || change.newPath.text = path

end Change

def wholeFile (oldStart newStart : Nat) (row : Line -> HunkRow) (lines : List Line)
    (terminated : Bool) : List Hunk :=
  if lines.isEmpty then
    []
  else
    [{ oldStart := oldStart
       newStart := newStart
       heading := { raw := [], whole := List.not_mem_nil }
       rows := lines.map row ++ if terminated then [] else [.unterminated] }]

def Change.hunks : Change -> List Hunk
  | .create _ lines terminated => wholeFile 0 1 .added lines terminated
  | .delete _ lines terminated => wholeFile 1 0 .removed lines terminated
  | .edit _ hunks => hunks
  | .rename _ _ hunks => hunks

def Change.rows (change : Change) : List HunkRow :=
  change.hunks.flatMap Hunk.rows

/-!
## What a reader should find
-/

def HunkRow.addedLine : HunkRow -> Option Line
  | .added line => some line
  | _ => none

def HunkRow.removedLine : HunkRow -> Option Line
  | .removed line => some line
  | _ => none

def HunkRow.isNew : HunkRow -> Bool
  | .context _ => true
  | .added _ => true
  | _ => false

def HunkRow.isOld : HunkRow -> Bool
  | .context _ => true
  | .removed _ => true
  | _ => false

def numbered : Nat -> List HunkRow -> List (Nat × Line)
  | _, [] => []
  | number, .added line :: rest => (number, line) :: numbered (number + 1) rest
  | number, .context _ :: rest => numbered (number + 1) rest
  | number, .removed _ :: rest => numbered number rest
  | number, .unterminated :: rest => numbered number rest

def Hunk.numbered (hunk : Hunk) : List (Nat × Line) := Keel.numbered hunk.newStart hunk.rows

def Change.numbered (change : Change) : List (Nat × Line) := change.hunks.flatMap Hunk.numbered

def Change.added (change : Change) : List Text :=
  (change.rows.filterMap HunkRow.addedLine).map Line.text

/-- Whether the change leaves a file with lines to show of it. -/
def Change.shown (change : Change) : Bool :=
  !change.deletes && !change.hunks.isEmpty

/-!
## Printing
-/

inductive Row where
  | git (old new : PlainPath)
  | newMode (mode : Line)
  | deletedMode (mode : Line)
  | similarity (percent : Line)
  | renameFrom (path : PlainPath)
  | renameTo (path : PlainPath)
  | index (blobs : Line)
  | oldSide (path : Option PlainPath)
  | newSide (path : Option PlainPath)
  | header (hunk : Hunk)
  | body (row : HunkRow)

def natText (number : Nat) : Text := Nat.toDigits 10 number

def rangeText (start count : Nat) : Text :=
  if count = 1 then natText start else natText start ++ ',' :: natText count

/-- A path on a side, behind which git puts a tab when it has a blank in it. -/
def sideText (letter : Char) (path : Option PlainPath) : Text :=
  match path with
  | none => devNull
  | some path => letter :: '/' :: path.text ++ if path.text.contains ' ' then ['\t'] else []

def Hunk.rangesText (hunk : Hunk) : Text :=
  rangeText hunk.oldStart (hunk.rows.countP HunkRow.isOld) ++ " +".toList ++
    rangeText hunk.newStart (hunk.rows.countP HunkRow.isNew) ++ " @@".toList ++
      if hunk.heading.raw.isEmpty then [] else ' ' :: hunk.heading.raw

/-- What a `diff --git` row says of the two paths. -/
def pathsText (old new : PlainPath) : Text :=
  "a/".toList ++ old.text ++ " b/".toList ++ new.text

namespace HunkRow

def mark : HunkRow -> Char
  | .context _ => ' '
  | .removed _ => '-'
  | .added _ => '+'
  | .unterminated => '\\'

def rest : HunkRow -> Text
  | .context line => line.raw
  | .removed line => line.raw
  | .added line => line.raw
  | .unterminated => " No newline at end of file".toList

end HunkRow

namespace Row

/-- How a row begins. -/
def label : Row -> Text
  | .git _ _ => "diff --git ".toList
  | .newMode _ => "new file mode ".toList
  | .deletedMode _ => "deleted file mode ".toList
  | .similarity _ => "similarity index ".toList
  | .renameFrom _ => "rename from ".toList
  | .renameTo _ => "rename to ".toList
  | .index _ => "index ".toList
  | .oldSide _ => "--- ".toList
  | .newSide _ => "+++ ".toList
  | .header _ => "@@ -".toList
  | .body row => [row.mark]

def rest : Row -> Text
  | .git old new => pathsText old new
  | .newMode mode => mode.raw
  | .deletedMode mode => mode.raw
  | .similarity percent => percent.raw
  | .renameFrom path => path.text
  | .renameTo path => path.text
  | .index blobs => blobs.raw
  | .oldSide path => sideText 'a' path
  | .newSide path => sideText 'b' path
  | .header hunk => hunk.rangesText
  | .body row => row.rest

def text (row : Row) : Text := row.label ++ row.rest

end Row

def Hunk.printed (hunk : Hunk) : List Row := .header hunk :: hunk.rows.map .body

namespace FileChange

/-- The rows between the `diff --git` row and the sides. -/
def headers (file : FileChange) : List Row :=
  match file.change with
  | .create _ _ _ => [.newMode file.details.mode, .index file.details.index]
  | .delete _ _ _ => [.deletedMode file.details.mode, .index file.details.index]
  | .edit _ _ => [.index file.details.index]
  | .rename old new hunks =>
      [.similarity file.details.similarity, .renameFrom old, .renameTo new] ++
        if hunks.isEmpty then [] else [.index file.details.index]

def sides (file : FileChange) : List Row :=
  if file.change.hunks.isEmpty then
    []
  else
    [.oldSide (if file.change.creates then none else some file.change.oldPath),
      .newSide (if file.change.deletes then none else some file.change.newPath)]

def printed (file : FileChange) : List Row :=
  .git file.change.oldPath file.change.newPath :: file.headers ++ file.sides ++
    file.change.hunks.flatMap Hunk.printed

end FileChange

def render (files : List FileChange) : Text :=
  unlines '\n' ((files.flatMap FileChange.printed).map Row.text)

/-!
## Reading what was printed
-/

def expectedEntry (files : List FileChange) (path : Text) : ChangedPath :=
  { path := path
    isNew := files.any fun file => file.change.creates && file.change.touches path
    isDeleted := files.any fun file => file.change.deletes && file.change.touches path
    plain := true }

/-- The three readers find what was changed, and nothing else. -/
structure ReadExactly (files : List FileChange) : Prop where
  once : ((changedPaths (render files)).map ChangedPath.path).Nodup
  changed : forall entry, entry ∈ changedPaths (render files) <->
    (exists file, file ∈ files ∧ file.change.touches entry.path = true) ∧
      entry = expectedEntry files entry.path
  parsed : (parse (render files)).map (fun file => (file.path, file.added)) =
    (files.filter fun file => file.change.shown).map fun file =>
      (file.change.newPath.text, file.change.added)
  added : addedLines (render files) =
    (files.filter fun file => file.change.shown).map fun file =>
      { path := file.change.newPath.text
        added := file.change.numbered.map fun (number, line) => (number, line.text) }

end Keel
end GraphHelm
