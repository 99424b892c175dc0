import GraphHelm.Governor.Policy
import GraphHelm.Library.Lines
import Mathlib.Data.List.ModifyLast

/-!
# Reading a unified diff

The three readers of `core/policy/src/keel.rs` and `keel_lines.rs` that take a
diff apart line by line: `changed_paths`, `parse` and `added_lines`.
-/

namespace GraphHelm
namespace Keel

abbrev Text := List Char

/-!
## Lines
-/

/-- A line without the carriage return it may end on. -/
def stripReturn (line : Text) : Text :=
  if line.getLast? = some '\r' then line.dropLast else line

/-- `str::lines`: the text after the last line feed counts as a line unless it is empty. -/
def lines (text : Text) : List Text :=
  let pieces := text.splitOn '\n'
  pieces.dropLast.map stripReturn ++ (pieces.getLast?.filter fun piece => piece ≠ []).toList

def readLines (diff : Text) : List Text :=
  (lines diff).map stripReturn

/-- `split('\t').next()`. -/
def beforeTab (text : Text) : Text :=
  text.takeWhile fun c => c != '\t'

/-- `strip_prefix(first).or_else(|| strip_prefix(second)).unwrap_or(text)`. -/
def stripSide (text : Text) : Text :=
  ((text.dropPrefix? "a/".toList).or (text.dropPrefix? "b/".toList)).getD text

def devNull : Text := "/dev/null".toList

/-!
## `changed_paths`
-/

structure ChangedPath where
  path : Text
  isNew : Bool
  isDeleted : Bool
  plain : Bool
deriving DecidableEq

/--
`symmetric_header_path`: `a/P b/P` names `P`.  Equal halves end at the same place
whether bytes or characters are counted.
-/
def symmetricHeaderPath (rest : Text) : Option Text := do
  let after <- rest.dropPrefix? "a/".toList
  if after.length < 3 || (after.length - 3) % 2 != 0 then
    none
  else
    let half := (after.length - 3) / 2
    let right <- (after.drop half).dropPrefix? " b/".toList
    if right = after.take half then some right else none

def pushUnique (block : List Text) (path : Text) : List Text :=
  if block.contains path then block else block ++ [path]

/-- One turn of the loop of `flush_block`: the first entry of the path, or a new one. -/
def flushPath (isNew isDeleted : Bool) (path : Text) : List ChangedPath -> List ChangedPath
  | [] =>
      [{ path := path
         isNew := isNew
         isDeleted := isDeleted
         plain := path.head? != some '"' && !path.contains '\\' }]
  | existing :: rest =>
      if existing.path = path then
        { existing with
          isNew := existing.isNew || isNew
          isDeleted := existing.isDeleted || isDeleted } :: rest
      else
        existing :: flushPath isNew isDeleted path rest

def flushBlock (block : List Text) (isNew isDeleted : Bool) (out : List ChangedPath) :
    List ChangedPath :=
  block.foldl (fun out path => flushPath isNew isDeleted path out) out

/-- What `changed_paths` holds between two lines. -/
structure PathScan where
  out : List ChangedPath
  newFile : Bool
  deletedFile : Bool
  block : List Text

namespace PathScan

def empty : PathScan :=
  { out := []
    newFile := false
    deletedFile := false
    block := [] }

def flushed (scan : PathScan) : List ChangedPath :=
  flushBlock scan.block scan.newFile scan.deletedFile scan.out

def push (scan : PathScan) (path : Text) : PathScan :=
  { scan with block := pushUnique scan.block path }

/-- The block that a `diff --git` line opens. -/
def opened (rest : Text) : List Text :=
  match symmetricHeaderPath rest with
  | some path => [path]
  | none => if rest.head? = some '"' then [rest] else []

def renamed (line : Text) : Option Text :=
  ((line.dropPrefix? "rename from ".toList).or (line.dropPrefix? "rename to ".toList)).or
    (line.dropPrefix? "copy to ".toList)

def side (line : Text) : Option Text :=
  (line.dropPrefix? "+++ ".toList).or (line.dropPrefix? "--- ".toList)

def pushSide (scan : PathScan) (named : Text) : PathScan :=
  if beforeTab named = devNull then scan else scan.push (stripSide (beforeTab named))

def step (scan : PathScan) (line : Text) : PathScan :=
  match line.dropPrefix? "diff --git ".toList with
  | some rest =>
      { out := scan.flushed
        newFile := false
        deletedFile := false
        block := opened rest }
  | none =>
      if "new file mode".toList.isPrefixOf line then
        { scan with newFile := true }
      else if "deleted file mode".toList.isPrefixOf line then
        { scan with deletedFile := true }
      else
        match renamed line with
        | some path => scan.push path
        | none =>
            match side line with
            | some named => scan.pushSide named
            | none => scan

end PathScan

def changedPaths (diff : Text) : List ChangedPath :=
  ((readLines diff).foldl PathScan.step PathScan.empty).flushed

/-!
## `parse`
-/

structure DiffFile where
  path : Text
  isNew : Bool
  added : List Text
  addedWithContext : List Text
deriving DecidableEq

/-- What `parse` holds between two lines. -/
structure ParseScan where
  files : List DiffFile
  pendingNew : Bool
  inHunk : Bool

namespace ParseScan

def empty : ParseScan :=
  { files := []
    pendingNew := false
    inHunk := false }

def readHunkLine (line : Text) (file : DiffFile) : DiffFile :=
  match line with
  | [] => { file with addedWithContext := file.addedWithContext ++ [[' ']] }
  | '+' :: added =>
      { file with
        added := file.added ++ [added]
        addedWithContext := file.addedWithContext ++ ['+' :: added] }
  | ' ' :: context => { file with addedWithContext := file.addedWithContext ++ [' ' :: context] }
  | _ => file

def step (scan : ParseScan) (line : Text) : ParseScan :=
  if "diff --git ".toList.isPrefixOf line then
    { scan with pendingNew := false, inHunk := false }
  else if "new file mode".toList.isPrefixOf line || decide (line = "--- /dev/null".toList) then
    { scan with pendingNew := true }
  else
    match line.dropPrefix? "+++ ".toList with
    | some named =>
        { scan with
          files :=
            scan.files ++
              [{ path := beforeTab ((named.dropPrefix? "b/".toList).getD named)
                 isNew := scan.pendingNew
                 added := []
                 addedWithContext := [] }]
          inHunk := false }
    | none =>
        if "--- ".toList.isPrefixOf line then
          scan
        else if "@@".toList.isPrefixOf line then
          { scan with inHunk := true }
        else if scan.inHunk then
          { scan with files := scan.files.modifyLast (readHunkLine line) }
        else
          scan

end ParseScan

def parse (diff : Text) : List DiffFile :=
  ((readLines diff).foldl ParseScan.step ParseScan.empty).files

/-!
## `added_lines`
-/

structure AddedFile where
  path : Text
  added : List (Nat × Text)
deriving DecidableEq

def parseU32 (text : Text) : Option Nat :=
  let digits := (text.dropPrefix? ['+']).getD text
  if digits ≠ [] && digits.all Char.isDigit && decide (Nat.ofDigitChars 10 digits 0 <= u32Max) then
    some (Nat.ofDigitChars 10 digits 0)
  else
    none

def splitWhitespace (text : Text) : List Text :=
  (text.splitOnP isWhiteSpace).filter fun part => part ≠ []

/-- The first line of the new side that the header of a hunk names, 0 for none. -/
def hunkStart (header : Text) : Nat :=
  (((splitWhitespace header).findSome? fun part => part.dropPrefix? ['+']).bind
    fun range => parseU32 (range.takeWhile fun c => c != ',')).getD 0

/-- `saturating_add(1)` on a `u32`. -/
def nextLine (number : Nat) : Nat := min (number + 1) u32Max

structure LineScan where
  files : List AddedFile
  next : Nat
  inHunk : Bool

namespace LineScan

def empty : LineScan :=
  { files := []
    next := 0
    inHunk := false }

def readHunkLine (scan : LineScan) (line : Text) : LineScan :=
  match line with
  | '+' :: added =>
      { scan with
        files :=
          scan.files.modifyLast fun file =>
            { file with added := file.added ++ [(scan.next, added)] }
        next := nextLine scan.next }
  | [] | ' ' :: _ => { scan with next := nextLine scan.next }
  | _ => scan

def step (scan : LineScan) (line : Text) : LineScan :=
  if "diff --git ".toList.isPrefixOf line then
    { scan with inHunk := false }
  else
    match line.dropPrefix? "+++ ".toList with
    | some named =>
        if beforeTab named = devNull then
          { scan with inHunk := false }
        else
          { files :=
              scan.files ++
                [{ path := ((beforeTab named).dropPrefix? "b/".toList).getD (beforeTab named)
                   added := [] }]
            next := scan.next
            inHunk := false }
    | none =>
        match line.dropPrefix? "@@ ".toList with
        | some header => { scan with next := hunkStart header, inHunk := true }
        | none => if scan.inHunk && !scan.files.isEmpty then scan.readHunkLine line else scan

end LineScan

def addedLines (diff : Text) : List AddedFile :=
  ((readLines diff).foldl LineScan.step LineScan.empty).files

end Keel
end GraphHelm
