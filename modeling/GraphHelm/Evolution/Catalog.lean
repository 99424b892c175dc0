import Std.Data.ExtTreeMap
import GraphHelm.Library.Json

/-!
# Schema catalogs

The catalogs `core/schema-evolution` compares: versions, entries and the
documents they name (`catalog.rs`, `limits.rs`), and the JSON pointers of its
reports. An entry's path and digest and a catalog's format version take no part
in a comparison or a release and are left out.
-/

namespace GraphHelm
namespace Evolution

open Std

def maxJsonDepth : Nat := 128

def maxPointerBytes : Nat := 2048

/-!
## Versions
-/

/-- A version of `semver`; a stable one has no prerelease and no build metadata. -/
structure Version where
  major : Nat
  minor : Nat
  patch : Nat
  pre : String
  build : String
deriving DecidableEq

def Version.new (major minor patch : Nat) : Version :=
  { major := major, minor := minor, patch := patch, pre := "", build := "" }

/-- `checked_add(1)` on a 64-bit segment. -/
def checkedSucc (segment : Nat) : Option Nat :=
  if segment + 1 < 2 ^ 64 then some (segment + 1) else none

/-!
## Catalogs
-/

structure CatalogEntry where
  id : String
  documentVersion : Version
deriving DecidableEq

structure SchemaCatalog where
  releaseVersion : Version
  schemas : ExtTreeMap String CatalogEntry

structure CatalogResources where
  catalogSource : String
  catalog : SchemaCatalog
  schemas : ExtTreeMap String Json

/-!
## Pointers
-/

def escapePointer (value : String) : String :=
  String.ofList (value.toList.flatMap fun c =>
    if c = '~' then ['~', '0'] else if c = '/' then ['~', '1'] else [c])

def joinPointer (pointer segment : String) : String :=
  pointer ++ "/" ++ escapePointer segment

def displayPointer (pointer : String) : String :=
  if pointer = "" then "/" else pointer

/-- One token of a pointer with its escapes read, `~1` before `~0`. -/
def unescapeToken : List Char -> List Char
  | '~' :: '1' :: rest => '/' :: unescapeToken rest
  | '~' :: '0' :: rest => '~' :: unescapeToken rest
  | c :: rest => c :: unescapeToken rest
  | [] => []

/-- `parse_index` of `serde_json`: no sign and no leading zero. -/
def parseIndex (token : List Char) : Option Nat :=
  match token with
  | [] => none
  | '0' :: _ :: _ => none
  | digits =>
      if digits.all Char.isDigit then
        some (digits.foldl (fun value c => value * 10 + (c.toNat - 48)) 0)
      else
        none

def pointerStep (value : Json) (token : List Char) : Option Json :=
  match value with
  | .object members => members.lookup (String.ofList (unescapeToken token))
  | .array items => (parseIndex token).bind fun index => items[index]?
  | _ => none

/-- `Value::pointer`. -/
def pointerTarget (value : Json) (pointer : List Char) : Option Json :=
  match pointer with
  | [] => some value
  | '/' :: rest => (rest.splitOn '/').foldlM pointerStep value
  | _ => none

/-!
## Canonical texts
-/

/-- No value sits deeper than the limit, `canonical_bytes_within`. -/
def depthWithin : Nat -> Json -> Bool
  | 0, .array items => items.isEmpty
  | 0, .object members => members.isEmpty
  | depth + 1, .array items => items.all (depthWithin depth)
  | depth + 1, .object members => members.all fun member => depthWithin depth member.2
  | _, _ => true

def canonicalJson (value : Json) : Option Json :=
  if depthWithin maxJsonDepth value then some value else none

end Evolution
end GraphHelm
