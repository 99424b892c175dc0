import Std.Data.ExtTreeSet
import GraphHelm.Evolution.Catalog

/-!
# Schema references

How a `$ref` is resolved inside one catalog (`reference.rs`): it is made
absolute against the identity of the schema that holds it, the document it names
is looked up, and a chain of references is followed until it ends or repeats.
-/

namespace GraphHelm
namespace Evolution

open Std

/-!
## Texts
-/

def splitOnce (pattern : List Char) : List Char -> Option (List Char × List Char)
  | [] => if pattern.isEmpty then some ([], []) else none
  | c :: rest =>
      if pattern.isPrefixOf (c :: rest) then
        some ([], (c :: rest).drop pattern.length)
      else
        (splitOnce pattern rest).map fun parts => (c :: parts.1, parts.2)

/-- `rsplit_once('/')`, of which the caller keeps what stands before. -/
def directoryOf (text : List Char) : Option (List Char) :=
  if text.contains '/' then
    some ((text.reverse.dropWhile fun c => c ≠ '/').drop 1).reverse
  else
    none

def hexValue (byte : UInt8) : Option UInt8 :=
  if 48 <= byte && byte <= 57 then some (byte - 48)
  else if 97 <= byte && byte <= 102 then some (byte - 97 + 10)
  else if 65 <= byte && byte <= 70 then some (byte - 65 + 10)
  else none

/-- The bytes of a fragment with each `%` escape read. -/
def percentDecoded : List UInt8 -> Option (List UInt8)
  | [] => some []
  | 37 :: high :: low :: rest => do
      let high ← hexValue high
      let low ← hexValue low
      let rest ← percentDecoded rest
      some ((high <<< 4 ||| low) :: rest)
  | 37 :: _ => none
  | byte :: rest => (percentDecoded rest).map fun rest => byte :: rest

/-- `validate_pointer_token`: a tilde stands only before `0` or `1`. -/
def validPointerToken : List Char -> Bool
  | '~' :: '0' :: rest => validPointerToken rest
  | '~' :: '1' :: rest => validPointerToken rest
  | '~' :: _ => false
  | _ :: rest => validPointerToken rest
  | [] => true

def decodePointerFragment (fragment : String) : Option String :=
  if fragment.utf8ByteSize > maxPointerBytes then none
  else do
    let decoded ← percentDecoded fragment.toUTF8.data.toList
    if decoded.length > maxPointerBytes then none
    else do
      let decoded ← String.fromUTF8? ⟨decoded.toArray⟩
      match decoded.toList with
      | [] => some decoded
      | '/' :: rest => if (rest.splitOn '/').all validPointerToken then some decoded else none
      | _ => none

def pathSegment (segments : List (List Char)) (segment : List Char) :
    Option (List (List Char)) :=
  if segment = [] ∨ segment = ['.'] then some segments
  else if segment = ['.', '.'] then
    if segments.length <= 1 then none else some segments.dropLast
  else some (segments ++ [segment])

def normalizeUrlPath (directory relative : List Char) : Option (List Char) := do
  let (origin, path) ← splitOnce [':', '/', '/'] directory
  let segments ← (relative.splitOn '/').foldlM pathSegment (path.splitOn '/')
  some (origin ++ [':', '/', '/'] ++ List.intercalate ['/'] segments)

/-!
## Resolution
-/

variable (resources : CatalogResources)

/-- The part of a reference before its fragment, made absolute. -/
def referenceBase (ownerId : String) (base : List Char) : Option String :=
  if base = [] then some ownerId
  else if (splitOnce [':', '/', '/'] base).isSome then some (String.ofList base)
  else if base.contains ':' || base.head? = some '/' then none
  else do
    let directory ← directoryOf ownerId.toList
    let path ← normalizeUrlPath directory base
    some (String.ofList path)

def absoluteReference (owner reference : String) : Option String := do
  let entry ← resources.catalog.schemas[owner]?
  let (base, fragment) := (splitOnce ['#'] reference.toList).getD (reference.toList, [])
  if reference.toList.count '#' > 1 then none
  else do
    let base ← referenceBase entry.id base
    if resources.catalog.schemas.toList.any fun other => other.2.id = base then do
      let fragment ← decodePointerFragment (String.ofList fragment)
      if fragment = "" then some base else some (base ++ "#" ++ fragment)
    else none

/-- `referenced_value`: the schema an absolute reference leads to, and what it points at there. -/
def referencedValue (absolute : String) : Option (String × Json) := do
  let (base, fragment) := (splitOnce ['#'] absolute.toList).getD (absolute.toList, [])
  let owner ← resources.catalog.schemas.toList.find? fun other => other.2.id = String.ofList base
  let root ← resources.schemas[owner.1]?
  let target ← pointerTarget root fragment
  some (owner.1, target)

/-- The loop of `resolve_reference`, with the turns that are left to it. -/
def followReferences : Nat -> List String -> String -> Bool
  | 0, _, _ => false
  | turns + 1, visited, current =>
      if current ∈ visited then true
      else
        match referencedValue resources current with
        | none => false
        | some (owner, target) =>
            match (target.get "$ref").bind Json.asString with
            | none => true
            | some next =>
                match absoluteReference resources owner next with
                | none => false
                | some next => followReferences turns (current :: visited) next

def resolveReference (owner reference : String) : Option String :=
  (absoluteReference resources owner reference).filter fun start =>
    followReferences resources maxJsonDepth [] start

/-!
## The references of a document
-/

def schemaMapKeywords : List String :=
  ["properties", "patternProperties", "$defs", "definitions", "dependentSchemas"]

def schemaKeywords : List String :=
  ["additionalProperties", "unevaluatedProperties", "unevaluatedItems", "propertyNames", "items",
    "contains", "contentSchema", "not", "if", "then", "else"]

def schemaListKeywords : List String :=
  ["prefixItems", "allOf", "anyOf", "oneOf"]

def invalidReference (owner pointer : String) (reference : Json) : List String :=
  if (reference.asString.bind (resolveReference resources owner)).isSome then []
  else [joinPointer pointer "$ref"]

/-- `collect_schema_references`: the pointers that make the references of a document invalid, with
the depth that is left. -/
def invalidReferences (owner : String) : Nat -> String -> Json -> List String
  | 0, pointer, _ => [displayPointer pointer]
  | room + 1, pointer, schema =>
      (schema.get "$ref").toList.flatMap (invalidReference resources owner pointer) ++
        (schemaMapKeywords.flatMap fun keyword =>
          ((schema.get keyword).bind Json.asObject).toList.flatMap fun children =>
            children.flatMap fun child =>
              invalidReferences owner room (joinPointer (joinPointer pointer keyword) child.1)
                child.2) ++
        (schemaKeywords.flatMap fun keyword =>
          (schema.get keyword).toList.flatMap fun child =>
            invalidReferences owner room (joinPointer pointer keyword) child) ++
        (schemaListKeywords.flatMap fun keyword =>
          ((schema.get keyword).bind Json.asArray).toList.flatMap fun children =>
            children.zipIdx.flatMap fun child =>
              invalidReferences owner room
                (joinPointer (joinPointer pointer keyword) (toString child.2)) child.1)

def ReferencesValid (schema : String) (document : Json) : Prop :=
  invalidReferences resources schema (maxJsonDepth + 1) "" document = []

end Evolution
end GraphHelm
