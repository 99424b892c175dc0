import GraphHelm.Evolution.Catalog
import GraphHelm.Governor.Drafts
import Mathlib.Data.String.Basic
import Mathlib.Algebra.Order.Ring.Int

/-!
# Migrations

`core/schema-evolution/src/migration.rs`: the manifest of a migration, the checks
it has to pass, and the JSON Patch operations it is made of. The order of versions
is that of `semver`, the size of a text that of `serde_json`; both are given.
-/

namespace GraphHelm
namespace Evolution
namespace Migration

open Std

def maxFileBytes : Nat := 4 * 1024 * 1024

def maxMigrationOperations : Nat := 1024

/-!
## Manifests
-/

/-- `SchemaDigest::parse`: `sha256:` and sixty-four lower hexadecimal digits. -/
def isSchemaDigest (text : String) : Bool :=
  let chars := text.toList
  "sha256:".toList.isPrefixOf chars &&
    chars.length = 7 + 64 &&
      (chars.drop 7).all fun c => c.isDigit || ('a' <= c && c <= 'f')

structure SchemaDigest where
  text : String
  valid : isSchemaDigest text = true
deriving DecidableEq

inductive PatchOperation where
  | add (path : String) (value : Json)
  | remove (path : String)
  | replace (path : String) (value : Json)
  | move («from» path : String)
  | copy («from» path : String)
  | test (path : String) (value : Json)
deriving DecidableEq

structure MigrationManifest where
  formatVersion : Nat
  schema : String
  fromVersion : Version
  toVersion : Version
  sourceSchemaHash : SchemaDigest
  targetSchemaHash : SchemaDigest
  operations : List PatchOperation
deriving DecidableEq

structure MigrationEntry extends CatalogEntry where
  sha256 : SchemaDigest

abbrev MigrationCatalog := ExtTreeMap String MigrationEntry

structure MigrationCatalogs where
  source : MigrationCatalog
  target : MigrationCatalog

def stable (version : Version) : Bool :=
  version.pre = "" && version.build = ""

/-!
## Diagnostics
-/

def migrationUnsupported : String := "GHM001_MIGRATION_UNSUPPORTED"

def schemaHashMismatch : String := "GHM002_SCHEMA_HASH_MISMATCH"

def patchInvalid : String := "GHM003_PATCH_INVALID"

def destinationInvalid : String := "GHM004_DESTINATION_INVALID"

def diagnostic (code message path : String) : Diagnostic :=
  Diagnostic.error code message path "migration"

def unsupported (message path : String) : Diagnostic :=
  diagnostic migrationUnsupported message path

/-!
## Pointers
-/

/-- The escapes of one token; any other tilde is refused. -/
def unescapeToken : List Char -> Option (List Char)
  | [] => some []
  | '~' :: '0' :: rest => (unescapeToken rest).map fun decoded => '~' :: decoded
  | '~' :: '1' :: rest => (unescapeToken rest).map fun decoded => '/' :: decoded
  | '~' :: _ => none
  | c :: rest => (unescapeToken rest).map fun decoded => c :: decoded

def parsePointer (pointer : String) : Option (List String) :=
  match pointer.toList with
  | [] => some []
  | '/' :: encoded =>
      (encoded.splitOn '/').mapM fun token => (unescapeToken token).map String.ofList
  | _ => none

def arrayIndex (token : String) (allowEnd : Bool) (length : Nat) : Except String Nat :=
  match parseIndex token.toList with
  | some index =>
      if index < 2 ^ 64 && (index < length || (allowEnd && index = length)) then .ok index
      else .error "path"
  | none => .error "path"

/-!
## Documents
-/

def insertMember (key : String) (value : Json) :
    List (String × Json) -> List (String × Json)
  | [] => [(key, value)]
  | (other, held) :: rest =>
      if other = key then (key, value) :: rest
      else if key < other then (key, value) :: (other, held) :: rest
      else (other, held) :: insertMember key value rest

def removeMember (key : String) (members : List (String × Json)) : List (String × Json) :=
  members.filter fun member => member.1 != key

def get : List String -> Json -> Except String Json
  | [], value => .ok value
  | token :: rest, .object members =>
      match members.lookup token with
      | some child => get rest child
      | none => .error "path"
  | token :: rest, .array items => do
      let index ← arrayIndex token false items.length
      match items[index]? with
      | some child => get rest child
      | none => .error "path"
  | _ :: _, _ => .error "path"

/-- A change of the value that `get_mut` lends, and the document around it. -/
def update {α : Type} (change : Json -> Except String (Json × α)) :
    List String -> Json -> Except String (Json × α)
  | [], value => change value
  | token :: rest, .object members =>
      match members.lookup token with
      | some child => do
          let (changed, result) ← update change rest child
          .ok (.object (insertMember token changed members), result)
      | none => .error "path"
  | token :: rest, .array items => do
      let index ← arrayIndex token false items.length
      match items[index]? with
      | some child => do
          let (changed, result) ← update change rest child
          .ok (.array (items.set index changed), result)
      | none => .error "path"
  | _ :: _, _ => .error "path"

def splitLast : List String -> Option (String × List String)
  | [] => none
  | [token] => some (token, [])
  | token :: rest => (splitLast rest).map fun (last, parents) => (last, token :: parents)

/-- What `add` does to the parent of its place. -/
def addTo (last : String) (value : Json) : Json -> Except String (Json × Unit)
  | .object members => .ok (.object (insertMember last value members), ())
  | .array items =>
      if last = "-" then
        .ok (.array (items ++ [value]), ())
      else do
        let index ← arrayIndex last true items.length
        .ok (.array (items.insertIdx index value), ())
  | _ => .error "path"

def add (tokens : List String) (value : Json) (document : Json) : Except String Json :=
  match splitLast tokens with
  | none => .ok value
  | some (last, parents) => do
      let (changed, _) ← update (addTo last value) parents document
      .ok changed

/-- What `remove` takes out of the parent of its place. -/
def removeFrom (last : String) : Json -> Except String (Json × Json)
  | .object members =>
      match members.lookup last with
      | some value => .ok (.object (removeMember last members), value)
      | none => .error "path"
  | .array items => do
      let index ← arrayIndex last false items.length
      match items[index]? with
      | some value => .ok (.array (items.eraseIdx index), value)
      | none => .error "path"
  | _ => .error "path"

def remove (tokens : List String) (document : Json) : Except String (Json × Json) :=
  match splitLast tokens with
  | none => .error "path"
  | some (last, parents) => update (removeFrom last) parents document

def replace (tokens : List String) (value : Json) (document : Json) : Except String Json := do
  let (changed, _) ← update (fun _ => .ok (value, ())) tokens document
  .ok changed

/-!
## Equality of `test`
-/

/-- Whole floats of the range of `i64` or `u64` equal the integer of their value. -/
def numbersEqual : JsonNumber -> JsonNumber -> Bool
  | .integer left, .integer right => left = right
  | .float left, .float right => left = right
  | .float float, .integer integer | .integer integer, .float float =>
      float = integer && decide (-(2 : Int) ^ 63 <= integer) && decide (integer < 2 ^ 64)

mutual

def testEqual : Json -> Json -> Bool
  | .null, .null => true
  | .bool left, .bool right => left = right
  | .number left, .number right => numbersEqual left right
  | .string left, .string right => left = right
  | .array left, .array right => testItemsEqual left right
  | .object left, .object right => left.length = right.length && testMembersEqual left right
  | _, _ => false

def testItemsEqual : List Json -> List Json -> Bool
  | [], [] => true
  | left :: rest, right :: later => testEqual left right && testItemsEqual rest later
  | _, _ => false

def testMembersEqual : List (String × Json) -> List (String × Json) -> Bool
  | [], _ => true
  | (key, left) :: rest, right =>
      (match right.lookup key with
        | some value => testEqual left value
        | none => false) &&
        testMembersEqual rest right

end

/-!
## Operations
-/

/-- A pointer an operation writes or reads, refused under the name of its field. -/
def pointerTokens (field pointer : String) : Except String (List String) :=
  match parsePointer pointer with
  | some tokens => .ok tokens
  | none => .error field

def under {α : Type} (field : String) (result : Except String α) : Except String α :=
  match result with
  | .ok value => .ok value
  | .error _ => .error field

def applyOperation (document : Json) : PatchOperation -> Except String Json
  | .add path value => do
      let tokens ← pointerTokens "path" path
      add tokens value document
  | .remove path => do
      let tokens ← pointerTokens "path" path
      let (changed, _) ← remove tokens document
      .ok changed
  | .replace path value => do
      let tokens ← pointerTokens "path" path
      replace tokens value document
  | .move «from» path => do
      let fromTokens ← pointerTokens "from" «from»
      let pathTokens ← pointerTokens "path" path
      if fromTokens = pathTokens then do
        let _ ← get fromTokens document
        .ok document
      else if fromTokens.isPrefixOf pathTokens && fromTokens.length < pathTokens.length then
        .error "path"
      else do
        let (changed, value) ← under "from" (remove fromTokens document)
        add pathTokens value changed
  | .copy «from» path => do
      let fromTokens ← pointerTokens "from" «from»
      let value ← under "from" (get fromTokens document)
      let pathTokens ← pointerTokens "path" path
      add pathTokens value document
  | .test path value => do
      let tokens ← pointerTokens "path" path
      let found ← get tokens document
      if testEqual found value then .ok document else .error "path"

/-!
## Remote references
-/

def isRemoteReference (reference : String) : Bool :=
  match reference.toList with
  | '/' :: '/' :: _ => true
  | first :: rest =>
      first.isAlpha &&
        (rest.takeWhile fun c =>
          c.isAlphanum || c = '+' || c = '-' || c = '.' || c = ':').any fun c => c = ':'
  | [] => false

mutual

def containsRemoteReference : Json -> Bool
  | .array items => itemsContainRemoteReference items
  | .object members =>
      ((members.lookup "$ref").bind Json.asString).any isRemoteReference ||
        membersContainRemoteReference members
  | _ => false

def itemsContainRemoteReference : List Json -> Bool
  | [] => false
  | item :: rest => containsRemoteReference item || itemsContainRemoteReference rest

def membersContainRemoteReference : List (String × Json) -> Bool
  | [] => false
  | (_, value) :: rest => containsRemoteReference value || membersContainRemoteReference rest

end

/-!
## Manifests that are accepted
-/

section Bounds

variable (serializedSize : Json -> Option Nat)

def exceedsDepth (value : Json) : Bool :=
  !depthWithin maxJsonDepth value

def exceedsSize (value : Json) : Bool :=
  match serializedSize value with
  | some size => maxFileBytes < size
  | none => true

def operationPath (index : Nat) (field : String) : String :=
  s!"/operations/{index}/{field}"

def validatePointer (index : Nat) (field pointer : String) (allowFinalAppend : Bool) :
    Except Diagnostic Unit :=
  if maxPointerBytes < pointer.utf8ByteSize then
    .error (diagnostic patchInvalid "JSON Pointer exceeds the byte limit"
      (operationPath index field))
  else
    match parsePointer pointer with
    | none =>
        .error (diagnostic patchInvalid "JSON Pointer syntax is invalid"
          (operationPath index field))
    | some tokens =>
        let checked := if allowFinalAppend then tokens.dropLast else tokens
        if checked.contains "-" then
          .error (diagnostic patchInvalid "array append token is invalid for this pointer"
            (operationPath index field))
        else
          .ok ()

def PatchOperation.path : PatchOperation -> String
  | .add path _ | .remove path | .replace path _ | .move _ path | .copy _ path
  | .test path _ => path

def PatchOperation.from? : PatchOperation -> Option String
  | .move «from» _ | .copy «from» _ => some «from»
  | _ => none

def PatchOperation.value? : PatchOperation -> Option Json
  | .add _ value | .replace _ value | .test _ value => some value
  | _ => none

def PatchOperation.allowsAppend : PatchOperation -> Bool
  | .add _ _ | .move _ _ | .copy _ _ => true
  | _ => false

def validateValue (index : Nat) (value : Json) : Except Diagnostic Unit :=
  if exceedsDepth value || exceedsSize serializedSize value then
    .error (diagnostic patchInvalid "patch value exceeds a fixed resource limit"
      (operationPath index "value"))
  else if containsRemoteReference value then
    .error (diagnostic patchInvalid "patch values may not contain remote references"
      (operationPath index "value"))
  else
    .ok ()

/-- A check of what is there. -/
def whenPresent {α : Type} (validate : α -> Except Diagnostic Unit) :
    Option α -> Except Diagnostic Unit
  | some value => validate value
  | none => .ok ()

def validateOperation (index : Nat) (operation : PatchOperation) : Except Diagnostic Unit := do
  validatePointer index "path" operation.path operation.allowsAppend
  whenPresent (fun pointer => validatePointer index "from" pointer false) operation.from?
  whenPresent (validateValue serializedSize index) operation.value?

def validateOperations : Nat -> List PatchOperation -> Except Diagnostic Unit
  | _, [] => .ok ()
  | index, operation :: rest => do
      validateOperation serializedSize index operation
      validateOperations (index + 1) rest

def validateEntry (catalog : MigrationCatalog) (schema : String) (version : Version)
    (digest : SchemaDigest) (missing wrongVersion wrongDigest versionPath digestPath : String) :
    Except Diagnostic Unit :=
  match catalog[schema]? with
  | none => .error (unsupported missing "/schema")
  | some entry =>
      if entry.documentVersion ≠ version then
        .error (unsupported wrongVersion versionPath)
      else if entry.sha256 ≠ digest then
        .error (diagnostic schemaHashMismatch wrongDigest digestPath)
      else
        .ok ()

variable [LinearOrder Version]

def increases (manifest : MigrationManifest) : Bool :=
  stable manifest.fromVersion && stable manifest.toVersion &&
    manifest.fromVersion < manifest.toVersion

def validateMigrationManifest (manifest : MigrationManifest)
    (sourceCatalog : Option MigrationCatalog) (targetCatalog : MigrationCatalog) :
    Except Diagnostic Unit :=
  if manifest.formatVersion ≠ 1 then
    .error (unsupported "migration format version is unsupported" "/formatVersion")
  else if manifest.schema = "" then
    .error (unsupported "migration schema is unavailable" "/schema")
  else if !increases manifest then
    .error (unsupported "migration versions must be stable and strictly increasing" "/toVersion")
  else do
    whenPresent
      (fun catalog =>
        validateEntry catalog manifest.schema manifest.fromVersion manifest.sourceSchemaHash
          "source schema is unavailable" "source schema version does not match the migration"
          "source schema digest does not match the catalog" "/fromVersion" "/sourceSchemaHash")
      sourceCatalog
    validateEntry targetCatalog manifest.schema manifest.toVersion manifest.targetSchemaHash
      "target schema is unavailable" "target schema version does not match the migration"
      "target schema digest does not match the catalog" "/toVersion" "/targetSchemaHash"
    check (decide (manifest.operations.length <= maxMigrationOperations))
      (diagnostic patchInvalid "migration exceeds the operation-count limit" "/operations")
    validateOperations serializedSize 0 manifest.operations

/-!
## Applying
-/

def validateDocumentBound (document : Json) (path : String) : Except Diagnostic Unit :=
  if exceedsDepth document then
    .error (diagnostic patchInvalid "document exceeds the nesting-depth limit" path)
  else if exceedsSize serializedSize document then
    .error (diagnostic patchInvalid "document exceeds the serialized-size limit" path)
  else
    .ok ()

def isStructural : PatchOperation -> Bool
  | .test _ _ => false
  | _ => true

/-- One operation of the loop of `apply_migration`, and the bound behind it. -/
def applyStep (index : Nat) (document : Json) (operation : PatchOperation) :
    Except Diagnostic Json :=
  match applyOperation document operation with
  | .error field =>
      .error (diagnostic patchInvalid "JSON Patch operation is invalid"
        (operationPath index field))
  | .ok candidate =>
      if isStructural operation then do
        validateDocumentBound serializedSize candidate (operationPath index "path")
        .ok candidate
      else
        .ok candidate

def applySteps : Nat -> List PatchOperation -> Json -> Except Diagnostic Json
  | _, [], document => .ok document
  | index, operation :: rest, document => do
      let candidate ← applyStep serializedSize index document operation
      applySteps (index + 1) rest candidate

def applyMigration (document : Json) (manifest : MigrationManifest)
    (catalogs : MigrationCatalogs) (validateSource validateTarget : Json -> List Diagnostic) :
    Except Diagnostic Json := do
  validateMigrationManifest serializedSize manifest (some catalogs.source) catalogs.target
  validateDocumentBound serializedSize document "/source"
  check (validateSource document).isEmpty
    (diagnostic destinationInvalid "source document does not satisfy its schema" "/source")
  let candidate ← applySteps serializedSize 0 manifest.operations document
  check (validateTarget candidate).isEmpty
    (diagnostic destinationInvalid "destination document does not satisfy its schema"
      "/destination")
  .ok candidate

end Bounds

end Migration
end Evolution
end GraphHelm
