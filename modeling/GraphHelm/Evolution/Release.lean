import GraphHelm.Governor.Drafts
import GraphHelm.Evolution.Compatibility

/-!
# The release gate

`enforce_release` (`release.rs`): the versions of a catalog and of each of its
schemas move exactly as far as the comparison of the two catalogs asks, and a
breaking change comes with a migration, a fixture pair and a changelog entry.
-/

namespace GraphHelm
namespace Evolution

open Std

/-!
## Evidence
-/

structure TransitionKey where
  schema : String
  fromVersion : Version
  toVersion : Version
deriving DecidableEq

abbrev MigrationKey := TransitionKey

abbrev FixturePairKey := TransitionKey

abbrev ChangelogKey := TransitionKey

structure ReleaseEvidence where
  migrations : List MigrationKey
  fixturePairs : List FixturePairKey
  changelogEntries : List ChangelogKey

structure ReleaseReport where
  ok : Bool
  diagnostics : List Diagnostic

/-!
## Checks
-/

def mismatch (message path source : String) : Diagnostic :=
  Diagnostic.error "GHC004_SEMVER_MISMATCH" message path source

def validateStableVersion (version : Version) (path source : String) : List Diagnostic :=
  if version.pre ≠ "" ∨ version.build ≠ "" then
    [mismatch "milestone 02 versions must not include prerelease or build metadata" path source]
  else []

def validateInitialDocumentVersion (version : Version) (path source : String) :
    List Diagnostic :=
  if version.major ≠ 1 ∨ version.minor ≠ 0 ∨ version.patch ≠ 0 then
    [mismatch "new milestone 02 schemas must start at document version 1.0.0" path source]
  else []

def expectedVersion (version : Version) : SemverImpact -> Option Version
  | .none => some version
  | .patch => (checkedSucc version.patch).map (Version.new version.major version.minor)
  | .minor => (checkedSucc version.minor).map fun minor => Version.new version.major minor 0
  | .major => (checkedSucc version.major).map fun major => Version.new major 0 0

def validateExactTransition (fromVersion toVersion : Version) (impact : SemverImpact)
    (path source : String) : List Diagnostic :=
  if expectedVersion fromVersion impact = some toVersion then []
  else [mismatch "version does not equal the exact required SemVer transition" path source]

def addImpact (impacts : ExtTreeMap String SemverImpact) (change : CompatibilityChange) :
    ExtTreeMap String SemverImpact :=
  match impacts[change.schema]? with
  | some current => impacts.insert change.schema (current.max change.impact)
  | none => impacts.insert change.schema change.impact

def schemaImpacts (changes : List CompatibilityChange) : ExtTreeMap String SemverImpact :=
  changes.foldl addImpact ∅

def requireKey (keys : List TransitionKey) (key : TransitionKey) (message kind source : String) :
    List Diagnostic :=
  if key ∈ keys then []
  else [mismatch message ("/evidence/" ++ kind ++ "/" ++ escapePointer key.schema) source]

def requireEvidence (evidence : ReleaseEvidence) (key : TransitionKey) (source : String) :
    List Diagnostic :=
  requireKey evidence.migrations key "breaking schema requires an exact migration" "migrations"
      source ++
    requireKey evidence.fixturePairs key
      "breaking schema requires an exact before/after fixture pair" "fixturePairs" source ++
    requireKey evidence.changelogEntries key "breaking schema requires an exact changelog entry"
      "changelogEntries" source

section Gate

variable (baseline candidate : CatalogResources) (impacts : ExtTreeMap String SemverImpact)
  (source : String)

def breakingEvidence (evidence : ReleaseEvidence) (schema : String) (impact : SemverImpact) :
    List Diagnostic :=
  if impact ≠ .major then []
  else
    match baseline.catalog.schemas[schema]?, candidate.catalog.schemas[schema]? with
    | some baselineEntry, some candidateEntry =>
        requireEvidence evidence
          { schema := schema
            fromVersion := baselineEntry.documentVersion
            toVersion := candidateEntry.documentVersion } source
    | _, _ => []

def gateBaselineSchema (schema : String) (baselineEntry : CatalogEntry) : List Diagnostic :=
  validateStableVersion baselineEntry.documentVersion
      ("/baseline/schemas/" ++ escapePointer schema ++ "/documentVersion") source ++
    match candidate.catalog.schemas[schema]? with
    | some candidateEntry =>
        let path := "/schemas/" ++ escapePointer schema ++ "/documentVersion"
        validateStableVersion candidateEntry.documentVersion path source ++
          validateExactTransition baselineEntry.documentVersion candidateEntry.documentVersion
            ((impacts[schema]?).getD .none) path source
    | none =>
        [mismatch "milestone 02 does not define a schema removal or tombstone contract"
          ("/schemas/" ++ escapePointer schema ++ "/removal") source]

def gateCandidateSchema (schema : String) (candidateEntry : CatalogEntry) : List Diagnostic :=
  if (baseline.catalog.schemas[schema]?).isSome then []
  else
    let path := "/schemas/" ++ escapePointer schema ++ "/documentVersion"
    validateStableVersion candidateEntry.documentVersion path source ++
      validateInitialDocumentVersion candidateEntry.documentVersion path source

def catalogImpact : SemverImpact :=
  (impacts.toList.map Prod.snd).foldl SemverImpact.max .none

/-- What the gate finds, in the order in which it looks. -/
def gateDiagnostics (evidence : ReleaseEvidence) : List Diagnostic :=
  validateStableVersion baseline.catalog.releaseVersion "/baseline/releaseVersion" source ++
    validateStableVersion candidate.catalog.releaseVersion "/releaseVersion" source ++
    baseline.catalog.schemas.toList.flatMap (fun entry =>
      gateBaselineSchema candidate impacts source entry.1 entry.2) ++
    candidate.catalog.schemas.toList.flatMap (fun entry =>
      gateCandidateSchema baseline source entry.1 entry.2) ++
    validateExactTransition baseline.catalog.releaseVersion candidate.catalog.releaseVersion
      (catalogImpact impacts) "/releaseVersion" source ++
    impacts.toList.flatMap (fun entry =>
      breakingEvidence baseline candidate source evidence entry.1 entry.2)

end Gate

/-- `diagnostic_source`: a normalized relative path, or the name of the crate. -/
def diagnosticSource (value : String) : String :=
  let text := value.toList
  let plain (segment : List Char) : Bool :=
    decide (segment ≠ []) && decide (segment ≠ ['.']) && decide (segment ≠ ['.', '.'])
  if text ≠ [] ∧ text.head? ≠ some '/' ∧ '\\' ∉ text ∧ ':' ∉ text ∧ (text.splitOn '/').all plain
  then value
  else "schema-evolution"

/-- The order of `sort_diagnostics` on diagnostics that are all errors. -/
def diagnosticOrder (left right : Diagnostic) : Bool :=
  (compare left.source right.source).then
    ((compare left.path right.path).then
      ((compare left.code right.code).then (compare left.message right.message))) != .gt

def enforceRelease (baseline candidate : CatalogResources) (compatibility : CompatibilityReport)
    (evidence : ReleaseEvidence) : ReleaseReport :=
  let diagnostics := gateDiagnostics baseline candidate (schemaImpacts compatibility.changes)
    (diagnosticSource candidate.catalogSource) evidence
  { ok := diagnostics.isEmpty
    diagnostics := diagnostics.mergeSort diagnosticOrder }

end Evolution
end GraphHelm
