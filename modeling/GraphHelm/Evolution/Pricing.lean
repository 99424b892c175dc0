import GraphHelm.Library.OrderedMap
import GraphHelm.Evolution.Release
import GraphHelm.Evolution.Narrowing
import GraphHelm.Evolution.Validity

/-!
# What a passed release gate says

The impacts the gate reads off a report, and what its passing means for the
versions and the evidence of the schemas whose own documents were narrowed.
-/

namespace GraphHelm
namespace Evolution

open Std

/-!
## Impacts
-/

@[simp] theorem SemverImpact.max_major (impact : SemverImpact) : impact.max .major = .major := by
  cases impact <;> rfl

@[simp] theorem SemverImpact.major_max (impact : SemverImpact) :
    SemverImpact.major.max impact = .major := by
  cases impact <;> rfl

variable {change : CompatibilityChange} {impacts : ExtTreeMap String SemverImpact}
    {name schema : String} {changes : List CompatibilityChange}
    {entries : List (String × List Finding)}

theorem addImpact_of_ne (h : change.schema ≠ name) :
    (addImpact impacts change)[name]? = impacts[name]? := by
  unfold addImpact
  split
  · exact OrderedMap.getElem?_insert_of_ne h
  · exact OrderedMap.getElem?_insert_of_ne h

theorem addImpact_self (h : change.impact = .major) :
    (addImpact impacts change)[change.schema]? = some .major := by
  unfold addImpact
  split
  · rw [ExtTreeMap.getElem?_insert_self, h, SemverImpact.max_major]
  · rw [ExtTreeMap.getElem?_insert_self, h]

theorem addImpact_major (h : impacts[name]? = some SemverImpact.major)
    (change : CompatibilityChange) :
    (addImpact impacts change)[name]? = some .major := by
  by_cases hname : change.schema = name
  · subst hname
    unfold addImpact
    simp only [h]
    rw [ExtTreeMap.getElem?_insert_self, SemverImpact.major_max]
  · rw [addImpact_of_ne hname, h]

theorem foldl_addImpact_major (h : impacts[name]? = some SemverImpact.major) :
    (changes.foldl addImpact impacts)[name]? = some .major := by
  induction changes generalizing impacts with
  | nil =>
      exact h
  | cons change rest ih =>
      exact ih (addImpact_major h change)

theorem foldl_addImpact_of_mem (hmem : change ∈ changes) (hmajor : change.impact = .major)
    (impacts : ExtTreeMap String SemverImpact) :
    (changes.foldl addImpact impacts)[change.schema]? = some .major := by
  induction changes generalizing impacts with
  | nil =>
      cases hmem
  | cons first rest ih =>
      rw [List.foldl_cons]
      rcases List.mem_cons.mp hmem with hfirst | hrest
      · subst hfirst
        exact foldl_addImpact_major (addImpact_self hmajor)
      · exact ih hrest _

theorem schemaImpacts_major (hmem : change ∈ changes) (hmajor : change.impact = .major) :
    (schemaImpacts changes)[change.schema]? = some .major :=
  foldl_addImpact_of_mem hmem hmajor ∅

theorem foldl_addImpact_silent (h : forall change, change ∈ changes -> change.schema ≠ name)
    (impacts : ExtTreeMap String SemverImpact) :
    (changes.foldl addImpact impacts)[name]? = impacts[name]? := by
  induction changes generalizing impacts with
  | nil =>
      rfl
  | cons first rest ih =>
      rw [List.foldl_cons, ih fun change hmem => h change (List.mem_cons_of_mem _ hmem),
        addImpact_of_ne (h first List.mem_cons_self)]

theorem schemaImpacts_silent (h : forall change, change ∈ changes -> change.schema ≠ name) :
    (schemaImpacts changes)[name]? = none := by
  unfold schemaImpacts
  rw [foldl_addImpact_silent h]
  exact ExtTreeMap.getElem?_empty

theorem foldl_max_major {impacts : List SemverImpact} {start : SemverImpact}
    (h : start = .major ∨ SemverImpact.major ∈ impacts) :
    impacts.foldl SemverImpact.max start = .major := by
  induction impacts generalizing start with
  | nil =>
      rcases h with h | h
      · exact h
      · cases h
  | cons first rest ih =>
      apply ih
      rcases h with hstart | hmem
      · rw [hstart]
        exact Or.inl (SemverImpact.major_max first)
      · rcases List.mem_cons.mp hmem with hfirst | hrest
        · rw [<- hfirst]
          exact Or.inl (SemverImpact.max_major start)
        · exact Or.inr hrest

theorem catalogImpact_major (h : impacts[name]? = some SemverImpact.major) :
    catalogImpact impacts = .major := by
  apply foldl_max_major
  apply Or.inr
  exact List.mem_map.mpr ⟨(name, .major), ExtTreeMap.mem_toList_iff_getElem?_eq_some.mpr h, rfl⟩

/-!
## The changes of a report
-/

def Written (changes : List CompatibilityChange) : Prop :=
  forall change, change ∈ changes ->
    exists schema, exists finding : Finding, change = finding.change schema

def HasMajor (schema : String) (changes : List CompatibilityChange) : Prop :=
  exists change, change ∈ changes ∧ change.schema = schema ∧ change.impact = .major

theorem ChangeKind.breaking_of_code {kind : ChangeKind} (h : kind.code = ChangeKind.breaking.code) :
    kind = .breaking := by
  cases kind with
  | breaking => rfl
  | annotation => exact absurd h (by decide)
  | optionalProperty => exact absurd h (by decide)
  | compatible => exact absurd h (by decide)

theorem mem_push {finding : Finding} (h : change ∈ push schema changes finding) :
    change ∈ changes ∨ change = finding.change schema := by
  unfold push at h
  split at h
  · exact Or.inl h
  · rcases List.mem_append.mp h with hold | hnew
    · exact Or.inl hold
    · exact Or.inr (List.mem_singleton.mp hnew)

theorem Written.push (h : Written changes) (schema : String) (finding : Finding) :
    Written (push schema changes finding) := by
  intro change hmem
  rcases mem_push hmem with hold | hnew
  · exact h change hold
  · exact ⟨schema, finding, hnew⟩

theorem HasMajor.push (h : HasMajor name changes) (schema : String) (finding : Finding) :
    HasMajor name (push schema changes finding) := by
  rcases h with ⟨change, hmem, hname, hmajor⟩
  refine ⟨change, ?_, hname, hmajor⟩
  unfold Evolution.push
  split
  · exact hmem
  · exact List.mem_append_left _ hmem

theorem push_breaking (h : Written changes) {finding : Finding}
    (hkind : finding.kind = .breaking) :
    HasMajor schema (push schema changes finding) := by
  unfold push
  split
  · rename_i hany
    rcases List.any_eq_true.mp hany with ⟨change, hmem, hsame⟩
    rcases of_decide_eq_true hsame with ⟨hschema, _, hcode⟩
    refine ⟨change, hmem, hschema, ?_⟩
    rcases h change hmem with ⟨other, source, rfl⟩
    rw [hkind] at hcode
    change source.kind.compatibilityClass.impact = .major
    rw [ChangeKind.breaking_of_code hcode]
    rfl
  · refine ⟨finding.change schema, List.mem_append_right _ (List.mem_singleton_self _), rfl, ?_⟩
    change finding.kind.compatibilityClass.impact = .major
    rw [hkind]
    rfl

theorem Written.pushAll (h : Written changes) (schema : String) (findings : List Finding) :
    Written (findings.foldl (Evolution.push schema) changes) := by
  induction findings generalizing changes with
  | nil =>
      exact h
  | cons finding rest ih =>
      exact ih (h.push schema finding)

theorem HasMajor.pushAll (h : HasMajor name changes) (schema : String) (findings : List Finding) :
    HasMajor name (findings.foldl (Evolution.push schema) changes) := by
  induction findings generalizing changes with
  | nil =>
      exact h
  | cons finding rest ih =>
      exact ih (h.push schema finding)

theorem pushAll_breaks (h : Written changes) {findings : List Finding}
    (hbreaks : Breaks findings) :
    HasMajor schema (findings.foldl (push schema) changes) := by
  rcases hbreaks with ⟨finding, hfinding, hkind⟩
  induction findings generalizing changes with
  | nil =>
      cases hfinding
  | cons first rest ih =>
      rcases List.mem_cons.mp hfinding with hfirst | hrest
      · subst hfirst
        exact (push_breaking h hkind).pushAll schema rest
      · exact ih (h.push schema first) hrest

theorem mem_pushAll {findings : List Finding}
    (h : change ∈ findings.foldl (push schema) changes) :
    change ∈ changes ∨ exists finding, finding ∈ findings ∧ change = finding.change schema := by
  induction findings generalizing changes with
  | nil =>
      exact Or.inl h
  | cons first rest ih =>
      rcases ih h with hpush | ⟨finding, hfinding, hchange⟩
      · rcases mem_push hpush with hold | hnew
        · exact Or.inl hold
        · exact Or.inr ⟨first, List.mem_cons_self, hnew⟩
      · exact Or.inr ⟨finding, List.mem_cons_of_mem _ hfinding, hchange⟩

theorem HasMajor.writeAll (h : HasMajor name changes) :
    HasMajor name (writeAll entries changes) := by
  induction entries generalizing changes with
  | nil =>
      exact h
  | cons entry rest ih =>
      exact ih (h.pushAll entry.1 entry.2)

theorem writeAll_breaks {entry : String × List Finding} (h : Written changes)
    (hentry : entry ∈ entries) (hbreaks : Breaks entry.2) :
    HasMajor entry.1 (writeAll entries changes) := by
  induction entries generalizing changes with
  | nil =>
      cases hentry
  | cons first rest ih =>
      rcases List.mem_cons.mp hentry with hfirst | hrest
      · subst hfirst
        exact (pushAll_breaks h hbreaks).writeAll
      · exact ih (h.pushAll first.1 first.2) hrest

theorem mem_writeAll (h : change ∈ writeAll entries changes) :
    change ∈ changes ∨ exists entry, entry ∈ entries ∧
      exists finding, finding ∈ entry.2 ∧ change = finding.change entry.1 := by
  induction entries generalizing changes with
  | nil =>
      exact Or.inl h
  | cons first rest ih =>
      rcases ih h with hfirst | ⟨entry, hentry, hfinding⟩
      · rcases mem_pushAll hfirst with hold | hnew
        · exact Or.inl hold
        · exact Or.inr ⟨first, List.mem_cons_self, hnew⟩
      · exact Or.inr ⟨entry, List.mem_cons_of_mem _ hentry, hfinding⟩

/-!
## The comparison of two catalogs
-/

section Gate

variable {baseline candidate : CatalogResources}

/-- The document of a schema was narrowed by an edit of the design's list. -/
def NarrowedText (baseline candidate : CatalogResources) (schema : String) : Prop :=
  exists left right, baseline.schemas[schema]? = some left ∧
    candidate.schemas[schema]? = some right ∧ Narrowed baseline candidate schema left right

def ReferencesResolve (resources : CatalogResources) : Prop :=
  forall schema document, resources.schemas[schema]? = some document ->
    ReferencesValid resources schema document

theorem compareValue_self (owner : String) (room : Nat) (pointer : String) (document : Json) :
    compareValue baseline candidate owner room pointer document document = [] := by
  unfold compareValue
  rw [if_pos rfl]

theorem mem_schemaNames {left : Json} (h : baseline.schemas[schema]? = some left) :
    schema ∈ schemaNames baseline candidate := by
  unfold schemaNames
  rw [ExtTreeSet.mem_toList, ExtTreeSet.mem_ofList, List.contains_iff_mem]
  apply List.mem_append_left
  rw [ExtTreeMap.mem_keys, ExtTreeMap.mem_iff_isSome_getElem?, h]
  rfl

theorem compareAll_hasMajor (h : NarrowedText baseline candidate schema) :
    HasMajor schema (compareAll baseline candidate) := by
  rcases h with ⟨left, right, hleft, hright, hnarrowed⟩
  have hentry : (schema, compareDocuments baseline candidate schema) ∈
      findingsOf baseline candidate := by
    apply List.mem_append_right
    exact List.mem_map.mpr ⟨schema, mem_schemaNames hleft, rfl⟩
  have hempty : Written [] := by
    intro change hmem
    cases hmem
  apply writeAll_breaks hempty hentry
  change Breaks (compareDocuments baseline candidate schema)
  unfold compareDocuments
  rw [hleft, hright]
  exact narrowed_breaks hnarrowed _ _

theorem compareAll_silent (hresolve : ReferencesResolve candidate)
    (hsame : baseline.schemas[schema]? = candidate.schemas[schema]?) :
    forall change, change ∈ compareAll baseline candidate -> change.schema ≠ schema := by
  intro change hmem hschema
  rcases mem_writeAll hmem with hnone | ⟨entry, hentry, finding, hfinding, hchange⟩
  · cases hnone
  · have hname : entry.1 = schema := by
      rw [<- hschema, hchange]
      rfl
    rcases List.mem_append.mp hentry with hreference | hdocument
    · rcases List.mem_map.mp hreference with ⟨document, hdocument, rfl⟩
      have hvalid := hresolve document.1 document.2
        (ExtTreeMap.mem_toList_iff_getElem?_eq_some.mp hdocument)
      change finding ∈ candidateReferences candidate document.1 document.2 at hfinding
      unfold candidateReferences at hfinding
      rw [hvalid] at hfinding
      cases hfinding
    · rcases List.mem_map.mp hdocument with ⟨other, _, rfl⟩
      change other = schema at hname
      subst hname
      change finding ∈ compareDocuments baseline candidate other at hfinding
      unfold compareDocuments at hfinding
      rw [hsame] at hfinding
      cases hcandidate : candidate.schemas[other]? with
      | none =>
          rw [hcandidate] at hfinding
          cases hfinding
      | some document =>
          rw [hcandidate] at hfinding
          change finding ∈ compareValue baseline candidate other _ "" document document at hfinding
          rw [compareValue_self] at hfinding
          cases hfinding

/-- The impacts that the gate reads off the report of a comparison. -/
def reportedImpacts (baseline candidate : CatalogResources) : ExtTreeMap String SemverImpact :=
  schemaImpacts (compareCatalogs baseline candidate).changes

theorem reportedImpacts_major (h : NarrowedText baseline candidate schema) :
    (reportedImpacts baseline candidate)[schema]? = some SemverImpact.major := by
  rcases compareAll_hasMajor h with ⟨change, hmem, rfl, hmajor⟩
  exact schemaImpacts_major (List.mem_mergeSort.mpr hmem) hmajor

theorem reportedImpacts_silent (hresolve : ReferencesResolve candidate)
    (hsame : baseline.schemas[schema]? = candidate.schemas[schema]?) :
    (reportedImpacts baseline candidate)[schema]? = none := by
  apply schemaImpacts_silent
  intro change hmem
  exact compareAll_silent hresolve hsame change (List.mem_mergeSort.mp hmem)

/-!
## The gate
-/

def Version.nextMajor (version : Version) : Version :=
  Version.new (version.major + 1) 0 0

structure Priced (evidence : ReleaseEvidence) (schema : String)
    (fromVersion toVersion : Version) : Prop where
  version : toVersion = fromVersion.nextMajor
  migration : TransitionKey.mk schema fromVersion toVersion ∈ evidence.migrations
  fixturePair : TransitionKey.mk schema fromVersion toVersion ∈ evidence.fixturePairs
  changelog : TransitionKey.mk schema fromVersion toVersion ∈ evidence.changelogEntries

theorem expectedVersion_major {version next : Version}
    (h : expectedVersion version .major = some next) : next = version.nextMajor := by
  change (checkedSucc version.major).map (fun major => Version.new major 0 0) = some next at h
  unfold checkedSucc at h
  split at h
  · cases h
    rfl
  · cases h

variable {source : String}

theorem validateExactTransition_eq_nil {fromVersion toVersion : Version} {impact : SemverImpact}
    {path : String} (h : validateExactTransition fromVersion toVersion impact path source = []) :
    expectedVersion fromVersion impact = some toVersion := by
  unfold validateExactTransition at h
  split at h
  · assumption
  · cases h

theorem requireKey_eq_nil {keys : List TransitionKey} {key : TransitionKey}
    {message kind : String} (h : requireKey keys key message kind source = []) :
    key ∈ keys := by
  unfold requireKey at h
  split at h
  · assumption
  · cases h

variable {evidence : ReleaseEvidence}

theorem enforceRelease_ok
    (h : (enforceRelease baseline candidate (compareCatalogs baseline candidate) evidence).ok
      = true) :
    gateDiagnostics baseline candidate (reportedImpacts baseline candidate)
      (diagnosticSource candidate.catalogSource) evidence = [] :=
  List.isEmpty_iff.mp h

/-- A gate that finds nothing found nothing in any of its checks. -/
theorem gateDiagnostics_eq_nil
    (h : gateDiagnostics baseline candidate impacts source evidence = []) :
    (forall schema entry, baseline.catalog.schemas[schema]? = some entry ->
      gateBaselineSchema candidate impacts source schema entry = []) ∧
    expectedVersion baseline.catalog.releaseVersion (catalogImpact impacts) =
      some candidate.catalog.releaseVersion ∧
    (forall schema impact, impacts[schema]? = some impact ->
      breakingEvidence baseline candidate source evidence schema impact = []) := by
  unfold gateDiagnostics at h
  simp only [List.append_eq_nil_iff, List.flatMap_eq_nil_iff] at h
  rcases h with ⟨⟨⟨⟨_, hbaseline⟩, _⟩, hrelease⟩, hevidence⟩
  constructor
  · intro schema entry hentry
    exact hbaseline (schema, entry) (ExtTreeMap.mem_toList_iff_getElem?_eq_some.mpr hentry)
  constructor
  · exact validateExactTransition_eq_nil hrelease
  · intro schema impact himpact
    exact hevidence (schema, impact) (ExtTreeMap.mem_toList_iff_getElem?_eq_some.mpr himpact)

theorem gateBaselineSchema_eq_nil {entry : CatalogEntry}
    (h : gateBaselineSchema candidate impacts source schema entry = []) :
    exists next, candidate.catalog.schemas[schema]? = some next ∧
      expectedVersion entry.documentVersion ((impacts[schema]?).getD .none) =
        some next.documentVersion := by
  unfold gateBaselineSchema at h
  rw [List.append_eq_nil_iff] at h
  cases hnext : candidate.catalog.schemas[schema]? with
  | none =>
      rw [hnext] at h
      cases h.2
  | some next =>
      rw [hnext] at h
      exact ⟨next, rfl, validateExactTransition_eq_nil (List.append_eq_nil_iff.mp h.2).2⟩

theorem breakingEvidence_eq_nil {entry next : CatalogEntry}
    (hentry : baseline.catalog.schemas[schema]? = some entry)
    (hnext : candidate.catalog.schemas[schema]? = some next)
    (h : breakingEvidence baseline candidate source evidence schema .major = []) :
    TransitionKey.mk schema entry.documentVersion next.documentVersion ∈ evidence.migrations ∧
    TransitionKey.mk schema entry.documentVersion next.documentVersion ∈ evidence.fixturePairs ∧
    TransitionKey.mk schema entry.documentVersion next.documentVersion ∈
      evidence.changelogEntries := by
  unfold breakingEvidence at h
  rw [if_neg (fun hne => hne rfl), hentry, hnext] at h
  unfold requireEvidence at h
  simp only [List.append_eq_nil_iff] at h
  rcases h with ⟨⟨hmigration, hfixture⟩, hchangelog⟩
  exact ⟨requireKey_eq_nil hmigration, requireKey_eq_nil hfixture, requireKey_eq_nil hchangelog⟩

end Gate

/-!
## A schema that narrows by reference
-/

namespace Sample

def edgeId : String := "https://p50.dev/schemas/edge.schema.json"

def graphId : String := "https://p50.dev/schemas/graph.schema.json"

def edgeDocument (version : String) (types : Json) : Json :=
  .object [("$id", .string edgeId), ("type", types), ("x-graphhelm-schema-version", .string version)]

/-- A schema that is nothing but a reference to the one beside it. -/
def graphDocument : Json :=
  .object [("$id", .string graphId), ("$ref", .string "edge.schema.json"),
    ("x-graphhelm-schema-version", .string "1.0.0")]

def edgeEntry (version : Version) : CatalogEntry :=
  { id := edgeId
    documentVersion := version }

def graphEntry : CatalogEntry :=
  { id := graphId
    documentVersion := Version.new 1 0 0 }

def edgeCatalog (version : Version) (text : String) (types : Json) : CatalogResources :=
  { catalogSource := "schemas/catalog.json"
    catalog :=
      { releaseVersion := version
        schemas := ExtTreeMap.ofList [("edge", edgeEntry version), ("graph", graphEntry)] }
    schemas := ExtTreeMap.ofList [("edge", edgeDocument text types), ("graph", graphDocument)] }

def released : CatalogResources :=
  edgeCatalog (Version.new 1 0 0) "1.0.0" (.array [.string "null", .string "string"])

/-- The edge no longer accepts `null`, and so neither does the graph. -/
def proposed : CatalogResources :=
  edgeCatalog (Version.new 2 0 0) "2.0.0" (.string "string")

def edgeKey : TransitionKey :=
  { schema := "edge"
    fromVersion := Version.new 1 0 0
    toVersion := Version.new 2 0 0 }

def edgeEvidence : ReleaseEvidence :=
  { migrations := [edgeKey]
    fixturePairs := [edgeKey]
    changelogEntries := [edgeKey] }

theorem referencesResolve_of_toList {resources : CatalogResources}
    (h : resources.schemas.toList.all (fun entry => decide
      (invalidReferences resources entry.1 (maxJsonDepth + 1) "" entry.2 = [])) = true) :
    ReferencesResolve resources := by
  intro schema document hdocument
  have hentry := List.all_eq_true.mp h (schema, document)
    (ExtTreeMap.mem_toList_iff_getElem?_eq_some.mpr hdocument)
  unfold ReferencesValid
  simpa using hentry

theorem released_resolves : ReferencesResolve released :=
  referencesResolve_of_toList (by decide +kernel)

theorem proposed_resolves : ReferencesResolve proposed :=
  referencesResolve_of_toList (by decide +kernel)

theorem proposed_changes :
    compareAll released proposed =
      [(breaking "/type" "type set wider" "type set narrowed").change "edge"] := by
  decide +kernel

theorem proposed_passes :
    (enforceRelease released proposed (compareCatalogs released proposed) edgeEvidence).ok
      = true := by
  unfold compareCatalogs
  rw [proposed_changes, List.mergeSort_singleton]
  decide +kernel

theorem edge_narrowed : NarrowedText released proposed "edge" := by
  refine ⟨_, _, rfl, rfl, ?_⟩
  have hremoved : KeywordNarrowed released proposed "edge" "type"
      (some (.array [.string "null", .string "string"])) (some (.string "string")) :=
    KeywordNarrowed.typeRemoved rfl rfl rfl
  exact Narrowed.keyword (by decide) (fun heq => absurd heq (by decide)) hremoved

end Sample

def GatePricesNarrowing (texts : TextAssertions) : Prop :=
  forall (baseline candidate : CatalogResources) (evidence : ReleaseEvidence),
    ReferencesResolve baseline -> ReferencesResolve candidate ->
    (enforceRelease baseline candidate (compareCatalogs baseline candidate) evidence).ok = true ->
    forall (schema : String) (entry next : CatalogEntry),
      baseline.catalog.schemas[schema]? = some entry ->
      candidate.catalog.schemas[schema]? = some next ->
      (exists value, Valid texts baseline schema value ∧ Invalid texts candidate schema value) ->
      Priced evidence schema entry.documentVersion next.documentVersion

end Evolution
end GraphHelm
