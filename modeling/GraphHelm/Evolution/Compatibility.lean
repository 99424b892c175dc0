import GraphHelm.Evolution.Reference

/-!
# Compatibility of two catalogs

`compare_catalogs` and the comparison of two documents it is built on
(`compatibility.rs`). A comparison keyword by keyword writes what it finds in
order; the report keeps one change for each schema, pointer and code.
-/

namespace GraphHelm
namespace Evolution

open Std

inductive CompatibilityClass where
  | unchanged
  | annotation
  | compatible
  | breaking
deriving DecidableEq

inductive SemverImpact where
  | none
  | patch
  | minor
  | major
deriving DecidableEq

namespace CompatibilityClass

def rank : CompatibilityClass -> Nat
  | .unchanged => 0
  | CompatibilityClass.annotation => 1
  | .compatible => 2
  | .breaking => 3

def max (a b : CompatibilityClass) : CompatibilityClass :=
  if a.rank <= b.rank then b else a

def impact : CompatibilityClass -> SemverImpact
  | .unchanged => .none
  | CompatibilityClass.annotation => .patch
  | .compatible => .minor
  | .breaking => .major

end CompatibilityClass

namespace SemverImpact

def rank : SemverImpact -> Nat
  | .none => 0
  | .patch => 1
  | .minor => 2
  | .major => 3

def max (a b : SemverImpact) : SemverImpact :=
  if a.rank <= b.rank then b else a

end SemverImpact

structure CompatibilityChange where
  schema : String
  code : String
  pointer : String
  baselineSummary : String
  candidateSummary : String
  compatibilityClass : CompatibilityClass
  impact : SemverImpact
deriving DecidableEq

structure CompatibilityReport where
  compatible : Bool
  compatibilityClass : CompatibilityClass
  impact : SemverImpact
  changes : List CompatibilityChange

/-!
## Findings
-/

/-- The four ways of writing a change: its code and its class go together. -/
inductive ChangeKind where
  | annotation
  | optionalProperty
  | compatible
  | breaking
deriving DecidableEq

namespace ChangeKind

def code : ChangeKind -> String
  | ChangeKind.annotation => "GHC101_ANNOTATION_CHANGED"
  | .optionalProperty => "GHC102_OPTIONAL_PROPERTY_ADDED"
  | .compatible => "GHC103_COMPATIBLE_CHANGE"
  | .breaking => "GHC003_BREAKING_CHANGE"

def compatibilityClass : ChangeKind -> CompatibilityClass
  | ChangeKind.annotation => CompatibilityClass.annotation
  | .optionalProperty => .compatible
  | .compatible => .compatible
  | .breaking => .breaking

end ChangeKind

/-- What the comparison of one schema writes at one pointer. -/
structure Finding where
  pointer : String
  kind : ChangeKind
  baselineSummary : String
  candidateSummary : String
deriving DecidableEq

def breaking (pointer baselineSummary candidateSummary : String) : Finding :=
  { pointer := pointer
    kind := .breaking
    baselineSummary := baselineSummary
    candidateSummary := candidateSummary }

def compatible (pointer baselineSummary candidateSummary : String) : Finding :=
  { pointer := pointer
    kind := .compatible
    baselineSummary := baselineSummary
    candidateSummary := candidateSummary }

def optionalProperty (pointer : String) : Finding :=
  { pointer := pointer
    kind := .optionalProperty
    baselineSummary := "property absent"
    candidateSummary := "optional property added" }

def summaryPresence (value : Option Json) (label : String) : String :=
  if value.isSome then label ++ " present" else label ++ " absent"

def annotationChanged (pointer : String) (baseline candidate : Option Json) : Finding :=
  { pointer := pointer
    kind := ChangeKind.annotation
    baselineSummary := summaryPresence baseline "annotation"
    candidateSummary := summaryPresence candidate "annotation" }

def Finding.change (finding : Finding) (schema : String) : CompatibilityChange :=
  { schema := schema
    code := finding.kind.code
    pointer := displayPointer finding.pointer
    baselineSummary := finding.baselineSummary
    candidateSummary := finding.candidateSummary
    compatibilityClass := finding.kind.compatibilityClass
    impact := finding.kind.compatibilityClass.impact }

def push (schema : String) (changes : List CompatibilityChange) (finding : Finding) :
    List CompatibilityChange :=
  if changes.any fun change =>
      change.schema = schema ∧ change.pointer = finding.pointer ∧ change.code = finding.kind.code
  then changes
  else changes ++ [finding.change schema]

/-- The findings of several schemas, written one schema after the other. -/
def writeAll (entries : List (String × List Finding)) (changes : List CompatibilityChange) :
    List CompatibilityChange :=
  entries.foldl (fun changes entry => entry.2.foldl (push entry.1) changes) changes

/-!
## Keywords
-/

inductive BoundDirection where
  | lower
  | upper
deriving DecidableEq

inductive KeywordArm where
  | annotation
  | schemaVersion
  | properties
  | definitions
  | required
  | validationSet
  | identity
  | reference
  | const
  | bound (direction : BoundDirection)
  | opaqueConstraint
  | tailSchema
  | items
  | prefixItems
  | composition
  | negation
  | unproven
deriving DecidableEq

def annotationKeyword (keyword : String) : Bool :=
  decide (keyword ∈ ["title", "description", "$comment", "examples", "default", "deprecated",
    "readOnly", "writeOnly"])

def keywordArms : List (String × KeywordArm) :=
  [("x-graphhelm-schema-version", .schemaVersion),
   ("properties", .properties),
   ("$defs", .definitions), ("definitions", .definitions),
   ("required", .required),
   ("type", .validationSet), ("enum", .validationSet),
   ("$id", .identity),
   ("$ref", .reference),
   ("const", .const),
   ("minimum", .bound .lower), ("exclusiveMinimum", .bound .lower),
   ("minLength", .bound .lower), ("minItems", .bound .lower),
   ("maximum", .bound .upper), ("exclusiveMaximum", .bound .upper),
   ("maxLength", .bound .upper), ("maxItems", .bound .upper),
   ("pattern", .opaqueConstraint), ("format", .opaqueConstraint),
   ("additionalProperties", .tailSchema), ("unevaluatedProperties", .tailSchema),
   ("items", .items),
   ("prefixItems", .prefixItems),
   ("allOf", .composition), ("anyOf", .composition), ("oneOf", .composition),
   ("not", .negation)]

def keywordArm (keyword : String) : KeywordArm :=
  if annotationKeyword keyword then KeywordArm.annotation else (keywordArms.lookup keyword).getD .unproven

/-- The keys of two objects in their order, `left.keys().chain(right.keys())` as a set. -/
def keysOf (left right : List (String × Json)) : List String :=
  (ExtTreeSet.ofList (left.map Prod.fst ++ right.map Prod.fst)).toList

/-!
## Sets of values
-/

def asSet {α : Type} [BEq α] (left right : List α) : Bool :=
  left.all right.contains && right.all left.contains

def isSubset {α : Type} [BEq α] (left right : List α) : Bool :=
  left.all right.contains

def stringSet (values : List Json) : Option (List String) :=
  values.mapM Json.asString

def stringSetOrEmpty : Option Json -> Option (List String)
  | none => some []
  | some (.array values) => stringSet values
  | some _ => none

def validationSet : Option Json -> Option (List Json)
  | some (.array values) => values.mapM canonicalJson
  | _ => none

def typeValueSet : Json -> Option (List String)
  | .string value => some [value]
  | .array values => stringSet values
  | _ => none

def typeDomainIsSubset (left right : List String) : Bool :=
  left.all fun leftType =>
    right.contains leftType || (leftType = "integer" && right.contains "number")

/-- `as_f64`: an integer of 64 bits to the nearest double, ties to the even one. -/
def nearestDouble (value : Int) : Int :=
  let magnitude := value.natAbs
  let unit := 2 ^ (magnitude.log2 - 52)
  let quotient := magnitude / unit
  let remainder := magnitude % unit
  let rounded :=
    if 2 * remainder > unit ∨ (2 * remainder = unit ∧ quotient % 2 = 1) then quotient + 1
    else quotient
  if value < 0 then -(rounded * unit : Nat) else (rounded * unit : Nat)

def asDouble : Json -> Option Rat
  | .number (.integer value) => some (nearestDouble value)
  | .number (.float value) => some value
  | _ => none

/-!
## Normalized branches
-/

def replaceMember (members : List (String × Json)) (keyword : String) (value : Json) :
    List (String × Json) :=
  members.map fun member => if member.1 = keyword then (keyword, value) else member

section Normalizing

variable (resources : CatalogResources) (owner : String)
  (normalize : Json -> Option Json)

def normalizeReference (values normalized : List (String × Json)) :
    Option (List (String × Json)) :=
  match values.lookup "$ref" with
  | none => some normalized
  | some reference => do
      let text ← reference.asString
      let resolved ← resolveReference resources owner text
      some (replaceMember normalized "$ref" (.string resolved))

def normalizeMap (values normalized : List (String × Json)) (keyword : String) :
    Option (List (String × Json)) :=
  match (values.lookup keyword).bind Json.asObject with
  | none => some normalized
  | some children => do
      let children ← children.mapM fun child => (normalize child.2).map fun value =>
        (child.1, value)
      some (replaceMember normalized keyword (.object children))

def normalizeChild (values normalized : List (String × Json)) (keyword : String) :
    Option (List (String × Json)) :=
  match values.lookup keyword with
  | none => some normalized
  | some child => (normalize child).map fun value => replaceMember normalized keyword value

def normalizeList (values normalized : List (String × Json)) (keyword : String) :
    Option (List (String × Json)) :=
  match (values.lookup keyword).bind Json.asArray with
  | none => some normalized
  | some children => (children.mapM normalize).map fun children =>
      replaceMember normalized keyword (.array children)

end Normalizing

/-- The single schemas that `normalized_schema_value` goes into. -/
def normalizedKeywords : List String :=
  ["additionalProperties", "unevaluatedProperties", "unevaluatedItems", "propertyNames", "items",
    "contains", "not", "if", "then", "else"]

section Comparing

variable (baseline candidate : CatalogResources)

def normalizedSchemaValue (resources : CatalogResources) (owner : String) :
    Nat -> Json -> Option Json
  | 0, _ => none
  | room + 1, .object values => do
      let normalize := normalizedSchemaValue resources owner room
      let normalized ← normalizeReference resources owner values values
      let normalized ← schemaMapKeywords.foldlM (normalizeMap normalize values) normalized
      let normalized ← normalizedKeywords.foldlM (normalizeChild normalize values) normalized
      let normalized ← schemaListKeywords.foldlM (normalizeList normalize values) normalized
      some (.object normalized)
  | _ + 1, value => some value

def fingerprint (resources : CatalogResources) (owner : String) (value : Json) : Option Json :=
  (normalizedSchemaValue resources owner (maxJsonDepth + 1) value).bind canonicalJson

def compositionSet (resources : CatalogResources) (owner : String) (value : Json) :
    Option (List Json) :=
  value.asArray.bind fun branches => branches.mapM (fingerprint resources owner)

/-!
## Disjoint branches
-/

def branchTypeSet (branch : Json) : Option (List String) :=
  (branch.get "type").bind typeValueSet

/-- The set of types is exactly `object`, however often it is listed. -/
def branchIsObjectOnly (branch : Json) : Bool :=
  match branchTypeSet branch with
  | some types => !types.isEmpty && types.all fun name => name = "object"
  | none => false

def requiredPropertyNames (branch : Json) : List String :=
  match (branch.get "required").bind Json.asArray with
  | some names => names.filterMap Json.asString
  | none => []

def constOfProperty (branch : Json) (name : String) : Option Json := do
  let properties ← (← branch.get "properties").asObject
  (← properties.lookup name).get "const"

/-- Two constants that are texts, and different ones. -/
def tagsDiffer : Option Json -> Option Json -> Bool
  | some (.string left), some (.string right) => decide (left ≠ right)
  | _, _ => false

def discriminatorsAreDisjoint (left right : Json) : Bool :=
  left.asObject.isSome && right.asObject.isSome &&
    branchIsObjectOnly left && branchIsObjectOnly right &&
    (requiredPropertyNames left).any fun name =>
      (requiredPropertyNames right).contains name &&
        tagsDiffer (constOfProperty left name) (constOfProperty right name)

def typesAreDisjoint (left right : String) : Bool :=
  decide (left ≠ right) &&
    !((left = "integer" && right = "number") || (left = "number" && right = "integer"))

def branchTypesAreDisjoint (left right : Json) : Bool :=
  match branchTypeSet left, branchTypeSet right with
  | some left, some right => left.all fun name => right.all (typesAreDisjoint name)
  | _, _ => false

def branchesAreProvablyDisjoint (left right : Json) : Bool :=
  discriminatorsAreDisjoint left right || branchTypesAreDisjoint left right

def constAtPath (branch : Json) (outer inner : String) : Option Json := do
  let properties ← (← branch.get "properties").asObject
  let nested ← (← (← properties.lookup outer).get "properties").asObject
  (← nested.lookup inner).get "const"

/-- The union a property of a document refers to, read as the discriminator proof needs it. -/
def referencedUnion (resources : CatalogResources) (owner : String)
    (properties : List (String × Json)) (outer : String) : Option (List Json) := do
  let reference ← (← (← properties.lookup outer).get "$ref").asString
  let resolved ← resolveReference resources owner reference
  let (_, target) ← referencedValue resources resolved
  let branches ← (← target.get "oneOf").asArray
  if !branches.isEmpty && (branchIsObjectOnly target || branches.all branchIsObjectOnly) then
    some branches
  else
    none

def commonRequirements : List Json -> List String
  | [] => []
  | branch :: rest =>
      (requiredPropertyNames branch).filter fun name =>
        rest.all fun other => (requiredPropertyNames other).contains name

def documentRequiredNestedPairs (resources : CatalogResources) (owner : String) :
    Option (List (String × String)) := do
  let document ← resources.schemas[owner]?
  if (document.get "type").bind Json.asString = some "object" then do
    let required ← (← document.get "required").asArray
    let properties ← (← document.get "properties").asObject
    some ((required.filterMap Json.asString).flatMap fun outer =>
      match referencedUnion resources owner properties outer with
      | none => []
      | some branches => (commonRequirements branches).map fun inner => (outer, inner))
  else none

def nestedDiscriminatorsAreDisjoint (owner : String) (left right : Json) : Bool :=
  match documentRequiredNestedPairs baseline owner, documentRequiredNestedPairs candidate owner with
  | some leftPairs, some rightPairs =>
      leftPairs.any fun pair => rightPairs.contains pair &&
        tagsDiffer (constAtPath left pair.1 pair.2) (constAtPath right pair.1 pair.2)
  | _, _ => false

def additionIsDisjoint (owner pointer : String) (baselineBranches : List Json)
    (candidateBranch : Json) : Bool :=
  baselineBranches.all fun baselineBranch =>
    (fingerprint baseline owner baselineBranch).isSome &&
      (branchesAreProvablyDisjoint baselineBranch candidateBranch ||
        (decide (pointer = "/oneOf") &&
          nestedDiscriminatorsAreDisjoint baseline candidate owner baselineBranch candidateBranch))

def oneOfAdditionsAreDisjoint (owner : String) (baselineValue candidateValue : Json)
    (baselineFingerprints : List Json) (pointer : String) : Bool :=
  match baselineValue.asArray, candidateValue.asArray with
  | some baselineBranches, some candidateBranches =>
      candidateBranches.all fun candidateBranch =>
        match fingerprint candidate owner candidateBranch with
        | none => false
        | some print =>
            baselineFingerprints.contains print ||
              additionIsDisjoint baseline candidate owner pointer baselineBranches candidateBranch
  | _, _ => false

/-!
## One keyword
-/

def compareRequired (pointer : String) (left right : Option Json) : List Finding :=
  match stringSetOrEmpty left, stringSetOrEmpty right with
  | some left, some right =>
      if asSet left right then []
      else if isSubset left right then
        [breaking pointer "required set smaller" "required set expanded"]
      else if isSubset right left then
        [compatible pointer "required set larger" "required set relaxed"]
      else [breaking pointer "required set changed" "required set ambiguous"]
  | _, _ => [breaking pointer "required set present" "required set unprovable"]

def compareTypeDomain (pointer : String) (left right : Json) : List Finding :=
  match typeValueSet left, typeValueSet right with
  | some left, some right =>
      let leftInRight := typeDomainIsSubset left right
      let rightInLeft := typeDomainIsSubset right left
      if leftInRight && rightInLeft then []
      else if leftInRight then [compatible pointer "type set narrower" "type set widened"]
      else if rightInLeft then [breaking pointer "type set wider" "type set narrowed"]
      else [breaking pointer "type set changed" "type set ambiguous"]
  | _, _ => [breaking pointer "type set present" "type set unprovable"]

def setSummary (keyword state : String) : String :=
  keyword ++ " set " ++ state

def compareSet (keyword pointer : String) (left right : Option Json) : List Finding :=
  match left, right with
  | none, some _ => [breaking pointer "validation set absent" "validation set introduced"]
  | some _, none => [compatible pointer "validation set present" "validation set removed"]
  | none, none => []
  | some leftValue, some rightValue =>
      if keyword = "type" then compareTypeDomain pointer leftValue rightValue
      else
        match validationSet left, validationSet right with
        | some left, some right =>
            if asSet left right then []
            else if isSubset left right then
              [compatible pointer (setSummary keyword "narrower") (setSummary keyword "widened")]
            else if isSubset right left then
              [breaking pointer (setSummary keyword "wider") (setSummary keyword "narrowed")]
            else [breaking pointer (setSummary keyword "changed") (setSummary keyword "ambiguous")]
        | _, _ => [breaking pointer "validation set present" "validation set unprovable"]

def compareConst (pointer : String) : Option Json -> Option Json -> List Finding
  | some _, none => [compatible pointer "const constraint present" "const constraint removed"]
  | _, _ =>
      [breaking pointer "const constraint absent or different" "const constraint added or changed"]

def relaxed : BoundDirection -> Rat -> Rat -> Bool
  | .lower, left, right => decide (right < left)
  | .upper, left, right => decide (left < right)

def compareBound (direction : BoundDirection) (pointer : String) :
    Option Json -> Option Json -> List Finding
  | none, some _ => [breaking pointer "bound absent" "bound introduced"]
  | some _, none => [compatible pointer "bound present" "bound removed"]
  | some left, some right =>
      match asDouble left, asDouble right with
      | some left, some right =>
          if relaxed direction left right then [compatible pointer "bound stricter" "bound relaxed"]
          else [breaking pointer "bound looser" "bound restricted"]
      | _, _ => [breaking pointer "bound present" "bound unprovable"]
  | none, none => []

def compareOpaqueConstraint (keyword pointer : String) (left right : Option Json) : List Finding :=
  if left.isSome ∧ right.isNone then
    [compatible pointer (keyword ++ " constraint present") (keyword ++ " constraint removed")]
  else
    [breaking pointer (keyword ++ " absent or different") (keyword ++ " introduced or changed")]

/-- What the text under `$ref` resolves to. -/
def resolvedReference (resources : CatalogResources) (owner : String) (reference : Option Json) :
    Option String :=
  (reference.bind Json.asString).bind (resolveReference resources owner)

def compareRef (owner pointer : String) (left right : Option Json) : List Finding :=
  match left, right, resolvedReference baseline owner left,
    resolvedReference candidate owner right with
  | some _, some _, some leftTarget, some rightTarget =>
      if leftTarget = rightTarget then []
      else [breaking pointer "reference absent or resolved" "reference changed or unresolved"]
  | some _, none, some _, _ =>
      [breaking pointer "reference constraint present" "reference binding removed"]
  | _, _, _, _ =>
      [breaking pointer "reference absent or resolved" "reference changed or unresolved"]

def compareNot (pointer : String) (left right : Option Json) : List Finding :=
  if left.isSome ∧ right.isNone then
    [compatible pointer "negation constraint present" "negation constraint removed"]
  else
    [breaking pointer "negation absent or different" "negation introduced or changed"]

def compareBranches (owner keyword pointer : String) (leftValue rightValue : Json)
    (left right : List Json) : List Finding :=
  let widening := if keyword = "allOf" then isSubset right left else isSubset left right
  let narrowing := if keyword = "allOf" then isSubset left right else isSubset right left
  if widening && !asSet left right then
    if keyword = "oneOf" &&
        !oneOfAdditionsAreDisjoint baseline candidate owner leftValue rightValue left pointer then
      [breaking pointer "oneOf branches present" "oneOf overlap unprovable"]
    else [compatible pointer "composition narrower" "composition widened"]
  else if narrowing && !asSet left right then
    [breaking pointer "composition wider" "composition narrowed"]
  else [breaking pointer "composition changed" "composition ambiguous"]

def compareComposition (owner keyword pointer : String) :
    Option Json -> Option Json -> List Finding
  | none, some _ => [breaking pointer "composition absent" "composition introduced"]
  | some _, none => [compatible pointer "composition present" "composition removed"]
  | none, none => [breaking pointer "composition present" "composition change unprovable"]
  | some leftValue, some rightValue =>
      match compositionSet baseline owner leftValue, compositionSet candidate owner rightValue with
      | some left, some right =>
          if asSet left right && left.length = right.length then []
          else compareBranches baseline candidate owner keyword pointer leftValue rightValue left right
      | _, _ => [breaking pointer "composition present" "composition change unprovable"]

/-!
## Keywords that hold schemas
-/

section Nested

-- The comparison one level down.
variable (compare : String -> Json -> Json -> List Finding)

def compareProperty (pointer : String) (left right : List (String × Json)) (property : String) :
    List Finding :=
  match left.lookup property, right.lookup property with
  | some leftSchema, some rightSchema =>
      compare (joinPointer pointer property) leftSchema rightSchema
  | some _, none => [breaking (joinPointer pointer property) "property present" "property removed"]
  | none, some _ => [optionalProperty (joinPointer pointer property)]
  | none, none => []

def compareProperties (pointer : String) (left right : Option Json) : List Finding :=
  match left.bind Json.asObject with
  | none =>
      match left, right.bind Json.asObject with
      | none, some right => right.map fun member => optionalProperty (joinPointer pointer member.1)
      | _, _ => [breaking pointer "properties absent" "properties unprovable"]
  | some left =>
      match right.bind Json.asObject with
      | none =>
          match right with
          | none => left.map fun member =>
              breaking (joinPointer pointer member.1) "property present" "property removed"
          | some _ => [breaking pointer "properties present" "properties unprovable"]
      | some right => (keysOf left right).flatMap (compareProperty compare pointer left right)

def compareDefinition (pointer : String) (left right : List (String × Json)) (name : String) :
    List Finding :=
  match left.lookup name, right.lookup name with
  | some leftSchema, some rightSchema => compare (joinPointer pointer name) leftSchema rightSchema
  | some _, none =>
      [breaking (joinPointer pointer name) "schema definition present" "schema definition removed"]
  | none, some _ =>
      [compatible (joinPointer pointer name) "schema definition absent" "schema definition added"]
  | none, none => []

def compareSchemaMap (pointer : String) (left right : Option Json) : List Finding :=
  match left.bind Json.asObject, right.bind Json.asObject with
  | some left, some right =>
      (keysOf left right).flatMap (compareDefinition compare pointer left right)
  | _, _ => [breaking pointer "schema definitions present" "schema definitions changed"]

def compareTailSchema (pointer : String) (left right : Option Json) : List Finding :=
  match left.getD (.bool true), right.getD (.bool true) with
  | .bool false, .bool true | .bool false, .object _ =>
      [compatible pointer "extra properties rejected" "extra properties accepted conditionally"]
  | .object _, .bool true =>
      [compatible pointer "extra properties constrained" "extra properties accepted"]
  | .bool true, .bool false | .bool true, .object _ | .object _, .bool false =>
      [breaking pointer "extra properties more permissive" "extra properties restricted"]
  | .object left, .object right => compare pointer (.object left) (.object right)
  | _, _ => [breaking pointer "extra property policy present" "extra property policy unprovable"]

def compareItems (pointer : String) : Option Json -> Option Json -> List Finding
  | none, some _ => [breaking pointer "items unconstrained" "items constrained"]
  | some _, none => [compatible pointer "items constrained" "items unconstrained"]
  | some left, some right => compare pointer left right
  | none, none => []

def comparePosition (pointer : String) (left right : List Json) (index : Nat) : List Finding :=
  let position := joinPointer pointer (toString index)
  match left[index]?, right[index]? with
  | some leftSchema, some rightSchema => compare position leftSchema rightSchema
  | some _, none => [compatible position "position constrained" "position unconstrained"]
  | none, some _ => [breaking position "position unconstrained" "position constrained"]
  | none, none => []

def comparePrefixItems (pointer : String) : Option Json -> Option Json -> List Finding
  | none, some _ => [breaking pointer "tuple positions unconstrained" "tuple positions constrained"]
  | some _, none => [compatible pointer "tuple positions constrained" "tuple positions unconstrained"]
  | none, none => []
  | some left, some right =>
      match left.asArray, right.asArray with
      | some left, some right =>
          (List.range (Nat.max left.length right.length)).flatMap
            (comparePosition compare pointer left right)
      | _, _ => [breaking pointer "tuple positions listed" "tuple positions not a list"]

def compareKeyword (owner keyword pointer : String) (left right : Option Json) : List Finding :=
  match keywordArm keyword with
  | KeywordArm.annotation => [annotationChanged pointer left right]
  | .schemaVersion => []
  | .properties => compareProperties compare pointer left right
  | .definitions => compareSchemaMap compare pointer left right
  | .required => compareRequired pointer left right
  | .validationSet => compareSet keyword pointer left right
  | .identity => [breaking pointer "schema identity present" "schema identity changed"]
  | .reference => compareRef baseline candidate owner pointer left right
  | .const => compareConst pointer left right
  | .bound direction => compareBound direction pointer left right
  | .opaqueConstraint => compareOpaqueConstraint keyword pointer left right
  | .tailSchema => compareTailSchema compare pointer left right
  | .items => compareItems compare pointer left right
  | .prefixItems => comparePrefixItems compare pointer left right
  | .composition => compareComposition baseline candidate owner keyword pointer left right
  | .negation => compareNot pointer left right
  | .unproven => [breaking pointer "keyword unchanged or absent" "keyword change unproven"]

/-- A constant text that the candidate replaces by an `enum` of texts which holds it. -/
def stringConstExpansion (left right : List (String × Json)) : Bool :=
  match (left.lookup "const").bind Json.asString with
  | none => false
  | some old =>
      (left.lookup "enum").isNone && (right.lookup "const").isNone &&
        (match (right.lookup "enum").bind Json.asArray with
          | none => false
          | some values =>
              !values.isEmpty && values.all (fun value => value.asString.isSome) &&
                values.any fun value => value.asString = some old) &&
        (keysOf left right).all fun key =>
          key = "const" || key = "enum" || annotationKeyword key ||
            key = "x-graphhelm-schema-version" || left.lookup key = right.lookup key

def compareMember (owner pointer : String) (left right : List (String × Json))
    (keyword : String) : List Finding :=
  let keywordPointer := joinPointer pointer keyword
  if left.lookup keyword = right.lookup keyword then []
  else if keyword = "enum" && stringConstExpansion left right then
    [compatible keywordPointer "string const present" "containing string enum introduced"]
  else
    compareKeyword baseline candidate compare owner keyword keywordPointer (left.lookup keyword)
      (right.lookup keyword)

end Nested

/-!
## Documents and catalogs
-/

def compareForms (compare : String -> Json -> Json -> List Finding) (owner pointer : String) :
    Json -> Json -> List Finding
  | .bool false, .bool true =>
      [compatible (displayPointer pointer) "schema rejects all" "schema accepts all"]
  | .bool false, .object _ =>
      [compatible (displayPointer pointer) "schema rejects all" "schema accepts conditionally"]
  | .object _, .bool true =>
      [compatible (displayPointer pointer) "schema accepts conditionally" "schema accepts all"]
  | .bool true, .bool false =>
      [breaking (displayPointer pointer) "schema accepts all" "schema rejects all"]
  | .bool true, .object _ =>
      [breaking (displayPointer pointer) "schema accepts all" "schema accepts conditionally"]
  | .object _, .bool false =>
      [breaking (displayPointer pointer) "schema accepts conditionally" "schema rejects all"]
  | .object left, .object right =>
      (keysOf left right).flatMap (compareMember baseline candidate compare owner pointer left right)
  | _, _ => [breaking (displayPointer pointer) "schema form present" "schema form changed"]

def compareValue (owner : String) : Nat -> String -> Json -> Json -> List Finding
  | room, pointer, left, right =>
      if left = right then []
      else
        match room with
        | 0 => [breaking (displayPointer pointer) "schema depth bounded" "schema depth unprovable"]
        | room + 1 =>
            compareForms baseline candidate (compareValue owner room) owner pointer left right

def candidateReferences (schema : String) (document : Json) : List Finding :=
  (invalidReferences candidate schema (maxJsonDepth + 1) "" document).map fun pointer =>
    breaking pointer "reference absent or unresolved" "reference unresolved"

/-- What the comparison writes under the name of a schema. -/
def compareDocuments (schema : String) : List Finding :=
  match baseline.schemas[schema]?, candidate.schemas[schema]? with
  | some left, some right =>
      compareValue baseline candidate schema (maxJsonDepth + 1) "" left right
  | some _, none => [breaking "/" "schema present" "schema absent"]
  | none, some _ => [compatible "/" "schema absent" "schema added"]
  | none, none => []

def schemaNames : List String :=
  (ExtTreeSet.ofList (baseline.schemas.keys ++ candidate.schemas.keys)).toList

def findingsOf : List (String × List Finding) :=
  (candidate.schemas.toList.map fun entry =>
      (entry.1, candidateReferences candidate entry.1 entry.2)) ++
    (schemaNames baseline candidate).map fun schema =>
      (schema, compareDocuments baseline candidate schema)

def compareAll : List CompatibilityChange :=
  writeAll (findingsOf baseline candidate) []

def changeOrder (left right : CompatibilityChange) : Bool :=
  (compare left.schema right.schema).then
    ((compare left.pointer right.pointer).then (compare left.code right.code)) != .gt

def compareCatalogs : CompatibilityReport :=
  let changes := (compareAll baseline candidate).mergeSort changeOrder
  let compatibilityClass := changes.foldl
    (fun worst change => worst.max change.compatibilityClass) CompatibilityClass.unchanged
  let impact := changes.foldl (fun worst change => worst.max change.impact) SemverImpact.none
  { compatible := compatibilityClass != .breaking
    compatibilityClass := compatibilityClass
    impact := impact
    changes := changes }

end Comparing

end Evolution
end GraphHelm
