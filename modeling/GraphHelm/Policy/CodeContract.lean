import GraphHelm.Library.Contests
import GraphHelm.Library.Json
import GraphHelm.Library.OrderedMap
import GraphHelm.Protocol.Vocabulary
import Mathlib.Data.List.Sort
import Mathlib.Order.Basic
import Mathlib.Data.String.Basic

/-!
# Code contracts

`resolve_code_contract` of `core/policy/src/code_contract.rs`: the code rules
among a list of development sources, brought down to the strongest requirement
on each conflict key, with a record of what happened to every source.
-/

namespace GraphHelm

open Std (ExtTreeMap ExtTreeSet LawfulEqOrd)

/-!
## Sources
-/

/-- `DevelopmentKind`, of which the resolver interprets one. -/
inductive DevelopmentKind where
  | codeRule
  | other (wireName : String)
deriving DecidableEq

/-- A `DevelopmentEnvelope` with the fields the resolver reads. -/
structure DevelopmentEnvelope where
  id : ArtifactId
  kind : DevelopmentKind
  spec : Json
deriving DecidableEq

abbrev Selector := ExtTreeMap String String

structure CodeRuleSpec where
  conflictKey : String
  minimum : Nat
  operator : String
  enforcement : String
  selector : Selector
  waiver : Option Json
  validUntil : Option Int
deriving DecidableEq

/-- A rule, under the identifier of the artifact it was read from. -/
structure CodeRule where
  id : ArtifactId
  spec : CodeRuleSpec
deriving DecidableEq

instance : LinearOrder OpaqueId :=
  LinearOrder.lift' OpaqueId.text fun _ _ h => OpaqueId.text_injective h

instance : LawfulEqOrd OpaqueId where
  eq_of_compare h := compare_eq_iff_eq.mp h

/-!
## Reading a specification
-/

def u32Limit : Nat := 4294967295

/-- The fields of `CodeRuleSpec` on the wire, in the order it declares them. -/
def codeRuleFields : List String :=
  ["conflictKey", "minimum", "operator", "enforcement", "selector", "waiver", "validUntil"]

/-- The members a structure is read from; a list gives them by position. -/
def codeRuleMembers : Json -> Option (List (String × Json))
  | .object members =>
      if members.all fun member => codeRuleFields.contains member.1 then some members else none
  | .array items =>
      if items.length <= codeRuleFields.length then some (codeRuleFields.zip items) else none
  | _ => none

def readMinimum (value : Json) : Option Nat := do
  let number <- value.asNatural
  if number <= u32Limit then some number else none

def readSelector (value : Json) : Option Selector := do
  let members <- value.asObject
  let pairs <- members.mapM fun (key, item) => item.asString.map fun text => (key, text)
  some (pairs.foldl (fun selector (key, text) => selector.insert key text) ∅)

def optionalField {α : Type} (read : Json -> Option α) : Option Json -> Option (Option α)
  | none => some none
  | some .null => some none
  | some value => (read value).map some

def defaultedField {α : Type} (read : Json -> Option α) (default : α) :
    Option Json -> Option α
  | none => some default
  | some value => read value

/-- `serde_json::from_value::<CodeRuleSpec>`, the reading of an RFC 3339 instant given. -/
def CodeRuleSpec.fromValue (instant : String -> Option Int) (value : Json) :
    Option CodeRuleSpec := do
  let members <- codeRuleMembers value
  let conflictKey <- (members.lookup "conflictKey").bind Json.asString
  let minimum <- (members.lookup "minimum").bind readMinimum
  let operator <- defaultedField Json.asString "minimum" (members.lookup "operator")
  let enforcement <- defaultedField Json.asString "structural" (members.lookup "enforcement")
  let selector <- defaultedField readSelector ∅ (members.lookup "selector")
  let waiver <- optionalField some (members.lookup "waiver")
  let validUntil <-
    optionalField (fun item => item.asString.bind instant) (members.lookup "validUntil")
  some
    { conflictKey := conflictKey
      minimum := minimum
      operator := operator
      enforcement := enforcement
      selector := selector
      waiver := waiver
      validUntil := validUntil }

/-!
## Dominance
-/

inductive Dominance where
  | dominates
  | dominatedBy
  | equal
  | incomparable
deriving DecidableEq

/-- Whether every predicate of `right` stands in `left` with the same value. -/
def containsSelector (left right : Selector) : Bool :=
  right.toList.all fun (key, value) => left[key]? = some value

/-- `dominance`, of the maps its two arguments are read as. -/
def dominance (left right : Selector) : Dominance :=
  match containsSelector left right, containsSelector right left with
  | true, true => .equal
  | true, false => .dominates
  | false, true => .dominatedBy
  | false, false => .incomparable

inductive Strengthening where
  | stronger
  | weaker
  | notComparable
deriving DecidableEq

def compareRules (candidate incumbent : CodeRuleSpec) : Strengthening :=
  if candidate.operator = "minimum" && incumbent.operator = "minimum" then
    if incumbent.minimum <= candidate.minimum then .stronger else .weaker
  else
    .notComparable

/-!
## The answer
-/

inductive ResolutionRefusal where
  | sourceUnavailable (artifact : ArtifactId)
  | conflict (conflictKey : String) (rules : List ArtifactId)
  | precedenceUnresolved (conflictKey : String) (rules : List ArtifactId)
  | waiverInvalid (rule : ArtifactId) (missing : String)
deriving DecidableEq

structure RuleRecord where
  included : List ArtifactId
  shadowed : List ArtifactId
  waived : List ArtifactId
  expired : List ArtifactId
  denied : List ArtifactId
deriving DecidableEq

structure ResolvedCodeContract where
  requirements : ExtTreeMap String Nat
  record : RuleRecord
deriving DecidableEq

/-!
## Steps 1 to 4: which rules apply
-/

def requiredWaiverFields : List String :=
  ["actor", "reason", "acknowledgedRisks", "affectedContractVersion", "affectedGraphVersion",
    "resultStatus"]

/-- The first field a waiver has to carry and does not. -/
def missingWaiverField (waiver : Json) : Option String :=
  requiredWaiverFields.find? fun field => (waiver.get field).all fun value => value = .null

structure ReadSources where
  denied : List ArtifactId
  readable : List CodeRule

def readSources (instant : String -> Option Int) :
    List DevelopmentEnvelope -> Except ResolutionRefusal ReadSources
  | [] => .ok { denied := [], readable := [] }
  | source :: rest =>
      if source.kind ≠ .codeRule then do
        let others <- readSources instant rest
        .ok { others with denied := source.id :: others.denied }
      else do
        let spec <-
          orRefuse (CodeRuleSpec.fromValue instant source.spec) (.sourceUnavailable source.id)
        let others <- readSources instant rest
        .ok { others with readable := { id := source.id, spec := spec } :: others.readable }

def isExpired (now : Int) (spec : CodeRuleSpec) : Bool :=
  spec.validUntil.any fun until_ => decide (until_ < now)

def waiverRefusal (spec : CodeRuleSpec) : Option String :=
  spec.waiver.bind fun waiver =>
    if spec.enforcement = "structural" then
      some "<structural rules cannot be waived>"
    else
      missingWaiverField waiver

structure SettledRules where
  expired : List ArtifactId
  waived : List ArtifactId
  live : List CodeRule

def settleRules (now : Int) : List CodeRule -> Except ResolutionRefusal SettledRules
  | [] => .ok { expired := [], waived := [], live := [] }
  | rule :: rest =>
      if isExpired now rule.spec then do
        let others <- settleRules now rest
        .ok { others with expired := rule.id :: others.expired }
      else
        match waiverRefusal rule.spec with
        | some missing => .error (.waiverInvalid rule.id missing)
        | none => do
            let others <- settleRules now rest
            if rule.spec.waiver.isSome then
              .ok { others with waived := rule.id :: others.waived }
            else
              .ok { others with live := rule :: others.live }

/-!
## Steps 5 to 7: the strongest rule of a key
-/

def groupByKey (live : List CodeRule) : ExtTreeMap String (List CodeRule) :=
  live.foldl
    (fun groups rule =>
      groups.insert rule.spec.conflictKey ((groups[rule.spec.conflictKey]?).getD [] ++ [rule]))
    ∅

/-- A stable sort by identifier. -/
def sortById (group : List CodeRule) : List CodeRule :=
  group.insertionSort fun left right => left.id <= right.id

def incomparableTo (left right : CodeRule) : Bool :=
  dominance left.spec.selector right.spec.selector = .incomparable

/-- The first pair, in the order of the pre-pass, whose selectors do not compare. -/
def firstIncomparable : List CodeRule -> Option (CodeRule × CodeRule)
  | [] => none
  | left :: rest =>
      match rest.find? (incomparableTo left) with
      | some right => some (left, right)
      | none => firstIncomparable rest

/-- The identifiers a refusal names, sorted. -/
def namedPair (left right : CodeRule) : List ArtifactId :=
  if left.id <= right.id then [left.id, right.id] else [right.id, left.id]

def meetRules (conflictKey : String) (held rule : CodeRule) :
    Except ResolutionRefusal (CodeRule × CodeRule) :=
  let conflict := .error (.conflict conflictKey (namedPair held rule))
  match dominance rule.spec.selector held.spec.selector with
  | .incomparable => .error (.precedenceUnresolved conflictKey (namedPair held rule))
  | .dominates =>
      match compareRules rule.spec held.spec with
      | .stronger => .ok (rule, held)
      | .weaker | .notComparable => conflict
  | .dominatedBy =>
      match compareRules held.spec rule.spec with
      | .stronger => .ok (held, rule)
      | .weaker | .notComparable => conflict
  | .equal =>
      match compareRules rule.spec held.spec with
      | .stronger => .ok (rule, held)
      | .weaker => .ok (held, rule)
      | .notComparable => conflict

/-- What the rules of the keys so far have come to. -/
structure Resolution where
  requirements : ExtTreeMap String Nat
  seen : ExtTreeSet ArtifactId
  shadowed : ExtTreeSet ArtifactId

def strongestOf (conflictKey : String) :
    List CodeRule -> Except ResolutionRefusal (Option (CodeRule × List CodeRule))
  | [] => .ok none
  | first :: rest => do
      let outcome <- champion (meetRules conflictKey) first rest
      .ok (some outcome)

def settleGroup (conflictKey : String) (group : List CodeRule) :
    Except ResolutionRefusal (Option (CodeRule × List CodeRule)) :=
  match firstIncomparable (sortById group) with
  | some (left, right) => .error (.precedenceUnresolved conflictKey (namedPair left right))
  | none => strongestOf conflictKey (sortById group)

/-- What a settled group adds. -/
def Resolution.absorb (resolution : Resolution) (conflictKey : String) (group : List CodeRule) :
    Option (CodeRule × List CodeRule) -> Resolution
  | none => resolution
  | some (winner, losers) =>
      { requirements := resolution.requirements.insert conflictKey winner.spec.minimum
        seen := group.foldl (fun seen rule => seen.insert rule.id) resolution.seen
        shadowed :=
          losers.foldl (fun shadowed rule => shadowed.insert rule.id) resolution.shadowed }

/-- One turn of the loop over the keys. -/
def resolveGroup (resolution : Resolution) (entry : String × List CodeRule) :
    Except ResolutionRefusal Resolution := do
  let outcome <- settleGroup entry.1 entry.2
  .ok (resolution.absorb entry.1 entry.2 outcome)

/-- The members of a `BTreeSet` that is filled from a list. -/
def sortedIds (ids : List ArtifactId) : List ArtifactId :=
  (ids.foldl (fun set id => set.insert id) (∅ : ExtTreeSet ArtifactId)).toList

def resolveCodeContract (instant : String -> Option Int) (sources : List DevelopmentEnvelope)
    (now : Int) : Except ResolutionRefusal ResolvedCodeContract := do
  let read <- readSources instant sources
  let settled <- settleRules now read.readable
  let resolution <-
    (groupByKey settled.live).toList.foldlM resolveGroup
      { requirements := ∅, seen := ∅, shadowed := ∅ }
  .ok
    { requirements := resolution.requirements
      record :=
        { included := resolution.seen.toList.filter fun id => !resolution.shadowed.contains id
          shadowed := resolution.shadowed.toList
          waived := sortedIds settled.waived
          expired := sortedIds settled.expired
          denied := sortedIds read.denied } }

end GraphHelm
