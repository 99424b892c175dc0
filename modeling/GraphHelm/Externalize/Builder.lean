import GraphHelm.Externalize.Authoring
import Mathlib.Algebra.Order.Ring.Int

/-!
# Control builders

A persisted control is put together one safe entry at a time (`ControlBuilder` of
`core/governor/src/externalize.rs`), with the checks every entry and the finished
control go through.
-/

namespace GraphHelm
namespace Externalize

open Std

def maxSafeInteger : Nat := 9007199254740991

def maxMapItems : Nat := 128

/-- `{index:03}`. -/
def padded (index : Nat) : String :=
  let digits := toString index
  "".pushn '0' (3 - digits.length) ++ digits

/-!
## Shapes of values
-/

def nonemptyObject (value : Json) : Except GovernorError (List (String × Json)) :=
  match value with
  | .object (member :: rest) => .ok (member :: rest)
  | _ => .error .invalidAuthoring

def arrayOf (value : Json) : Except GovernorError (List Json) :=
  orRefuse value.asArray .invalidAuthoring

def objectOf (value : Json) : Except GovernorError (List (String × Json)) :=
  orRefuse value.asObject .invalidAuthoring

def textOf (value : Json) : Except GovernorError String :=
  orRefuse value.asString .invalidAuthoring

def isNonemptyText : Json -> Bool
  | .string text => text != ""
  | _ => false

def validateString (value : Json) : Except GovernorError Unit :=
  check (isNonemptyText value) .invalidAuthoring

def validateStringArray (value : Json) : Except GovernorError Unit := do
  let items <- arrayOf value
  check (decide (items.length <= 1024) && items.all fun item => item.asString.isSome)
    .invalidAuthoring

def validatePositiveInteger (value : Json) : Except GovernorError Unit :=
  check (value.asNatural.any fun number => decide (0 < number)) .invalidAuthoring

def validateBool (value : Json) : Except GovernorError Unit :=
  check value.asBool.isSome .invalidAuthoring

def registeredPathArray (value : Json) : Except GovernorError (List Json) := do
  let paths <- arrayOf value
  check (!paths.isEmpty) .invalidAuthoring
  check (decide (paths.length <= 64)) .limitExceeded
  check (paths.all isNonemptyText) .invalidAuthoring
  .ok paths

def isKey (members : List (String × Json)) (key : String) : Bool :=
  (members.lookup key).isSome

/-!
## Ordinals
-/

/-- `u32::try_from`. -/
def ordinalOf (value : Nat) : Except GovernorError Nat :=
  if value < 2 ^ 32 then .ok value else .error .limitExceeded

def nestedPathOrdinal (parent child : Nat) : Except GovernorError Nat :=
  ordinalOf (parent * 64 + child)

def policyTextOrdinal (policy offset : Nat) : Except GovernorError Nat :=
  ordinalOf (policy * 2 + offset)

/-!
## Safe entries
-/

def safeKey (value : String) : Except GovernorError String :=
  if isSafeKey value then .ok value else .error .invalidProjection

def safeToken (value : String) : Except GovernorError String :=
  if isSafeValue value then .ok value else .error .invalidAuthoring

def maxReferenceBytes : Nat := 91

def encodeSafeReference (env : Surroundings) (value : String) : Except GovernorError String := do
  check (decide (value.utf8ByteSize <= maxReferenceBytes)) .limitExceeded
  orRefuse (env.encodePersistedReference value) .invalidAuthoring

def encodeSafeBinding (env : Surroundings) (value : String) : Except GovernorError String :=
  if "outputs.".toList.isPrefixOf value.toList || "nodes.".toList.isPrefixOf value.toList then
    orRefuse (env.parsePersistedBinding value) .invalidAuthoring
  else do
    let encoded <- encodeSafeReference env value
    orRefuse (env.parsePersistedBinding encoded) .invalidAuthoring

def indexedKey (name : String) (index : Nat) : Except GovernorError String := do
  check (decide (index <= 999)) .limitExceeded
  safeKey (name ++ "." ++ padded index)

/-!
## Controls
-/

def validSafeInteger (value : Int) : Bool :=
  decide (-(maxSafeInteger : Int) <= value) && decide (value <= maxSafeInteger)

/-- `PersistedControl::new`. -/
def PersistedControl.allowed (control : PersistedControl) : Bool :=
  decide (control.identifiers.size <= maxMapItems) &&
    decide (control.digests.size <= maxMapItems) &&
    decide (control.integers.size <= maxMapItems) &&
    decide (control.flags.size <= maxMapItems) &&
    control.integers.values.all validSafeInteger

def finishControl (env : Surroundings) (control : PersistedControl) :
    Except GovernorError PersistedControl := do
  check (isSafeValue control.controlType) .invalidProjection
  check control.allowed .invalidProjection
  check (env.controlReferencesValid control) .invalidProjection
  .ok control

def findSlot (slots : List ContentSlot) (position : SlotPosition) :
    Except GovernorError ContentSlot :=
  match slots.filter fun slot => decide (slot.position = position) with
  | [slot] => .ok slot
  | _ => .error .invalidProjection

structure ControlBuilder where
  identifiers : ExtTreeMap String String
  digests : ExtTreeMap String RawSha256
  integers : ExtTreeMap String Int
  flags : ExtTreeMap String Bool

namespace ControlBuilder

/-- `ControlBuilder::default`. -/
def fresh : ControlBuilder :=
  { identifiers := ∅, digests := ∅, integers := ∅, flags := ∅ }

def isEmpty (builder : ControlBuilder) : Bool :=
  builder.identifiers.isEmpty && builder.digests.isEmpty && builder.integers.isEmpty &&
    builder.flags.isEmpty

def insertIdentifier (key value : String) (builder : ControlBuilder) :
    Except GovernorError ControlBuilder := do
  check (builder.identifiers.contains key || decide (builder.identifiers.size < maxMapItems))
    .limitExceeded
  .ok { builder with identifiers := builder.identifiers.insert key value }

def token (key : String) (value : Json) (builder : ControlBuilder) :
    Except GovernorError ControlBuilder := do
  let text <- textOf value
  builder.insertIdentifier (<- safeKey key) (<- safeToken text)

def enumToken (key : String) (value : Json) (allowed : List String) (builder : ControlBuilder) :
    Except GovernorError ControlBuilder := do
  let text <- textOf value
  check (decide (text ∈ allowed)) .invalidAuthoring
  builder.insertIdentifier (<- safeKey key) (<- safeToken text)

def reference (env : Surroundings) (key : String) (value : Json) (builder : ControlBuilder) :
    Except GovernorError ControlBuilder := do
  let text <- textOf value
  builder.insertIdentifier (<- safeKey key) (<- encodeSafeReference env text)

def artifact (env : Surroundings) (key : String) (value : Json) (builder : ControlBuilder) :
    Except GovernorError ControlBuilder := do
  let text <- textOf value
  let locator <-
    if "artifact://".toList.isPrefixOf text.toList then
      .ok text
    else do
      check (text != "" && decide (text.utf8ByteSize <= 64) &&
        text.toList.all fun c => c != '/' && c != '\\' && c != ':') .invalidAuthoring
      Except.ok ("artifact://" ++ text)
  builder.insertIdentifier (<- safeKey key) (<- encodeSafeReference env locator)

def binding (env : Surroundings) (key : String) (value : Json) (builder : ControlBuilder) :
    Except GovernorError ControlBuilder := do
  let text <- textOf value
  builder.insertIdentifier (<- safeKey key) (<- encodeSafeBinding env text)

def digest (key : String) (value : RawSha256) (builder : ControlBuilder) :
    Except GovernorError ControlBuilder := do
  let key <- safeKey key
  check (builder.digests.contains key || decide (builder.digests.size < maxMapItems))
    .limitExceeded
  .ok { builder with digests := builder.digests.insert key value }

def referenceOrNominal (env : Surroundings) (key : String) (value : Json)
    (builder : ControlBuilder) : Except GovernorError ControlBuilder := do
  let text <- textOf value
  let encoded <-
    if text.toList.any fun c => c = ':' || c = '/' then
      encodeSafeReference env text
    else
      orRefuse (env.parseNominalIdentifier text) .invalidAuthoring
  builder.insertIdentifier (<- safeKey key) encoded

def insertInteger (key : String) (value : Nat) (builder : ControlBuilder) :
    Except GovernorError ControlBuilder := do
  check (decide (value <= maxSafeInteger)) .limitExceeded
  let key <- safeKey key
  .ok { builder with integers := builder.integers.insert key value }

def integer (key : String) (value : Json) (builder : ControlBuilder) :
    Except GovernorError ControlBuilder := do
  let number <- orRefuse value.asNatural .invalidAuthoring
  builder.insertInteger key number

def count (key : String) (value : Nat) (builder : ControlBuilder) :
    Except GovernorError ControlBuilder :=
  builder.insertInteger key value

def flag (key : String) (value : Json) (builder : ControlBuilder) :
    Except GovernorError ControlBuilder := do
  let key <- safeKey key
  let value <- orRefuse value.asBool .invalidAuthoring
  .ok { builder with flags := builder.flags.insert key value }

def slot (key : String) (found : ContentSlot) (builder : ControlBuilder) :
    Except GovernorError ControlBuilder := do
  let key <- safeKey key
  check (isSafeValue found.slotId.text) .invalidProjection
  builder.insertIdentifier key found.slotId.text

def stringArray (name : String) (value : Json) (parse : String -> Except GovernorError String)
    (builder : ControlBuilder) : Except GovernorError ControlBuilder := do
  let values <- arrayOf value
  check (decide (values.length <= 64)) .limitExceeded
  let builder <- builder.count (name ++ "Count") values.length
  values.zipIdx.foldlM
    (fun builder entry => do
      let text <- textOf entry.1
      builder.insertIdentifier (<- indexedKey name entry.2) (<- parse text))
    builder

def tokenArray (name : String) (value : Json) (builder : ControlBuilder) :
    Except GovernorError ControlBuilder :=
  builder.stringArray name value safeToken

def tokenArrayUnique (name : String) (value : Json) (builder : ControlBuilder) :
    Except GovernorError ControlBuilder := do
  let values <- arrayOf value
  let texts <- values.mapM textOf
  check (decide texts.Nodup) .invalidAuthoring
  builder.tokenArray name value

def referenceArray (env : Surroundings) (name : String) (value : Json)
    (builder : ControlBuilder) : Except GovernorError ControlBuilder :=
  builder.stringArray name value (encodeSafeReference env)

def finish (env : Surroundings) (controlType : String) (builder : ControlBuilder) :
    Except GovernorError PersistedControl :=
  finishControl env
    { controlType, identifiers := builder.identifiers, digests := builder.digests,
      integers := builder.integers, flags := builder.flags.insert "present" true }

def finishOptional (env : Surroundings) (controlType : String) (builder : ControlBuilder) :
    Except GovernorError (Option PersistedControl) :=
  if builder.isEmpty then .ok none else (builder.finish env controlType).map some

/-- One entry after the other, each under the index it has among its siblings. -/
def forEachIndexed {A : Type} (items : List A)
    (step : Nat -> A -> ControlBuilder -> Except GovernorError ControlBuilder)
    (builder : ControlBuilder) : Except GovernorError ControlBuilder :=
  items.zipIdx.foldlM (fun builder entry => step entry.2 entry.1 builder) builder

/-- One member of an object after the other. -/
def forEachMember (members : List (String × Json))
    (step : String -> Json -> ControlBuilder -> Except GovernorError ControlBuilder)
    (builder : ControlBuilder) : Except GovernorError ControlBuilder :=
  members.foldlM (fun builder member => step member.1 member.2 builder) builder

end ControlBuilder

end Externalize
end GraphHelm
