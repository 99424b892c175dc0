import Mathlib.Data.Rat.Floor
import GraphHelm.Evolution.Reference

/-!
# What a schema accepts

The meaning of a schema of a catalog: JSON Schema 2020-12 for the keywords the
comparison knows. A schema is read with a number of levels it may still go down,
by a subschema or by a reference; an instance is valid when every large enough
number of levels accepts it. Regular expressions and formats are taken from
outside.
-/

namespace GraphHelm
namespace Evolution

/-- The assertions that are no structure of a value. -/
structure TextAssertions where
  pattern : String -> String -> Bool
  format : String -> Json -> Bool

/-!
## Values
-/

def numberValue : JsonNumber -> Rat
  | .integer value => value
  | .float value => value

mutual

def sameInstance : Json -> Json -> Bool
  | .null, .null => true
  | .bool a, .bool b => a = b
  | .number a, .number b => numberValue a = numberValue b
  | .string a, .string b => a = b
  | .array as, .array bs => sameInstances as bs
  | .object as, .object bs => sameInstanceMembers as bs
  | _, _ => false

def sameInstances : List Json -> List Json -> Bool
  | [], [] => true
  | a :: as, b :: bs => sameInstance a b && sameInstances as bs
  | _, _ => false

def sameInstanceMembers : List (String × Json) -> List (String × Json) -> Bool
  | [], [] => true
  | (key, a) :: as, (other, b) :: bs =>
      decide (key = other) && sameInstance a b && sameInstanceMembers as bs
  | _, _ => false

end

def isIntegral (number : JsonNumber) : Bool :=
  decide ((numberValue number).den = 1)

def hasType (value : Json) (name : String) : Bool :=
  match value with
  | .null => name = "null"
  | .bool _ => name = "boolean"
  | .number number => name = "number" || (name = "integer" && isIntegral number)
  | .string _ => name = "string"
  | .array _ => name = "array"
  | .object _ => name = "object"

/-!
## Assertions
-/

def meetsType (value : Json) : Json -> Bool
  | .string name => hasType value name
  | .array names => names.any fun name => name.asString.any (hasType value)
  | _ => true

def meetsRequired (value required : Json) : Bool :=
  match value, required with
  | .object members, .array names =>
      names.all fun name => name.asString.all fun name => (members.lookup name).isSome
  | _, _ => true

def meetsBound (measure : Json -> Option Rat) (holds : Rat -> Rat -> Bool) (value bound : Json) :
    Bool :=
  match measure value, bound with
  | some size, .number bound => holds size (numberValue bound)
  | _, _ => true

def measureNumber : Json -> Option Rat
  | .number number => some (numberValue number)
  | _ => none

def measureLength : Json -> Option Rat
  | .string text => some text.length
  | _ => none

def measureItems : Json -> Option Rat
  | .array items => some items.length
  | _ => none

def atLeast (size bound : Rat) : Bool := decide (bound <= size)

def moreThan (size bound : Rat) : Bool := decide (bound < size)

def atMost (size bound : Rat) : Bool := decide (size <= bound)

def lessThan (size bound : Rat) : Bool := decide (size < bound)

def meetsPattern (texts : TextAssertions) (value pattern : Json) : Bool :=
  match value, pattern with
  | .string text, .string pattern => texts.pattern pattern text
  | _, _ => true

def meetsFormat (texts : TextAssertions) (value format : Json) : Bool :=
  match format with
  | .string format => texts.format format value
  | _ => true

def meetsEnum (value : Json) : Json -> Bool
  | .array values => values.any (sameInstance value)
  | _ => true

/-- The assertions that look at the instance alone, each under its keyword. -/
def assertions (texts : TextAssertions) : List (String × (Json -> Json -> Bool)) :=
  [("type", meetsType),
   ("enum", meetsEnum),
   ("const", sameInstance),
   ("required", meetsRequired),
   ("minimum", meetsBound measureNumber atLeast),
   ("exclusiveMinimum", meetsBound measureNumber moreThan),
   ("maximum", meetsBound measureNumber atMost),
   ("exclusiveMaximum", meetsBound measureNumber lessThan),
   ("minLength", meetsBound measureLength atLeast),
   ("maxLength", meetsBound measureLength atMost),
   ("minItems", meetsBound measureItems atLeast),
   ("maxItems", meetsBound measureItems atMost),
   ("pattern", meetsPattern texts),
   ("format", meetsFormat texts)]

def meetsAssertions (texts : TextAssertions) (keywords : List (String × Json)) (value : Json) :
    Bool :=
  (assertions texts).all fun assertion => (keywords.lookup assertion.1).all (assertion.2 value)

/-!
## Applicators

A schema that accepts an instance also says which of its properties it evaluated,
for the `unevaluatedProperties` beside it.
-/

section Applicators

-- The reading of a schema one level down: the properties it evaluated, when it accepts.
variable (read : Json -> Json -> Option (List String))

def membersOf : Json -> List (String × Json)
  | .object members => members
  | _ => []

def itemsOf : Json -> List Json
  | .array items => items
  | _ => []

/-- Every reading accepts; what they evaluated together. -/
def allOfThem (readings : List (Option (List String))) : Option (List String) :=
  (readings.mapM id).map List.flatten

def readMembers (schemaOf : String -> Option Json) (value : Json) : Option (List String) :=
  let chosen := (membersOf value).filter fun member => (schemaOf member.1).isSome
  if chosen.all fun member => (schemaOf member.1).all fun schema => (read schema member.2).isSome
  then some (chosen.map Prod.fst)
  else none

def propertiesOf (keywords : List (String × Json)) : List (String × Json) :=
  (((keywords.lookup "properties").bind Json.asObject)).getD []

def readProperties (keywords : List (String × Json)) (value : Json) : Option (List String) :=
  readMembers read (fun name => (propertiesOf keywords).lookup name) value

def readAdditional (keywords : List (String × Json)) (value : Json) : Option (List String) :=
  readMembers read (fun name =>
    if ((propertiesOf keywords).lookup name).isSome then none
    else keywords.lookup "additionalProperties") value

def positionsOf (keywords : List (String × Json)) : List Json :=
  (((keywords.lookup "prefixItems").bind Json.asArray)).getD []

def readPositions (keywords : List (String × Json)) (value : Json) : Option (List String) :=
  if ((itemsOf value).zip (positionsOf keywords)).all fun pair => (read pair.2 pair.1).isSome
  then some []
  else none

/-- `items` reads what stands behind the positions of `prefixItems`. -/
def readItems (keywords : List (String × Json)) (value : Json) : Option (List String) :=
  match keywords.lookup "items" with
  | none => some []
  | some schema =>
      if ((itemsOf value).drop (positionsOf keywords).length).all fun item =>
          (read schema item).isSome
      then some []
      else none

def branchesOf (keywords : List (String × Json)) (keyword : String) : Option (List Json) :=
  (keywords.lookup keyword).bind Json.asArray

def readAllOf (keywords : List (String × Json)) (value : Json) : Option (List String) :=
  match branchesOf keywords "allOf" with
  | none => some []
  | some branches => allOfThem (branches.map fun branch => read branch value)

def readAnyOf (keywords : List (String × Json)) (value : Json) : Option (List String) :=
  match branchesOf keywords "anyOf" with
  | none => some []
  | some branches =>
      match branches.filterMap fun branch => read branch value with
      | [] => none
      | accepted => some accepted.flatten

def readOneOf (keywords : List (String × Json)) (value : Json) : Option (List String) :=
  match branchesOf keywords "oneOf" with
  | none => some []
  | some branches =>
      match branches.filterMap fun branch => read branch value with
      | [evaluated] => some evaluated
      | _ => none

def readNot (keywords : List (String × Json)) (value : Json) : Option (List String) :=
  match keywords.lookup "not" with
  | none => some []
  | some schema => if (read schema value).isSome then none else some []

def readReference (follow : String -> Option (List String)) (keywords : List (String × Json)) :
    Option (List String) :=
  match keywords.lookup "$ref" with
  | none => some []
  | some reference => reference.asString.bind follow

/-- `unevaluatedProperties` reads the members that nothing beside it evaluated. -/
def readUnevaluated (keywords : List (String × Json)) (evaluated : List String) (value : Json) :
    Option (List String) :=
  readMembers read (fun name =>
    if name ∈ evaluated then none else keywords.lookup "unevaluatedProperties") value

/-- One schema that is an object of keywords. -/
def readKeywords (texts : TextAssertions) (follow : String -> Option (List String))
    (keywords : List (String × Json)) (value : Json) : Option (List String) :=
  if meetsAssertions texts keywords value then do
    let evaluated ← allOfThem
      [readReference follow keywords,
       readProperties read keywords value, readAdditional read keywords value,
       readPositions read keywords value, readItems read keywords value,
       readAllOf read keywords value, readAnyOf read keywords value,
       readOneOf read keywords value, readNot read keywords value]
    let rest ← readUnevaluated read keywords evaluated value
    some (evaluated ++ rest)
  else none

end Applicators

/-!
## Validity
-/

variable (texts : TextAssertions) (resources : CatalogResources)

def readSchema : Nat -> String -> Json -> Json -> Option (List String)
  | 0, _, _, _ => none
  | _ + 1, _, .bool accepts, _ => if accepts then some [] else none
  | levels + 1, owner, .object keywords, value =>
      readKeywords (readSchema levels owner) texts
        (fun reference =>
          ((absoluteReference resources owner reference).bind
            (referencedValue resources)).bind fun target =>
              readSchema levels target.1 target.2 value)
        keywords value
  | _ + 1, _, _, _ => none

def acceptedWithin (levels : Nat) (schema : String) (value : Json) : Bool :=
  match resources.schemas[schema]? with
  | none => false
  | some document => (readSchema texts resources levels schema document value).isSome

def Valid (schema : String) (value : Json) : Prop :=
  exists enough : Nat, forall levels, enough <= levels ->
    acceptedWithin texts resources levels schema value = true

/-- The instance is not valid under a schema of the catalog. -/
def Invalid (schema : String) (value : Json) : Prop :=
  exists enough : Nat, forall levels, enough <= levels ->
    acceptedWithin texts resources levels schema value = false

end Evolution
end GraphHelm
