import Mathlib.Data.Rat.Defs
import Mathlib.Algebra.Order.Ring.Int

/-!
# JSON values

Values as `serde_json` holds them: a number is an integer or a finite float, and
an object lists its members in the order of their keys, each key once.
-/

namespace GraphHelm

inductive JsonNumber where
  | integer (value : Int)
  | float (value : Rat)
deriving DecidableEq

inductive Json where
  | null
  | bool (value : Bool)
  | number (value : JsonNumber)
  | string (value : String)
  | array (items : List Json)
  | object (members : List (String × Json))

namespace Json

/-!
## Equality
-/

mutual

def same : Json -> Json -> Bool
  | .null, .null => true
  | .bool a, .bool b => a = b
  | .number a, .number b => a = b
  | .string a, .string b => a = b
  | .array as, .array bs => sameItems as bs
  | .object as, .object bs => sameMembers as bs
  | _, _ => false

def sameItems : List Json -> List Json -> Bool
  | [], [] => true
  | a :: as, b :: bs => same a b && sameItems as bs
  | _, _ => false

def sameMembers : List (String × Json) -> List (String × Json) -> Bool
  | [], [] => true
  | (key, a) :: as, (other, b) :: bs => decide (key = other) && same a b && sameMembers as bs
  | _, _ => false

end

mutual

theorem same_iff : forall a b : Json, same a b = true <-> a = b
  | .null, b => by cases b <;> simp [same]
  | .bool a, b => by cases b <;> simp [same]
  | .number a, b => by cases b <;> simp [same]
  | .string a, b => by cases b <;> simp [same]
  | .array as, b => by cases b <;> simp [same, sameItems_iff as]
  | .object as, b => by cases b <;> simp [same, sameMembers_iff as]

theorem sameItems_iff : forall as bs : List Json, sameItems as bs = true <-> as = bs
  | [], bs => by cases bs <;> simp [sameItems]
  | a :: as, bs => by cases bs <;> simp [sameItems, same_iff a, sameItems_iff as]

theorem sameMembers_iff :
    forall as bs : List (String × Json), sameMembers as bs = true <-> as = bs
  | [], bs => by cases bs <;> simp [sameMembers]
  | (key, a) :: as, bs => by
      cases bs <;> simp [sameMembers, same_iff a, sameMembers_iff as, Prod.ext_iff]

end

instance : DecidableEq Json := fun a b => decidable_of_iff (same a b = true) (same_iff a b)

/-!
## Reading
-/

def asString : Json -> Option String
  | .string value => some value
  | _ => none

def asBool : Json -> Option Bool
  | .bool value => some value
  | _ => none

def asArray : Json -> Option (List Json)
  | .array items => some items
  | _ => none

def asObject : Json -> Option (List (String × Json))
  | .object members => some members
  | _ => none

/-- `as_u64`. -/
def asNatural : Json -> Option Nat
  | .number (.integer (.ofNat value)) => some value
  | _ => none

/-- `get`: the member of an object under a key. -/
def get (value : Json) (key : String) : Option Json :=
  value.asObject.bind fun members => members.lookup key

end Json

end GraphHelm
