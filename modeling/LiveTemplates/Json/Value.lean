import LiveTemplates.Decimal.Notation
import LiveTemplates.Dictionary

set_option autoImplicit false

/-! # JSON values

A number is either a whole number or a double. Whole numbers stand for those from `-2 ^ 63` to
`2 ^ 64 - 1`; a written number outside that range is read as a double. Objects are dictionaries,
so their keys are in order and occur once. -/

namespace LiveTemplates

/-- A JSON number. -/
inductive Number where
  | whole (value : Int)
  | double (value : Double)
  deriving DecidableEq, Inhabited

/-- A JSON value. -/
inductive Json where
  | null
  | bool (value : Bool)
  | number (value : Number)
  | string (value : String)
  | array (items : List Json)
  | object (fields : List (String × Json))
  deriving Inhabited

namespace Number

/-- The least whole number. -/
def least : Int := -Int.ofNat (Nat.pow 2 63)

/-- One more than the greatest whole number. -/
def bound : Int := Int.ofNat (Nat.pow 2 64)

/-- The natural number that a number is, if it is one. -/
def asNat? : Number → Option Nat
  | whole i => if 0 ≤ i ∧ i < bound then some i.toNat else none
  | double _ => none

/-- The whole number that a number is, if it is one of 64 bits with sign. -/
def asInt? : Number → Option Int
  | whole i => if least ≤ i ∧ i < -least then some i else none
  | double _ => none

/-- A whole number if it is in range, else the nearest double. -/
def ofInt (i : Int) : Number :=
  if least ≤ i ∧ i < bound then whole i else double (.ofInt i)

/-- JSON text of a number. -/
def text : Number → String
  | whole i => toString i
  | double x => x.jsonText

/-- Equality of two numbers of one kind. A whole number and a double are never equal. -/
def same : Number → Number → Bool
  | whole i, whole j => i = j
  | double x, double y => x.sameNumber y
  | _, _ => false

end Number

namespace Json

/-- The whole number as a value. -/
def ofNat (n : Nat) : Json :=
  .number (.ofInt n)

/-- The field of an object under a key; other values have no fields. -/
def field? (key : String) : Json → Option Json
  | object fields => Dictionary.find? key fields
  | _ => none

/-- The text that a string holds. -/
def asString? : Json → Option String
  | string s => some s
  | _ => none

/-- The natural number that a value is, if it is one. -/
def asNat? : Json → Option Nat
  | number n => n.asNat?
  | _ => none

mutual

/-- Equality of values: item by item and field by field. -/
def same : Json → Json → Bool
  | null, null => true
  | bool a, bool b => a == b
  | number a, number b => a.same b
  | string a, string b => a == b
  | array a, array b => sameItems a b
  | object a, object b => sameFields a b
  | _, _ => false

/-- Equality of two lists of items. -/
def sameItems : List Json → List Json → Bool
  | [], [] => true
  | a :: as, b :: bs => same a b && sameItems as bs
  | _, _ => false

/-- Equality of two lists of fields. -/
def sameFields : List (String × Json) → List (String × Json) → Bool
  | [], [] => true
  | (k, a) :: as, (l, b) :: bs => k == l && same a b && sameFields as bs
  | _, _ => false

end

end Json

end LiveTemplates
