import Mathlib.Algebra.Group.Int.Defs
import Mathlib.Algebra.GroupWithZero.Nat

/-!
# JSON values

A value as a parser reads it. The members of an object have different keys; integers are kept apart from other
numbers, which no check of a wire takes.
-/

namespace Iweb

inductive Json
  | null
  | bool (value : Bool)
  | integer (value : Int)
  | decimal (text : String)
  | string (value : String)
  | array (items : List Json)
  | object (members : List (String × Json))

namespace Json

/-- `Value::as_u64` -/
def asU64 : Json → Option Nat
  | .integer value => if 0 ≤ value ∧ value < 2 ^ 64 then some value.toNat else none
  | _ => none

/-- `Value::as_str` -/
def asStr : Json → Option String
  | .string value => some value
  | _ => none

def isNull : Json → Bool
  | .null => true
  | _ => false

/-- A member of an object that has it. -/
def field (members : List (String × Json)) (key : String) : Json := (members.lookup key).getD .null

/-- A number. -/
def ofNat (value : Nat) : Json := .integer value

/-- A value or null. -/
def nullable {α : Type} (f : α → Json) : Option α → Json
  | none => .null
  | some a => f a

end Json

end Iweb
