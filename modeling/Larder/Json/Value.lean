import Larder.Dict
import Larder.Number.Decimal

/-!
Document values.  A number is an integer of the 64-bit ranges or a finite double, and the two kinds
are never equal.  The members of an object are kept in ascending key order; `canonical` makes that
so and `WellFormed` says it.
-/

namespace Larder.Json

inductive Number where
  | integer (n : Int)
  | float (x : Binary64)
deriving DecidableEq

/-- Integers from the least signed to the greatest unsigned 64-bit one. -/
def Number.InRange : Number → Prop
  | .integer n => -(1 <<< 63 : Nat) ≤ n ∧ n < (1 <<< 64 : Nat)
  | .float _ => True

/-- Equality of numbers: of one kind, and floats by value. -/
def Number.same : Number → Number → Bool
  | .integer a, .integer b => a == b
  | .float a, .float b => a.same b
  | _, _ => false

/-- The double nearest to a number. -/
def Number.toBinary64 : Number → Binary64
  | .integer n => Binary64.ofInt n
  | .float x => x

inductive Value where
  | null
  | bool (b : Bool)
  | number (n : Number)
  | string (s : String)
  | array (items : List Value)
  | object (members : List (String × Value))

/-- The members of an object: names and values in ascending order of the names. -/
abbrev Object := Dict String Value

instance : Inhabited Value := ⟨.null⟩

namespace Value

def ofNat (n : Nat) : Value := .number (.integer n)

def ofInt (n : Int) : Value := .number (.integer n)

/-- The word for the kind of a value in messages. -/
def kind : Value → String
  | null => "null"
  | bool _ => "boolean"
  | number _ => "number"
  | string _ => "string"
  | array _ => "array"
  | object _ => "object"

def isNull : Value → Bool
  | null => true
  | _ => false

def asString? : Value → Option String
  | string s => some s
  | _ => none

mutual

/-- Equality of values, floats by value; both sides are canonical. -/
def same : Value → Value → Bool
  | null, null => true
  | bool a, bool b => a == b
  | number a, number b => a.same b
  | string a, string b => a == b
  | array a, array b => sameItems a b
  | object a, object b => sameMembers a b
  | _, _ => false

def sameItems : List Value → List Value → Bool
  | [], [] => true
  | a :: as, b :: bs => same a b && sameItems as bs
  | _, _ => false

def sameMembers : List (String × Value) → List (String × Value) → Bool
  | [], [] => true
  | (k, a) :: as, (l, b) :: bs => k == l && same a b && sameMembers as bs
  | _, _ => false

end

mutual

/-- The same value with the members of every object in ascending order, each name once; of members
with one name the last stays. -/
def canonical : Value → Value
  | array items => array (canonicalItems items)
  | object members => object (Dict.ofList (canonicalMembers members))
  | v => v

def canonicalItems : List Value → List Value
  | [] => []
  | v :: rest => canonical v :: canonicalItems rest

def canonicalMembers : List (String × Value) → List (String × Value)
  | [] => []
  | (k, v) :: rest => (k, canonical v) :: canonicalMembers rest

end

mutual

/-- Canonical throughout, with integers in range. -/
def WellFormed : Value → Prop
  | number n => n.InRange
  | array items => WellFormedItems items
  | object members => Dict.Sorted members ∧ WellFormedMembers members
  | _ => True

def WellFormedItems : List Value → Prop
  | [] => True
  | v :: rest => WellFormed v ∧ WellFormedItems rest

def WellFormedMembers : List (String × Value) → Prop
  | [] => True
  | (_, v) :: rest => WellFormed v ∧ WellFormedMembers rest

end

mutual

/-- How many arrays and objects lie inside one another. -/
def depth : Value → Nat
  | array items => depthItems items + 1
  | object members => depthMembers members + 1
  | _ => 0

def depthItems : List Value → Nat
  | [] => 0
  | v :: rest => max (depth v) (depthItems rest)

def depthMembers : List (String × Value) → Nat
  | [] => 0
  | (_, v) :: rest => max (depth v) (depthMembers rest)

end

end Value

end Larder.Json
