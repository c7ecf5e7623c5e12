import Larder.Json.Printer
import Larder.Text.Quoted

/-!
Reading typed data out of values.  A `Shape α` is a reader for one type; what it refuses, it refuses
with the first `Mismatch` in a fixed order: the members of an object are looked at in ascending
order of their names, and missing ones are noticed afterwards, in the order in which the record
lists its fields.
-/

namespace Larder.Json

/-- Why a value does not have the shape that was asked for. -/
inductive Mismatch where
  /-- Another kind of value. -/
  | kind (found : Value) (expected : String)
  /-- A bare name where a name with content was asked for. -/
  | bareName (expected : String)
  | integerOutOfRange (n : Int) (expected : String)
  | notOneMember
  | length (n : Nat) (expected : String)
  | missingField (name : String)
  | repeatedField (name : String)
  | unknownName (name : String) (known : List String)
  /-- A text of the right kind that is no identifier or time. -/
  | malformed (detail : String)

/-- How a message names a value that was found. -/
def Value.found : Value → String
  | .null => "null"
  | .bool true => "boolean `true`"
  | .bool false => "boolean `false`"
  | .number (.integer n) => "integer `" ++ String.ofList (integerChars n) ++ "`"
  | .number (.float x) => "floating point `" ++ String.ofList x.documentText ++ "`"
  | .string s => "string " ++ Text.quoted s
  | .array _ => "sequence"
  | .object _ => "map"

/-- Names as alternatives: one alone, two with a word between, more as a list. -/
def alternatives (names : List String) : String :=
  let ticked := names.map fun n => "`" ++ n ++ "`"
  match ticked with
  | [] => "there are no variants"
  | [a] => "expected " ++ a
  | [a, b] => "expected " ++ a ++ " or " ++ b
  | _ => "expected one of " ++ ", ".intercalate ticked

def Mismatch.message : Mismatch → String
  | .kind found expected => "invalid type: " ++ found.found ++ ", expected " ++ expected
  | .bareName expected => "invalid type: unit variant, expected " ++ expected
  | .integerOutOfRange n expected =>
    "invalid value: integer `" ++ String.ofList (integerChars n) ++ "`, expected " ++ expected
  | .notOneMember => "invalid value: map, expected map with a single key"
  | .length n expected => "invalid length " ++ toString n ++ ", expected " ++ expected
  | .missingField name => "missing field `" ++ name ++ "`"
  | .repeatedField name => "duplicate field `" ++ name ++ "`"
  | .unknownName name known => "unknown variant `" ++ name ++ "`, " ++ alternatives known
  | .malformed detail => detail

/-- A reader of one type. -/
abbrev Shape (α : Type) := Value → Except Mismatch α

namespace Shape

def value : Shape Value := fun v => .ok v

def string : Shape String
  | .string s => .ok s
  | v => .error (.kind v "a string")

def bool : Shape Bool
  | .bool b => .ok b
  | v => .error (.kind v "a boolean")

/-- Integers within bounds; a number with a fraction part is of another kind, even if the part is
zero. -/
def integer (name : String) (low high : Int) : Shape Int
  | .number (.integer n) => if low ≤ n ∧ n ≤ high then .ok n else .error (.integerOutOfRange n name)
  | v => .error (.kind v name)

/-- Natural numbers below `2 ^ bits`. -/
def natural (name : String) (bits : Nat) : Shape Nat := fun v =>
  (integer name 0 ((1 <<< bits : Nat) - 1) v).map Int.toNat

def signed (name : String) (bits : Nat) : Shape Int :=
  integer name (-(1 <<< (bits - 1) : Nat)) ((1 <<< (bits - 1) : Nat) - 1)

/-- Any number, as the nearest double. -/
def double : Shape Binary64
  | .number n => .ok n.toBinary64
  | v => .error (.kind v "f64")

def unit : Shape Unit
  | .null => .ok ()
  | v => .error (.kind v "unit")

def optional {α : Type} (shape : Shape α) : Shape (Option α)
  | .null => .ok none
  | v => (shape v).map some

def list {α : Type} (shape : Shape α) : Shape (List α)
  | .array items => items.mapM shape
  | v => .error (.kind v "a sequence")

def dict {α : Type} (shape : Shape α) : Shape (Dict String α)
  | .object members => do
    let read ← members.mapM fun (k, v) => (shape v).map (k, ·)
    return Dict.ofList read
  | v => .error (.kind v "a map")

def pair {α β : Type} (first : Shape α) (second : Shape β) : Shape (α × β)
  | .array [] => .error (.length 0 "a tuple of size 2")
  | .array (a :: rest) => do
    let x ← first a
    match rest with
    | [] => .error (.length 1 "a tuple of size 2")
    | [b] => return (x, ← second b)
    | b :: _ => do
      let _ ← second b
      .error (.length (rest.length + 1) "fewer elements in array")
  | v => .error (.kind v "a tuple of size 2")

/-- A name from a fixed list, with or without content: a bare string, or an object whose one member
has the name and the content. -/
def tagged : Shape (String × Option Value)
  | .string name => .ok (name, none)
  | .object [(name, v)] => .ok (name, some v)
  | .object _ => .error .notOneMember
  | v => .error (.kind v "string or map")

/-- A name that stands alone; as the one member of an object it has null under it. -/
def oneOf {α : Type} (known : List (String × α)) : Shape α := fun v => do
  let (name, content) ← tagged v
  match Dict.get? known name with
  | none => .error (.unknownName name (known.map Prod.fst))
  | some x =>
    match content with
    | none => return x
    | some inner => do
      unit inner
      return x

end Shape

/-- One field of a record: its name, whether it must be there, and the test of its value. -/
structure Field where
  name : String
  required : Bool
  check : Value → Except Mismatch Unit

namespace Field

def requiredOf {α : Type} (name : String) (shape : Shape α) : Field :=
  ⟨name, true, fun v => (shape v).map fun _ => ()⟩

def optionalOf {α : Type} (name : String) (shape : Shape α) : Field :=
  ⟨name, false, fun v => (shape v).map fun _ => ()⟩

end Field

/-- The members of an object that a record knows, tested in the order in which they stand. -/
def knownMembers (fields : List Field) :
    List (String × Value) → Except Mismatch (List (String × Value))
  | [] => .ok []
  | (k, v) :: rest =>
    match fields.find? (·.name == k) with
    | none => knownMembers fields rest
    | some field => do
      field.check v
      return (k, v) :: (← knownMembers fields rest)

/-- The first name that stands twice. -/
def firstRepeated : List String → Option String
  | [] => none
  | name :: rest => if rest.contains name then some name else firstRepeated rest

/-- The items of an array as the fields of a record in their order.  A record of which a required
field is missing at the end is too short; optional ones may be left out there. -/
def positionalMembers (expected : String) :
    Nat → List Field → List Value → Except Mismatch (List (String × Value))
  | _, [], [] => .ok []
  | at', [], rest => .error (.length (at' + rest.length) "fewer elements in array")
  | at', field :: fields, [] =>
    if field.required then .error (.length at' expected)
    else positionalMembers expected (at' + 1) fields []
  | at', field :: fields, v :: rest => do
    field.check v
    return (field.name, v) :: (← positionalMembers expected (at' + 1) fields rest)

/-- How a message names the length that a record asks for. -/
def elementsText (name : String) (count : Nat) : String :=
  name ++ " with " ++ toString count ++ (if count = 1 then " element" else " elements")

/-- The fields of a record, from an object or from an array in the order of declaration.  Other
members of an object are passed over. -/
def record (name : String) (fields : List Field) : Value → Except Mismatch (Dict String Value)
  | .object members => do
    let known ← knownMembers fields members
    match firstRepeated (known.map Prod.fst) with
    | some k => .error (.repeatedField k)
    | none =>
      match fields.find? fun f => f.required && !(Dict.contains known f.name) with
      | some f => .error (.missingField f.name)
      | none => return known
  | .array items =>
    positionalMembers (elementsText name fields.length) 0 fields items
  | v => .error (.kind v name)

/-- A field that a record was tested for. -/
def member {α : Type} (members : Dict String Value) (name : String) (shape : Shape α) :
    Except Mismatch α :=
  match members.get? name with
  | some v => shape v
  | none => .error (.missingField name)

/-- A field that may be absent. -/
def memberOr {α : Type} (members : Dict String Value) (name : String) (shape : Shape α)
    (absent : α) :
    Except Mismatch α :=
  match members.get? name with
  | some v => shape v
  | none => .ok absent

end Larder.Json
