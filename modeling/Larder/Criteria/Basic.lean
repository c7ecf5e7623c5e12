import Larder.Document.Basic
import Larder.Error

/-!
Which documents a query is about: conditions on fields, an order, and a page of the result.  The
conditions are kept in ascending order of the fields, so equal criteria describe themselves alike.
-/

namespace Larder

open Json (Value)

/-- Condition on one field.  A missing field counts as null. -/
inductive Filter where
  | eq (v : Value)
  | oneOf (candidates : List Value)

namespace Filter

def accepts (f : Filter) (v : Option Value) : Bool :=
  let v := v.getD .null
  match f with
  | eq expected => v.same expected
  | oneOf candidates => candidates.any fun c => c.same v

def toValue : Filter → Value
  | eq v => .object [("eq", v)]
  | oneOf candidates => .object [("in", .array candidates)]

end Filter

inductive Direction where
  | asc
  | desc
deriving DecidableEq, Repr

namespace Direction

def name : Direction → String
  | asc => "asc"
  | desc => "desc"

def keyword : Direction → String
  | asc => "ASC"
  | desc => "DESC"

def apply (d : Direction) (o : Ordering) : Ordering :=
  match d with
  | asc => o
  | desc => o.swap

end Direction

structure Criteria where
  filters : Dict String Filter
  order : List (String × Direction)
  limit : Option Nat
  offset : Option Nat

namespace Criteria

/-- Criteria that every document satisfies. -/
def all : Criteria := ⟨[], [], none, none⟩

def whereEq (c : Criteria) (field : String) (v : Value) : Criteria :=
  { c with filters := Dict.insert c.filters field (.eq v) }

def whereOneOf (c : Criteria) (field : String) (candidates : List Value) : Criteria :=
  { c with filters := Dict.insert c.filters field (.oneOf candidates) }

def orderBy (c : Criteria) (field : String) (direction : Direction) : Criteria :=
  { c with order := c.order ++ [(field, direction)] }

def withLimit (c : Criteria) (n : Nat) : Criteria := { c with limit := some n }

def withOffset (c : Criteria) (n : Nat) : Criteria := { c with offset := some n }

/-- Criteria for the document with an identifier. -/
def byId (id : Value) : Criteria := all.whereEq Document.idField id

/-! ## Written form -/

def whereValue (c : Criteria) : Value :=
  .object (c.filters.map fun (field, f) => (field, f.toValue))

def orderValue (c : Criteria) : Value :=
  .array (c.order.map fun (field, d) => .array [.string field, .string d.name])

/-- The parts that are not empty, in the order where, order, limit, offset. -/
def toValue (c : Criteria) : Value :=
  .object ((if c.filters.isEmpty then [] else [("where", c.whereValue)])
    ++ (if c.order.isEmpty then [] else [("order", c.orderValue)])
    ++ (match c.limit with | some n => [("limit", Value.ofNat n)] | none => [])
    ++ (match c.offset with | some n => [("offset", Value.ofNat n)] | none => []))

/-- Text that stands for the criteria in keys and messages. -/
def describe (c : Criteria) : String := c.toValue.text

/-! ## Fields -/

def isFieldChar (c : Char) : Bool :=
  ('a' ≤ c && c ≤ 'z') || ('A' ≤ c && c ≤ 'Z') || ('0' ≤ c && c ≤ '9') || c == '_'

/-- Dotted names of ASCII letters, digits and underscores, none of them empty. -/
def isField (field : String) : Bool :=
  (field.toList.splitOn '.').all fun segment => !segment.isEmpty && segment.all isFieldChar

def checkField (field : String) : Answer Unit :=
  if isField field then .ok ()
  else .error (.invalidCriteria ("field name '" ++ field ++ "' must match [A-Za-z0-9_.]"))

def checkFields : List String → Answer Unit
  | [] => .ok ()
  | field :: rest =>
    match checkField field with
    | .ok _ => checkFields rest
    | .error e => .error e

/-- The fields that the conditions and then the order name. -/
def fields (c : Criteria) : List String := c.filters.map Prod.fst ++ c.order.map Prod.fst

/-- Refuses the first field that is no dotted name. -/
def validate (c : Criteria) : Answer Unit := checkFields c.fields

end Criteria

end Larder
