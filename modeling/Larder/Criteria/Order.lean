import Larder.Criteria.Basic

/-!
Which documents satisfy criteria, and in which order they come.  Values of different kinds are
ordered by kind, with null and missing fields first; numbers are ordered as doubles, in the total
order that tells the zeros apart; arrays are not told apart, nor are objects.
-/

namespace Larder

open Json (Value)

def kindRank : Value → Nat
  | .null => 0
  | .bool _ => 1
  | .number _ => 2
  | .string _ => 3
  | .array _ => 4
  | .object _ => 5

def compareBool : Bool → Bool → Ordering
  | false, true => .lt
  | true, false => .gt
  | _, _ => .eq

def compareValues (a b : Value) : Ordering :=
  match a, b with
  | .bool x, .bool y => compareBool x y
  | .number x, .number y => compare x.toBinary64.totalKey y.toBinary64.totalKey
  | .string x, .string y => compare x y
  | a, b => compare (kindRank a) (kindRank b)

namespace Criteria

def accepts (c : Criteria) (d : Document) : Bool :=
  c.filters.all fun (field, f) => f.accepts (Document.lookup d field)

/-- Order by the clauses in turn; the first that tells the two apart decides. -/
def compareBy : List (String × Direction) → Document → Document → Ordering
  | [], _, _ => .eq
  | (field, direction) :: rest, a, b =>
    let o :=
      compareValues ((Document.lookup a field).getD .null) ((Document.lookup b field).getD .null)
    (direction.apply o).then (compareBy rest a b)

def compare (c : Criteria) (a b : Document) : Ordering := compareBy c.order a b

/-- Whether `a` may come before `b`. -/
def le (c : Criteria) (a b : Document) : Bool := c.compare a b != .gt

/-- Stable sort by the order clauses. -/
def sort {α : Type} (c : Criteria) (document : α → Document) (xs : List α) : List α :=
  xs.mergeSort fun a b => c.le (document a) (document b)

/-- The page of a result. -/
def page {α : Type} (c : Criteria) (xs : List α) : List α :=
  let rest := xs.drop (c.offset.getD 0)
  match c.limit with
  | some n => rest.take n
  | none => rest

end Criteria

end Larder
