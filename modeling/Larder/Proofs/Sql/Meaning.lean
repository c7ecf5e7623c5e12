import Larder.Criteria.Order
import Larder.Proofs.Document.Patch
import Larder.Proofs.Sql.Grammar

/-!
What the commands mean: the values of expressions in a row, and the rows that a selection picks.

Rows are kept in ascending order of `pk`.  JSON values are compared as the criteria compare them,
`NULL` orders as the JSON null, and an expression without a value (a cast of a text that is no JSON,
say) leaves a statement without a meaning.
-/

namespace Larder.Sql

open Json (Value)

/-- A row of the table of documents. -/
structure Row where
  pk : Nat
  collection : String
  docId : String
  body : Value

inductive Datum where
  | null
  | text (s : String)
  | number (n : Nat)
  | json (v : Value)

/-- How JSON values are read from texts, and how they are written. -/
structure Dialect where
  parse : String → Option Value
  print : Value → String

/-- Text of a value is taken for the value, and the text that is given back for one can be read, as
long as it is not nested too deep and its floats can be read back at all. -/
structure Dialect.Faithful (D : Dialect) : Prop where
  parse : ∀ v : Value, v.Readable (Json.depthLimit - 1) → D.parse v.text = some v
  print : ∀ v : Value, v.Readable (Json.depthLimit - 1) → Json.read? (D.print v) = some v

/-- JSON texts as documents themselves are read and written. -/
def Dialect.plain : Dialect := ⟨Json.read?, Value.text⟩

theorem Dialect.faithful_plain : Dialect.plain.Faithful :=
  ⟨fun _ => Json.read?_text, fun _ => Json.read?_text⟩

/-! ## Paths -/

/-- The segments of a JSON path, each in double quotes behind a dot; the first argument has the
characters of the one that is being read, the latest first. -/
def pathSegments? : Option (List Char) → List Char → Option (List (List Char))
  | none, [] => some []
  | none, '.' :: '"' :: cs => pathSegments? (some []) cs
  | none, _ => none
  | some _, [] => none
  | some segment, c :: cs =>
    if c = '"' then (pathSegments? none cs).map (segment.reverse :: ·)
    else if c = '\\' then none
    else pathSegments? (some (c :: segment)) cs

def path? (s : String) : Option (List (List Char)) :=
  match s.toList with
  | '$' :: cs => pathSegments? none cs
  | _ => none

/-- The value along a path; each step must lead through an object. -/
def valueAlong : Value → List (List Char) → Option Value
  | v, [] => some v
  | .object members, segment :: rest =>
    match Dict.get? members (String.ofList segment) with
    | some v => valueAlong v rest
    | none => none
  | _, _ :: _ => none

/-! ## Expressions -/

namespace Datum

/-- The JSON value of a datum that is put where one belongs. -/
def toJson? (D : Dialect) : Datum → Option Datum
  | null => some null
  | text s => (D.parse s).map json
  | number _ => none
  | json v => some (json v)

/-- Whether two data are equal; with `NULL` nothing is. -/
def equal : Datum → Datum → Bool
  | text a, text b => a == b
  | number a, number b => a == b
  | json a, json b => a.same b
  | _, _ => false

def asNumber : Datum → Nat
  | number n => n
  | _ => 0

def asJson : Datum → Value
  | json v => v
  | _ => .null

/-- The order of numbers and of JSON values, which is the one of texts nowhere. -/
def compare (a b : Datum) : Ordering :=
  (Ord.compare a.asNumber b.asNumber).then (compareValues a.asJson b.asJson)

end Datum

namespace Function

def apply : Function → Datum → Datum → Option Datum
  | extract, .json v, .text p =>
    (path? p).map fun segments => ((valueAlong v segments).map Datum.json).getD .null
  | extract, .null, _ => some .null
  | coalesce, .null, b => some b
  | coalesce, a, _ => some a
  | mergePatch, .json v, .json patch => some (.json (v.merge patch))
  | mergePatch, .null, _ => some .null
  | _, _, _ => none

end Function

namespace Scalar

/-- The value of an expression in a row, if there is one. -/
def eval (D : Dialect) (row : Option Row) : Scalar → Option Datum
  | column c => row.map fun r =>
    match c with
    | .pk => .number r.pk
    | .collection => .text r.collection
    | .docId => .text r.docId
    | .body => .json r.body
  | literal s => some (.text s)
  | bound (.text s) => some (.text s)
  | bound (.number n) => some (.number n)
  | call f a b => do f.apply (← a.eval D row) (← b.eval D row)
  | castJson a => do (← a.eval D row).toJson? D

end Scalar

/-! ## Conditions and orders -/

def Equality.holds? (e : Equality) (D : Dialect) (r : Row) : Option Bool := do
  return (← e.left.eval D r).equal (← e.right.eval D r)

def Conjunct.holds? (c : Conjunct) (D : Dialect) (r : Row) : Option Bool :=
  match c with
  | never => some false
  | equal e => e.holds? D r
  | anyOf es => (es.mapM fun e : Equality => e.holds? D r).map fun bs => bs.any id

namespace Selection

def holds? (s : Selection) (D : Dialect) (r : Row) : Option Bool :=
  (s.conditions.mapM fun c : Conjunct => c.holds? D r).map fun bs => bs.all id

/-- What a row is ordered by. -/
def keys? (s : Selection) (D : Dialect) (r : Row) : Option (List Datum) :=
  s.order.mapM fun k => k.scalar.eval D r

/-- Lexicographic order of keys, each in its direction. -/
def compareKeys : List Direction → List Datum → List Datum → Ordering
  | [], _, _ => .eq
  | d :: ds, as, bs =>
    (d.apply ((as.headD .null).compare (bs.headD .null))).then (compareKeys ds as.tail bs.tail)

def compareRows (s : Selection) (D : Dialect) (r r' : Row) : Ordering :=
  compareKeys (s.order.map SortKey.direction) ((s.keys? D r).getD []) ((s.keys? D r').getD [])

/-- Whether conditions and keys have values in every row. -/
def Defined (s : Selection) (D : Dialect) (rows : List Row) : Prop :=
  ∀ r ∈ rows, (s.holds? D r).isSome ∧ (s.keys? D r).isSome

/-- The rows that satisfy the conditions, in an order that the keys allow. -/
structure Arranges (s : Selection) (D : Dialect) (rows arranged : List Row) : Prop where
  perm : arranged.Perm (rows.filter fun r => s.holds? D r == some true)
  sorted : arranged.Pairwise fun r r' => s.compareRows D r r' ≠ .gt

def cut (page : Option Page) (rows : List Row) : List Row :=
  match page with
  | none => rows
  | some p => (rows.drop ((p.offset.map Count.value).getD 0)).take p.limit.value

theorem cut_sublist (page : Option Page) (rows : List Row) : (cut page rows).Sublist rows := by
  cases page with
  | none => exact List.Sublist.refl _
  | some p => exact (List.take_sublist _ _).trans (List.drop_sublist _ _)

/-- The rows that a statement is about. -/
def Picks (s : Selection) (D : Dialect) (rows picked : List Row) : Prop :=
  ∃ arranged, s.Arranges D rows arranged ∧ picked = cut s.page arranged

end Selection

end Larder.Sql
