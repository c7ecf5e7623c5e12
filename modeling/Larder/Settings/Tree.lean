import Larder.Number.Extended

/-!
Settings as they come from files and variables, before they have types.  Values are scalars, lists
and tables; a scalar is read as whatever type is asked for, as far as its content allows.  Names of
table entries are compared in lower case.
-/

namespace Larder.Settings

inductive Tree where
  | text (s : String)
  | integer (n : Int)
  | number (x : Extended)
  | bool (b : Bool)
  | list (items : List Tree)
  | table (entries : List (String × Tree))

namespace Tree

def empty : Tree := table []

def entries : Tree → List (String × Tree)
  | table es => es
  | _ => []

/-! ## Reading scalars -/

/-- The text of a scalar. -/
def asText? : Tree → Option String
  | text s => some s
  | integer n => some (toString n)
  | number x => some x.text
  | bool b => some (if b then "true" else "false")
  | _ => none

/-- Digits, with a plus sign at most. -/
def digits? (s : String) : Option Nat :=
  let cs := match s.toList with
    | '+' :: rest => rest
    | cs => cs
  if cs.isEmpty ∨ cs.any (!·.isDigit) then none else some (Extended.digitsValue cs)

/-- A natural number below `2 ^ 64`.  Words for a truth value count as one and zero. -/
def asNatural? : Tree → Option Nat
  | integer n => if 0 ≤ n then some n.toNat else none
  | number x => some (x.toNatural 64)
  | bool b => some (if b then 1 else 0)
  | text s =>
    let word := Text.lower s
    if ["true", "on", "yes"].contains word then some 1
    else if ["false", "off", "no"].contains word then some 0
    else (digits? s).filter (· < 1 <<< 64)
  | _ => none

/-- The same in fewer bits, of which the higher ones are dropped. -/
def asWord? (bits : Nat) (t : Tree) : Option Nat := t.asNatural?.map (· % (1 <<< bits))

def asBool? : Tree → Option Bool
  | bool b => some b
  | integer n => some (n != 0)
  | number x => some (!x.isZero)
  | text s =>
    let word := Text.lower s
    if ["1", "true", "on", "yes"].contains word then some true
    else if ["0", "false", "off", "no"].contains word then some false
    else none
  | _ => none

/-! ## Laying values over one another -/

/-- The entry of a name among entries. -/
def find? (es : List (String × Tree)) (name : String) : Option Tree :=
  (es.find? (·.1 == name)).map (·.2)

/-- Puts a value under a name. -/
def put (es : List (String × Tree)) (name : String) (t : Tree) : List (String × Tree) :=
  if es.any (·.1 == name) then es.map fun e => if e.1 == name then (name, t) else e
  else es ++ [(name, t)]

mutual

/-- A value laid over another: tables are joined entry by entry, anything else replaces what was
there. -/
def overlay (upper : Tree) (lower : Option Tree) : Tree :=
  match upper with
  | table [] => lower.getD empty
  | table es => table (overlayEntries es (match lower with | some t => t.entries | none => []))
  | t => t

def overlayEntries : List (String × Tree) → List (String × Tree) → List (String × Tree)
  | [], lower => lower
  | (name, t) :: rest, lower =>
    let key := Text.lower name
    overlayEntries rest (put lower key (overlay t (find? lower key)))

end

/-- Lays a value under a path of names. -/
def assign : List String → Tree → List (String × Tree) → List (String × Tree)
  | [], _, es => es
  | [name], t, es =>
    let key := Text.lower name
    put es key (overlay t (find? es key))
  | name :: rest, t, es =>
    let key := Text.lower name
    let inner := match find? es key with
      | some u => u.entries
      | none => []
    put es key (table (assign rest t inner))

/-- Whether a character can stand in a name of a path. -/
def isNameChar (c : Char) : Bool :=
  c.isAlphanum || c == ' ' || c == '_' || c == '-'

/-- The names in a dotted path.  A text that is no path is one name. -/
def pathOf (s : String) : List String :=
  let names := s.toList.splitOn '.'
  if names.all fun n => !n.isEmpty && n.all isNameChar then names.map String.ofList else [s]

/-- A table whose names are paths, laid over what is there. -/
def layer (upper lower : List (String × Tree)) : List (String × Tree) :=
  upper.foldl (fun es e => assign (pathOf e.1) e.2 es) lower

end Tree

end Larder.Settings
