import Larder.Settings.Tree

/-!
Tables while a text is read.  A table remembers how it came about, which decides who may add to it:
one that only stands on the way to another, one written with dotted names, or one with a header of
its own.
-/

namespace Larder.Toml

open Settings (Tree)

inductive Node where
  | leaf (value : Tree)
  /-- `implicit` if only tables in it were named, `dotted` if dotted names made it. -/
  | table (implicit dotted : Bool) (entries : List (String × Node))
  /-- Tables under one name, each with a header of its own. -/
  | tables (items : List (List (String × Node)))

namespace Node

mutual

def toTree : Node → Tree
  | leaf t => t
  | table _ _ entries => .table (entryTrees entries)
  | tables items => .list (itemTrees items)

def entryTrees : List (String × Node) → List (String × Tree)
  | [] => []
  | (name, n) :: rest => (name, n.toTree) :: entryTrees rest

def itemTrees : List (List (String × Node)) → List Tree
  | [] => []
  | entries :: rest => .table (entryTrees entries) :: itemTrees rest

end

end Node

/-- A table that is being read. -/
structure Table where
  implicit : Bool
  dotted : Bool
  entries : List (String × Node)

namespace Table

def blank : Table := ⟨false, false, []⟩

def find? (t : Table) (name : String) : Option Node :=
  (t.entries.find? (·.1 == name)).map (·.2)

def set (t : Table) (name : String) (n : Node) : Table :=
  if t.entries.any (·.1 == name) then
    { t with entries := t.entries.map fun e => if e.1 == name then (name, n) else e }
  else { t with entries := t.entries ++ [(name, n)] }

def erase (t : Table) (name : String) : Table :=
  { t with entries := t.entries.filter (·.1 != name) }

def toNode (t : Table) : Node := .table t.implicit t.dotted t.entries

/-- Changes the table at the end of a path.  Tables that are missing on the way are made; of tables
with one name the last is meant; and a dotted path does not go into tables with a header. -/
def modifyAt (dotted : Bool) (f : Table → Option Table) : List String → Table → Option Table
  | [], t => f t
  | name :: rest, t => do
    match t.find? name with
    | none =>
      let inner ← modifyAt dotted f rest ⟨true, dotted, []⟩
      return t.set name inner.toNode
    | some (.leaf _) => none
    | some (.tables items) =>
      match items.getLast? with
      | none => none
      | some last =>
        let inner ← modifyAt dotted f rest ⟨false, false, last⟩
        return t.set name (.tables (items.dropLast ++ [inner.entries]))
    | some (.table isImplicit isDotted entries) =>
      if dotted && !isImplicit then none
      else
        let inner ← modifyAt dotted f rest ⟨isImplicit, isDotted, entries⟩
        return t.set name inner.toNode

/-- Adds a value under a dotted name.  Names are given once, and dotted names and headers do not
define the same table. -/
def add (path : List String) (name : String) (value : Tree) (t : Table) : Option Table :=
  modifyAt true (fun inner =>
    if inner.dotted == path.isEmpty then none
    else if (inner.find? name).isSome then none
    else some (inner.set name (.leaf value))) path t

/-- Opens the table of a header: what was there of it so far, and the rest without it. -/
def openAt (path : List String) (name : String) (t : Table) : Option (Table × Table) := do
  let emptied ← modifyAt false (fun inner =>
    match inner.find? name with
    | none => some inner
    | some (.table true false _) => some (inner.erase name)
    | some _ => none) path t
  let found := lookup path t
  return (found, emptied)
where
  /-- The table itself, blank if it is not there. -/
  lookup : List String → Table → Table
    | [], inner =>
      match inner.find? name with
      | some (.table _ _ entries) => ⟨false, false, entries⟩
      | _ => blank
    | step :: rest, inner =>
      match inner.find? step with
      | some (.table isImplicit isDotted entries) => lookup rest ⟨isImplicit, isDotted, entries⟩
      | some (.tables items) => lookup rest ⟨false, false, items.getLastD []⟩
      | _ => blank

/-- Puts a finished table under its header. -/
def close (t : Table) (path : List String) (name : String) (done : Table) : Option Table :=
  modifyAt false (fun inner => some (inner.set name done.toNode)) path t

/-- Adds a table to those of one name. -/
def push (t : Table) (path : List String) (name : String) (done : Table) : Option Table :=
  modifyAt false (fun inner =>
    match inner.find? name with
    | none => some (inner.set name (.tables [done.entries]))
    | some (.tables items) => some (inner.set name (.tables (items ++ [done.entries])))
    | some _ => none) path t

end Table

end Larder.Toml
