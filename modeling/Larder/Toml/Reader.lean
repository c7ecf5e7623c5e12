import Larder.Toml.Scalar
import Larder.Toml.Table

/-!
TOML documents: lines with a name and a value, under headers of tables.  A document is read as a
tree; the reader tells only that a text is none, not why.
-/

namespace Larder.Toml

open Settings (Tree)

/-- How deep values and names may lie inside one another. -/
def depthLimit : Nat := 80

/-! ## Names -/

def isBareChar (c : Char) : Bool := c.isAlphanum || c == '_' || c == '-'

def simpleName? (cs : List Char) : Option (String × List Char) :=
  match cs with
  | '"' :: rest =>
    (basicBody? (cs.length + 1) rest).map fun (body, rest) => (String.ofList body, rest)
  | '\'' :: rest => (literalBody? rest).map fun (body, rest) => (String.ofList body, rest)
  | _ =>
    let bare := cs.takeWhile isBareChar
    if bare.isEmpty then none else some (String.ofList bare, cs.drop bare.length)

/-- Names with dots between them, and blanks around each. -/
def dottedName? : Nat → List Char → Option (List String × List Char)
  | 0, _ => none
  | fuel + 1, cs => do
    let (name, rest) ← simpleName? (skipBlanks cs)
    match skipBlanks rest with
    | '.' :: rest => do
      let (names, rest) ← dottedName? fuel rest
      return (name :: names, rest)
    | rest => return ([name], rest)

/-- A dotted name: the path, and the name at its end. -/
def name? (cs : List Char) : Option ((List String × String) × List Char) := do
  let (names, rest) ← dottedName? (depthLimit - 1) cs
  match names.getLast? with
  | some last => return ((names.dropLast, last), rest)
  | none => none

/-! ## Blank space -/

/-- A comment, up to the end of its line. -/
def skipComment (cs : List Char) : List Char :=
  match cs with
  | '#' :: rest => rest.dropWhile isPrintable
  | _ => cs

/-- The end of a line, after blanks and a comment. -/
def lineEnd? (cs : List Char) : Option (List Char) :=
  match skipComment (skipBlanks cs) with
  | [] => some []
  | rest => newline? rest

/-- Blanks, line ends and comments between the items of a list. -/
def skipSpace : Nat → List Char → List Char
  | 0, cs => cs
  | fuel + 1, cs =>
    let cs := skipComment (skipBlanks cs)
    match newline? cs with
    | some rest => skipSpace fuel rest
    | none => cs

/-! ## Values -/

mutual

/-- A value.  The first number is fuel, enough if it exceeds the length of the text; the second
counts how deep the value may still go. -/
def value? : Nat → Nat → List Char → Option (Tree × List Char)
  | 0, _, _ => none
  | fuel + 1, depth, cs =>
    match cs with
    | '[' :: rest =>
      match depth with
      | 0 => none
      | depth + 1 =>
        (items? fuel depth (skipSpace fuel rest)).map fun (items, rest) => (.list items, rest)
    | '\x7b' :: rest =>
      match depth with
      | 0 => none
      | depth + 1 => do
        let (t, rest) ← match skipBlanks rest with
          | '\x7d' :: rest => some (Table.blank, rest)
          | rest => members? fuel depth Table.blank rest
        return (t.toNode.toTree, rest)
    | _ => scalar? cs

/-- The items of a list up to its closing bracket; a comma may stand after the last. -/
def items? : Nat → Nat → List Char → Option (List Tree × List Char)
  | 0, _, _ => none
  | fuel + 1, depth, cs =>
    match cs with
    | ']' :: rest => some ([], rest)
    | _ => do
      let (item, rest) ← value? fuel depth cs
      match skipSpace fuel rest with
      | ',' :: rest => do
        let (items, rest) ← items? fuel depth (skipSpace fuel rest)
        return (item :: items, rest)
      | ']' :: rest => return ([item], rest)
      | _ => none

/-- The members of a table on one line, up to its closing brace. -/
def members? : Nat → Nat → Table → List Char → Option (Table × List Char)
  | 0, _, _, _ => none
  | fuel + 1, depth, t, cs => do
    let ((path, name), rest) ← name? cs
    match rest with
    | '=' :: rest =>
      let (v, rest) ← value? fuel depth (skipBlanks rest)
      let t ← t.add path name v
      match skipBlanks rest with
      | ',' :: rest => members? fuel depth t rest
      | '\x7d' :: rest => return (t, rest)
      | _ => none
    | _ => none

end

/-! ## Documents -/

/-- What has been read: the finished tables, and the one that lines are added to. -/
structure Progress where
  root : Table
  current : Table
  path : List String
  name : String
  /-- Whether the current table is one of several under its name. -/
  isItem : Bool
  /-- Whether a header has been read. -/
  hasHeader : Bool

namespace Progress

def start : Progress := ⟨.blank, .blank, [], "", false, false⟩

/-- Puts the current table where its header says. -/
def finish (p : Progress) : Option Table :=
  if !p.hasHeader then some p.current
  else if p.isItem then p.root.push p.path p.name p.current
  else p.root.close p.path p.name p.current

def openTable (p : Progress) (path : List String) (name : String) : Option Progress := do
  let root ← p.finish
  let (current, root) ← root.openAt path name
  return ⟨root, current, path, name, false, true⟩

def openItem (p : Progress) (path : List String) (name : String) : Option Progress := do
  let root ← p.finish
  let _ ← root.push path name .blank
  return ⟨root, .blank, path, name, true, true⟩

end Progress

/-- One line: nothing, a comment, a header, or a name and a value. -/
def line? (p : Progress) (cs : List Char) : Option (Progress × List Char) := do
  match skipBlanks cs with
  | '[' :: '[' :: rest =>
    let ((path, name), rest) ← name? rest
    match rest with
    | ']' :: ']' :: rest => return (← p.openItem path name, ← lineEnd? rest)
    | _ => none
  | '[' :: rest =>
    let ((path, name), rest) ← name? rest
    match rest with
    | ']' :: rest => return (← p.openTable path name, ← lineEnd? rest)
    | _ => none
  | cs =>
    match lineEnd? cs with
    | some rest => return (p, rest)
    | none =>
      let ((path, name), rest) ← name? cs
      match rest with
      | '=' :: rest =>
        let (v, rest) ← value? (rest.length + 1) (depthLimit - 1) (skipBlanks rest)
        let current ← p.current.add path name v
        return ({ p with current }, ← lineEnd? rest)
      | _ => none

/-- Reads line after line.  Each takes a character or more, so fuel past the length is enough. -/
def lines? : Nat → Progress → List Char → Option Progress
  | _, p, [] => some p
  | 0, _, _ => none
  | fuel + 1, p, cs => do
    let (p, rest) ← line? p cs
    lines? fuel p rest

def byteOrderMark : Char := '\ufeff'

/-- The top-level entries of a document.  A byte order mark in front is passed over. -/
def read? (text : String) : Option (List (String × Tree)) := do
  let cs := match text.toList with
    | c :: rest => if c = byteOrderMark then rest else c :: rest
    | [] => []
  let p ← lines? (cs.length + 1) .start cs
  let root ← p.finish
  return Node.entryTrees root.entries

end Larder.Toml
