import Larder.Settings.Variables
import Larder.Text.Classes

/-!
Files of variables, one assignment to a line.  Values may be quoted, then also over several lines,
and may refer to variables by a dollar sign.  Variables that are set already keep their values.
Reading ends at the first line that is no assignment; what stands before it counts.
-/

namespace Larder.Settings.DotEnv

/-! ## Lines -/

/-- Where in a value a line may break off. -/
inductive LineState where
  | plain
  | blank
  | escape
  | single
  | singleEscape
  | double
  | doubleEscape
  | comment
deriving DecidableEq

def afterPlain (c : Char) : LineState :=
  if c = '\\' then .escape else if c = '"' then .double else if c = '\'' then .single else .plain

def LineState.next (s : LineState) (c : Char) : LineState :=
  match s with
  | plain => if Text.isBlank c ∧ c ≠ '\n' ∧ c ≠ '\x0d' then blank else afterPlain c
  | blank => if c = '#' then comment else afterPlain c
  | escape => plain
  | single => if c = '\\' then singleEscape else if c = '\'' then plain else single
  | singleEscape => single
  | double => if c = '\\' then doubleEscape else if c = '"' then plain else double
  | doubleEscape => double
  | comment => comment

/-- A line of a file, its line end included. -/
def rawLine (cs : List Char) : List Char × List Char :=
  let body := cs.takeWhile (· != '\n')
  match cs.drop body.length with
  | [] => (body, [])
  | c :: rest => (body ++ [c], rest)

/-- The state at the end of a piece of text, and the piece up to a comment. -/
def scan : LineState → List Char → LineState × List Char
  | s, [] => (s, [])
  | s, c :: rest =>
    match s.next c with
    | .comment => (.comment, [])
    | t =>
      let (final, kept) := scan t rest
      (final, c :: kept)

def dropLineEnd (cs : List Char) : List Char :=
  match cs.reverse with
  | '\n' :: '\x0d' :: rest => rest.reverse
  | '\n' :: rest => rest.reverse
  | _ => cs

def startsComment (cs : List Char) : Bool := (cs.dropWhile Text.isBlank).head? == some '#'

/-- One logical line, which goes on while a quote is open: the line, and the rest.  An error is a
file that ends inside one.  Each round takes a line end or is the last, so the length of the text
bounds the rounds. -/
def logicalLine : Nat → LineState → List Char → List Char → Option (List Char × List Char)
  | 0, _, _, _ => none
  | fuel + 1, state, buffer, cs =>
    match cs with
    | [] => none
    | _ =>
      let (line, rest) := rawLine cs
      let whole := buffer ++ line
      if startsComment whole then some ([], rest)
      else
        match scan state line with
        | (.plain, _) => some (dropLineEnd whole, rest)
        | (.comment, kept) => some (buffer ++ kept, rest)
        | (s, _) => logicalLine fuel s whole rest

/-! ## Values -/

/-- How a reference to a variable is written: bare, or in braces. -/
inductive Reference where
  | bare
  | braced
deriving DecidableEq

structure ValueState where
  single : Bool := false
  double : Bool := false
  escaped : Bool := false
  /-- Only blanks and a comment may follow. -/
  ended : Bool := false
  reference : Option Reference := none
  /-- Name of the variable referred to, the latest character first. -/
  name : List Char := []
  /-- The value so far, the latest character first. -/
  output : List Char := []

namespace ValueState

def emit (s : ValueState) (c : Char) : ValueState := { s with output := c :: s.output }

/-- Puts the value of the variable in the place of the reference. -/
def resolve (lookup : String → String) (s : ValueState) : ValueState :=
  { s with
    name := [], output := (lookup (String.ofList s.name.reverse)).toList.reverse ++ s.output }

/-- One more character in a reference: letters and numbers make up its name, and anything goes in
braces. -/
def inReference (lookup : String → String) (r : Reference) (c : Char)
    (s : ValueState) : ValueState :=
  if Text.isAlphanumeric c then { s with name := c :: s.name }
  else
    match r with
    | .bare =>
      if c = '\x7b' ∧ s.name.isEmpty then { s with reference := some .braced }
      else
        let s := s.resolve lookup
        if c = '$' then { s with reference := some .bare }
        else { s with reference := none }.emit c
    | .braced =>
      if c = '\x7d' then { s.resolve lookup with reference := none }
      else { s with name := c :: s.name }

/-- Takes one character.  Nothing follows a blank outside quotes but blanks. -/
def step (lookup : String → String) (s : ValueState) (c : Char) : Option ValueState :=
  if s.ended then if c = ' ' ∨ c = '\t' then some s else none
  else if s.escaped then
    let s := { s with escaped := false }
    if ['\\', '\'', '"', '$', ' '].contains c then some (s.emit c)
    else if c = 'n' then some (s.emit '\n')
    else none
  else if s.single then
    if c = '\'' then some { s with single := false } else some (s.emit c)
  else
    match s.reference with
    | some r => some (s.inReference lookup r c)
    | none =>
      if c = '$' then some { s with reference := some .bare }
      else if c = '\\' then some { s with escaped := true }
      else if s.double then
        if c = '"' then some { s with double := false } else some (s.emit c)
      else if c = '\'' then some { s with single := true }
      else if c = '"' then some { s with double := true }
      else if c = ' ' ∨ c = '\t' then some { s with ended := true }
      else some (s.emit c)

end ValueState

/-- Reads a value to its end or to a comment. -/
def valueFrom (lookup : String → String) : ValueState → List Char → Option ValueState
  | s, [] => some s
  | s, c :: rest =>
    if s.ended && c == '#' then some s
    else (s.step lookup c).bind fun s => valueFrom lookup s rest

def value? (lookup : String → String) (cs : List Char) : Option String := do
  let s ← valueFrom lookup {} cs
  if s.reference = some .braced ∨ s.single ∨ s.double then none
  else return String.ofList (s.resolve lookup).output.reverse

/-! ## Assignments -/

def skipBlanks (cs : List Char) : List Char := cs.dropWhile Text.isBlank

def isKeyChar (c : Char) : Bool := c.isAlphanum || c == '_' || c == '.'

def key? (cs : List Char) : Option (String × List Char) :=
  match cs with
  | [] => none
  | c :: _ =>
    if c.isAlpha || c == '_' then
      let key := cs.takeWhile isKeyChar
      some (String.ofList key, cs.drop key.length)
    else none

def equals? : List Char → Option (List Char)
  | '=' :: rest => some rest
  | _ => none

/-- The name of an assignment and what follows its equals sign.  The word `export` may stand before
a name. -/
def target? (cs : List Char) : Option (String × List Char) := do
  let (key, rest) ← key? cs
  let rest := skipBlanks rest
  match equals? rest with
  | some rest => return (key, rest)
  | none =>
    if key = "export" then
      let (key, rest) ← key? rest
      return (key, ← equals? (skipBlanks rest))
    else none

/-- What a line says: nothing, or an assignment. -/
def assignment? (lookup : String → String) (line : List Char) :
    Option (Option (String × String)) := do
  let trimmed := (line.reverse.dropWhile Text.isBlank).reverse
  match skipBlanks trimmed with
  | [] => return none
  | '#' :: _ => return none
  | cs =>
    let (key, rest) ← target? cs
    match skipBlanks rest with
    | [] => return some (key, "")
    | '#' :: _ => return some (key, "")
    | rest => return some (key, ← value? lookup rest)

/-- Adds the assignments of a file to variables.  A reference means a variable that is set, or else
one assigned further up. -/
def loadFrom : Nat → Variables → Variables → List Char → Variables
  | 0, vars, _, _ => vars
  | fuel + 1, vars, assigned, cs =>
    match logicalLine (cs.length + 1) .plain [] cs with
    | none => vars
    | some (line, rest) =>
      let lookup (name : String) : String :=
        ((Dict.get? vars name).or (Dict.get? assigned name)).getD ""
      match assignment? lookup line with
      | none => vars
      | some none => loadFrom fuel vars assigned rest
      | some (some (key, value)) =>
        let vars' := if Dict.contains vars key then vars else Dict.insert vars key value
        loadFrom fuel vars' (Dict.insert assigned key value) rest

/-- The variables after a file was loaded. -/
def load (vars : Variables) (text : String) : Variables :=
  let cs := match text.toList with
    | c :: rest => if c = '\ufeff' then rest else c :: rest
    | [] => []
  loadFrom (cs.length + 1) vars [] cs

end Larder.Settings.DotEnv
