import Larder.Error
import Larder.Logging.Settings
import Larder.Text.Classes

/-!
Filters on log records.  A filter is a list of directives with commas between them; a directive sets
the most detailed level for the records whose target begins with its own, and of several that fit,
the one with the longest target decides.
-/

namespace Larder.Logging

inductive Level where
  | error
  | warn
  | info
  | debug
  | trace
deriving DecidableEq, Repr

namespace Level

/-- How detailed a level is; nothing at all is zero. -/
def rank : Level → Nat
  | error => 1
  | warn => 2
  | info => 3
  | debug => 4
  | trace => 5

def name : Level → String
  | error => "ERROR"
  | warn => "WARN"
  | info => "INFO"
  | debug => "DEBUG"
  | trace => "TRACE"

end Level

/-- One rule of a filter.  `maximum` is the rank of the most detailed level it lets through; a rule
bound to a span lets nothing through outside it. -/
structure Directive where
  target : Option String
  span : Option String
  fields : List String
  maximum : Nat
deriving DecidableEq, Repr

/-- A level by its name or number. -/
def maximum? (s : String) : Option Nat :=
  let name := Text.lowerAscii s
  if name = "" then some 1
  else if name = "off" then some 0
  else if name = "error" then some 1
  else if name = "warn" then some 2
  else if name = "info" then some 3
  else if name = "debug" then some 4
  else if name = "trace" then some 5
  else
    let digits := match s.toList with
      | '+' :: rest => rest
      | cs => cs
    if digits.isEmpty || digits.any (!·.isDigit) then none
    else (String.ofList digits).toNat?.filter (· ≤ 5)

namespace Directive

def startsTarget (c : Char) : Bool :=
  c == '-' || c == ':' || c == '_' || Text.isAlphanumeric c

/-- What stands after the sign of equality: nothing means everything. -/
def levelPart? (cs : List Char) : Option Nat :=
  if cs.isEmpty then some 5 else maximum? (String.ofList cs)

/-- What may follow a span: the end, or a level. -/
def afterSpan? (target span : Option String) (fields : List String) : List Char → Option Directive
  | [] => some ⟨target, span, fields, 5⟩
  | '=' :: rest => (levelPart? rest).map fun n => ⟨target, span, fields, n⟩
  | _ => none

/-- A span in brackets, with conditions on its fields in braces. -/
def spanPart? (target : Option String) (cs : List Char) : Option Directive :=
  let name := cs.takeWhile fun c => c != ']' && c != '\x7b'
  match cs.dropWhile (fun c => c != ']' && c != '\x7b') with
  | ']' :: rest => afterSpan? target (some (String.ofList name)) [] rest
  | '\x7b' :: rest =>
    let conditions := (rest.takeWhile (· != '\x7d')).splitOn ','
    let span := if name.isEmpty then none else some (String.ofList name)
    match rest.dropWhile (· != '\x7d') with
    | '\x7d' :: ']' :: rest' =>
      if conditions.any List.isEmpty then none
      else afterSpan? target span (conditions.map String.ofList) rest'
    | _ => none
  | _ => none

/-- A level alone, a target alone, a target with a level, or either with a span. -/
def readTrimmed? (text : List Char) : Option Directive :=
  match text with
  | [] => none
  | '[' :: rest => spanPart? none rest
  | c :: _ =>
    if !startsTarget c then none
    else
      let head := text.takeWhile fun c => c != '=' && c != '['
      match text.dropWhile (fun c => c != '=' && c != '[') with
      | '=' :: rest => (levelPart? rest).map fun n => ⟨some (String.ofList head), none, [], n⟩
      | '[' :: rest => spanPart? (some (String.ofList head)) rest
      | _ =>
        match maximum? (String.ofList head) with
        | some n => some ⟨none, none, [], n⟩
        | none => some ⟨some (String.ofList head), none, [], 5⟩

/-- A directive with blanks before or after it has no level: what it says is a target as it stands,
and a level behind a sign of equality is refused. -/
def read? (text : List Char) : Option Directive :=
  let trimmed := ((text.dropWhile Text.isBlank).reverse.dropWhile Text.isBlank).reverse
  if trimmed = text then readTrimmed? text
  else
    match readTrimmed? trimmed with
    | none => none
    | some d =>
      if trimmed.contains '=' then none
      else some (if d.span.isSome then d else { d with
        target := some (String.ofList text), maximum := 5 })

end Directive

structure Filter where
  directives : List Directive
deriving DecidableEq, Repr

namespace Filter

/-- Reads a filter; empty places between commas count for nothing, and a filter without directives
lets errors through. -/
def read? (text : String) : Option Filter :=
  let parts := (text.toList.splitOn ',').filter (!·.isEmpty)
  match parts.mapM Directive.read? with
  | some [] => some ⟨[⟨none, none, [], 1⟩]⟩
  | some directives => some ⟨directives⟩
  | none => none

/-- Of the directives whose target begins the record's, the longest decides; of two equals the
later. -/
def enabled (f : Filter) (target : String) (level : Level) : Bool :=
  let fitting := f.directives.filter fun d =>
    d.span.isNone && d.fields.isEmpty && (d.target.getD "").toList.isPrefixOf target.toList
  let best := fitting.foldl (fun (acc : Option Directive) d =>
    match acc with
    | none => some d
    | some b => if (b.target.getD "").length ≤ (d.target.getD "").length then some d
        else some b) none
  match best with
  | some d => level.rank ≤ d.maximum
  | none => false

end Filter

/-- The filter in force: the one of the process environment if it reads, else the one of the
settings. -/
def chooseFilter (environment : Option String) (settings : Settings) : Answer Filter :=
  match environment.bind Filter.read? with
  | some f => .ok f
  | none =>
    match Filter.read? settings.directive with
    | some f => .ok f
    | none => .error (.configuration "Invalid log filter: invalid filter directive")

/-- The process-wide logger: at most one filter is ever installed. -/
structure Logger where
  installed : Option (Filter × Format)

/-- Installs a logger; the filter is chosen before it is noticed that one is there already. -/
def Logger.install (l : Logger) (environment : Option String) (settings : Settings) :
    Answer Unit × Logger :=
  match chooseFilter environment settings with
  | .error e => (.error e, l)
  | .ok f =>
    match l.installed with
    | some _ =>
      (.error (.internal
        "Failed to install subscriber: a global default trace dispatcher has already been set"), l)
    | none => (.ok (), ⟨some (f, settings.format)⟩)

end Larder.Logging
