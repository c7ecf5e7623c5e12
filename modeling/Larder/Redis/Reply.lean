import Larder.Number.Extended
import Larder.Redis.Failure
import Larder.Text.Utf8

/-!
Replies of the cache server: how they stand on the wire, and how a client takes them for a text, a
truth value or a number.  A client takes what it can: a number does for a text, and a text of one
digit for a truth value.
-/

namespace Larder.Redis

inductive Reply where
  | okay
  | status (text : String)
  | error (line : String)
  | integer (n : Int)
  | bulk (bytes : Bytes)
  | null
  | array (items : List Reply)

namespace Reply

/-! ## On the wire -/

/-- A line and what follows its end. -/
def line : Bytes → Bytes × Bytes
  | [] => ([], [])
  | [b] => ([b], [])
  | a :: b :: rest =>
    if a = 0x0d ∧ b = 0x0a then ([], rest)
    else
      let (before, after) := line (b :: rest)
      (a :: before, after)

/-- The length that stands before a text or an array, none for null. -/
def length? (cs : List Char) : Option (Option Nat) :=
  match Extended.signed64? cs with
  | some n => if n = -1 then some none else if 0 ≤ n then some (some n.toNat) else none
  | none => none

mutual

/-- A reply and what follows it.  `fuel` is one more than there are octets. -/
def readFrom : Nat → Bytes → Option (Reply × Bytes)
  | 0, _ => none
  | fuel + 1, bytes =>
    let (first, rest) := line bytes
    match first with
    | [] => none
    | mark :: text =>
      let content := Utf8.decodeLossy text
      if mark = 0x2b then some (if content = "OK" then okay else status content, rest)
      else if mark = 0x2d then some (error content, rest)
      else if mark = 0x3a then (Extended.signed64? content.toList).map (integer ·, rest)
      else if mark = 0x24 then
        match length? content.toList with
        | some (some n) =>
          if rest.length < n then none else some (bulk (rest.take n), rest.drop (n + 2))
        | some none => some (null, rest)
        | none => none
      else if mark = 0x2a then
        match length? content.toList with
        | some (some n) => (readItems fuel n rest).map fun (items, rest) => (array items, rest)
        | some none => some (null, rest)
        | none => none
      else none

def readItems : Nat → Nat → Bytes → Option (List Reply × Bytes)
  | 0, _, _ => none
  | _ + 1, 0, rest => some ([], rest)
  | fuel + 1, n + 1, bytes =>
    match readFrom fuel bytes with
    | some (item, rest) => (readItems fuel n rest).map fun (items, rest) => (item :: items, rest)
    | none => none

end

/-- A reply that stands on the wire. -/
def read? (bytes : Bytes) : Option Reply :=
  (readFrom (2 * bytes.length + 2) bytes).map Prod.fst

/-! ## Refusals -/

/-- The codes of refusals that a client knows. -/
def knownCodes : List (String × FailureKind) :=
  [("ERR", .response), ("EXECABORT", .execAbort), ("LOADING", .busyLoading),
   ("NOSCRIPT", .noScript),
   ("MOVED", .moved), ("ASK", .ask), ("TRYAGAIN", .tryAgain), ("CLUSTERDOWN", .clusterDown),
   ("CROSSSLOT", .crossSlot), ("MASTERDOWN", .masterDown), ("READONLY", .readOnly),
     ("NOTBUSY", .notBusy)]

def signalled : String := "An error was signalled by the server"

/-- A refusal: a code, and after a blank its text. -/
def refusal (line : String) : Failure :=
  let cs := line.toList
  let code := cs.takeWhile (· != ' ')
  let text := (cs.drop code.length).tail?.map String.ofList
  let code := String.ofList code
  match (knownCodes.find? fun known => known.1 == code).map Prod.snd, text with
  | some kind, some text => .detailed kind signalled text
  | some kind, none => .described kind signalled
  | none, some text => .extension code text
  | none, none => .extension code "Unknown extension error encountered"

mutual

/-- The first refusal in a reply, which may be an item of an array. -/
def firstError? : Reply → Option String
  | error line => some line
  | array items => firstErrorOf? items
  | _ => none

def firstErrorOf? : List Reply → Option String
  | [] => none
  | item :: rest =>
    match firstError? item with
    | some line => some line
    | none => firstErrorOf? rest

end

/-! ## What a client takes a reply for -/

/-- What a reply is, in messages. -/
def label : Reply → String
  | okay => "okay"
  | status text => "simple-string(" ++ text ++ ")"
  | error line => "error(" ++ line ++ ")"
  | integer n => "int(" ++ toString n ++ ")"
  | bulk bytes => "bulk-string(" ++ Utf8.decodeLossy bytes ++ ")"
  | null => "nil"
  | array items => "array of " ++ toString items.length

def incompatible (r : Reply) (reason : String) : Failure :=
  .detailed .type "Response was of incompatible type"
    ("\"" ++ reason ++ "\" (response was " ++ r.label ++ ")")

def notUtf8 : Failure := .described .type "Cannot convert from UTF-8"

def toText (r : Reply) : Except Failure String :=
  match r with
  | error line => .error (refusal line)
  | okay => .ok "OK"
  | status text => .ok text
  | integer n => .ok (toString n)
  | bulk bytes =>
    match Utf8.decode? bytes with
    | some s => .ok s
    | none => .error notUtf8
  | r => .error (r.incompatible "Response type not string compatible.")

/-- A text, or nothing for null. -/
def toOptionalText (r : Reply) : Except Failure (Option String) :=
  match r with
  | null => .ok none
  | r => r.toText.map some

def toBool (r : Reply) : Except Failure Bool :=
  match r with
  | error line => .error (refusal line)
  | null => .ok false
  | integer n => .ok (n != 0)
  | okay => .ok true
  | status text =>
    if text = "1" then .ok true
    else if text = "0" then .ok false
    else .error (r.incompatible "Response status not valid boolean")
  | bulk bytes =>
    if bytes = [0x31] then .ok true
    else if bytes = [0x30] then .ok false
    else .error (r.incompatible "Response type not bool compatible.")
  | r => .error (r.incompatible "Response type not bool compatible.")

def toInteger (r : Reply) : Except Failure Int :=
  let ofText (s : String) : Except Failure Int :=
    match Extended.signed64? s.toList with
    | some n => .ok n
    | none => .error (r.incompatible "Could not convert from string.")
  match r with
  | error line => .error (refusal line)
  | integer n => .ok n
  | status text => ofText text
  | bulk bytes =>
    match Utf8.decode? bytes with
    | some s => ofText s
    | none => .error notUtf8
  | r => .error (r.incompatible "Response type not convertible to numeric.")

/-- Any reply will do that is no refusal. -/
def toUnit (r : Reply) : Except Failure Unit :=
  match r with
  | error line => .error (refusal line)
  | _ => .ok ()

end Reply

end Larder.Redis
