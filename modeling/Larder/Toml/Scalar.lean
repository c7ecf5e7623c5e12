import Larder.Settings.Tree
import Larder.Text.Hex
import Larder.Time.Calendar

/-!
Scalars of TOML: strings in four forms, integers in four bases, floats, and dates and times, of
which only the text is kept.  Each reader takes characters from the front and gives back the rest.
-/

namespace Larder.Toml

open Settings (Tree)

def isBlank (c : Char) : Bool := c == ' ' || c == '\t'

def skipBlanks (cs : List Char) : List Char := cs.dropWhile isBlank

/-- A line end, bare or after a carriage return. -/
def newline? : List Char → Option (List Char)
  | '\n' :: rest => some rest
  | '\x0d' :: '\n' :: rest => some rest
  | _ => none

/-- Whether a character may stand in comments and literal strings. -/
def isPrintable (c : Char) : Bool :=
  c == '\t' || (0x20 ≤ c.toNat && c.toNat != 0x7f)

/-! ## Strings -/

def hexEscape? (width : Nat) (cs : List Char) : Option (Char × List Char) := do
  let digits := cs.take width
  if digits.length ≠ width then none
  else
    let n ← Text.hexNumber? digits
    if n.isValidChar then some (Char.ofNat n, cs.drop width) else none

/-- The character of an escape, after the backslash. -/
def escape? : List Char → Option (Char × List Char)
  | 'b' :: rest => some ('\x08', rest)
  | 't' :: rest => some ('\t', rest)
  | 'n' :: rest => some ('\n', rest)
  | 'f' :: rest => some ('\x0c', rest)
  | 'r' :: rest => some ('\x0d', rest)
  | '"' :: rest => some ('"', rest)
  | '\\' :: rest => some ('\\', rest)
  | 'u' :: rest => hexEscape? 4 rest
  | 'U' :: rest => hexEscape? 8 rest
  | _ => none

/-- A string on one line, after its opening quote.  Fuel past the length of the text is enough. -/
def basicBody? : Nat → List Char → Option (List Char × List Char)
  | 0, _ => none
  | fuel + 1, cs =>
    match cs with
    | [] => none
    | '"' :: rest => some ([], rest)
    | '\\' :: rest => do
      let (c, rest) ← escape? rest
      let (body, rest) ← basicBody? fuel rest
      return (c :: body, rest)
    | c :: rest =>
      if isPrintable c then (basicBody? fuel rest).map fun (body, rest) => (c :: body, rest)
      else none

def literalBody? : List Char → Option (List Char × List Char)
  | [] => none
  | '\'' :: rest => some ([], rest)
  | c :: rest =>
    if isPrintable c then (literalBody? rest).map fun (body, rest) => (c :: body, rest) else none

/-- The blanks and line ends after a backslash that ends a line. -/
def joinedLine? (cs : List Char) : Option (List Char) :=
  (newline? (skipBlanks cs)).map fun rest =>
    rest.dropWhile fun c => isBlank c || c == '\n' || c == '\x0d'

/-- How many quotes stand at the front, and what follows them. -/
def quoteRun (quote : Char) (cs : List Char) : Nat := (cs.takeWhile (· == quote)).length

/-- A string over several lines, after its opening quotes.  One or two quotes are content, and up to
two may stand before the closing three.  `escapes` says whether a backslash escapes. -/
def longBody? (quote : Char) (escapes : Bool) : Nat → List Char → Option (List Char × List Char)
  | 0, _ => none
  | fuel + 1, cs =>
    match cs with
    | [] => none
    | c :: rest =>
      if c = quote then
        let run := quoteRun quote cs
        if run < 3 then
          (longBody? quote escapes fuel rest).map fun (body, rest) => (c :: body, rest)
        else some (List.replicate (min (run - 3) 2) quote, cs.drop (min run 5))
      else if c = '\\' ∧ escapes then
        match joinedLine? rest with
        | some rest => longBody? quote escapes fuel rest
        | none => do
          let (c, rest) ← escape? rest
          let (body, rest) ← longBody? quote escapes fuel rest
          return (c :: body, rest)
      else
        match newline? cs with
        | some rest =>
          (longBody? quote escapes fuel rest).map fun (body, rest) => ('\n' :: body, rest)
        | none =>
          if isPrintable c then
            (longBody? quote escapes fuel rest).map fun (body, rest) => (c :: body, rest)
          else none

def afterNewline (cs : List Char) : List Char := (newline? cs).getD cs

def string? (cs : List Char) : Option (String × List Char) :=
  let fuel := cs.length + 1
  let body? : Option (List Char × List Char) := match cs with
    | '"' :: '"' :: '"' :: rest => longBody? '"' true fuel (afterNewline rest)
    | '\'' :: '\'' :: '\'' :: rest => longBody? '\'' false fuel (afterNewline rest)
    | '"' :: rest => basicBody? fuel rest
    | '\'' :: rest => literalBody? rest
    | _ => none
  body?.map fun (body, rest) => (String.ofList body, rest)

/-! ## Numbers -/

/-- Digits with single underscores between them. -/
def digitRun (isDigit : Char → Bool) : List Char → List Char × List Char
  | [] => ([], [])
  | c :: rest =>
    if isDigit c then
      let (digits, rest) := digitRun isDigit rest
      (c :: digits, rest)
    else
      match c, rest with
      | '_', d :: _ =>
        if isDigit d then digitRun isDigit rest else ([], c :: rest)
      | _, _ => ([], c :: rest)

/-- A run of digits that is there. -/
def digits? (isDigit : Char → Bool) (cs : List Char) : Option (List Char × List Char) :=
  match cs with
  | c :: _ => if isDigit c then some (digitRun isDigit cs) else none
  | [] => none

/-- A decimal integer part: a sign, and digits without leading zeros. -/
def wholePart? (cs : List Char) : Option ((Bool × List Char) × List Char) :=
  let (negative, cs) := Extended.signOf cs
  match cs with
  | '0' :: rest => some ((negative, ['0']), rest)
  | _ => (digits? Char.isDigit cs).map fun (digits, rest) => ((negative, digits), rest)

def fractionPart? : List Char → Option (List Char × List Char)
  | '.' :: rest => digits? Char.isDigit rest
  | _ => none

def powerPart? : List Char → Option (Int × List Char)
  | c :: rest =>
    if c = 'e' ∨ c = 'E' then do
      let (negative, rest) := Extended.signOf rest
      let (digits, rest) ← digits? Char.isDigit rest
      let n : Int := Extended.digitsValue digits
      return (if negative then -n else n, rest)
    else none
  | [] => none

/-- A float: an integer part with a fraction, a power or both.  One past the largest double is
refused. -/
def float? (cs : List Char) : Option (Extended × List Char) := do
  let ((negative, whole), rest) ← wholePart? cs
  let (fraction, rest, hasFraction) := match fractionPart? rest with
    | some (digits, rest) => (digits, rest, true)
    | none => ([], rest, false)
  let (power, rest, hasPower) := match powerPart? rest with
    | some (n, rest) => (n, rest, true)
    | none => (0, rest, false)
  if !hasFraction && !hasPower then none
  else
    let x := Extended.ofDecimal negative (Extended.digitsValue (whole ++ fraction))
      (power - fraction.length)
    if x = .infinite false then none else some (x, rest)

/-- The words for the infinities and for no number, with a sign. -/
def specialFloat? (cs : List Char) : Option (Extended × List Char) :=
  let (negative, cs) := Extended.signOf cs
  match cs with
  | 'i' :: 'n' :: 'f' :: rest => some (.infinite negative, rest)
  | 'n' :: 'a' :: 'n' :: rest => some (.nan, rest)
  | _ => none

def isBinaryDigit (c : Char) : Bool := c == '0' || c == '1'

def isOctalDigit (c : Char) : Bool := '0' ≤ c && c ≤ '7'

def isHexDigit (c : Char) : Bool := (Text.hexValue? c).isSome

/-- An integer of 64 bits. -/
def inRange (n : Int) : Option Int :=
  if -(1 <<< 63 : Nat) ≤ n ∧ n < (1 <<< 63 : Nat) then some n else none

def integer? (cs : List Char) : Option (Int × List Char) :=
  let based (base : Nat) (isDigit : Char → Bool) (rest : List Char) : Option (Int × List Char) := do
    let (digits, rest) ← digits? isDigit rest
    let n ← inRange (digits.foldl (fun n c => n * base + (Text.hexValue? c).getD 0) 0 : Nat)
    return (n, rest)
  match cs with
  | '0' :: 'x' :: rest => based 16 isHexDigit rest
  | '0' :: 'o' :: rest => based 8 isOctalDigit rest
  | '0' :: 'b' :: rest => based 2 isBinaryDigit rest
  | _ => do
    let ((negative, digits), rest) ← wholePart? cs
    let n : Int := Extended.digitsValue digits
    return (← inRange (if negative then -n else n), rest)

/-! ## Dates and times -/

/-- A number of exactly so many digits within bounds, with its digits. -/
def fixed? (width low high : Nat) (cs : List Char) : Option (List Char × List Char) :=
  let digits := cs.take width
  let n := Extended.digitsValue digits
  if digits.length = width ∧ digits.all Char.isDigit ∧ low ≤ n ∧ n ≤ high then
    some (digits, cs.drop width)
  else none

def symbol? (c : Char) : List Char → Option (List Char)
  | d :: rest => if c = d then some rest else none
  | [] => none

def date? (cs : List Char) : Option (List Char × List Char) := do
  let (year, rest) ← fixed? 4 0 9999 cs
  let rest ← symbol? '-' rest
  let (month, rest) ← fixed? 2 1 12 rest
  let rest ← symbol? '-' rest
  let most := Time.daysInMonth (Extended.digitsValue year) (Extended.digitsValue month)
  let (day, rest) ← fixed? 2 1 most rest
  return (year ++ '-' :: month ++ '-' :: day, rest)

/-- Digits after the second, of which nine count; zeros at the end are not kept. -/
def secondFraction (cs : List Char) : List Char × List Char :=
  match cs with
  | '.' :: rest =>
    let digits := rest.takeWhile Char.isDigit
    if digits.isEmpty then ([], cs)
    else
      let kept := ((digits.take 9).reverse.dropWhile (· == '0')).reverse
      (if kept.isEmpty then [] else '.' :: kept, rest.drop digits.length)
  | _ => ([], cs)

def timeOfDay? (cs : List Char) : Option (List Char × List Char) := do
  let (hour, rest) ← fixed? 2 0 23 cs
  let rest ← symbol? ':' rest
  let (minute, rest) ← fixed? 2 0 59 rest
  let rest ← symbol? ':' rest
  let (second, rest) ← fixed? 2 0 60 rest
  let (fraction, rest) := secondFraction rest
  return (hour ++ ':' :: minute ++ ':' :: second ++ fraction, rest)

def zone? (cs : List Char) : Option (List Char × List Char) := do
  match cs with
  | [] => none
  | c :: rest =>
    if c = 'Z' ∨ c = 'z' then return (['Z'], rest)
    else if c = '+' ∨ c = '-' then
      let (hour, rest) ← fixed? 2 0 23 rest
      let rest ← symbol? ':' rest
      let (minute, rest) ← fixed? 2 0 59 rest
      let isZero := (hour ++ minute).all (· == '0')
      return ((if isZero then '+' else c) :: hour ++ ':' :: minute, rest)
    else none

/-- A date, a time, or both with or without a zone, in the one form in which they are written. -/
def moment? (cs : List Char) : Option (String × List Char) :=
  match date? cs with
  | none => (timeOfDay? cs).map fun (time, rest) => (String.ofList time, rest)
  | some (date, rest) =>
    let withTime? : Option (List Char × List Char) := do
      match rest with
      | [] => none
      | c :: rest =>
        if c = 'T' ∨ c = 't' ∨ c = ' ' then timeOfDay? rest else none
    match withTime? with
    | none => some (String.ofList date, rest)
    | some (time, rest) =>
      let (zone, rest) := (zone? rest).getD ([], rest)
      some (String.ofList (date ++ 'T' :: time ++ zone), rest)

/-- A scalar. -/
def scalar? (cs : List Char) : Option (Tree × List Char) :=
  match cs with
  | [] => none
  | c :: rest =>
    if c = '"' ∨ c = '\'' then (string? cs).map fun (s, rest) => (.text s, rest)
    else if c = '+' ∨ c = '-' ∨ c.isDigit ∨ c = 'i' ∨ c = 'n' then
      match moment? cs with
      | some (s, rest) => some (.text s, rest)
      | none =>
        match float? cs with
        | some (x, rest) => some (.number x, rest)
        | none =>
          match specialFloat? cs with
          | some (x, rest) => some (.number x, rest)
          | none => (integer? cs).map fun (n, rest) => (.integer n, rest)
    else
      match c, rest with
      | 't', 'r' :: 'u' :: 'e' :: rest => some (.bool true, rest)
      | 'f', 'a' :: 'l' :: 's' :: 'e' :: rest => some (.bool false, rest)
      | _, _ => none

end Larder.Toml
