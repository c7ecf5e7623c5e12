import Larder.Json.Value
import Larder.Text.Hex

/-!
Reading values from text.  `readRaw?` keeps the members of objects as they stand in the text,
repeated names included, for readers that care; `read?` gives the canonical value.

Arrays and objects may lie inside one another up to a limit, one less than `depthLimit`.  A number
with a fraction or a power, or one past the 64-bit integers, becomes a double by scaling the digits
that fit 64 bits by one correctly rounded step per power of ten up to 308; a result past the largest
double is refused.
-/

namespace Larder.Json

def depthLimit : Nat := 128

def isSpace (c : Char) : Bool :=
  c == ' ' || c == '\n' || c == '\r' || c == '\t'

def skipSpace (cs : List Char) : List Char := cs.dropWhile isSpace

/-! ## Strings -/

def hexQuad? : List Char → Option (Nat × List Char)
  | a :: b :: c :: d :: rest => (Text.hexNumber? [a, b, c, d]).map (·, rest)
  | _ => none

/-- The character for the digits after an escape `u`.  A high surrogate needs the low one in an
escape right behind it, and a low one alone is refused. -/
def unicodeEscape? (cs : List Char) : Option (Char × List Char) := do
  let (high, rest) ← hexQuad? cs
  if 0xdc00 ≤ high ∧ high ≤ 0xdfff then none
  else if 0xd800 ≤ high ∧ high ≤ 0xdbff then
    match rest with
    | '\\' :: 'u' :: rest' => do
      let (low, rest'') ← hexQuad? rest'
      if 0xdc00 ≤ low ∧ low ≤ 0xdfff then
        some (Char.ofNat (0x10000 + (high - 0xd800) * 0x400 + (low - 0xdc00)), rest'')
      else none
    | _ => none
  else some (Char.ofNat high, rest)

/-- One character of a string, after a backslash. -/
def escape? : List Char → Option (Char × List Char)
  | '"' :: rest => some ('"', rest)
  | '\\' :: rest => some ('\\', rest)
  | '/' :: rest => some ('/', rest)
  | 'b' :: rest => some ('\x08', rest)
  | 'f' :: rest => some ('\x0c', rest)
  | 'n' :: rest => some ('\n', rest)
  | 'r' :: rest => some ('\r', rest)
  | 't' :: rest => some ('\t', rest)
  | 'u' :: rest => unicodeEscape? rest
  | _ => none

/-- The characters up to the closing quote, and what follows it. -/
def stringBody? : Nat → List Char → Option (List Char × List Char)
  | 0, _ => none
  | _ + 1, [] => none
  | fuel + 1, c :: rest =>
    if c = '"' then some ([], rest)
    else if c = '\\' then do
      let (d, rest') ← escape? rest
      let (body, rest'') ← stringBody? fuel rest'
      return (d :: body, rest'')
    else if c.toNat < 0x20 then none
    else do
      let (body, rest') ← stringBody? fuel rest
      return (c :: body, rest')

/-- A string, after its opening quote. -/
def string? (cs : List Char) : Option (String × List Char) :=
  (stringBody? (cs.length + 1) cs).map fun (body, rest) => (String.ofList body, rest)

/-! ## Numbers -/

def digitValue (c : Char) : Nat := c.toNat - 48

/-- Leading digits of a number as far as they fit 64 bits, and the power of ten that stands for the
ones that do not. -/
structure Significand where
  digits : Nat
  dropped : Nat
deriving DecidableEq

/-- Adds the digits before the point; from the first one that does not fit, all only count. -/
def Significand.whole (cs : List Char) : Significand :=
  cs.foldl (fun s c =>
    if s.dropped = 0 ∧ s.digits * 10 + digitValue c < 1 <<< 64 then
      ⟨s.digits * 10 + digitValue c, 0⟩
    else ⟨s.digits, s.dropped + 1⟩) ⟨0, 0⟩

/-- Adds digits after the point up to the first that does not fit, lowering the power with each. -/
def addFraction : Nat → Int → List Char → Nat × Int
  | digits, power, [] => (digits, power)
  | digits, power, c :: rest =>
    if digits * 10 + digitValue c < 1 <<< 64 then
      addFraction (digits * 10 + digitValue c) (power - 1) rest
    else (digits, power)

def powerOfTen (n : Nat) : Binary64 :=
  (Binary64.ofDecimal? false 1 n).getD Binary64.largest

/-- `x * 10 ^ power`, dividing by `10 ^ 308` while the power is below that; at most three such steps
leave zero. -/
def scale? : Nat → Binary64 → Int → Option Binary64
  | 0, _, _ => some Binary64.zero
  | fuel + 1, x, power =>
    if power.natAbs ≤ 308 then
      if 0 ≤ power then x.mul? (powerOfTen power.natAbs) else x.div? (powerOfTen power.natAbs)
    else if x.isZero then some x
    else if 0 ≤ power then none
    else do
      let y ← x.div? (powerOfTen 308)
      scale? fuel y (power + 308)

/-- The double for a number written with digits and a power. -/
def float? (negative : Bool) (digits : Nat) (power : Int) : Option Number := do
  let x ← scale? 4 (Binary64.ofInt digits) power
  return .float (if negative then x.neg else x)

/-- A written exponent: the sign, the digits and what follows. -/
def exponent? (cs : List Char) : Option (Bool × List Char × List Char) :=
  let (negative, cs) := match cs with
    | '+' :: rest => (false, rest)
    | '-' :: rest => (true, rest)
    | _ => (false, cs)
  let digits := cs.takeWhile Char.isDigit
  if digits.isEmpty then none else some (negative, digits, cs.dropWhile Char.isDigit)

/-- Value of an exponent's digits, held at the largest 32-bit one. -/
def exponentValue (digits : List Char) : Nat :=
  digits.foldl (fun n c => min (n * 10 + digitValue c) (1 <<< 31)) 0

/-- The number for digits, a power and what follows them, which may be a written exponent. -/
def withExponent? (negative : Bool) (digits : Nat) (power : Int) (cs : List Char) :
    Option (Number × List Char) :=
  let finish (power : Int) (rest : List Char) := (float? negative digits power).map (·, rest)
  let scaled (rest : List Char) := do
    let (down, written, rest') ← exponent? rest
    let n := exponentValue written
    if 1 <<< 31 ≤ n then
      if digits ≠ 0 ∧ !down then none
      else some (Number.float (if negative then Binary64.negZero else Binary64.zero), rest')
    else finish (if down then power - n else power + n) rest'
  match cs with
  | 'e' :: rest => scaled rest
  | 'E' :: rest => scaled rest
  | _ => finish power cs

/-- A number whose digits before the point were read. -/
def numberTail? (negative : Bool) (whole : List Char) (cs : List Char) :
    Option (Number × List Char) :=
  let s := Significand.whole whole
  match cs with
  | '.' :: rest =>
    let fraction := rest.takeWhile Char.isDigit
    if fraction.isEmpty then none
    else
      let (digits, power) := addFraction s.digits s.dropped fraction
      withExponent? negative digits power (rest.dropWhile Char.isDigit)
  | 'e' :: _ => withExponent? negative s.digits s.dropped cs
  | 'E' :: _ => withExponent? negative s.digits s.dropped cs
  | _ =>
    if s.dropped ≠ 0 then withExponent? negative s.digits s.dropped cs
    else if !negative then some (.integer s.digits, cs)
    else if s.digits = 0 ∨ 1 <<< 63 < s.digits then (float? true s.digits 0).map (·, cs)
    else some (.integer (-(s.digits : Int)), cs)

/-- A number: no zero before other digits, and digits on both sides of a point. -/
def number? (cs : List Char) : Option (Number × List Char) :=
  let (negative, cs) := match cs with
    | '-' :: rest => (true, rest)
    | _ => (false, cs)
  let whole := cs.takeWhile Char.isDigit
  match whole with
  | [] => none
  | '0' :: _ :: _ => none
  | _ => numberTail? negative whole (cs.dropWhile Char.isDigit)

/-! ## Values -/

mutual

/-- A value, after any blanks.  Each call reads a character or more, so fuel past the length of the
text is never used up; `depth` is how deep arrays and objects may go, plus one. -/
def value? : Nat → Nat → List Char → Option (Value × List Char)
  | 0, _, _ => none
  | fuel + 1, depth, cs =>
    match skipSpace cs with
    | 'n' :: 'u' :: 'l' :: 'l' :: rest => some (.null, rest)
    | 't' :: 'r' :: 'u' :: 'e' :: rest => some (.bool true, rest)
    | 'f' :: 'a' :: 'l' :: 's' :: 'e' :: rest => some (.bool false, rest)
    | '"' :: rest => (string? rest).map fun (s, rest') => (.string s, rest')
    | '[' :: rest =>
      if depth ≤ 1 then none
      else
        match skipSpace rest with
        | ']' :: rest' => some (.array [], rest')
        | _ => (items? fuel (depth - 1) rest).map fun (items, rest') => (.array items, rest')
    | '\x7b' :: rest =>
      if depth ≤ 1 then none
      else
        match skipSpace rest with
        | '\x7d' :: rest' => some (.object [], rest')
        | _ => (members? fuel (depth - 1) rest).map fun (members, rest') => (.object members, rest')
    | cs' => (number? cs').map fun (n, rest) => (.number n, rest)

/-- The items of an array that has some, up to its closing bracket. -/
def items? : Nat → Nat → List Char → Option (List Value × List Char)
  | 0, _, _ => none
  | fuel + 1, depth, cs => do
    let (v, rest) ← value? fuel depth cs
    match skipSpace rest with
    | ',' :: rest' =>
      let (more, rest'') ← items? fuel depth rest'
      return (v :: more, rest'')
    | ']' :: rest' => return ([v], rest')
    | _ => none

/-- The members of an object that has some, up to its closing brace. -/
def members? : Nat → Nat → List Char → Option (List (String × Value) × List Char)
  | 0, _, _ => none
  | fuel + 1, depth, cs =>
    match skipSpace cs with
    | '"' :: rest => do
      let (name, rest) ← string? rest
      match skipSpace rest with
      | ':' :: rest => do
        let (v, rest) ← value? fuel depth rest
        match skipSpace rest with
        | ',' :: rest' =>
          let (more, rest'') ← members? fuel depth rest'
          return ((name, v) :: more, rest'')
        | '\x7d' :: rest' => return ([(name, v)], rest')
        | _ => none
      | _ => none
    | _ => none

end

/-- The value of a whole text within a depth limit, members as written. -/
def readWithin? (limit : Nat) (text : String) : Option Value :=
  let cs := text.toList
  match value? (cs.length + 1) limit cs with
  | some (v, rest) => if (skipSpace rest).isEmpty then some v else none
  | none => none

/-- The value of a whole text, members as written. -/
def readRaw? (text : String) : Option Value := readWithin? depthLimit text

/-- What messages say of a text that is no value. -/
def malformedText : String := "malformed JSON text"

/-- The canonical value of a whole text. -/
def read? (text : String) : Option Value := (readRaw? text).map Value.canonical

end Larder.Json
