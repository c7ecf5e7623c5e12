import Larder.Text.Classes
import Larder.Time.Instant

/-!
Dates with times of day as text.  Writing gives UTC with the shortest of no, three, six or nine
places after the second.  Reading is relaxed: blanks may stand between the parts, a space or a small
letter may stand for the `T`, numbers need no leading zero, years outside four digits have a sign,
and the offset is `Z`, `UTC` or hours and minutes with or without a colon.
-/

namespace Larder.Time

/-! ## Writing -/

def padded (width n : Nat) : List Char :=
  let digits := Nat.toDigits 10 n
  List.replicate (width - digits.length) '0' ++ digits

def yearChars (year : Int) : List Char :=
  if 0 ≤ year ∧ year ≤ 9999 then padded 4 year.toNat
  else (if year < 0 then '-' else '+') :: padded 4 year.natAbs

/-- The places after the second. -/
def fractionChars (nanos : Nat) : List Char :=
  if nanos = 0 then []
  else if nanos % 1_000_000 = 0 then '.' :: padded 3 (nanos / 1_000_000)
  else if nanos % 1000 = 0 then '.' :: padded 6 (nanos / 1000)
  else '.' :: padded 9 nanos

end Time

namespace Instant

/-- The instant in UTC; a leap second has the second 60. -/
def text (t : Instant) : String :=
  let date := Time.Date.ofDays (t.second.fdiv 86400)
  let ofDay := (t.second.fmod 86400).toNat
  let leap := 1_000_000_000 ≤ t.nanosecond
  let second := if leap then ofDay % 60 + 1 else ofDay % 60
  let nanos := if leap then t.nanosecond - 1_000_000_000 else t.nanosecond
  String.ofList (Time.yearChars date.year ++ '-' :: Time.padded 2 date.month
    ++ '-' :: Time.padded 2 date.day ++ 'T' :: Time.padded 2 (ofDay / 3600)
    ++ ':' :: Time.padded 2 (ofDay / 60 % 60) ++ ':' :: Time.padded 2 second
    ++ Time.fractionChars nanos ++ ['Z'])

end Instant

namespace Time

/-! ## Reading -/

def skipBlanks (cs : List Char) : List Char := cs.dropWhile Text.isBlank

/-- At least one digit and at most `most`. -/
def digits? (most : Nat) (cs : List Char) : Option (Nat × List Char) :=
  let ds := (cs.take most).takeWhile Char.isDigit
  if ds.isEmpty then none
  else some (ds.foldl (fun n c => n * 10 + (c.toNat - 48)) 0, cs.drop ds.length)

/-- Any number of digits, at least one, with a value that fits 63 bits. -/
def longDigits? (cs : List Char) : Option (Nat × List Char) := do
  let (n, rest) ← digits? cs.length cs
  if n < 1 <<< 63 then some (n, rest) else none

def year? (cs : List Char) : Option (Int × List Char) :=
  match skipBlanks cs with
  | '-' :: rest => (longDigits? rest).map fun (n, rest) => (-(n : Int), rest)
  | '+' :: rest => (longDigits? rest).map fun (n, rest) => ((n : Int), rest)
  | cs => (digits? 4 cs).map fun (n, rest) => ((n : Int), rest)

def twoDigits? (low high : Nat) (cs : List Char) : Option (Nat × List Char) := do
  let (n, rest) ← digits? 2 (skipBlanks cs)
  if low ≤ n ∧ n ≤ high then some (n, rest) else none

def symbol? (c : Char) (cs : List Char) : Option (List Char) :=
  match skipBlanks cs with
  | d :: rest => if c = d then some rest else none
  | [] => none

def fraction? (cs : List Char) : Option (Nat × List Char) :=
  match cs with
  | '.' :: rest => do
    let ds := (rest.take 9).takeWhile Char.isDigit
    let (n, _) ← digits? 9 rest
    return (n * Nat.pow 10 (9 - ds.length), rest.dropWhile Char.isDigit)
  | _ => some (0, cs)

def separator? : List Char → Option (List Char)
  | c :: rest => if c = 'T' ∨ c = 't' ∨ c = ' ' then some rest else none
  | [] => none

def offsetDigits? (highest : Nat) : List Char → Option (Nat × List Char)
  | a :: b :: rest =>
    if a.isDigit ∧ b.isDigit ∧ (a.toNat - 48) * 10 + (b.toNat - 48) ≤ highest then
      some ((a.toNat - 48) * 10 + (b.toNat - 48), rest)
    else none
  | _ => none

/-- Minutes east of UTC. -/
def offset? (cs : List Char) : Option (Int × List Char) :=
  let signed (sign : Int) (rest : List Char) := do
    let (hours, rest) ← offsetDigits? 99 rest
    let (minutes, rest) ← offsetDigits? 59 (rest.dropWhile fun c => c == ':' || Text.isBlank c)
    return (sign * (hours * 60 + minutes : Nat), rest)
  match skipBlanks cs with
  | [] => none
  | c :: rest =>
    let upper := ((c :: rest).take 3).map Char.toUpper
    if upper = ['U', 'T', 'C'] then some (0, rest.drop 2)
    else if c = 'Z' ∨ c = 'z' then some (0, rest)
    else if c = '+' then signed 1 rest
    else if c = '-' ∨ c = '−' then signed (-1) rest
    else none

end Time

namespace Instant

/-- Reads a date with a time of day and an offset, and gives the instant it names. -/
def read? (s : String) : Option Instant := do
  let (year, cs) ← Time.year? s.toList
  let cs ← Time.symbol? '-' cs
  let (month, cs) ← Time.twoDigits? 1 12 cs
  let cs ← Time.symbol? '-' cs
  let (day, cs) ← Time.twoDigits? 1 31 cs
  let cs ← Time.separator? cs
  let (hour, cs) ← Time.twoDigits? 0 23 cs
  let cs ← Time.symbol? ':' cs
  let (minute, cs) ← Time.twoDigits? 0 59 cs
  let cs ← Time.symbol? ':' cs
  let (second, cs) ← Time.twoDigits? 0 60 cs
  let (nanos, cs) ← Time.fraction? cs
  let (offset, cs) ← Time.offset? cs
  let date : Time.Date := ⟨year, month, day⟩
  if !(Time.skipBlanks cs).isEmpty || !date.isValid || offset.natAbs ≥ 24 * 60
      || year < firstYear || lastYear < year then none
  else
    let leap := second = 60
    let ofDay := hour * 3600 + minute * 60 + (if leap then 59 else second)
    let utc := date.toDays * 86400 + ofDay - offset * 60
    let t : Instant := ⟨utc, if leap then nanos + 1_000_000_000 else nanos⟩
    if minimum.second ≤ utc ∧ utc ≤ maximum.second then some t else none

end Instant

end Larder
