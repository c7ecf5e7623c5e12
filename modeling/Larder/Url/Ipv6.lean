import Larder.Text.Hex

/-!
IPv6 addresses as eight groups of sixteen bits: read with one run of zero groups left out and with
the last two groups in dotted form, written with the first longest run of at least two zero groups
left out.
-/

namespace Larder.Url

structure Ipv6 where
  groups : List Nat
deriving DecidableEq, Repr

namespace Ipv6

/-- What has been read: the groups before the gap, and those after it once a gap was seen. -/
structure Progress where
  before : List Nat
  after : Option (List Nat)

namespace Progress

/-- Groups so far; a gap stands for at least one. -/
def count (p : Progress) : Nat :=
  match p.after with
  | none => p.before.length
  | some after => p.before.length + 1 + after.length

def push (p : Progress) (group : Nat) : Progress :=
  match p.after with
  | none => { p with before := p.before ++ [group] }
  | some after => { p with after := some (after ++ [group]) }

def finish? (p : Progress) : Option Ipv6 :=
  match p.after with
  | none => if p.before.length = 8 then some ⟨p.before⟩ else none
  | some after =>
    some ⟨p.before ++ List.replicate (8 - p.before.length - after.length) 0 ++ after⟩

end Progress

/-- A decimal number up to 255 without a leading zero. -/
def octet? (cs : List Char) : Option Nat :=
  let digits := cs.takeWhile Char.isDigit
  let n := digits.foldl (fun n c => n * 10 + (c.toNat - 48)) 0
  if digits.isEmpty ∨ (digits.head? = some '0' ∧ 1 < digits.length) ∨ 255 < n then none
  else some n

/-- The two groups of a dotted address that takes up the whole of the text. -/
def dotted? (cs : List Char) : Option (Nat × Nat) := do
  let piece? (cs : List Char) : Option (Nat × List Char) :=
    (octet? cs).map (·, cs.dropWhile Char.isDigit)
  let dot? : List Char → Option (List Char)
    | '.' :: rest => some rest
    | _ => none
  let (a, rest) ← piece? cs
  let (b, rest) ← piece? (← dot? rest)
  let (c, rest) ← piece? (← dot? rest)
  let (d, rest) ← piece? (← dot? rest)
  if rest.isEmpty then some (a * 256 + b, c * 256 + d) else none

/-- Reads groups up to the end.  Each round takes one separator at least or ends, so the length of
the text bounds the rounds. -/
def groups? : Nat → Progress → List Char → Option Progress
  | _, p, [] => some p
  | 0, _, _ => none
  | fuel + 1, p, c :: rest =>
    if p.count = 8 then none
    else if c = ':' then
      if p.after.isSome then none else groups? fuel { p with after := some [] } rest
    else
      let cs := c :: rest
      let digits := (cs.take 4).takeWhile fun c => (Text.hexValue? c).isSome
      let value := (Text.hexNumber? digits).getD 0
      match cs.drop digits.length with
      | [] => some (p.push value)
      | '.' :: _ =>
        if digits.isEmpty ∨ 6 < p.count then none
        else (dotted? cs).map fun (high, low) => (p.push high).push low
      | ':' :: rest => if rest.isEmpty then none else groups? fuel (p.push value) rest
      | _ => none

def read? (cs : List Char) : Option Ipv6 := do
  match cs with
  | [] => none
  | [_] => none
  | ':' :: ':' :: rest => (← groups? rest.length ⟨[], some []⟩ rest).finish?
  | ':' :: _ => none
  | cs => (← groups? cs.length ⟨[], none⟩ cs).finish?

/-- Length of the run of zeros at the front. -/
def zeroRun (groups : List Nat) : Nat := (groups.takeWhile (· == 0)).length

/-- Start and length of the first longest run of zeros. -/
def longestGap (groups : List Nat) : Nat × Nat :=
  (List.range groups.length).foldl (fun best i =>
    let n := zeroRun (groups.drop i)
    if best.2 < n then (i, n) else best) (0, 0)

def groupText (groups : List Nat) : String := ":".intercalate (groups.map Text.hexText)

def text (a : Ipv6) : String :=
  let (start, length) := longestGap a.groups
  if length < 2 then groupText a.groups
  else groupText (a.groups.take start) ++ "::" ++ groupText (a.groups.drop (start + length))

end Ipv6

end Larder.Url
