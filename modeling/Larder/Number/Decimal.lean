import Larder.Number.Binary64

/-!
Shortest decimal text of a double.  `shortest` finds the fewest digits that round back to the value
and, among those, the digits nearest to it; the two printers place the point.
-/

namespace Larder

/-- A positive decimal magnitude `digits * 10 ^ exponent`. -/
structure Decimal where
  digits : Nat
  exponent : Int
deriving DecidableEq, Repr

namespace Decimal

/-- The `e` with `10 ^ e ≤ num / den < 10 ^ (e + 1)`, for positive arguments. -/
def floorLog10 (num den : Nat) : Int :=
  let guess := Binary64.floorLog2 num den * 30103 / 100000
  let atLeast (e : Int) : Bool := den * Nat.pow 10 e.toNat ≤ num * Nat.pow 10 (-e).toNat
  if !atLeast guess then guess - 1
  else if atLeast (guess + 1) then guess + 1
  else guess

/-- Removes trailing zeros, at most as many as there are digits. -/
def strip : Nat → Decimal → Decimal
  | 0, d => d
  | n + 1, d =>
    if d.digits % 10 = 0 ∧ d.digits ≠ 0 then strip n ⟨d.digits / 10, d.exponent + 1⟩ else d

/-- The reals that round to a positive double, as bounds over one denominator.  Both ends belong to
it exactly if the significand is even. -/
structure RoundingInterval where
  low : Nat
  value : Nat
  high : Nat
  denominator : Nat
  closed : Bool

/-- The ends are half way to the neighbours; below a power of two the neighbour is half as far. -/
def roundingInterval (x : Binary64) : RoundingInterval :=
  let m := x.significand
  let up := 1 <<< (x.power - 2).toNat
  let den := 1 <<< (-(x.power - 2)).toNat
  let below := if m = 1 <<< 52 ∧ x.power > -1074 then 1 else 2
  { low := (4 * m - below) * up, value := 4 * m * up, high := (4 * m + 2) * up,
    denominator := den, closed := m % 2 = 0 }

/-- Whether `d * 10 ^ e` rounds to the value of the interval. -/
def RoundingInterval.contains (r : RoundingInterval) (d : Nat) (e : Int) : Bool :=
  let point := d * Nat.pow 10 e.toNat * r.denominator
  let scale := Nat.pow 10 (-e).toNat
  if r.closed then r.low * scale ≤ point && point ≤ r.high * scale
  else r.low * scale < point && point < r.high * scale

/-- The neighbour of the value on the grid `10 ^ e` that rounds back; of two the nearer one, and the
even one half way between. -/
def RoundingInterval.onGrid? (r : RoundingInterval) (e : Int) : Option Nat :=
  let num := r.value * Nat.pow 10 (-e).toNat
  let den := r.denominator * Nat.pow 10 e.toNat
  let below := num / den
  match r.contains below e, r.contains (below + 1) e with
  | true, true => some (Binary64.roundHalfEven num den)
  | true, false => some below
  | false, true => some (below + 1)
  | false, false => none

/-- Tries ever finer grids, from `10 ^ e` downwards. -/
def RoundingInterval.search (r : RoundingInterval) : Nat → Int → Decimal
  | 0, e => ⟨r.value * Nat.pow 10 (-e).toNat / (r.denominator * Nat.pow 10 e.toNat), e⟩
  | n + 1, e =>
    match r.onGrid? e with
    | some d => ⟨d, e⟩
    | none => search r n (e - 1)

/-- Fewest digits that read back as the magnitude of `x`; seventeen always do. -/
def shortest (x : Binary64) : Decimal :=
  if x.isZero then ⟨0, 0⟩
  else
    let r := roundingInterval x
    strip 20 (r.search 17 (floorLog10 r.value r.denominator))

end Decimal

namespace Binary64

def digitChars (n : Nat) : List Char := Nat.toDigits 10 n

/-- Digits with a point, padded with zeros on the side that lacks them, and `.0` after an
integer. -/
def positional (digits : List Char) (exponent : Int) : List Char :=
  if 0 ≤ exponent then digits ++ List.replicate exponent.toNat '0' ++ ['.', '0']
  else
    let places := (-exponent).toNat
    let padded := List.replicate (places + 1 - digits.length) '0' ++ digits
    padded.take (padded.length - places) ++ '.' :: padded.drop (padded.length - places)

/-- One digit, the point and the other digits if there are any, and the power of ten with its
sign. -/
def scientific (digits : List Char) (exponent : Int) : List Char :=
  let power := exponent + digits.length - 1
  let fraction := if digits.length ≤ 1 then [] else '.' :: digits.tail
  digits.take 1 ++ fraction ++ 'e' :: (if power < 0 then '-' else '+') :: digitChars power.natAbs

def withSign (x : Binary64) (text : List Char) : List Char :=
  if x.negative then '-' :: text else text

/-- Text of a number in a document: positional from `1e-5` up to below `1e16`, else with a power. -/
def documentText (x : Binary64) : List Char :=
  let d := Decimal.shortest x
  let digits := digitChars d.digits
  let point := d.exponent + digits.length
  x.withSign (if x.isZero then ['0', '.', '0']
    else if -5 < point ∧ point ≤ 16 then positional digits d.exponent
    else scientific digits d.exponent)

/-- Text that never has a power, and has a fraction only where the value has one. -/
def plainText (x : Binary64) : List Char :=
  let d := Decimal.shortest x
  let digits := digitChars d.digits
  x.withSign (if 0 ≤ d.exponent then digits ++ List.replicate d.exponent.toNat '0'
    else positional digits d.exponent)

end Binary64

end Larder
