import Larder.Number.Decimal
import Larder.Text.LowerCase

/-!
Doubles together with the two infinities and the value that is no number, as settings may have them.
-/

namespace Larder

inductive Extended where
  | finite (x : Binary64)
  | infinite (negative : Bool)
  | nan
deriving DecidableEq

namespace Extended

/-- The double nearest to a decimal, past the largest one infinite. -/
def ofDecimal (negative : Bool) (digits : Nat) (exponent : Int) : Extended :=
  match Binary64.ofDecimal? negative digits exponent with
  | some x => finite x
  | none => infinite negative

def text : Extended → String
  | finite x => String.ofList x.plainText
  | infinite false => "inf"
  | infinite true => "-inf"
  | nan => "NaN"

def isZero : Extended → Bool
  | finite x => x.isZero
  | _ => false

/-- The nearest integer, a half away from zero, held between zero and the largest of the given
width. -/
def toNatural (bits : Nat) : Extended → Nat
  | finite x =>
    if x.negative then 0
    else min ((2 * x.numerator + x.denominator) / (2 * x.denominator)) ((1 <<< bits) - 1)
  | infinite false => (1 <<< bits) - 1
  | infinite true => 0
  | nan => 0

/-- Value of a run of decimal digits. -/
def digitsValue (cs : List Char) : Nat := cs.foldl (fun n c => n * 10 + (c.toNat - 48)) 0

/-- A sign, if one is there, and what follows it. -/
def signOf : List Char → Bool × List Char
  | '+' :: rest => (false, rest)
  | '-' :: rest => (true, rest)
  | cs => (false, cs)

/-- A signed integer of 64 bits: digits, with a sign or without. -/
def signed64? (cs : List Char) : Option Int :=
  let (negative, cs) := signOf cs
  if cs.isEmpty ∨ cs.any (!·.isDigit) then none
  else
    let n : Int := digitsValue cs
    let n := if negative then -n else n
    if -(1 <<< 63 : Nat) ≤ n ∧ n < (1 <<< 63 : Nat) then some n else none

/-- The power of ten after the digits of a number; `none` if what is there is no power. -/
def power? : List Char → Option Int
  | [] => some 0
  | c :: rest =>
    if c = 'e' ∨ c = 'E' then
      let (negative, digits) := signOf rest
      if digits.isEmpty ∨ digits.any (!·.isDigit) then none
      else some (if negative then -(digitsValue digits : Int) else digitsValue digits)
    else none

/-- Reads a number: digits on at least one side of a point, a power, or a word. -/
def read? (s : String) : Option Extended := do
  let (negative, cs) := signOf s.toList
  let word := Text.lowerAscii (String.ofList cs)
  if word = "inf" ∨ word = "infinity" then return infinite negative
  else if word = "nan" then return nan
  else
    let whole := cs.takeWhile Char.isDigit
    let rest := cs.drop whole.length
    let (fraction, rest) := match rest with
      | '.' :: after => (after.takeWhile Char.isDigit, after.dropWhile Char.isDigit)
      | _ => ([], rest)
    if whole.isEmpty ∧ fraction.isEmpty then none
    else
      let power ← power? rest
      return ofDecimal negative (digitsValue (whole ++ fraction)) (power - fraction.length)

end Extended

end Larder
