/-!
Finite double-precision numbers, as a sign and the rank of the magnitude among all finite
magnitudes.  The rank orders magnitudes, and its low 52 bits and the bits above them are the
fraction and the biased exponent, so a value is decoded by one division and nothing here needs
machine arithmetic.
-/

namespace Larder

/-- A finite double.  Magnitude `r` is the `r`-th smallest one, counted from zero. -/
structure Binary64 where
  negative : Bool
  rank : Nat
  rank_lt : rank < 2047 <<< 52
deriving DecidableEq

namespace Binary64

def zero : Binary64 := ⟨false, 0, by decide⟩

def negZero : Binary64 := ⟨true, 0, by decide⟩

def isZero (x : Binary64) : Bool := x.rank == 0

def neg (x : Binary64) : Binary64 := { x with negative := !x.negative }

/-- Integer part `m` of the decoding `m * 2 ^ q`. -/
def significand (x : Binary64) : Nat :=
  if x.rank < 1 <<< 52 then x.rank else (1 <<< 52) + x.rank % (1 <<< 52)

/-- Power `q` of the decoding `m * 2 ^ q`. -/
def power (x : Binary64) : Int :=
  if x.rank < 1 <<< 52 then -1074 else (x.rank >>> 52 : Nat) - 1075

/-- Numerator of the magnitude, over `denominator`. -/
def numerator (x : Binary64) : Nat := x.significand <<< x.power.toNat

def denominator (x : Binary64) : Nat := 1 <<< (-x.power).toNat

/-- Numeric equality: the two zeros are equal. -/
def same (x y : Binary64) : Bool :=
  x.rank == y.rank && (x.negative == y.negative || x.rank == 0)

/-- Place in the total order, in which the negative zero comes before the positive one. -/
def totalKey (x : Binary64) : Int :=
  if x.negative then -1 - (x.rank : Int) else x.rank

/-- Quotient rounded to the nearest integer, a half going to the even neighbour. -/
def roundHalfEven (num den : Nat) : Nat :=
  let whole := num / den
  let twice := 2 * (num % den)
  if twice < den then whole
  else if den < twice then whole + 1
  else whole + whole % 2

/-- The `e` with `2 ^ e ≤ num / den < 2 ^ (e + 1)`, for positive arguments. -/
def floorLog2 (num den : Nat) : Int :=
  let guess : Int := (Nat.log2 num : Int) - Nat.log2 den
  if den <<< guess.toNat ≤ num <<< (-guess).toNat then guess else guess - 1

/-- Rank of the magnitude nearest to `num / den`, ties to the even one, with no upper limit. -/
def nearestRank (num den : Nat) : Nat :=
  if num = 0 then 0
  else
    let q := max (floorLog2 num den - 52) (-1074)
    let m := roundHalfEven (num <<< (-q).toNat) (den <<< q.toNat)
    ((q + 1074).toNat <<< 52) + m

/-- The double nearest to a ratio; `none` where that is past the largest finite one. -/
def ofRatio? (negative : Bool) (num den : Nat) : Option Binary64 :=
  let r := nearestRank num den
  if h : r < 2047 <<< 52 then some ⟨negative, r, h⟩ else none

def largest : Binary64 := ⟨false, (2047 <<< 52) - 1, by decide⟩

/-- The double nearest to an integer.  Only integers past the finite doubles, far beyond the 64-bit
ones, end at the largest one. -/
def ofInt (n : Int) : Binary64 :=
  (ofRatio? (n < 0) n.natAbs 1).getD { largest with negative := n < 0 }

/-- The double nearest to `digits * 10 ^ exponent`.  Exponents that decide the answer by
themselves are cut off before any power is computed. -/
def ofDecimal? (negative : Bool) (digits : Nat) (exponent : Int) : Option Binary64 :=
  if digits = 0 then some ⟨negative, 0, by decide⟩
  else if 400 < exponent then none
  else if exponent < -(400 + (Nat.log2 digits : Int)) then some ⟨negative, 0, by decide⟩
  else ofRatio? negative (digits * Nat.pow 10 exponent.toNat) (Nat.pow 10 (-exponent).toNat)

/-- Correctly rounded product. -/
def mul? (x y : Binary64) : Option Binary64 :=
  ofRatio? (x.negative != y.negative) (x.numerator * y.numerator) (x.denominator * y.denominator)

/-- Correctly rounded quotient; `none` also for a zero divisor. -/
def div? (x y : Binary64) : Option Binary64 :=
  if y.isZero then none
  else
    ofRatio? (x.negative != y.negative) (x.numerator * y.denominator) (x.denominator * y.numerator)

end Binary64

end Larder
