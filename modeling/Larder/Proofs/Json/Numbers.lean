import Larder.Proofs.Json.Text
import Larder.Proofs.Number.Digits

/-!
Reading numbers back.

A number is read up to the first character that cannot belong to it, so what is read of a text does
not depend on a comma or a closing bracket behind it.  Integers are read back as they were.
-/

namespace Larder.Json

/-- What stands behind a value in a text: nothing, a comma or a closing bracket. -/
def Closes (rest : List Char) : Prop := ∀ c ∈ rest.head?, c = ',' ∨ c = ']' ∨ c = '\x7d'

theorem Closes.ends {rest : List Char} (h : Closes rest) : Ends rest := by
  intro c hc
  rcases h c hc with rfl | rfl | rfl <;> decide

theorem Closes.not_digit {rest : List Char} (h : Closes rest) :
    ∀ c ∈ rest.head?, c.isDigit = false := by
  intro c hc
  rcases h c hc with rfl | rfl | rfl <;> decide

/-- What is read of a text, with something more behind it. -/
def further {α : Type} (rest : List Char) (x : α × List Char) : α × List Char := (x.1, x.2 ++ rest)

section Locality

variable {rest : List Char} (hrest : Closes rest)
include hrest

theorem takeWhile_digits_append (cs : List Char) :
    (cs ++ rest).takeWhile Char.isDigit = cs.takeWhile Char.isDigit := by
  induction cs with
  | nil =>
    cases rest with
    | nil => rfl
    | cons c rest => simp [hrest.not_digit c rfl]
  | cons c cs ih => by_cases hc : c.isDigit = true <;> simp [hc, ih]

theorem dropWhile_digits_append (cs : List Char) :
    (cs ++ rest).dropWhile Char.isDigit = cs.dropWhile Char.isDigit ++ rest := by
  induction cs with
  | nil =>
    cases rest with
    | nil => rfl
    | cons c rest => simp [hrest.not_digit c rfl]
  | cons c cs ih => by_cases hc : c.isDigit = true <;> simp [hc, ih]

/-- The sign of an exponent, and what follows it. -/
def exponentSign : List Char → Bool × List Char
  | '+' :: cs => (false, cs)
  | '-' :: cs => (true, cs)
  | cs => (false, cs)

theorem exponentSign_append (cs : List Char) :
    exponentSign (cs ++ rest) = further rest (exponentSign cs) := by
  cases cs with
  | nil =>
    cases rest with
    | nil => rfl
    | cons c rest => rcases hrest c rfl with rfl | rfl | rfl <;> rfl
  | cons c cs =>
    by_cases hplus : c = '+'
    · rw [hplus]; rfl
    · by_cases hminus : c = '-'
      · rw [hminus]; rfl
      · simp [exponentSign, further, hplus, hminus]

omit hrest in
theorem exponent?_eq (cs : List Char) : exponent? cs =
    if ((exponentSign cs).2.takeWhile Char.isDigit).isEmpty then none
    else some ((exponentSign cs).1, (exponentSign cs).2.takeWhile Char.isDigit,
      (exponentSign cs).2.dropWhile Char.isDigit) := by
  cases cs with
  | nil => rfl
  | cons c cs =>
    by_cases hplus : c = '+'
    · rw [hplus]; rfl
    · by_cases hminus : c = '-'
      · rw [hminus]; rfl
      · simp [exponent?, exponentSign, hplus, hminus]

theorem exponent?_append (cs : List Char) :
    exponent? (cs ++ rest) = (exponent? cs).map fun x => (x.1, further rest x.2) := by
  rw [exponent?_eq, exponent?_eq, exponentSign_append hrest]
  simp only [further, takeWhile_digits_append hrest, dropWhile_digits_append hrest]
  split <;> rfl

/-- What is read behind the `e` of an exponent. -/
def scaled? (negative : Bool) (digits : Nat) (power : Int) (cs : List Char) :
    Option (Number × List Char) := do
  let (down, written, cs) ← exponent? cs
  if 1 <<< 31 ≤ exponentValue written then
    if digits ≠ 0 ∧ !down then none
    else some (Number.float (if negative then Binary64.negZero else Binary64.zero), cs)
  else
    let total := if down then power - exponentValue written else power + exponentValue written
    (float? negative digits total).map (·, cs)

theorem scaled?_append (negative : Bool) (digits : Nat) (power : Int) (cs : List Char) :
    scaled? negative digits power (cs ++ rest)
      = (scaled? negative digits power cs).map (further rest) := by
  unfold scaled?
  rw [exponent?_append hrest]
  cases exponent? cs with
  | none => rfl
  | some x =>
    obtain ⟨down, written, tail⟩ := x
    simp only [Option.map_some, Option.bind_eq_bind, Option.bind_some, further]
    split
    · split <;> rfl
    · rw [Option.map_map]
      rfl

theorem withExponent?_append (negative : Bool) (digits : Nat) (power : Int) (cs : List Char) :
    withExponent? negative digits power (cs ++ rest)
      = (withExponent? negative digits power cs).map (further rest) := by
  have hfinish : ∀ cs : List Char, (float? negative digits power).map (·, cs ++ rest)
      = ((float? negative digits power).map (·, cs)).map (further rest) := by
    intro cs
    rw [Option.map_map]
    rfl
  cases cs with
  | nil =>
    cases rest with
    | nil => exact hfinish []
    | cons c tail => rcases hrest c rfl with rfl | rfl | rfl <;> exact hfinish []
  | cons c cs =>
    by_cases hsmall : c = 'e'
    · rw [hsmall]
      exact scaled?_append hrest negative digits power cs
    · by_cases hlarge : c = 'E'
      · rw [hlarge]
        exact scaled?_append hrest negative digits power cs
      · have hplain : ∀ ds, withExponent? negative digits power (c :: ds)
            = (float? negative digits power).map (·, c :: ds) := by
          intro ds
          simp [withExponent?, hsmall, hlarge]
        rw [List.cons_append, hplain, hplain]
        exact hfinish (c :: cs)

/-- A number without a point or an exponent. -/
def plain? (negative : Bool) (s : Significand) (cs : List Char) : Option (Number × List Char) :=
  if s.dropped ≠ 0 then withExponent? negative s.digits s.dropped cs
  else if !negative then some (.integer s.digits, cs)
  else if s.digits = 0 ∨ 1 <<< 63 < s.digits then (float? true s.digits 0).map (·, cs)
  else some (.integer (-(s.digits : Int)), cs)

theorem plain?_append (negative : Bool) (s : Significand) (cs : List Char) :
    plain? negative s (cs ++ rest) = (plain? negative s cs).map (further rest) := by
  unfold plain?
  split
  · exact withExponent?_append hrest _ _ _ cs
  · split
    · rfl
    · split
      · rw [Option.map_map]
        rfl
      · rfl

/-- A number with a point, from what follows the point. -/
def fraction? (negative : Bool) (s : Significand) (cs : List Char) : Option (Number × List Char) :=
  if (cs.takeWhile Char.isDigit).isEmpty then none
  else
    let (digits, power) := addFraction s.digits s.dropped (cs.takeWhile Char.isDigit)
    withExponent? negative digits power (cs.dropWhile Char.isDigit)

theorem fraction?_append (negative : Bool) (s : Significand) (cs : List Char) :
    fraction? negative s (cs ++ rest) = (fraction? negative s cs).map (further rest) := by
  unfold fraction?
  simp only [takeWhile_digits_append hrest, dropWhile_digits_append hrest]
  split
  · rfl
  · exact withExponent?_append hrest _ _ _ _

theorem numberTail?_append (negative : Bool) (whole cs : List Char) :
    numberTail? negative whole (cs ++ rest)
      = (numberTail? negative whole cs).map (further rest) := by
  cases cs with
  | nil =>
    cases rest with
    | nil => exact plain?_append hrest negative (Significand.whole whole) []
    | cons c tail =>
      rcases hrest c rfl with rfl | rfl | rfl <;>
        exact plain?_append hrest negative (Significand.whole whole) []
  | cons c cs =>
    by_cases hpoint : c = '.'
    · rw [hpoint]
      exact fraction?_append hrest negative (Significand.whole whole) cs
    · by_cases hsmall : c = 'e'
      · rw [hsmall]
        exact withExponent?_append hrest _ _ _ ('e' :: cs)
      · by_cases hlarge : c = 'E'
        · rw [hlarge]
          exact withExponent?_append hrest _ _ _ ('E' :: cs)
        · have hplain : ∀ ds, numberTail? negative whole (c :: ds)
              = plain? negative (Significand.whole whole) (c :: ds) := by
            intro ds
            simp [numberTail?, plain?, hpoint, hsmall, hlarge]
          rw [List.cons_append, hplain, hplain]
          exact plain?_append hrest negative (Significand.whole whole) (c :: cs)

/-- A number behind its sign. -/
def unsigned? (negative : Bool) (cs : List Char) : Option (Number × List Char) :=
  let whole := cs.takeWhile Char.isDigit
  match whole with
  | [] => none
  | '0' :: _ :: _ => none
  | _ => numberTail? negative whole (cs.dropWhile Char.isDigit)

theorem unsigned?_append (negative : Bool) (cs : List Char) :
    unsigned? negative (cs ++ rest) = (unsigned? negative cs).map (further rest) := by
  unfold unsigned?
  rw [takeWhile_digits_append hrest, dropWhile_digits_append hrest]
  dsimp only
  split
  · rfl
  · rfl
  · exact numberTail?_append hrest negative _ _

omit hrest in
theorem number?_negative (cs : List Char) : number? ('-' :: cs) = unsigned? true cs := by
  unfold number? unsigned?
  rfl

omit hrest in
theorem number?_positive {cs : List Char} (h : '-' ∉ cs.head?) :
    number? cs = unsigned? false cs := by
  cases cs with
  | nil => rfl
  | cons c cs =>
    have hc : c ≠ '-' := fun heq => h (by rw [heq]; rfl)
    unfold number? unsigned?
    split
    rename_i negative digits hsplit
    split at hsplit
    · next heq => exact absurd (List.cons.inj heq).1 hc
    · obtain ⟨rfl, rfl⟩ := Prod.mk.inj hsplit
      rfl

theorem number?_append (cs : List Char) :
    number? (cs ++ rest) = (number? cs).map (further rest) := by
  cases cs with
  | nil =>
    have hhead : '-' ∉ rest.head? := fun h => absurd (hrest.ends '-' h) (by decide)
    rw [List.nil_append, number?_positive hhead]
    exact unsigned?_append hrest false []
  | cons c cs =>
    by_cases hc : c = '-'
    · rw [hc, List.cons_append, number?_negative, number?_negative]
      exact unsigned?_append hrest true cs
    · have hhead : ∀ ds, '-' ∉ (c :: ds).head? := fun ds h => hc (Option.some.inj h)
      rw [List.cons_append, number?_positive (hhead _), number?_positive (hhead _)]
      exact unsigned?_append hrest false (c :: cs)

end Locality

/-! ## Integers -/

theorem whole_concat (ds : List Char) (c : Char) (hdropped : (Significand.whole ds).dropped = 0)
    (hfits : (Significand.whole ds).digits * 10 + digitValue c < 1 <<< 64) :
    Significand.whole (ds ++ [c]) = ⟨(Significand.whole ds).digits * 10 + digitValue c, 0⟩ := by
  have hstep : Significand.whole (ds ++ [c]) = if (Significand.whole ds).dropped = 0 ∧
      (Significand.whole ds).digits * 10 + digitValue c < 1 <<< 64 then
        ⟨(Significand.whole ds).digits * 10 + digitValue c, 0⟩
      else ⟨(Significand.whole ds).digits, (Significand.whole ds).dropped + 1⟩ := by
    unfold Significand.whole
    rw [List.foldl_append]
    rfl
  rw [hstep, if_pos ⟨hdropped, hfits⟩]

theorem whole_toDigits {n : Nat} (hn : n < 1 <<< 64) :
    Significand.whole (Nat.toDigits 10 n) = ⟨n, 0⟩ := by
  have hvalue : ∀ n < 10, digitValue n.digitChar = n := by decide
  induction n using Nat.strongRecOn with
  | ind n ih =>
    rw [Nat.toDigits_eq_if (by omega)]
    by_cases hsmall : n < 10
    · have hone := whole_concat [] n.digitChar rfl
      rw [hvalue n hsmall] at hone
      rw [if_pos hsmall]
      have hzero : (Significand.whole []).digits * 10 + n = n := Nat.zero_add n
      rw [hzero] at hone
      exact hone hn
    · have hrec := ih (n / 10) (by omega) (by omega)
      have hlast := whole_concat (Nat.toDigits 10 (n / 10)) (n % 10).digitChar
      rw [hrec, hvalue (n % 10) (by omega)] at hlast
      have hdigits : n / 10 * 10 + n % 10 = n := by omega
      rw [hdigits] at hlast
      rw [if_neg hsmall]
      exact hlast rfl hn

theorem unsigned?_toDigits (negative : Bool) (n : Nat) :
    unsigned? negative (Nat.toDigits 10 n) = numberTail? negative (Nat.toDigits 10 n) [] := by
  have hdigits : ∀ c ∈ Nat.toDigits 10 n, c.isDigit = true :=
    fun c hc => Nat.isDigit_of_mem_toDigits (by omega) (by omega) hc
  have htake : (Nat.toDigits 10 n).takeWhile Char.isDigit = Nat.toDigits 10 n :=
    List.takeWhile_eq_self_iff.2 hdigits
  have hdrop : (Nat.toDigits 10 n).dropWhile Char.isDigit = [] :=
    List.dropWhile_eq_nil_iff.2 hdigits
  unfold unsigned?
  rw [htake, hdrop]
  dsimp only
  split
  · next h => exact absurd h Nat.toDigits_ne_nil
  · next c cs h =>
    exfalso
    by_cases hzero : n = 0
    · rw [hzero] at h
      cases h
    · exact toDigits_head (Nat.pos_of_ne_zero hzero) '0' (by rw [h]; rfl) rfl
  · rfl

theorem number?_integerChars {n : Int} (hn : (Number.integer n).InRange) :
    number? (integerChars n) = some (.integer n, []) := by
  obtain ⟨hlow, hhigh⟩ := hn
  have hwhole := whole_toDigits (n := n.natAbs) (by omega)
  unfold integerChars
  by_cases hneg : n < 0
  · rw [if_pos hneg, number?_negative, unsigned?_toDigits]
    show plain? true (Significand.whole (Nat.toDigits 10 n.natAbs)) [] = _
    rw [hwhole]
    have hrange : ¬ (n.natAbs = 0 ∨ 1 <<< 63 < n.natAbs) := by omega
    have hvalue : -(n.natAbs : Int) = n := by omega
    unfold plain?
    dsimp only
    rw [if_neg (by decide), if_neg (by decide), if_neg hrange, hvalue]
  · have hhead : '-' ∉ (Nat.toDigits 10 n.natAbs).head? := by
      intro h
      have hdigit : ('-' : Char).isDigit = true :=
        Nat.isDigit_of_mem_toDigits (b := 10) (n := n.natAbs) (by omega) (by omega)
          (List.mem_of_mem_head? h)
      exact absurd hdigit (by decide)
    rw [if_neg hneg, number?_positive hhead, unsigned?_toDigits]
    show plain? false (Significand.whole (Nat.toDigits 10 n.natAbs)) [] = _
    rw [hwhole]
    have hvalue : (n.natAbs : Int) = n := by omega
    unfold plain?
    dsimp only
    rw [if_neg (by decide), if_pos (by decide), hvalue]

end Larder.Json
