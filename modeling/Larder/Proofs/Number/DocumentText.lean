import Mathlib.Data.List.TakeWhile
import Larder.Proofs.Number.Shortest

/-!
The text of a double determines it.

`readMagnitude` reads a text back as a number.  What it reads from the text of a double is the
decimal that was searched for, and no two magnitudes have a decimal in common, so equal texts come
from equal doubles.
-/

namespace Larder.Binary64

/-! ## Reading a text -/

/-- The power of ten written after a mantissa. -/
def readPower : List Char → Int
  | 'e' :: '-' :: digits => -(Nat.ofDigitChars 10 digits 0 : Int)
  | 'e' :: '+' :: digits => Nat.ofDigitChars 10 digits 0
  | _ => 0

theorem readPower_nil : readPower [] = 0 := rfl

/-- The number that an unsigned text stands for. -/
def readMagnitude (text : List Char) : ℚ :=
  let mantissa := text.takeWhile (· != 'e')
  let places := (mantissa.dropWhile (· != '.')).length - 1
  Nat.ofDigitChars 10 (mantissa.filter (· != '.')) 0
    * 10 ^ (readPower (text.dropWhile (· != 'e')) - (places : Int))

section Reading

variable {whole fraction tail : List Char}

/-- A test tells apart what passes it and what does not. -/
theorem ne_of_test {α : Type} {p : α → Bool} {a b : α} (ha : p a = true)
    (hb : p b = false) : a ≠ b := by
  rintro rfl
  rw [ha] at hb
  cases hb

theorem ne_of_isDigit {c d : Char} (hd : d.isDigit = false) (hc : c.isDigit = true) :
    (c != d) = true :=
  bne_iff_ne.2 (ne_of_test hc hd)

theorem takeWhile_power (hw : ∀ c ∈ whole, (c != 'e') = true)
    (ht : tail = [] ∨ tail.head? = some 'e') :
    (whole ++ tail).takeWhile (· != 'e') = whole ∧ (whole ++ tail).dropWhile (· != 'e') = tail := by
  rw [List.takeWhile_append_of_pos hw, List.dropWhile_append_of_pos hw]
  cases tail with
  | nil => simp
  | cons c cs =>
    obtain rfl : c = 'e' := by simpa using ht
    simp

theorem readMagnitude_integer (hw : ∀ c ∈ whole, c.isDigit = true)
    (ht : tail = [] ∨ tail.head? = some 'e') :
    readMagnitude (whole ++ tail) = Nat.ofDigitChars 10 whole 0 * 10 ^ readPower tail := by
  obtain ⟨htake, hdrop⟩ := takeWhile_power (fun c hc => ne_of_isDigit (by decide) (hw c hc)) ht
  have hpoint : ∀ c ∈ whole, (c != '.') = true := fun c hc => ne_of_isDigit (by decide) (hw c hc)
  unfold readMagnitude
  dsimp only
  rw [htake, hdrop, List.filter_eq_self.2 hpoint]
  have hnone : whole.dropWhile (· != '.') = [] := by
    rw [List.dropWhile_eq_nil_iff]
    exact hpoint
  rw [hnone]
  simp

theorem readMagnitude_point (hw : ∀ c ∈ whole, c.isDigit = true)
    (hf : ∀ c ∈ fraction, c.isDigit = true) (ht : tail = [] ∨ tail.head? = some 'e') :
    readMagnitude (whole ++ '.' :: fraction ++ tail)
      = Nat.ofDigitChars 10 (whole ++ fraction) 0
        * 10 ^ (readPower tail - (fraction.length : Int)) := by
  have hwp : ∀ c ∈ whole, (c != '.') = true := fun c hc => ne_of_isDigit (by decide) (hw c hc)
  have hfp : ∀ c ∈ fraction, (c != '.') = true := fun c hc => ne_of_isDigit (by decide) (hf c hc)
  have hmantissa : ∀ c ∈ whole ++ '.' :: fraction, (c != 'e') = true := by
    intro c hc
    rcases List.mem_append.1 hc with h | h
    · exact ne_of_isDigit (by decide) (hw c h)
    · rcases List.mem_cons.1 h with rfl | h
      · decide
      · exact ne_of_isDigit (by decide) (hf c h)
  obtain ⟨htake, hdrop⟩ := takeWhile_power hmantissa ht
  unfold readMagnitude
  dsimp only
  rw [htake, hdrop, List.filter_append, List.filter_cons, List.filter_eq_self.2 hwp,
    List.filter_eq_self.2 hfp, List.dropWhile_append_of_pos hwp]
  simp

end Reading

/-! ## Reading what is printed -/

section Printing

variable {digits : List Char}

theorem isDigit_digitChars (n : Nat) : ∀ c ∈ digitChars n, c.isDigit = true :=
  fun _ hc => Nat.isDigit_of_mem_toDigits (by norm_num) (by norm_num) hc

theorem isDigit_replicate_zero (n : Nat) : ∀ c ∈ List.replicate n '0', c.isDigit = true := by
  intro c hc
  rw [List.eq_of_mem_replicate hc]
  rfl

/-- A positional text is its digits with a point among them, after zeros at one side. -/
theorem positional_eq (hd : ∀ c ∈ digits, c.isDigit = true) (hne : digits ≠ []) (e : Int) :
    ∃ whole fraction, positional digits e = whole ++ '.' :: fraction ∧ whole ≠ [] ∧
      (∀ c ∈ whole, c.isDigit = true) ∧ (∀ c ∈ fraction, c.isDigit = true) ∧
      (Nat.ofDigitChars 10 (whole ++ fraction) 0 : ℚ) * 10 ^ (-(fraction.length : Int))
        = Nat.ofDigitChars 10 digits 0 * 10 ^ e := by
  unfold positional
  split
  · next he =>
    obtain ⟨n, rfl⟩ := Int.eq_ofNat_of_zero_le he
    refine ⟨digits ++ List.replicate n '0', ['0'], rfl, ?_,
      List.forall_mem_append.2 ⟨hd, isDigit_replicate_zero n⟩, isDigit_replicate_zero 1, ?_⟩
    · exact fun h => hne (List.append_eq_nil_iff.1 h).1
    · rw [List.append_assoc, ← List.replicate_succ', Nat.ofDigitChars_append,
        Nat.ofDigitChars_replicate_zero, zpow_natCast, pow_succ]
      push_cast
      norm_num
      ring
  · next he =>
    dsimp only
    obtain ⟨places, hplaces⟩ : ∃ places, (-e).toNat = places := ⟨_, rfl⟩
    obtain ⟨padded, hpadded⟩ : ∃ padded, List.replicate (places + 1 - digits.length) '0' ++ digits
        = padded := ⟨_, rfl⟩
    rw [hplaces, hpadded]
    have hall : ∀ c ∈ padded, c.isDigit = true := by
      rw [← hpadded]
      exact List.forall_mem_append.2 ⟨isDigit_replicate_zero _, hd⟩
    have hlength : places + 1 ≤ padded.length := by
      rw [← hpadded, List.length_append, List.length_replicate]
      omega
    refine ⟨_, _, rfl, ?_, fun c hc => hall c (List.mem_of_mem_take hc),
      fun c hc => hall c (List.mem_of_mem_drop hc), ?_⟩
    · rw [← List.length_pos_iff, List.length_take]
      omega
    · rw [List.take_append_drop, List.length_drop, Nat.sub_sub_self (by omega), ← hpadded,
        Nat.ofDigitChars_append, Nat.ofDigitChars_replicate_zero, Nat.mul_zero]
      congr 2
      omega

theorem readMagnitude_positional (hd : ∀ c ∈ digits, c.isDigit = true) (hne : digits ≠ [])
    (e : Int) :
    readMagnitude (positional digits e) = Nat.ofDigitChars 10 digits 0 * 10 ^ e := by
  obtain ⟨whole, fraction, htext, -, hw, hf, hvalue⟩ := positional_eq hd hne e
  have h := @readMagnitude_point _ _ [] hw hf (Or.inl rfl)
  rw [List.append_nil, readPower_nil, zero_sub, hvalue] at h
  rw [htext, h]

theorem readMagnitude_scientific (hd : ∀ c ∈ digits, c.isDigit = true) (hne : digits ≠ [])
    (e : Int) :
    readMagnitude (scientific digits e) = Nat.ofDigitChars 10 digits 0 * 10 ^ e := by
  obtain ⟨first, others, rfl⟩ := List.exists_cons_of_ne_nil hne
  unfold scientific
  dsimp only
  obtain ⟨power, hpower⟩ : ∃ power : Int, e + ((first :: others).length : Int) - 1 = power :=
    ⟨_, rfl⟩
  rw [hpower]
  obtain ⟨tail, htail⟩ : ∃ tail, 'e' :: (if power < 0 then '-' else '+') :: digitChars power.natAbs
      = tail := ⟨_, rfl⟩
  have hread : readPower tail = power := by
    rw [← htail, digitChars]
    split
    · rw [readPower, Nat.ofDigitChars_ten_toDigits]
      omega
    · rw [readPower, Nat.ofDigitChars_ten_toDigits]
      omega
  have hstart : tail = [] ∨ tail.head? = some 'e' := by
    rw [← htail]
    exact Or.inr rfl
  rw [htail]
  cases others with
  | nil =>
    have h := readMagnitude_integer hd hstart
    rw [hread] at h
    obtain rfl : power = e := by rw [← hpower]; simp
    exact h
  | cons second others =>
    rw [List.forall_mem_cons] at hd
    have h := @readMagnitude_point [first] _ _ (List.forall_mem_singleton.2 hd.1) hd.2 hstart
    rw [hread] at h
    have hplaces : power - ((second :: others).length : Int) = e := by
      rw [← hpower, List.length_cons]
      push_cast
      ring
    rw [hplaces] at h
    exact h

/-- Characters of a number's text; none of them can follow a value in a document. -/
def isNumeral (c : Char) : Bool := c.isDigit || c == '-' || c == '+' || c == '.' || c == 'e'

/-- What the texts of magnitudes have in common, apart from their values. -/
structure MagnitudeShape (text : List Char) : Prop where
  head : ∃ c rest, text = c :: rest ∧ c.isDigit = true
  numeral : ∀ c ∈ text, isNumeral c = true
  marked : '.' ∈ text ∨ 'e' ∈ text

theorem isNumeral_of_isDigit {c : Char} (hc : c.isDigit = true) : isNumeral c = true := by
  unfold isNumeral
  rw [hc]
  rfl

theorem positional_shape (hd : ∀ c ∈ digits, c.isDigit = true) (hne : digits ≠ []) (e : Int) :
    MagnitudeShape (positional digits e) := by
  obtain ⟨whole, fraction, htext, hwne, hw, hf, -⟩ := positional_eq hd hne e
  obtain ⟨first, others, rfl⟩ := List.exists_cons_of_ne_nil hwne
  rw [htext]
  refine ⟨⟨first, _, rfl, (List.forall_mem_cons.1 hw).1⟩, ?_, Or.inl (by simp)⟩
  refine List.forall_mem_append.2 ⟨fun c hc => isNumeral_of_isDigit (hw c hc), ?_⟩
  exact List.forall_mem_cons.2 ⟨rfl, fun c hc => isNumeral_of_isDigit (hf c hc)⟩

theorem scientific_shape (hd : ∀ c ∈ digits, c.isDigit = true) (hne : digits ≠ []) (e : Int) :
    MagnitudeShape (scientific digits e) := by
  obtain ⟨first, others, rfl⟩ := List.exists_cons_of_ne_nil hne
  rw [List.forall_mem_cons] at hd
  unfold scientific
  dsimp only
  refine ⟨⟨first, _, rfl, hd.1⟩, ?_, Or.inr (by simp)⟩
  refine List.forall_mem_append.2 ⟨List.forall_mem_append.2 ⟨?_, ?_⟩,
    List.forall_mem_cons.2 ⟨rfl, List.forall_mem_cons.2 ⟨?_, ?_⟩⟩⟩
  · exact List.forall_mem_singleton.2 (isNumeral_of_isDigit hd.1)
  · split
    · exact List.forall_mem_nil _
    · exact List.forall_mem_cons.2 ⟨rfl, fun c hc => isNumeral_of_isDigit (hd.2 c hc)⟩
  · split <;> rfl
  · exact fun c hc => isNumeral_of_isDigit (isDigit_digitChars _ c hc)

end Printing

/-! ## The text of a double -/

def magnitudeText (x : Binary64) : List Char :=
  let d := Decimal.shortest x
  let digits := digitChars d.digits
  let point := d.exponent + digits.length
  if x.isZero then ['0', '.', '0']
  else if -5 < point ∧ point ≤ 16 then positional digits d.exponent
  else scientific digits d.exponent

theorem documentText_eq (x : Binary64) : x.documentText = x.withSign x.magnitudeText := rfl

theorem magnitudeText_shape (x : Binary64) : MagnitudeShape x.magnitudeText := by
  have hd := isDigit_digitChars (Decimal.shortest x).digits
  unfold magnitudeText
  dsimp only
  split
  · exact ⟨⟨'0', _, rfl, rfl⟩, List.all_eq_true.1 rfl, Or.inl (by decide)⟩
  · split
    · exact positional_shape hd Nat.toDigits_ne_nil _
    · exact scientific_shape hd Nat.toDigits_ne_nil _

theorem readMagnitude_magnitudeText (x : Binary64) :
    readMagnitude x.magnitudeText = (Decimal.shortest x).value := by
  have hd := isDigit_digitChars (Decimal.shortest x).digits
  have hvalue : Nat.ofDigitChars 10 (digitChars (Decimal.shortest x).digits) 0
      = (Decimal.shortest x).digits :=
    Nat.ofDigitChars_ten_toDigits
  unfold magnitudeText Decimal.value
  dsimp only
  split
  · next hzero =>
    rw [Decimal.shortest, if_pos hzero]
    have h := @readMagnitude_point ['0'] ['0'] [] (isDigit_replicate_zero 1)
        (isDigit_replicate_zero 1) (Or.inl rfl)
    rw [show Nat.ofDigitChars 10 (['0'] ++ ['0']) 0 = 0 from rfl] at h
    simpa using h
  · split
    · rw [readMagnitude_positional hd Nat.toDigits_ne_nil, hvalue]
    · rw [readMagnitude_scientific hd Nat.toDigits_ne_nil, hvalue]

/-- The decimals of two magnitudes differ; that of zero is the only one that is not positive. -/
theorem rank_eq_of_value_eq {x y : Binary64}
    (h : (Decimal.shortest x).value = (Decimal.shortest y).value) :
    x.rank = y.rank := by
  have positive : ∀ {z : Binary64}, z.rank ≠ 0 → 0 < (Decimal.shortest z).value :=
    fun hz => (lowEnd_pos hz).trans_le (Decimal.shortest_roundsTo hz).bounds.1
  have zero : ∀ {z : Binary64}, z.rank = 0 → (Decimal.shortest z).value = 0 := by
    intro z hz
    rw [Decimal.shortest, if_pos (by unfold isZero; rw [hz]; rfl), Decimal.value]
    norm_num
  by_cases hx : x.rank = 0
  · by_cases hy : y.rank = 0
    · rw [hx, hy]
    · rw [zero hx] at h
      exact absurd h (positive hy).ne
  · by_cases hy : y.rank = 0
    · rw [zero hy] at h
      exact absurd h (positive hx).ne'
    · have hround := Decimal.shortest_roundsTo hx
      rw [h] at hround
      exact rank_eq_of_roundsTo hround (Decimal.shortest_roundsTo hy)

theorem documentText_injective {x y : Binary64} (h : x.documentText = y.documentText) : x = y := by
  obtain ⟨⟨c, rest, hc, hcd⟩, -, -⟩ := magnitudeText_shape x
  obtain ⟨⟨d, rest', hd, hdd⟩, -, -⟩ := magnitudeText_shape y
  rw [documentText_eq, documentText_eq] at h
  unfold withSign at h
  have parts : x.negative = y.negative ∧ x.magnitudeText = y.magnitudeText := by
    cases hx : x.negative <;> cases hy : y.negative <;>
      simp only [hx, hy, if_true, if_false, Bool.false_eq_true] at h
    · exact ⟨rfl, h⟩
    · -- A magnitude begins with a digit, so a sign is no part of it.
      rw [hc] at h
      obtain ⟨rfl, -⟩ := List.cons.inj h
      exact absurd hcd (by decide)
    · rw [hd] at h
      obtain ⟨rfl, -⟩ := List.cons.inj h
      exact absurd hdd (by decide)
    · exact ⟨rfl, (List.cons.inj h).2⟩
  have hvalue : (Decimal.shortest x).value = (Decimal.shortest y).value := by
    rw [← readMagnitude_magnitudeText, ← readMagnitude_magnitudeText, parts.2]
  have hrank := rank_eq_of_value_eq hvalue
  obtain ⟨xs, xr, _⟩ := x
  obtain ⟨ys, yr, _⟩ := y
  obtain rfl : xs = ys := parts.1
  obtain rfl : xr = yr := hrank
  rfl

end Larder.Binary64
