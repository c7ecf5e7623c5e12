import Larder.Number.Extended
import Mathlib.Data.List.Basic

/-!
The decimal digits of a number and the number of a run of digits.

The digits of a number are read as that number.  A run of digits is what is written for its number
if no zero stands in front, so it is with integers that have no plus sign either.
-/

namespace Larder

theorem toDigits_head {n : Nat} (hn : 0 < n) : ∀ c ∈ (Nat.toDigits 10 n).head?, c ≠ '0' := by
  induction n using Nat.strongRecOn with
  | ind n ih =>
    rw [Nat.toDigits_eq_if (by omega)]
    by_cases hsmall : n < 10
    · rw [if_pos hsmall]
      have hdigit : ∀ n < 10, 0 < n → n.digitChar ≠ '0' := by decide
      intro c hc
      rw [← Option.some.inj hc]
      exact hdigit n hsmall hn
    · rw [if_neg hsmall]
      have hrec := ih (n / 10) (by omega) (by omega)
      rw [List.head?_append_of_ne_nil _ Nat.toDigits_ne_nil]
      exact hrec

namespace Extended

theorem foldl_digits (cs : List Char) (m : Nat) :
    cs.foldl (fun n c => n * 10 + (c.toNat - 48)) m = Nat.ofDigitChars 10 cs m := by
  induction cs generalizing m with
  | nil => rfl
  | cons c rest ih =>
    rw [List.foldl_cons, ih, Nat.mul_comm]
    rfl

theorem digitsValue_toDigits (n : Nat) : digitsValue (Nat.toDigits 10 n) = n :=
  (foldl_digits _ 0).trans Nat.ofDigitChars_ten_toDigits

theorem digit_bounds {c : Char} (hc : c.isDigit = true) : 48 ≤ c.toNat ∧ c.toNat ≤ 57 := by
  simp only [Char.isDigit, Bool.and_eq_true, decide_eq_true_eq, ge_iff_le, UInt32.le_iff_toNat_le]
    at hc
  exact hc

theorem toDigits_digit {c : Char} (hc : c.isDigit = true) :
    Nat.toDigits 10 (c.toNat - 48) = [c] := by
  obtain ⟨hlow, hhigh⟩ := digit_bounds hc
  have hall : ∀ d < 10, Nat.toDigits 10 d = [Char.ofNat (d + 48)] := by decide
  rw [hall _ (by omega), Nat.sub_add_cancel hlow, Char.ofNat_toNat]

/-- Digits behind a number that is not zero go on with it. -/
theorem toDigits_append {m : Nat} (hm : 0 < m) {cs : List Char} (hcs : ∀ c ∈ cs, c.isDigit = true) :
    Nat.toDigits 10 m ++ cs
      = Nat.toDigits 10 (cs.foldl (fun n c => n * 10 + (c.toNat - 48)) m) := by
  induction cs generalizing m with
  | nil => exact List.append_nil _
  | cons c cs ih =>
    have hc := hcs c List.mem_cons_self
    obtain ⟨hlow, hhigh⟩ := digit_bounds hc
    have hnext :=
      Nat.toDigits_append_toDigits (b := 10) (d := c.toNat - 48) (by decide) hm (by omega)
    rw [toDigits_digit hc, Nat.mul_comm] at hnext
    rw [List.foldl_cons, ← ih (by omega) fun d hd => hcs d (List.mem_cons_of_mem c hd), ← hnext,
      List.append_assoc, List.singleton_append]

/-- Digits are those of their number if they are a single zero or have none in front. -/
theorem toDigits_digitsValue_iff {c : Char} {cs : List Char}
    (hcs : ∀ d ∈ c :: cs, d.isDigit = true) :
    Nat.toDigits 10 (digitsValue (c :: cs)) = c :: cs ↔ c :: cs = ['0'] ∨ c ≠ '0' := by
  have hrest : ∀ d ∈ cs, d.isDigit = true := fun d hd => hcs d (List.mem_cons_of_mem c hd)
  have hc := hcs c List.mem_cons_self
  constructor
  · intro h
    by_cases hzero : c = '0'
    · refine Or.inl ?_
      by_cases hvalue : 0 < digitsValue (c :: cs)
      · exact absurd hzero (toDigits_head hvalue c (by rw [h]; rfl))
      · rw [← h, Nat.eq_zero_of_not_pos hvalue]
        rfl
    · exact Or.inr hzero
  · rintro (h | hzero)
    · rw [h]
      rfl
    · obtain ⟨hlow, hhigh⟩ := digit_bounds hc
      have hpositive : 0 < c.toNat - 48 := by
        have : c.toNat ≠ 48 := fun heq => hzero (Char.toNat_inj.1 heq)
        omega
      have happend := toDigits_append hpositive hrest
      rw [toDigits_digit hc] at happend
      rw [digitsValue, List.foldl_cons, Nat.zero_mul, Nat.zero_add, ← happend,
        List.singleton_append]

/-! ## Integers -/

/-- An integer as it is written: digits without a zero in front, or zero, with a minus sign at
most. -/
def IsPlainInteger (cs : List Char) : Prop :=
  cs = ['0'] ∨ ∃ c rest, c.isDigit = true ∧ c ≠ '0' ∧ (cs = c :: rest ∨ cs = '-' :: c :: rest)

theorem signOf_cases (cs : List Char) :
    (signOf cs).1 = false ∧ (cs = (signOf cs).2 ∨ cs = '+' :: (signOf cs).2) ∨
      (signOf cs).1 = true ∧ cs = '-' :: (signOf cs).2 := by
  unfold signOf
  split
  · exact Or.inl ⟨rfl, Or.inr rfl⟩
  · exact Or.inr ⟨rfl, rfl⟩
  · exact Or.inl ⟨rfl, Or.inl rfl⟩

/-- What is read as an integer is digits, perhaps with a sign in front. -/
theorem signed64?_eq_some {cs : List Char} {n : Int} (h : signed64? cs = some n) :
    ∃ c ds, (∀ d ∈ c :: ds, d.isDigit = true) ∧
      ((cs = c :: ds ∨ cs = '+' :: c :: ds) ∧ n = digitsValue (c :: ds) ∨
        cs = '-' :: c :: ds ∧ n = -(digitsValue (c :: ds) : Int)) := by
  have hread : (signOf cs).2 ≠ [] ∧ (∀ d ∈ (signOf cs).2, d.isDigit = true) ∧
      n = if (signOf cs).1 then -(digitsValue (signOf cs).2 : Int)
        else digitsValue (signOf cs).2 := by
    unfold signed64? at h
    dsimp only at h
    split at h
    · cases h
    · next hdigits =>
      rw [not_or, List.isEmpty_iff, List.any_eq_true, not_exists] at hdigits
      refine ⟨hdigits.1, fun d hd => ?_, ?_⟩
      · by_contra hnot
        exact hdigits.2 d ⟨hd, by rw [Bool.eq_false_iff.2 hnot]; rfl⟩
      · rw [Option.ite_none_right_eq_some] at h
        exact (Option.some.inj h.2).symm
  obtain ⟨hne, hdigits, hn⟩ := hread
  obtain ⟨c, ds, hcs⟩ := List.exists_cons_of_ne_nil hne
  rw [hcs] at hdigits hn
  refine ⟨c, ds, hdigits, ?_⟩
  rw [← hcs] at hn ⊢
  rcases signOf_cases cs with ⟨hsign, hform⟩ | ⟨hsign, hform⟩
  · exact Or.inl ⟨hform, by rw [hn, hsign]; rfl⟩
  · exact Or.inr ⟨hform, by rw [hn, hsign]; rfl⟩

theorem toList_toString_natCast (m : Nat) : (toString (m : Int)).toList = Nat.toDigits 10 m := by
  show (Nat.repr m).toList = _
  rw [Nat.repr_eq_ofList_toDigits, String.toList_ofList]

theorem toList_toString_neg {m : Nat} (hm : 0 < m) :
    (toString (-(m : Int))).toList = '-' :: Nat.toDigits 10 m := by
  have hrepr : (Nat.repr m).toList = Nat.toDigits 10 m := by
    rw [Nat.repr_eq_ofList_toDigits, String.toList_ofList]
  obtain ⟨k, rfl⟩ := Nat.exists_eq_succ_of_ne_zero (Nat.ne_of_gt hm)
  show ("-" ++ Nat.repr (k + 1)).toList = _
  rw [String.toList_append, hrepr]
  rfl

theorem isPlainInteger_digits {c : Char} {ds : List Char} (hc : c.isDigit = true) :
    IsPlainInteger (c :: ds) ↔ c :: ds = ['0'] ∨ c ≠ '0' := by
  constructor
  · rintro (h | ⟨d, rest, -, hd, h | h⟩)
    · exact Or.inl h
    · rw [(List.cons.inj h).1]
      exact Or.inr hd
    · rw [(List.cons.inj h).1] at hc
      exact absurd hc (by decide)
  · rintro (h | h)
    · exact Or.inl h
    · exact Or.inr ⟨c, ds, hc, h, Or.inl rfl⟩

theorem isPlainInteger_negative {c : Char} {ds : List Char} (hc : c.isDigit = true) :
    IsPlainInteger ('-' :: c :: ds) ↔ c ≠ '0' := by
  constructor
  · rintro (h | ⟨d, rest, hd, hzero, h | h⟩)
    · cases h
    · rw [← (List.cons.inj h).1] at hd
      exact absurd hd (by decide)
    · rw [(List.cons.inj (List.cons.inj h).2).1]
      exact hzero
  · exact fun h => Or.inr ⟨c, ds, hc, h, Or.inr rfl⟩

/-- An integer is written as it was read if it was plain. -/
theorem toString_signed64?_iff {s : String} {n : Int} (h : signed64? s.toList = some n) :
    toString n = s ↔ IsPlainInteger s.toList := by
  rw [← String.toList_inj]
  obtain ⟨c, ds, hdigits, ⟨hcs, rfl⟩ | ⟨hcs, rfl⟩⟩ := signed64?_eq_some h
  · have hc := hdigits c List.mem_cons_self
    rw [toList_toString_natCast]
    rcases hcs with hcs | hcs
    · rw [hcs, toDigits_digitsValue_iff hdigits, isPlainInteger_digits hc]
    · -- A plus sign is never written.
      rw [hcs]
      constructor
      · intro hwritten
        have hplus : '+' ∈ Nat.toDigits 10 (digitsValue (c :: ds)) := by
          rw [hwritten]; exact List.mem_cons_self
        exact absurd (Nat.isDigit_of_mem_toDigits (by decide) (by decide) hplus) (by decide)
      · rintro (hzero | ⟨d, rest, hd, -, hform | hform⟩)
        · cases hzero
        · rw [← (List.cons.inj hform).1] at hd
          exact absurd hd (by decide)
        · cases (List.cons.inj hform).1
  · have hc := hdigits c List.mem_cons_self
    rw [hcs, isPlainInteger_negative hc]
    rcases Nat.eq_zero_or_pos (digitsValue (c :: ds)) with hvalue | hvalue
    · rw [hvalue]
      constructor
      · intro hwritten
        cases hwritten
      · intro hzero
        have hdigit := (toDigits_digitsValue_iff hdigits).2 (Or.inr hzero)
        rw [hvalue] at hdigit
        exact absurd (List.cons.inj hdigit).1.symm hzero
    · rw [toList_toString_neg hvalue, List.cons_inj_right, toDigits_digitsValue_iff hdigits]
      constructor
      · rintro (hzero | hzero)
        · rw [hzero] at hvalue
          exact absurd hvalue (by decide)
        · exact hzero
      · exact Or.inr

end Extended

end Larder
