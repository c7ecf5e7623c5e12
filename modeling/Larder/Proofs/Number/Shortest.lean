import Larder.Proofs.Number.Rounding

/-!
The decimal that is searched for rounds back to its double.

The search goes over ever finer grids.  A grid that is finer than the interval is wide has a point
in it next to the value, and after seventeen places the grid is finer than every interval, so the
search always ends with a point of the interval (`shortest_roundsTo`).
-/

namespace Larder

/-! ## Powers and logarithms -/

/-- Powers with integer exponents as the definitions here compute them: one of the two natural
exponents is zero. -/
theorem zpow_eq_div_toNat (b : ℚ) (e : Int) : b ^ e = b ^ e.toNat / b ^ (-e).toNat := by
  rcases Int.le_total 0 e with h | h
  · obtain ⟨n, rfl⟩ := Int.eq_ofNat_of_zero_le h
    simp
  · obtain ⟨n, hn⟩ := Int.eq_ofNat_of_zero_le (Int.neg_nonneg_of_nonpos h)
    obtain rfl : e = -n := by omega
    simp

theorem mul_zpow_le_div_iff {b num den : Nat} (hb : 0 < b) (hd : 0 < den) (d : Nat) (e : Int) :
    (d * b ^ e : ℚ) ≤ num / den ↔ d * b ^ e.toNat * den ≤ num * b ^ (-e).toNat := by
  have hb' : (0 : ℚ) < b := by exact_mod_cast hb
  have hd' : (0 : ℚ) < den := by exact_mod_cast hd
  rw [zpow_eq_div_toNat, mul_div_assoc', div_le_div_iff₀ (by positivity) hd']
  norm_cast

theorem div_le_mul_zpow_iff {b num den : Nat} (hb : 0 < b) (hd : 0 < den) (d : Nat) (e : Int) :
    (num / den : ℚ) ≤ d * b ^ e ↔ num * b ^ (-e).toNat ≤ d * b ^ e.toNat * den := by
  have hb' : (0 : ℚ) < b := by exact_mod_cast hb
  have hd' : (0 : ℚ) < den := by exact_mod_cast hd
  rw [zpow_eq_div_toNat, mul_div_assoc', div_le_div_iff₀ hd' (by positivity)]
  norm_cast

theorem Binary64.floorLog2_spec {num den : Nat} (hn : 0 < num) (hd : 0 < den) :
    (2 : ℚ) ^ floorLog2 num den ≤ num / den ∧ (num / den : ℚ) < 2 ^ (floorLog2 num den + 1) := by
  have hdQ : (0 : ℚ) < den := by exact_mod_cast hd
  have hnlow : (2 : ℚ) ^ (Nat.log2 num : Int) ≤ num := by
    rw [zpow_natCast]
    exact_mod_cast Nat.log2_self_le hn.ne'
  have hnhigh : (num : ℚ) < 2 ^ ((Nat.log2 num : Int) + 1) := by
    rw [zpow_add_one₀ (by norm_num), zpow_natCast, ← pow_succ]
    exact_mod_cast Nat.lt_log2_self
  have hdlow : (2 : ℚ) ^ (Nat.log2 den : Int) ≤ den := by
    rw [zpow_natCast]
    exact_mod_cast Nat.log2_self_le hd.ne'
  have hdhigh : (den : ℚ) < 2 ^ ((Nat.log2 den : Int) + 1) := by
    rw [zpow_add_one₀ (by norm_num), zpow_natCast, ← pow_succ]
    exact_mod_cast Nat.lt_log2_self
  have hguess : den * 2 ^ ((Nat.log2 num : Int) - Nat.log2 den).toNat
      ≤ num * 2 ^ (-((Nat.log2 num : Int) - Nat.log2 den)).toNat
      ↔ (2 : ℚ) ^ ((Nat.log2 num : Int) - Nat.log2 den) ≤ num / den := by
    have h :=
      @mul_zpow_le_div_iff 2 num den (by norm_num) hd 1 ((Nat.log2 num : Int) - Nat.log2 den)
    rw [Nat.one_mul, Nat.mul_comm _ den] at h
    rw [← h]
    norm_num
  unfold floorLog2
  simp only [Nat.shiftLeft_eq]
  split
  · next h =>
    refine ⟨hguess.1 h, ?_⟩
    rw [div_lt_iff₀ hdQ]
    calc (num : ℚ) < 2 ^ ((Nat.log2 num : Int) + 1) := hnhigh
      _ = 2 ^ ((Nat.log2 num : Int) - Nat.log2 den + 1) * 2 ^ (Nat.log2 den : Int) := by
          rw [← zpow_add₀ (by norm_num)]
          congr 1
          omega
      _ ≤ 2 ^ ((Nat.log2 num : Int) - Nat.log2 den + 1) * den :=
          mul_le_mul_of_nonneg_left hdlow (by positivity)
  · next h =>
    refine ⟨?_, ?_⟩
    · rw [le_div_iff₀ hdQ]
      calc (2 : ℚ) ^ ((Nat.log2 num : Int) - Nat.log2 den - 1) * den
          ≤ 2 ^ ((Nat.log2 num : Int) - Nat.log2 den - 1) * 2 ^ ((Nat.log2 den : Int) + 1) :=
            mul_le_mul_of_nonneg_left hdhigh.le (by positivity)
        _ = 2 ^ (Nat.log2 num : Int) := by
            rw [← zpow_add₀ (by norm_num)]
            congr 1
            omega
        _ ≤ num := hnlow
    · rw [show (Nat.log2 num : Int) - Nat.log2 den - 1 + 1
        = (Nat.log2 num : Int) - Nat.log2 den by omega]
      exact not_le.1 fun hle => h (hguess.2 hle)

namespace Decimal

/-- `59 / 196` is a little less than the decimal logarithm of two. -/
theorem ten_zpow_le_of_nonneg {a e : Int} (he : 0 ≤ e) (h : 196 * a ≤ 59 * e) :
    (10 : ℚ) ^ a ≤ 2 ^ e := by
  obtain ⟨n, rfl⟩ := Int.eq_ofNat_of_zero_le he
  refine le_of_pow_le_pow_left₀ (n := 196) (by norm_num) (by positivity) ?_
  calc ((10 : ℚ) ^ a) ^ 196 = 10 ^ (a * 196) := by rw [← zpow_natCast, ← zpow_mul]; norm_num
    _ ≤ 10 ^ ((59 * n : Nat) : Int) := zpow_le_zpow_right₀ (by norm_num) (by push_cast; omega)
    _ = (10 ^ 59) ^ n := by rw [zpow_natCast, pow_mul]
    _ ≤ (2 ^ 196) ^ n := pow_le_pow_left₀ (by norm_num) (by norm_num) n
    _ = ((2 : ℚ) ^ (n : Int)) ^ 196 := by rw [zpow_natCast, ← pow_mul, ← pow_mul, Nat.mul_comm]

/-- `28 / 93` is a little more than it. -/
theorem ten_zpow_le_of_nonpos {a e : Int} (he : e ≤ 0) (h : 93 * a ≤ 28 * e) :
    (10 : ℚ) ^ a ≤ 2 ^ e := by
  obtain ⟨n, hn⟩ := Int.eq_ofNat_of_zero_le (Int.neg_nonneg_of_nonpos he)
  obtain rfl : e = -n := by omega
  refine le_of_pow_le_pow_left₀ (n := 93) (by norm_num) (by positivity) ?_
  calc ((10 : ℚ) ^ a) ^ 93 = 10 ^ (a * 93) := by rw [← zpow_natCast, ← zpow_mul]; norm_num
    _ ≤ 10 ^ (-((28 * n : Nat) : Int)) := zpow_le_zpow_right₀ (by norm_num) (by push_cast; omega)
    _ = ((10 ^ 28) ^ n)⁻¹ := by rw [zpow_neg, zpow_natCast, pow_mul]
    _ ≤ ((2 ^ 93) ^ n)⁻¹ :=
      inv_anti₀ (by positivity) (pow_le_pow_left₀ (by norm_num) (by norm_num) n)
    _ = ((2 : ℚ) ^ (-n : Int)) ^ 93 := by
        rw [zpow_neg, zpow_natCast, inv_pow, ← pow_mul, ← pow_mul, Nat.mul_comm]

/-- The guess at a decimal logarithm is never more than one above it. -/
theorem ten_zpow_guess_le {a e : Int} (ha : 100000 * (a + 1) ≤ 30103 * e) (hlow : -2000 ≤ e)
    (hhigh : e ≤ 2000) :
    (10 : ℚ) ^ a ≤ 2 ^ e := by
  rcases Int.le_total 0 e with he | he
  · exact ten_zpow_le_of_nonneg he (by omega)
  · exact ten_zpow_le_of_nonpos he (by omega)

theorem floorLog10_le {num den : Nat} (hn : 0 < num) (hd : 0 < den)
    (hlow : -2000 ≤ Binary64.floorLog2 num den) (hhigh : Binary64.floorLog2 num den ≤ 2000) :
    (10 : ℚ) ^ floorLog10 num den ≤ num / den := by
  have reached : ∀ e : Int, den * Nat.pow 10 e.toNat ≤ num * Nat.pow 10 (-e).toNat →
      (10 : ℚ) ^ e ≤ num / den := by
    intro e he
    have h := (@mul_zpow_le_div_iff 10 num den (by norm_num) hd 1 e).2
        (by rw [Nat.one_mul, Nat.mul_comm]; exact he)
    simpa using h
  unfold floorLog10
  simp only [Bool.not_eq_true', decide_eq_false_iff_not, decide_eq_true_eq]
  split
  · exact (ten_zpow_guess_le (by omega) hlow hhigh).trans (Binary64.floorLog2_spec hn hd).1
  · next h =>
    split
    · next h' => exact reached _ h'
    · exact reached _ (by omega)

/-! ## The value of a decimal -/

def value (d : Decimal) : ℚ := d.digits * 10 ^ d.exponent

theorem value_strip (n : Nat) (d : Decimal) : (strip n d).value = d.value := by
  induction n generalizing d with
  | zero => rfl
  | succ n ih =>
    unfold strip
    split
    · next h =>
      have hdigits : (d.digits : ℚ) = (d.digits / 10 : Nat) * 10 := by
        have : d.digits = d.digits / 10 * 10 := by omega
        exact_mod_cast this
      rw [ih, value, value, zpow_add_one₀ (by norm_num), hdigits]
      ring
    · rfl

/-! ## Points of the interval -/

section Interval

variable {x : Binary64}

theorem denominator_pos (x : Binary64) : 0 < (roundingInterval x).denominator := by
  have h : (roundingInterval x).denominator = 1 <<< (-(x.power - 2)).toNat := rfl
  rw [h, Nat.one_shiftLeft]
  exact Nat.two_pow_pos _

/-- The bounds of the interval are counted in quarters. -/
theorem quarters_eq (x : Binary64) {a n : Nat} (ha : a = n * 1 <<< (x.power - 2).toNat) :
    (a : ℚ) / (roundingInterval x).denominator = n * x.quarter := by
  unfold roundingInterval Binary64.quarter
  rw [ha, zpow_eq_div_toNat, Nat.one_shiftLeft, Nat.one_shiftLeft]
  push_cast
  rw [mul_div_assoc]

theorem value_eq (x : Binary64) :
    ((roundingInterval x).value : ℚ) / (roundingInterval x).denominator
      = 4 * x.significand * x.quarter := by
  have h : (roundingInterval x).value = 4 * x.significand * 1 <<< (x.power - 2).toNat := rfl
  rw [quarters_eq x h]
  push_cast
  rfl

theorem high_eq (x : Binary64) :
    ((roundingInterval x).high : ℚ) / (roundingInterval x).denominator = x.highEnd := by
  have h : (roundingInterval x).high = (4 * x.significand + 2) * 1 <<< (x.power - 2).toNat := rfl
  rw [quarters_eq x h, Binary64.highEnd]
  push_cast
  rfl

theorem low_eq (hx : x.rank ≠ 0) :
    ((roundingInterval x).low : ℚ) / (roundingInterval x).denominator = x.lowEnd := by
  have hm := Binary64.significand_pos hx
  have hb := x.below_le
  have h : (roundingInterval x).low = (4 * x.significand - x.below) * 1 <<< (x.power - 2).toNat :=
    rfl
  rw [quarters_eq x h, Binary64.lowEnd, Nat.cast_sub (by omega)]
  push_cast
  rfl

theorem value_pos (hx : x.rank ≠ 0) : 0 < (roundingInterval x).value := by
  have hm := Binary64.significand_pos hx
  have h : (roundingInterval x).value = 4 * x.significand * 1 <<< (x.power - 2).toNat := rfl
  rw [h, Nat.one_shiftLeft]
  exact Nat.mul_pos (by omega) (Nat.two_pow_pos _)

theorem contains_iff (hx : x.rank ≠ 0) (d : Nat) (e : Int) :
    (roundingInterval x).contains d e = true ↔ x.RoundsTo (d * 10 ^ e) := by
  have hd := denominator_pos x
  have hlow := @div_le_mul_zpow_iff 10 (roundingInterval x).low _ (by norm_num) hd d e
  have hhigh := @mul_zpow_le_div_iff 10 (roundingInterval x).high _ (by norm_num) hd d e
  have hlow' := @mul_zpow_le_div_iff 10 (roundingInterval x).low _ (by norm_num) hd d e
  have hhigh' := @div_le_mul_zpow_iff 10 (roundingInterval x).high _ (by norm_num) hd d e
  rw [low_eq hx] at hlow hlow'
  rw [high_eq] at hhigh hhigh'
  push_cast at hlow hhigh hlow' hhigh'
  unfold RoundingInterval.contains Binary64.RoundsTo
  have hclosed : (roundingInterval x).closed = decide (x.significand % 2 = 0) := rfl
  rw [hclosed]
  by_cases heven : x.significand % 2 = 0
  · simp only [heven, decide_true, if_true, Bool.and_eq_true, decide_eq_true_eq]
    exact and_congr hlow.symm hhigh.symm
  · simp only [heven, decide_false, if_false, Bool.and_eq_true, decide_eq_true_eq,
      Bool.false_eq_true]
    rw [← not_le, ← not_le, ← not_le, ← not_le]
    exact and_congr (not_congr hlow'.symm) (not_congr hhigh'.symm)

/-! ## The search -/

theorem roundHalfEven_eq (num den : Nat) :
    Binary64.roundHalfEven num den = num / den ∨
    Binary64.roundHalfEven num den = num / den + 1 := by
  unfold Binary64.roundHalfEven
  dsimp only
  split
  · exact Or.inl rfl
  · split
    · exact Or.inr rfl
    · omega

theorem onGrid?_contains {r : RoundingInterval} {e : Int} {d : Nat} (h : r.onGrid? e = some d) :
    r.contains d e = true := by
  unfold RoundingInterval.onGrid? at h
  dsimp only at h
  split at h
  · next hbelow habove =>
    obtain rfl := Option.some.inj h
    rcases roundHalfEven_eq (r.value * Nat.pow 10 (-e).toNat) (r.denominator * Nat.pow 10 e.toNat)
      with hr | hr
    · rw [hr]; exact hbelow
    · rw [hr]; exact habove
  · next hbelow _ =>
    obtain rfl := Option.some.inj h
    exact hbelow
  · next _ habove =>
    obtain rfl := Option.some.inj h
    exact habove
  · cases h

/-- The value lies between the two points of the grid that are tried. -/
theorem between_grid_points (x : Binary64) (e : Int) :
    let n := (roundingInterval x).value * Nat.pow 10 (-e).toNat
      / ((roundingInterval x).denominator * Nat.pow 10 e.toNat)
    (n * 10 ^ e : ℚ) ≤ 4 * x.significand * x.quarter ∧
      (4 * x.significand * x.quarter : ℚ) < (n + 1 : Nat) * 10 ^ e := by
  intro n
  have hd := denominator_pos x
  have hscale : 0 < (roundingInterval x).denominator * 10 ^ e.toNat :=
    Nat.mul_pos hd (Nat.pow_pos (by norm_num))
  have hpoint := fun k => @mul_zpow_le_div_iff 10 (roundingInterval x).value _ (by norm_num) hd k e
  rw [value_eq] at hpoint
  push_cast at hpoint ⊢
  constructor
  · have hreached : n * ((roundingInterval x).denominator * 10 ^ e.toNat)
        ≤ (roundingInterval x).value * 10 ^ (-e).toNat := Nat.div_mul_le_self _ _
    rw [Nat.mul_comm (roundingInterval x).denominator, ← Nat.mul_assoc] at hreached
    exact (hpoint n).2 hreached
  · rw [← not_le]
    intro hle
    have hpast := (hpoint (n + 1)).1 (by push_cast; exact hle)
    rw [Nat.mul_assoc, Nat.mul_comm (10 ^ e.toNat)] at hpast
    have : n + 1 ≤ n := (Nat.le_div_iff_mul_le hscale).2 hpast
    omega

/-- A grid finer than the interval has one of the two neighbours of the value in it. -/
theorem onGrid?_isSome (hx : x.rank ≠ 0) {e : Int} (he : (10 : ℚ) ^ e < x.highEnd - x.lowEnd) :
    ((roundingInterval x).onGrid? e).isSome = true := by
  obtain ⟨hle, hlt⟩ := between_grid_points x e
  obtain ⟨hlow, hhigh⟩ := x.value_inside
  unfold RoundingInterval.onGrid?
  dsimp only at hle hlt ⊢
  generalize (roundingInterval x).value * Nat.pow 10 (-e).toNat
    / ((roundingInterval x).denominator * Nat.pow 10 e.toNat) = n at hle hlt ⊢
  -- Were neither point inside, the interval would lie between them and be no wider than the grid.
  have hsome : (roundingInterval x).contains n e = true ∨
      (roundingInterval x).contains (n + 1) e = true := by
    rw [contains_iff hx, contains_iff hx]
    by_contra hneither
    rw [not_or] at hneither
    have hbelow : (n * 10 ^ e : ℚ) ≤ x.lowEnd :=
      not_lt.1 fun h => hneither.1 (Binary64.RoundsTo.of_lt h (hle.trans_lt hhigh))
    have habove : x.highEnd ≤ ((n + 1 : Nat) * 10 ^ e : ℚ) :=
      not_lt.1 fun h => hneither.2 (Binary64.RoundsTo.of_lt (hlow.trans hlt) h)
    push_cast at habove
    linarith
  rcases hc : (roundingInterval x).contains n e <;>
    rcases hc' : (roundingInterval x).contains (n + 1) e
  · rw [hc, hc'] at hsome
    simp at hsome
  · rfl
  · rfl
  · rfl

theorem search_contains {r : RoundingInterval} {n : Nat} {e : Int}
    (h : ∃ k : Nat, k < n ∧ (r.onGrid? (e - k)).isSome = true) :
    r.contains (r.search n e).digits (r.search n e).exponent = true := by
  induction n generalizing e with
  | zero =>
    obtain ⟨k, hk, -⟩ := h
    omega
  | succ n ih =>
    unfold RoundingInterval.search
    cases hg : r.onGrid? e with
    | some d => exact onGrid?_contains hg
    | none =>
      refine ih ?_
      obtain ⟨k, hk, hsome⟩ := h
      cases k with
      | zero =>
        rw [Nat.cast_zero, sub_zero, hg] at hsome
        cases hsome
      | succ k =>
        refine ⟨k, by omega, ?_⟩
        rw [show e - 1 - (k : Int) = e - ((k + 1 : Nat) : Int) by push_cast; ring]
        exact hsome

/-! ## Enough places -/

theorem floorLog2_bounds (hx : x.rank ≠ 0) :
    -2000 ≤ Binary64.floorLog2 (roundingInterval x).value (roundingInterval x).denominator ∧
      Binary64.floorLog2 (roundingInterval x).value (roundingInterval x).denominator ≤ 2000 := by
  have hm : (1 : ℚ) ≤ x.significand := by exact_mod_cast Binary64.significand_pos hx
  have hm' : (x.significand : ℚ) ≤ 2 ^ (53 : Int) := by
    have := x.significand_lt
    have h53 : x.significand ≤ 2 ^ 53 := by omega
    exact_mod_cast h53
  have hq := x.quarter_pos
  obtain ⟨hlow, hhigh⟩ := Binary64.floorLog2_spec (value_pos hx) (denominator_pos x)
  rw [value_eq] at hlow hhigh
  generalize Binary64.floorLog2 (roundingInterval x).value (roundingInterval x).denominator
    = l at hlow hhigh
  constructor
  · have h : (2 : ℚ) ^ (x.power - 2) < 2 ^ (l + 1) := by
      calc (2 : ℚ) ^ (x.power - 2) = 1 * x.quarter := (one_mul _).symm
        _ ≤ 4 * x.significand * x.quarter := mul_le_mul_of_nonneg_right (by linarith) hq.le
        _ < 2 ^ (l + 1) := hhigh
    have := (zpow_lt_zpow_iff_right₀ (by norm_num)).1 h
    have := x.power_ge
    omega
  · have h : (2 : ℚ) ^ l ≤ 2 ^ (x.power + 53) := by
      calc (2 : ℚ) ^ l ≤ 4 * x.significand * x.quarter := hlow
        _ ≤ 4 * 2 ^ (53 : Int) * x.quarter := mul_le_mul_of_nonneg_right (by linarith) hq.le
        _ = 2 ^ ((2 : Int) + 53 + (x.power - 2)) := by
            rw [zpow_add₀ (by norm_num), zpow_add₀ (by norm_num), Binary64.quarter]
            norm_num
        _ = 2 ^ (x.power + 53) := by congr 1; omega
    have := (zpow_le_zpow_iff_right₀ (by norm_num)).1 h
    have := x.power_le
    omega

/-- Sixteen places below the leading digit the grid is finer than any interval. -/
theorem last_grid_lt_width (hx : x.rank ≠ 0) :
    (10 : ℚ) ^ (floorLog10 (roundingInterval x).value (roundingInterval x).denominator - 16)
      < x.highEnd - x.lowEnd := by
  have hbounds := floorLog2_bounds hx
  have hlead := floorLog10_le (value_pos hx) (denominator_pos x) hbounds.1 hbounds.2
  rw [value_eq] at hlead
  have hplaces : 4 * x.significand < (x.below + 2) * 10 ^ 16 := by
    have := x.significand_lt
    unfold Binary64.below
    split
    · next h =>
      have h52 : (1 <<< 52 : Nat) = 4503599627370496 := by decide
      rw [h.1, h52]
      norm_num
    · omega
  have hplacesQ : (4 * x.significand : ℚ) < (x.below + 2) * 10 ^ 16 := by exact_mod_cast hplaces
  calc (10 : ℚ) ^ (floorLog10 (roundingInterval x).value (roundingInterval x).denominator - 16)
      = 10 ^ floorLog10 (roundingInterval x).value (roundingInterval x).denominator / 10 ^ 16 := by
        rw [zpow_sub₀ (by norm_num)]
        norm_cast
    _ ≤ 4 * x.significand * x.quarter / 10 ^ 16 := div_le_div_of_nonneg_right hlead (by positivity)
    _ < (x.below + 2) * 10 ^ 16 * x.quarter / 10 ^ 16 :=
        div_lt_div_of_pos_right (mul_lt_mul_of_pos_right hplacesQ x.quarter_pos) (by positivity)
    _ = x.highEnd - x.lowEnd := by
        unfold Binary64.highEnd Binary64.lowEnd
        ring

/-- The shortest text of a double stands for a number that rounds back to it. -/
theorem shortest_roundsTo (hx : x.rank ≠ 0) : x.RoundsTo (shortest x).value := by
  have hzero : x.isZero = false := by
    unfold Binary64.isZero
    rw [beq_eq_false_iff_ne]
    exact hx
  have hfound := search_contains (r := roundingInterval x) (n := 17)
    (e := floorLog10 (roundingInterval x).value (roundingInterval x).denominator)
    ⟨16, by norm_num, onGrid?_isSome hx (last_grid_lt_width hx)⟩
  rw [contains_iff hx] at hfound
  unfold shortest
  rw [hzero, if_neg Bool.false_ne_true]
  dsimp only
  rw [value_strip]
  exact hfound

end Interval

end Decimal

end Larder
