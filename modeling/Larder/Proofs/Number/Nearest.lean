import Larder.Proofs.Number.Shortest

/-!
A ratio is rounded to the double whose interval it lies in.

The significand is the scaled ratio rounded to an integer.  Where that carries into one more bit,
the double is the least one of the next power, and its interval reaches half as far down, but a
ratio that carries is at most that far below (`roundsTo_of_rank`).  So rounding keeps the order of
integers, and up to 53 bits it keeps them apart.
-/

namespace Larder.Binary64

/-! ## Significands -/

/-- The rounded quotient is half a unit away at most, and it is even if it is that far. -/
theorem roundHalfEven_near (num : Nat) {den : Nat} (hd : 0 < den) :
    |(num / den : ℚ) - roundHalfEven num den| ≤ 1 / 2 ∧
      (|(num / den : ℚ) - roundHalfEven num den| = 1 / 2 → roundHalfEven num den % 2 = 0) := by
  have hdQ : (0 : ℚ) < den := by exact_mod_cast hd
  have hsplit : (num / den : ℚ) = (num / den : Nat) + (num % den : Nat) / (den : ℚ) := by
    have h : (num : ℚ) = den * (num / den : Nat) + (num % den : Nat) := by
      exact_mod_cast (Nat.div_add_mod num den).symm
    rw [div_eq_iff hdQ.ne', add_mul, div_mul_cancel₀ _ hdQ.ne', mul_comm ((num / den : Nat) : ℚ)]
    exact h
  have hrest : (0 : ℚ) ≤ (num % den : Nat) / (den : ℚ) := by positivity
  rw [hsplit]
  unfold roundHalfEven
  dsimp only
  generalize num / den = whole
  split
  · next h =>
    have hless : (num % den : Nat) / (den : ℚ) < 1 / 2 := by
      rw [div_lt_div_iff₀ hdQ two_pos]
      exact_mod_cast (by omega : num % den * 2 < 1 * den)
    rw [add_sub_cancel_left, abs_of_nonneg hrest]
    exact ⟨hless.le, fun heq => absurd heq hless.ne⟩
  · split
    · next h =>
      have hmore : 1 / 2 < (num % den : Nat) / (den : ℚ) := by
        rw [div_lt_div_iff₀ two_pos hdQ]
        exact_mod_cast (by omega : 1 * den < num % den * 2)
      have hpart : (num % den : Nat) / (den : ℚ) < 1 := by
        rw [div_lt_one hdQ]
        exact_mod_cast Nat.mod_lt num hd
      have hdist : |(whole : ℚ) + (num % den : Nat) / (den : ℚ) - (whole + 1 : Nat)|
          = 1 - (num % den : Nat) / (den : ℚ) := by
        rw [abs_sub_comm, abs_of_nonneg (by push_cast; linarith)]
        push_cast
        ring
      rw [hdist]
      exact ⟨by linarith, fun heq => absurd heq (by linarith)⟩
    · -- Half way between, so the even neighbour is as near as the other one.
      next h h' =>
      have hhalf : (num % den : Nat) / (den : ℚ) = 1 / 2 := by
        rw [div_eq_div_iff hdQ.ne' two_ne_zero]
        exact_mod_cast (by omega : num % den * 2 = 1 * den)
      rw [hhalf]
      rcases Nat.mod_two_eq_zero_or_one whole with heven | hodd
      · rw [heven, Nat.add_zero, add_sub_cancel_left, abs_of_pos (by norm_num)]
        exact ⟨le_refl _, fun _ => heven⟩
      · rw [hodd]
        push_cast
        rw [add_sub_add_left_eq_sub, abs_sub_comm, abs_of_pos (by norm_num)]
        exact ⟨by norm_num, fun _ => by omega⟩

/-- Rounding to a multiple of a power of two is the same in that unit. -/
theorem roundHalfEven_scaled (num : Nat) {den : Nat} (hd : 0 < den) (q : Int) :
    let m := roundHalfEven (num <<< (-q).toNat) (den <<< q.toNat)
    |(num / den : ℚ) - m * 2 ^ q| ≤ 2 ^ q / 2 ∧
      (|(num / den : ℚ) - m * 2 ^ q| = 2 ^ q / 2 → m % 2 = 0) := by
  intro m
  have hu : (0 : ℚ) < 2 ^ q := by positivity
  have hden : 0 < den <<< q.toNat := by
    rw [Nat.shiftLeft_eq]
    positivity
  have hnum : ((num <<< (-q).toNat : Nat) / (den <<< q.toNat : Nat) : ℚ) = num / den / 2 ^ q := by
    rw [Nat.shiftLeft_eq, Nat.shiftLeft_eq, zpow_eq_div_toNat 2 q]
    push_cast
    field_simp
  have hscale : |(num / den : ℚ) - m * 2 ^ q| = |(num / den / 2 ^ q : ℚ) - m| * 2 ^ q := by
    rw [← abs_of_pos hu, ← abs_mul, abs_of_pos hu, sub_mul, div_mul_cancel₀ _ hu.ne']
  have hhalf : (2 : ℚ) ^ q / 2 = 1 / 2 * 2 ^ q := by ring
  obtain ⟨hnear, htie⟩ := roundHalfEven_near (num <<< (-q).toNat) hden
  rw [hnum] at hnear htie
  rw [hscale, hhalf]
  exact ⟨mul_le_mul_of_nonneg_right hnear hu.le, fun heq => htie (mul_right_cancel₀ hu.ne' heq)⟩

/-- A rank says how the ratio was rounded: to `m * 2 ^ q`, where `m` has 53 bits, or is the next
power of two, unless the least power `q` cuts it off. -/
theorem nearestRank_spec {num den : Nat} (hn : 0 < num) (hd : 0 < den) :
    ∃ (q : Int) (m : Nat), (nearestRank num den : Int) = (q + 1074) * 4503599627370496 + m ∧
      q = max (floorLog2 num den - 52) (-1074) ∧ m ≤ 9007199254740992 ∧
      (-1074 < q → 4503599627370496 * (2 : ℚ) ^ q ≤ num / den) ∧
      |(num / den : ℚ) - m * 2 ^ q| ≤ 2 ^ q / 2 ∧
      (|(num / den : ℚ) - m * 2 ^ q| = 2 ^ q / 2 → m % 2 = 0) := by
  obtain ⟨hlow, hhigh⟩ := floorLog2_spec hn hd
  let q : Int := max (floorLog2 num den - 52) (-1074)
  have hqmin : -1074 ≤ q := le_max_right _ _
  have hu : (0 : ℚ) < 2 ^ q := by positivity
  obtain ⟨hnear, htie⟩ := roundHalfEven_scaled num hd q
  generalize hm : roundHalfEven (num <<< (-q).toNat) (den <<< q.toNat) = m at hnear htie
  have hrank : (nearestRank num den : Int) = (q + 1074) * 4503599627370496 + m := by
    unfold nearestRank
    rw [if_neg hn.ne']
    show (((q + 1074).toNat <<< 52 + roundHalfEven (num <<< (-q).toNat) (den <<< q.toNat) : Nat)
        : Int) = _
    rw [hm, Nat.shiftLeft_eq]
    omega
  have hcarry : m ≤ 9007199254740992 := by
    have hwidth : (9007199254740992 : ℚ) * 2 ^ q = 2 ^ (q + 53) := by
      rw [zpow_add₀ two_ne_zero, mul_comm]
      norm_num
    have hcut : (num / den : ℚ) < 9007199254740992 * 2 ^ q := by
      rw [hwidth]
      exact hhigh.trans_le (zpow_le_zpow_right₀ one_le_two (by omega))
    have hbelow : (m : ℚ) * 2 ^ q < 9007199254740993 * 2 ^ q := by linarith [(abs_le.1 hnear).1]
    have hcount : (m : ℚ) < 9007199254740993 := lt_of_mul_lt_mul_right hbelow hu.le
    exact Nat.le_of_lt_succ (by exact_mod_cast hcount)
  have hfull : -1074 < q → (4503599627370496 : ℚ) * 2 ^ q ≤ num / den := by
    intro hq
    have hwidth : (4503599627370496 : ℚ) * 2 ^ q = 2 ^ (q + 52) := by
      rw [zpow_add₀ two_ne_zero, mul_comm]
      norm_num
    rw [hwidth, show q + 52 = floorLog2 num den by omega]
    exact hlow
  exact ⟨q, m, hrank, rfl, hcarry, hfull, hnear, htie⟩

/-! ## Rounded ratios -/

theorem power_significand_of_rank {x : Binary64} {q : Int} {m : Nat}
    (hrank : (x.rank : Int) = (q + 1074) * 4503599627370496 + m) (hq : -1074 ≤ q)
    (hm : m < 9007199254740992) (hfull : -1074 < q → 4503599627370496 ≤ m) :
    x.power = q ∧ x.significand = m := by
  have hx := x.rank_eq
  have hs := x.significand_lt
  have hp := x.power_ge
  have hge : -1074 < x.power → 4503599627370496 ≤ x.significand := significand_ge
  omega

theorem roundsTo_zero {x : Binary64} (h : x.rank = 0) : x.RoundsTo 0 := by
  have hsig : x.significand = 0 := by
    unfold significand
    rw [h]
    rfl
  have hu := x.quarter_pos
  unfold RoundsTo
  rw [if_pos (by rw [hsig]), lowEnd, highEnd, hsig]
  have hb : (0 : ℚ) ≤ x.below := Nat.cast_nonneg _
  constructor
  · push_cast
    nlinarith
  · push_cast
    nlinarith

theorem one_le_below (x : Binary64) : 1 ≤ x.below := by
  unfold below
  split <;> omega

theorem quarter_eq (x : Binary64) : x.quarter = 2 ^ x.power / 4 := by
  rw [quarter, zpow_sub₀ two_ne_zero]
  norm_num

theorem lowEnd_le (x : Binary64) : x.lowEnd ≤ x.significand * 2 ^ x.power - 2 ^ x.power / 4 := by
  have hb : (1 : ℚ) ≤ x.below := by exact_mod_cast x.one_le_below
  have hu : (0 : ℚ) < 2 ^ x.power := by positivity
  rw [lowEnd, quarter_eq]
  nlinarith

theorem highEnd_eq (x : Binary64) : x.highEnd = x.significand * 2 ^ x.power + 2 ^ x.power / 2 := by
  rw [highEnd, quarter_eq]
  ring

theorem le_lowEnd (x : Binary64) : x.significand * 2 ^ x.power - 2 ^ x.power / 2 ≤ x.lowEnd := by
  have hb : (x.below : ℚ) ≤ 2 := by exact_mod_cast x.below_le
  have hu : (0 : ℚ) < 2 ^ x.power := by positivity
  rw [lowEnd, quarter_eq]
  nlinarith

/-- Above the least power the interval starts a quarter below the least significand at most. -/
theorem le_lowEnd_of_lt {x : Binary64} (h : -1074 < x.power) :
    4503599627370496 * 2 ^ x.power - 2 ^ x.power / 4 ≤ x.lowEnd := by
  have hu : (0 : ℚ) < 2 ^ x.power := by positivity
  rcases Nat.lt_or_eq_of_le (significand_ge h) with hmore | hleast
  · have hs : (4503599627370497 : ℚ) ≤ x.significand := by exact_mod_cast hmore
    have hvalue := mul_le_mul_of_nonneg_right hs hu.le
    linarith [x.le_lowEnd]
  · have hbelow : x.below = 1 := by
      unfold below
      rw [if_pos ⟨hleast ▸ by decide, h⟩]
    rw [lowEnd, quarter_eq, hbelow, ← hleast]
    push_cast
    linarith

/-- Half a unit away at most, a number rounds to the magnitude, if the least significand of a power
has all of its numbers above it. -/
theorem roundsTo_of_near {x : Binary64} {v : ℚ}
    (hfull : -1074 < x.power → 4503599627370496 * 2 ^ x.power ≤ v)
    (hnear : |v - x.significand * 2 ^ x.power| ≤ 2 ^ x.power / 2)
    (htie : |v - x.significand * 2 ^ x.power| = 2 ^ x.power / 2 → x.significand % 2 = 0) :
    x.RoundsTo v := by
  have hu : (0 : ℚ) < 2 ^ x.power := by positivity
  obtain ⟨hlow, hhigh⟩ := abs_le.1 hnear
  have hhighEnd := x.highEnd_eq
  unfold RoundsTo
  by_cases hleast : x.significand = 1 <<< 52 ∧ x.power > -1074
  · have h52 : (1 <<< 52 : Nat) = 4503599627370496 := by decide
    have hvalue : (x.significand : ℚ) = 4503599627370496 := by
      rw [hleast.1, h52]
      norm_num
    have hlowEnd := x.lowEnd_le
    have hv := hfull hleast.2
    rw [if_pos (by rw [hleast.1]; decide)]
    rw [hvalue] at hlowEnd hhigh hhighEnd
    exact ⟨by linarith, by linarith⟩
  · have hlowEnd : x.lowEnd = x.significand * 2 ^ x.power - 2 ^ x.power / 2 := by
      rw [lowEnd, quarter_eq, below, if_neg hleast]
      push_cast
      ring
    rw [hlowEnd, hhighEnd]
    split
    · exact ⟨by linarith, by linarith⟩
    · next hodd =>
      obtain ⟨hlow', hhigh'⟩ := abs_lt.1 (lt_of_le_of_ne hnear fun heq => hodd (htie heq))
      exact ⟨by linarith, by linarith⟩

/-- Rounding is correct. -/
theorem roundsTo_of_rank {x : Binary64} {num den : Nat} (hd : 0 < den)
    (h : x.rank = nearestRank num den) :
    x.RoundsTo (num / den) := by
  rcases Nat.eq_zero_or_pos num with rfl | hn
  · rw [Nat.cast_zero, zero_div]
    exact roundsTo_zero (h.trans (if_pos rfl))
  obtain ⟨q, m, hrank, hq, hle, hfull, hnear, htie⟩ := nearestRank_spec hn hd
  rw [← h] at hrank
  have hqmin : -1074 ≤ q := hq ▸ le_max_right _ _
  have hu : (0 : ℚ) < 2 ^ q := by positivity
  rcases Nat.lt_or_eq_of_le hle with hlt | rfl
  · have hwide : -1074 < q → 4503599627370496 ≤ m := by
      intro hgt
      have hbelow : (4503599627370495 : ℚ) * 2 ^ q < m * 2 ^ q := by
        linarith [hfull hgt, (abs_le.1 hnear).2]
      have hcount : (4503599627370495 : ℚ) < m := lt_of_mul_lt_mul_right hbelow hu.le
      exact_mod_cast hcount
    obtain ⟨rfl, rfl⟩ := power_significand_of_rank hrank hqmin hlt hwide
    exact roundsTo_of_near hfull hnear htie
  · obtain ⟨hpower, hsig⟩ := power_significand_of_rank (x := x) (q := q + 1) (m := 4503599627370496)
      (by push_cast; omega) (by omega) (by norm_num) (fun _ => le_refl _)
    have hlowEnd := x.lowEnd_le
    have hhighEnd := x.highEnd_eq
    obtain ⟨hlow, hhigh⟩ := abs_le.1 hnear
    rw [hpower, hsig, zpow_add_one₀ two_ne_zero] at hlowEnd hhighEnd
    push_cast at hlowEnd hhighEnd hlow hhigh
    unfold RoundsTo
    rw [if_pos (by rw [hsig])]
    exact ⟨by linarith, by linarith⟩

/-! ## Integers -/

/-- The double that an integer is rounded to. -/
structure Nearest (x : Binary64) (n : Int) : Prop where
  magnitude : x.RoundsTo n.natAbs
  sign : x.negative = decide (n < 0)

theorem nearest_unique {x y : Binary64} {n : Int} (hx : x.Nearest n)
    (hy : y.Nearest n) : x = y := by
  have hrank := rank_eq_of_roundsTo hx.magnitude hy.magnitude
  have hsign := hx.sign.trans hy.sign.symm
  cases x
  cases y
  cases hrank
  cases hsign
  rfl

/-- Integers of 64 bits are far from the largest double. -/
theorem nearestRank_lt {n : Nat} (h : n < 1 <<< 64) : nearestRank n 1 < 2047 <<< 52 := by
  rcases Nat.eq_zero_or_pos n with rfl | hn
  · decide
  obtain ⟨q, m, hrank, hq, hm, -⟩ := nearestRank_spec hn Nat.one_pos
  have hlog : floorLog2 n 1 < 64 := by
    have hlow := (floorLog2_spec hn Nat.one_pos).1
    have hn64 : (n / (1 : Nat) : ℚ) < 2 ^ (64 : Int) := by
      rw [Nat.cast_one, div_one]
      exact_mod_cast h
    exact (zpow_lt_zpow_iff_right₀ one_lt_two).1 (hlow.trans_lt hn64)
  have hoverflow : (2047 <<< 52 : Nat) = 9218868437227405312 := by decide
  omega

theorem nearest_ofInt {n : Int} (h : n.natAbs < 1 <<< 64) : (ofInt n).Nearest n := by
  have hlt := nearestRank_lt h
  have hofInt : ofInt n = ⟨decide (n < 0), nearestRank n.natAbs 1, hlt⟩ := by
    unfold ofInt ofRatio?
    dsimp only
    rw [dif_pos hlt]
    rfl
  rw [hofInt]
  refine ⟨?_, rfl⟩
  have hrounds :=
    roundsTo_of_rank (x := ⟨decide (n < 0), nearestRank n.natAbs 1, hlt⟩) Nat.one_pos rfl
  rwa [Nat.cast_one, div_one] at hrounds

/-- Integers that one double stands for. -/
def SharesDouble (a b : Int) : Prop := ∃ x : Binary64, x.Nearest a ∧ x.Nearest b

theorem sharesDouble_iff {a b : Int} (ha : a.natAbs < 1 <<< 64) (hb : b.natAbs < 1 <<< 64) :
    SharesDouble a b ↔ ofInt a = ofInt b := by
  constructor
  · rintro ⟨x, hxa, hxb⟩
    exact (nearest_unique (nearest_ofInt ha) hxa).trans (nearest_unique hxb (nearest_ofInt hb))
  · intro h
    exact ⟨ofInt a, nearest_ofInt ha, h ▸ nearest_ofInt hb⟩

theorem totalKey_injective {x y : Binary64} (h : x.totalKey = y.totalKey) : x = y := by
  obtain ⟨s, r, hr⟩ := x
  obtain ⟨t, k, hk⟩ := y
  cases s <;> cases t <;> simp [totalKey] at h ⊢ <;> omega

theorem totalKey_le_of_nearest {x y : Binary64} {a b : Int} (hx : x.Nearest a) (hy : y.Nearest b)
    (h : a ≤ b) :
    x.totalKey ≤ y.totalKey := by
  have hrank : ∀ {u v : Binary64} {m n : Nat}, u.RoundsTo m → v.RoundsTo n → m ≤ n →
      u.rank ≤ v.rank :=
    fun hu hv hle => rank_le_of_roundsTo hu hv (by exact_mod_cast hle)
  have hforth := @hrank x y _ _ hx.magnitude hy.magnitude
  have hback := @hrank y x _ _ hy.magnitude hx.magnitude
  unfold totalKey
  rw [hx.sign, hy.sign]
  by_cases ha : a < 0
  · by_cases hb : b < 0
    · rw [decide_eq_true ha, decide_eq_true hb]
      have hle := hback (by omega)
      simp only [if_true]
      omega
    · rw [decide_eq_true ha, decide_eq_false hb]
      simp only [if_true, Bool.false_eq_true, if_false]
      omega
  · have hb : ¬ b < 0 := by omega
    rw [decide_eq_false ha, decide_eq_false hb]
    have hle := hforth (by omega)
    simp only [Bool.false_eq_true, if_false]
    omega

/-- Integers are compared as they are, unless one double stands for both. -/
theorem compare_totalKey_ofInt {a b : Int} (ha : a.natAbs < 1 <<< 64) (hb : b.natAbs < 1 <<< 64)
    (h : ¬ SharesDouble a b) : compare (ofInt a).totalKey (ofInt b).totalKey = compare a b := by
  rw [sharesDouble_iff ha hb] at h
  have hne : (ofInt a).totalKey ≠ (ofInt b).totalKey := fun heq => h (totalKey_injective heq)
  rcases Int.lt_trichotomy a b with hlt | rfl | hgt
  · have hle := totalKey_le_of_nearest (nearest_ofInt ha) (nearest_ofInt hb) hlt.le
    rw [compare_lt_iff_lt.2 hlt, compare_lt_iff_lt.2 (lt_of_le_of_ne hle hne)]
  · exact absurd rfl h
  · have hle := totalKey_le_of_nearest (nearest_ofInt hb) (nearest_ofInt ha) hgt.le
    rw [compare_gt_iff_gt.2 hgt, compare_gt_iff_gt.2 (lt_of_le_of_ne hle hne.symm)]

/-- Of the numbers up to `2 ^ 53` no two round to one magnitude. -/
theorem le_of_roundsTo_both {x : Binary64} {m n : Nat} (hm : x.RoundsTo m) (hn : x.RoundsTo n)
    (hlt : m < n) :
    9007199254740992 ≤ m := by
  have hlow := hm.bounds.1
  have hhigh := hn.bounds.2
  have hstep : (m + 1 : ℚ) ≤ n := by exact_mod_cast hlt
  have hhighEnd := x.highEnd_eq
  have hpower : 0 ≤ x.power := by
    have hunit : (2 : ℚ) ^ (0 : Int) ≤ 2 ^ x.power := by
      rw [zpow_zero]
      linarith [x.le_lowEnd]
    exact (zpow_le_zpow_iff_right₀ one_lt_two).1 hunit
  rcases Int.lt_or_eq_of_le hpower with hpos | hzero
  · have htwo : (2 : ℚ) ^ (1 : Int) ≤ 2 ^ x.power := zpow_le_zpow_right₀ one_le_two hpos
    rw [zpow_one] at htwo
    have hbound : (9007199254740991 : ℚ) < m := by linarith [le_lowEnd_of_lt (x := x) (by omega)]
    exact_mod_cast hbound
  · -- With a unit of one the interval has one integer.
    have hunit : (2 : ℚ) ^ x.power = 1 := by rw [← hzero, zpow_zero]
    have hstart := x.le_lowEnd
    rw [hunit] at hstart hhighEnd
    have hstartQ : (x.significand : ℚ) < m + 1 := by linarith
    have hendQ : (n : ℚ) < x.significand + 1 := by linarith
    have hstart' : x.significand < m + 1 := by exact_mod_cast hstartQ
    have hend : n < x.significand + 1 := by exact_mod_cast hendQ
    omega

theorem eq_of_sharesDouble {a b : Int} (ha : a.natAbs ≤ 1 <<< 53) (hb : b.natAbs ≤ 1 <<< 53)
    (h : SharesDouble a b) : a = b := by
  obtain ⟨x, hxa, hxb⟩ := h
  have h53 : (1 <<< 53 : Nat) = 9007199254740992 := by decide
  have hsign := hxa.sign.symm.trans hxb.sign
  rw [decide_eq_decide] at hsign
  have hforth : ¬ a.natAbs < b.natAbs :=
    fun hlt => absurd (le_of_roundsTo_both hxa.magnitude hxb.magnitude hlt) (by omega)
  have hback : ¬ b.natAbs < a.natAbs :=
    fun hlt => absurd (le_of_roundsTo_both hxb.magnitude hxa.magnitude hlt) (by omega)
  omega

end Larder.Binary64
