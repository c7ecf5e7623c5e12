import Mathlib.Algebra.Order.Field.Power
import Mathlib.Data.Rat.Cast.Order
import Mathlib.Tactic.FieldSimp
import Mathlib.Tactic.Linarith
import Mathlib.Tactic.NormNum
import Mathlib.Tactic.Positivity
import Mathlib.Tactic.Ring
import Larder.Number.Decimal

/-!
The decimals that round to a double lie in an interval around it, and the intervals of two doubles
do not meet.

Neighbouring intervals share an end.  The end belongs to the interval whose significand is even, and
of two neighbours exactly one has an even significand, so `rank_eq_of_roundsTo` needs no case for
ties.
-/

namespace Larder

namespace Binary64

/-! ## Significand and power -/

theorem rank_eq (x : Binary64) :
    (x.rank : Int) = (x.power + 1074) * 4503599627370496 + x.significand := by
  have h52 : (1 <<< 52 : Nat) = 4503599627370496 := by decide
  unfold power significand
  rw [Nat.shiftRight_eq_div_pow, h52]
  have h2 : (2 : Nat) ^ 52 = 4503599627370496 := by norm_num
  rw [h2]
  split <;> omega

theorem significand_pos {x : Binary64} (hx : x.rank ≠ 0) : 0 < x.significand := by
  have h52 : (1 <<< 52 : Nat) = 4503599627370496 := by decide
  unfold significand
  rw [h52]
  split <;> omega

theorem power_ge (x : Binary64) : -1074 ≤ x.power := by
  have h52 : (1 <<< 52 : Nat) = 4503599627370496 := by decide
  have h2 : (2 : Nat) ^ 52 = 4503599627370496 := by norm_num
  unfold power
  rw [Nat.shiftRight_eq_div_pow, h52, h2]
  split <;> omega

theorem significand_lt (x : Binary64) : x.significand < 9007199254740992 := by
  have h52 : (1 <<< 52 : Nat) = 4503599627370496 := by decide
  unfold significand
  rw [h52]
  split <;> omega

/-- Above the least power every significand has its full width. -/
theorem significand_ge {x : Binary64} (h : -1074 < x.power) : 4503599627370496 ≤ x.significand := by
  have h52 : (1 <<< 52 : Nat) = 4503599627370496 := by decide
  unfold power at h
  unfold significand
  rw [h52] at h ⊢
  split
  · next hr =>
    rw [if_pos hr] at h
    omega
  · omega

theorem power_le (x : Binary64) : x.power ≤ 971 := by
  have hr := x.rank_lt
  have h := x.rank_eq
  have hge : -1074 < x.power → 4503599627370496 ≤ x.significand := significand_ge
  have hg : (2047 <<< 52 : Nat) = 2047 * 4503599627370496 := by decide
  omega

/-- The order of the ranks is that of the powers and then of the significands. -/
theorem power_significand_of_rank_lt {x y : Binary64} (h : x.rank < y.rank) :
    x.power < y.power ∨ x.power = y.power ∧ x.significand < y.significand := by
  have hx := x.rank_eq
  have hy := y.rank_eq
  have hxs := x.significand_lt
  have hys := y.significand_lt
  have hge : -1074 < x.power → 4503599627370496 ≤ x.significand := significand_ge
  have hxp := x.power_ge
  have hyp := y.power_ge
  omega

/-! ## The interval of a double -/

/-- A quarter of the last place of the significand; ends and value are multiples of it. -/
def quarter (x : Binary64) : ℚ := 2 ^ (x.power - 2)

/-- Quarters down to the lower end: half way to the neighbour, which below a power of two is half as
far. -/
def below (x : Binary64) : Nat := if x.significand = 1 <<< 52 ∧ x.power > -1074 then 1 else 2

def lowEnd (x : Binary64) : ℚ := (4 * x.significand - x.below) * x.quarter

def highEnd (x : Binary64) : ℚ := (4 * x.significand + 2) * x.quarter

/-- Whether a number rounds to the magnitude of a double; the ends do if the significand is even. -/
def RoundsTo (x : Binary64) (v : ℚ) : Prop :=
  if x.significand % 2 = 0 then x.lowEnd ≤ v ∧ v ≤ x.highEnd else x.lowEnd < v ∧ v < x.highEnd

theorem quarter_pos (x : Binary64) : 0 < x.quarter := zpow_pos (by norm_num) _

theorem RoundsTo.bounds {x : Binary64} {v : ℚ} (h : x.RoundsTo v) :
    x.lowEnd ≤ v ∧ v ≤ x.highEnd := by
  unfold RoundsTo at h
  split at h
  · exact h
  · exact ⟨h.1.le, h.2.le⟩

/-- A double that a number at its end rounds to has an even significand. -/
theorem RoundsTo.even_of_end {x : Binary64} {v : ℚ} (h : x.RoundsTo v)
    (hv : v = x.lowEnd ∨ v = x.highEnd) :
    x.significand % 2 = 0 := by
  unfold RoundsTo at h
  split at h
  · assumption
  · rcases hv with rfl | rfl
    · exact absurd h.1 (lt_irrefl _)
    · exact absurd h.2 (lt_irrefl _)

theorem below_le (x : Binary64) : x.below ≤ 2 := by
  unfold below
  split <;> omega

theorem RoundsTo.of_lt {x : Binary64} {v : ℚ} (hlow : x.lowEnd < v) (hhigh : v < x.highEnd) :
    x.RoundsTo v := by
  unfold RoundsTo
  split
  · exact ⟨hlow.le, hhigh.le⟩
  · exact ⟨hlow, hhigh⟩

theorem value_inside (x : Binary64) :
    x.lowEnd < 4 * x.significand * x.quarter ∧ 4 * x.significand * x.quarter < x.highEnd := by
  have hu := x.quarter_pos
  have hb : (0 : ℚ) < x.below := by
    unfold below
    split <;> norm_num
  unfold lowEnd highEnd
  constructor
  · exact mul_lt_mul_of_pos_right (by linarith) hu
  · exact mul_lt_mul_of_pos_right (by linarith) hu

theorem lowEnd_pos {x : Binary64} (hx : x.rank ≠ 0) : 0 < x.lowEnd := by
  have hm : (1 : ℚ) ≤ x.significand := by exact_mod_cast significand_pos hx
  have hb : (x.below : ℚ) ≤ 2 := by exact_mod_cast x.below_le
  exact mul_pos (by linarith) x.quarter_pos

/-- Where the lower end of `y` is counted in quarters of `x`, the two ends compare as the counts
do. -/
theorem highEnd_le_of_quarters {x y : Binary64} {n : Nat} (hn : n * x.quarter ≤ y.lowEnd)
    (hx : 4 * x.significand + 2 ≤ n) :
    x.highEnd ≤ y.lowEnd ∧ (x.highEnd = y.lowEnd → 4 * x.significand + 2 = n) := by
  have hu := x.quarter_pos
  have hxQ : (4 * x.significand + 2 : ℚ) ≤ n := by exact_mod_cast hx
  have hstep : x.highEnd ≤ n * x.quarter := mul_le_mul_of_nonneg_right hxQ hu.le
  refine ⟨hstep.trans hn, fun heq => ?_⟩
  have hsame : (4 * x.significand + 2) * x.quarter = n * x.quarter :=
    le_antisymm hstep (hn.trans_eq heq.symm)
  have hcount : (4 * x.significand + 2 : ℚ) = n := mul_right_cancel₀ hu.ne' hsame
  exact_mod_cast hcount

/-- Of two doubles the greater one has its interval above; where they meet, one significand is
odd. -/
theorem highEnd_le_lowEnd {x y : Binary64} (h : x.rank < y.rank) :
    x.highEnd ≤ y.lowEnd ∧
      (x.highEnd = y.lowEnd → ¬ (x.significand % 2 = 0 ∧ y.significand % 2 = 0)) := by
  have hb := y.below_le
  rcases power_significand_of_rank_lt h with hp | ⟨hp, hm⟩
  · -- The greater power is at least twice the smaller one, and its significand is a full one.
    have hys := significand_ge (Int.lt_of_le_of_lt x.power_ge hp)
    have hxs := x.significand_lt
    have hb1 : y.significand = 4503599627370496 → y.below = 1 := by
      intro hs
      unfold below
      rw [if_pos ⟨by rw [hs]; decide, Int.lt_of_le_of_lt x.power_ge hp⟩]
    have hq : x.quarter * 2 ≤ y.quarter := by
      unfold quarter
      rw [← zpow_add_one₀ (by norm_num)]
      exact zpow_le_zpow_right₀ (by norm_num) (by omega)
    have hlow : ((4 * y.significand - y.below : Nat) : ℚ) = 4 * y.significand - y.below := by
      rw [Nat.cast_sub (by omega)]
      push_cast
      ring
    have hn : ((2 * (4 * y.significand - y.below) : Nat) : ℚ) * x.quarter ≤ y.lowEnd := by
      calc ((2 * (4 * y.significand - y.below) : Nat) : ℚ) * x.quarter
          = ((4 * y.significand - y.below : Nat) : ℚ) * (x.quarter * 2) := by
            rw [Nat.cast_mul]
            push_cast
            ring
        _ ≤ ((4 * y.significand - y.below : Nat) : ℚ) * y.quarter :=
            mul_le_mul_of_nonneg_left hq (Nat.cast_nonneg _)
        _ = y.lowEnd := by rw [hlow, lowEnd]
    obtain ⟨hle, hends⟩ := highEnd_le_of_quarters hn (by omega)
    refine ⟨hle, fun heq heven => ?_⟩
    -- An even significand of full width is two short of the next power.
    have := hends heq
    omega
  · have hq : y.quarter = x.quarter := by unfold quarter; rw [hp]
    have hn : ((4 * y.significand - y.below : Nat) : ℚ) * x.quarter ≤ y.lowEnd := by
      unfold lowEnd
      rw [hq, Nat.cast_sub (by omega)]
      push_cast
      exact le_refl _
    obtain ⟨hle, hends⟩ := highEnd_le_of_quarters hn (by omega)
    refine ⟨hle, fun heq heven => ?_⟩
    have := hends heq
    omega

/-- Of two numbers the greater one does not round to the smaller magnitude. -/
theorem rank_le_of_roundsTo {x y : Binary64} {v w : ℚ} (hx : x.RoundsTo v) (hy : y.RoundsTo w)
    (hle : v ≤ w) :
    x.rank ≤ y.rank := by
  by_contra hlt
  obtain ⟨hends, hodd⟩ := highEnd_le_lowEnd (not_le.1 hlt)
  -- The two intervals could only meet, at an end that is both numbers.
  have hyx : w ≤ v := hy.bounds.2.trans (hends.trans hx.bounds.1)
  have hv : v = x.lowEnd := le_antisymm (hle.trans (hy.bounds.2.trans hends)) hx.bounds.1
  have hw : w = y.highEnd := le_antisymm hy.bounds.2 (hends.trans (hx.bounds.1.trans hle))
  have hmeet : y.highEnd = x.lowEnd := by rw [← hv, ← hw]; exact le_antisymm hyx hle
  exact hodd hmeet ⟨hy.even_of_end (Or.inr hw), hx.even_of_end (Or.inl hv)⟩

/-- No number rounds to two magnitudes. -/
theorem rank_eq_of_roundsTo {x y : Binary64} {v : ℚ} (hx : x.RoundsTo v) (hy : y.RoundsTo v) :
    x.rank = y.rank :=
  Nat.le_antisymm (rank_le_of_roundsTo hx hy (le_refl v)) (rank_le_of_roundsTo hy hx (le_refl v))

end Binary64

end Larder
