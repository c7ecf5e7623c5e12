import Mathlib.Data.List.Basic
import Larder.Uuid

/-!
An identifier is read back as it was written.

Hexadecimal digits are read from the left, so after the first of them what was read is the
identifier without its lower bits (`foldl_hexDigits`).
-/

namespace Larder

namespace Text

theorem hexValue?_hexDigit : ∀ n < 16, hexValue? (hexDigit n) = some n := by decide

/-- Digits are read back to the number that they stand for. -/
theorem foldlM_hexDigit (ds : List Nat) (hds : ∀ d ∈ ds, d < 16) (n : Nat) :
    (ds.map hexDigit).foldlM (fun n c => (hexValue? c).map (n * 16 + ·)) n
      = some (ds.foldl (fun n d => n * 16 + d) n) := by
  induction ds generalizing n with
  | nil => rfl
  | cons d rest ih =>
    rw [List.map_cons, List.foldlM_cons, hexValue?_hexDigit d (hds d List.mem_cons_self)]
    exact ih (fun d' h => hds d' (List.mem_cons_of_mem d h)) (n * 16 + d)

end Text

namespace Uuid

/-- The values of the digits, the highest first. -/
def hexValues (u : Uuid) : List Nat := (List.range 32).map fun i => (u.bits >>> (4 * (31 - i))) % 16

theorem hexDigits_eq (u : Uuid) : u.hexDigits = u.hexValues.map Text.hexDigit := by
  rw [hexValues, List.map_map]
  rfl

theorem length_hexDigits (u : Uuid) : u.hexDigits.length = 32 := by
  rw [hexDigits, List.length_map, List.length_range]

/-- The first digits are the upper bits. -/
theorem foldl_hexValues (bits : Nat) (hbits : bits < 1 <<< 128) {k : Nat} (hk : k ≤ 32) :
    ((List.range k).map fun i => (bits >>> (4 * (31 - i))) % 16).foldl (fun n d => n * 16 + d) 0
      = bits >>> (4 * (32 - k)) := by
  induction k with
  | zero =>
    rw [Nat.shiftRight_eq_div_pow]
    exact (Nat.div_eq_of_lt hbits).symm
  | succ k ih =>
    have hsplit : bits >>> (4 * (32 - k)) = bits >>> (4 * (32 - (k + 1))) / 16 := by
      have hshift : 4 * (32 - k) = 4 * (32 - (k + 1)) + 4 := by omega
      rw [hshift, Nat.shiftRight_add, Nat.shiftRight_eq_div_pow _ 4]
    have hnext : 31 - k = 32 - (k + 1) := by omega
    rw [List.range_succ, List.map_append, List.foldl_append, ih (by omega), List.map_singleton,
      hsplit, hnext]
    show bits >>> (4 * (32 - (k + 1))) / 16 * 16 + bits >>> (4 * (32 - (k + 1))) % 16 = _
    exact Nat.div_add_mod' _ 16

theorem ofDigits?_hexDigits {u : Uuid} (hu : u.bits < 1 <<< 128) :
    ofDigits? u.hexDigits = some u := by
  have hvalues : ∀ d ∈ u.hexValues, d < 16 := by
    intro d hd
    obtain ⟨i, -, rfl⟩ := List.mem_map.1 hd
    exact Nat.mod_lt _ (by decide)
  have hnumber : Text.hexNumber? u.hexDigits = some u.bits := by
    rw [hexDigits_eq]
    exact (Text.foldlM_hexDigit u.hexValues hvalues 0).trans
      (congrArg some (foldl_hexValues u.bits hu (Nat.le_refl 32)))
  rw [ofDigits?, if_pos u.length_hexDigits, hnumber]
  rfl

/-- Hyphens are passed over where they stand between the groups. -/
theorem ofHyphenated?_groups {a b c d e : List Char} (ha : a.length = 8) (hb : b.length = 4)
    (hc : c.length = 4) (hd : d.length = 4) (he : e.length = 12) :
    ofHyphenated? (a ++ '-' :: b ++ '-' :: c ++ '-' :: d ++ '-' :: e)
      = ofDigits? (a ++ b ++ c ++ d ++ e) := by
  unfold ofHyphenated?
  simp [List.drop_append, List.drop_of_length_le, ha, hb, hc, hd, he]

/-- What is written is read back. -/
theorem read?_text {u : Uuid} (hu : u.bits < 1 <<< 128) : read? u.text = some u := by
  have hlength := u.length_hexDigits
  have hgroup : ∀ n, n ≤ 28 → ((u.hexDigits.drop n).take 4).length = 4 := by
    intro n hn
    rw [List.length_take, List.length_drop, hlength]
    omega
  have hfirst : (u.hexDigits.take 8).length = 8 := by
    rw [List.length_take, hlength]
    rfl
  have hlast : (u.hexDigits.drop 20).length = 12 := by rw [List.length_drop, hlength]
  have hjoin : u.hexDigits.take 8 ++ (u.hexDigits.drop 8).take 4 ++ (u.hexDigits.drop 12).take 4
      ++ (u.hexDigits.drop 16).take 4 ++ u.hexDigits.drop 20 = u.hexDigits := by
    have hstep : ∀ n k, u.hexDigits.take n ++ (u.hexDigits.drop n).take k
        = u.hexDigits.take (n + k) :=
      fun n k => List.take_add.symm
    rw [hstep, hstep, hstep, List.take_append_drop]
  have hgroups := ofHyphenated?_groups hfirst (hgroup 8 (by omega)) (hgroup 12 (by omega))
      (hgroup 16 (by omega)) hlast
  rw [hjoin, ofDigits?_hexDigits hu] at hgroups
  have hthirtysix : u.text.toList.length = 36 := by
    rw [text, String.toList_ofList]
    simp only [List.length_append, List.length_cons, hfirst, hlast, hgroup 8 (by omega),
      hgroup 12 (by omega), hgroup 16 (by omega)]
  unfold read?
  dsimp only
  rw [hthirtysix, if_neg (by decide), if_pos rfl, text, String.toList_ofList]
  exact hgroups

end Uuid

end Larder
