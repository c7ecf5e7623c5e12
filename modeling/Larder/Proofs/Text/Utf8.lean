import Mathlib.Data.List.Basic
import Larder.Text.Utf8

/-!
Texts written as octets are read back, whatever octets come behind them.

The reader goes character by character: what a character is written as makes it give that character
and go on behind (`scan_encodedChar`), with one case for each number of octets.
-/

namespace Larder.Utf8

open String (utf8EncodeChar)

theorem encode_eq (s : String) : encode s = s.toList.flatMap utf8EncodeChar := by
  unfold encode
  rw [← String.utf8Encode_toList]
  exact List.toList_data_toByteArray

/-! ## Octets by their numbers -/

theorem toNat_octet {n : Nat} (h : n < 256) : (UInt8.ofNat n).toNat = n :=
  UInt8.toNat_ofNat_of_lt' h

theorem octet_lt_iff {n : Nat} (h : n < 256) (b : UInt8) : UInt8.ofNat n < b ↔ n < b.toNat := by
  rw [UInt8.lt_iff_toNat_lt, toNat_octet h]

theorem octet_eq_iff {n : Nat} (h : n < 256) (b : UInt8) : UInt8.ofNat n = b ↔ n = b.toNat := by
  rw [← UInt8.toNat_inj, toNat_octet h]

/-- What a leading octet calls for, by its number. -/
theorem lead?_octet {n : Nat} (h : n < 256) :
    lead? (UInt8.ofNat n) =
      if n < 0xc2 then none
      else if n < 0xe0 then some ⟨1, 0x80, 0xbf, n - 0xc0⟩
      else if n = 0xe0 then some ⟨2, 0xa0, 0xbf, n - 0xe0⟩
      else if n = 0xed then some ⟨2, 0x80, 0x9f, n - 0xe0⟩
      else if n < 0xf0 then some ⟨2, 0x80, 0xbf, n - 0xe0⟩
      else if n = 0xf0 then some ⟨3, 0x90, 0xbf, n - 0xf0⟩
      else if n < 0xf4 then some ⟨3, 0x80, 0xbf, n - 0xf0⟩
      else if n = 0xf4 then some ⟨3, 0x80, 0x8f, n - 0xf0⟩
      else none := by
  unfold lead?
  simp only [octet_lt_iff h, octet_eq_iff h, toNat_octet h, UInt8.reduceToNat]

/-- An octet within the bounds of the first one that follows a lead adds six bits. -/
theorem follow_octet {d : Nat} (hd : d < 64) {low high : UInt8} (hlow : low.toNat ≤ 0x80 + d)
    (hhigh : 0x80 + d ≤ high.toNat) (n acc : Nat) (rest : Bytes) :
    follow (n + 1) low high acc (UInt8.ofNat (d + 0x80) :: rest)
      = follow n 0x80 0xbf (acc * 64 + d) rest := by
  have hnat : (UInt8.ofNat (d + 0x80)).toNat = d + 0x80 := toNat_octet (by omega)
  have hbounds : low ≤ UInt8.ofNat (d + 0x80) ∧ UInt8.ofNat (d + 0x80) ≤ high := by
    rw [UInt8.le_iff_toNat_le, UInt8.le_iff_toNat_le, hnat]
    omega
  rw [follow, if_pos hbounds, hnat, Nat.add_sub_cancel]

theorem follow_tail {d : Nat} (hd : d < 64) (n acc : Nat) (rest : Bytes) :
    follow (n + 1) 0x80 0xbf acc (UInt8.ofNat (d + 0x80) :: rest)
      = follow n 0x80 0xbf (acc * 64 + d) rest := by
  refine follow_octet hd ?_ ?_ n acc rest
  · show 0x80 ≤ 0x80 + d
    omega
  · show 0x80 + d ≤ 0xbf
    omega

/-! ## Characters -/

theorem not_surrogate (c : Char) : c.toNat < 0xd800 ∨ 0xdfff < c.toNat ∧ c.toNat < 0x110000 := by
  have hvalid := c.valid
  unfold UInt32.isValidChar Nat.isValidChar at hvalid
  exact hvalid

theorem scan_lead {n : Nat} (h : n < 256) (hn : 0x80 ≤ n) {l : Lead}
    (hlead : lead? (UInt8.ofNat n) = some l) {v : Nat} {octets rest : Bytes}
    (hfollow : follow l.following l.low l.high l.payload (octets ++ rest) = (some v, rest)) :
    scan (UInt8.ofNat n :: octets ++ rest) = some (Char.ofNat v) :: scan rest := by
  have hlarge : ¬ UInt8.ofNat n < 0x80 := by
    rw [octet_lt_iff h]
    exact Nat.not_lt.2 hn
  rw [List.cons_append, scan, if_neg hlarge, hlead]
  dsimp only
  rw [hfollow, Option.map_some]

section Leads

variable {v : Nat}

theorem lead?_two (h : 0x80 ≤ v) (hv : v < 0x800) :
    lead? (UInt8.ofNat (v / 64 % 0x20 + 0xc0)) = some ⟨1, 0x80, 0xbf, v / 64⟩ := by
  have hpayload : v / 64 % 0x20 + 0xc0 - 0xc0 = v / 64 := by omega
  rw [lead?_octet (by omega), if_neg (by omega), if_pos (by omega), hpayload]

/-- The bounds of the second octet of three let it in, since they keep out surrogates and overlong
forms only. -/
theorem lead?_three (h : 0x800 ≤ v) (hv : v < 0x10000) (hsurrogate : v < 0xd800 ∨ 0xdfff < v) :
    ∃ low high : UInt8, lead? (UInt8.ofNat (v / 4096 % 0x10 + 0xe0))
      = some ⟨2, low, high, v / 4096⟩ ∧
      low.toNat ≤ 0x80 + v / 64 % 0x40 ∧ 0x80 + v / 64 % 0x40 ≤ high.toNat := by
  have hpayload : v / 4096 % 0x10 + 0xe0 - 0xe0 = v / 4096 := by omega
  rw [lead?_octet (by omega), if_neg (by omega), if_neg (by omega), hpayload]
  split
  · refine ⟨_, _, rfl, ?_, ?_⟩
    · show 0xa0 ≤ 0x80 + v / 64 % 0x40
      omega
    · show 0x80 + v / 64 % 0x40 ≤ 0xbf
      omega
  · split
    · refine ⟨_, _, rfl, ?_, ?_⟩
      · show 0x80 ≤ 0x80 + v / 64 % 0x40
        omega
      · show 0x80 + v / 64 % 0x40 ≤ 0x9f
        omega
    · rw [if_pos (by omega)]
      refine ⟨_, _, rfl, ?_, ?_⟩
      · show 0x80 ≤ 0x80 + v / 64 % 0x40
        omega
      · show 0x80 + v / 64 % 0x40 ≤ 0xbf
        omega

theorem lead?_four (h : 0x10000 ≤ v) (hv : v < 0x110000) :
    ∃ low high : UInt8, lead? (UInt8.ofNat (v / 262144 % 0x08 + 0xf0))
      = some ⟨3, low, high, v / 262144⟩ ∧
      low.toNat ≤ 0x80 + v / 4096 % 0x40 ∧ 0x80 + v / 4096 % 0x40 ≤ high.toNat := by
  have hpayload : v / 262144 % 0x08 + 0xf0 - 0xf0 = v / 262144 := by omega
  rw [lead?_octet (by omega), if_neg (by omega), if_neg (by omega), if_neg (by omega),
    if_neg (by omega), if_neg (by omega), hpayload]
  split
  · refine ⟨_, _, rfl, ?_, ?_⟩
    · show 0x90 ≤ 0x80 + v / 4096 % 0x40
      omega
    · show 0x80 + v / 4096 % 0x40 ≤ 0xbf
      omega
  · split
    · refine ⟨_, _, rfl, ?_, ?_⟩
      · show 0x80 ≤ 0x80 + v / 4096 % 0x40
        omega
      · show 0x80 + v / 4096 % 0x40 ≤ 0xbf
        omega
    · rw [if_pos (by omega)]
      refine ⟨_, _, rfl, ?_, ?_⟩
      · show 0x80 ≤ 0x80 + v / 4096 % 0x40
        omega
      · show 0x80 + v / 4096 % 0x40 ≤ 0x8f
        omega

end Leads

/-- What a character is written as is read as that character, with anything behind it. -/
theorem scan_encodedChar (c : Char) (rest : Bytes) :
    scan (utf8EncodeChar c ++ rest) = some c :: scan rest := by
  have hback : Char.ofNat c.toNat = c := Char.ofNat_toNat c
  have hsurrogate := not_surrogate c
  have hval : c.val.toNat = c.toNat := rfl
  unfold utf8EncodeChar
  simp only [hval]
  generalize c.toNat = v at hback hsurrogate
  rw [← hback]
  split
  · next hone =>
    have hsmall : UInt8.ofNat v < 0x80 := (octet_lt_iff (by omega) _).2 (Nat.lt_succ_of_le hone)
    rw [List.cons_append, List.nil_append, scan, if_pos hsmall, toNat_octet (by omega)]
  · split
    · next hone htwo =>
      refine scan_lead (by omega) (by omega) (lead?_two (by omega) (by omega)) ?_
      have hvalue : v / 64 * 64 + v % 0x40 = v := by omega
      show follow 1 0x80 0xbf (v / 64) (UInt8.ofNat (v % 0x40 + 0x80) :: rest) = _
      rw [follow_tail (by omega), hvalue, follow]
    · split
      · next htwo hthree =>
        obtain ⟨low, high, hlead, hlow, hhigh⟩ :=
          lead?_three (v := v) (by omega) (by omega) (by omega)
        refine scan_lead (by omega) (by omega) hlead ?_
        have hvalue : (v / 4096 * 64 + v / 64 % 0x40) * 64 + v % 0x40 = v := by omega
        show follow 2 low high (v / 4096)
          (UInt8.ofNat (v / 64 % 0x40 + 0x80) :: UInt8.ofNat (v % 0x40 + 0x80) :: rest) = _
        rw [follow_octet (by omega) hlow hhigh, follow_tail (by omega), hvalue, follow]
      · next hthree =>
        obtain ⟨low, high, hlead, hlow, hhigh⟩ := lead?_four (v := v) (by omega) (by omega)
        refine scan_lead (by omega) (by omega) hlead ?_
        have hvalue : ((v / 262144 * 64 + v / 4096 % 0x40) * 64 + v / 64 % 0x40) * 64 + v % 0x40
            = v := by omega
        show follow 3 low high (v / 262144)
          (UInt8.ofNat (v / 4096 % 0x40 + 0x80) :: UInt8.ofNat (v / 64 % 0x40 + 0x80)
            :: UInt8.ofNat (v % 0x40 + 0x80) :: rest) = _
        rw [follow_octet (by omega) hlow hhigh, follow_tail (by omega), follow_tail (by omega),
          hvalue, follow]

/-! ## Texts -/

theorem encode_append (s t : String) : encode (s ++ t) = encode s ++ encode t := by
  unfold encode
  rw [String.toByteArray_append, ByteArray.data_append, Array.toList_append]

theorem encode_injective {s t : String} (h : encode s = encode t) : s = t := by
  unfold encode at h
  rw [← String.toByteArray_inj]
  exact ByteArray.ext (Array.toList_inj.1 h)

theorem scan_encode (s : String) (rest : Bytes) :
    scan (encode s ++ rest) = s.toList.map some ++ scan rest := by
  rw [encode_eq]
  induction s.toList with
  | nil => rfl
  | cons c cs ih =>
    rw [List.flatMap_cons, List.append_assoc, scan_encodedChar, ih]
    rfl

theorem decode?_encode (s : String) : decode? (encode s) = some s := by
  have hscan : scan (encode s) = s.toList.map some := by
    have h := scan_encode s []
    rw [List.append_nil, scan, List.append_nil] at h
    exact h
  have hall : ∀ cs : List Char, (cs.map some).mapM id = some cs := by
    intro cs
    induction cs with
    | nil => rfl
    | cons c cs ih =>
      rw [List.map_cons, List.mapM_cons, ih]
      rfl
  rw [decode?, hscan, hall, Option.map_some, String.ofList_toList]

/-- A text whose octets begin with those of another one begins with that text. -/
theorem exists_of_encode_eq_append {s t : String} {rest : Bytes} (h : encode s = encode t ++ rest) :
    ∃ u, s = t ++ u ∧ rest = encode u := by
  have hscan : s.toList.map some = t.toList.map some ++ scan rest := by
    rw [← scan_encode t rest, ← h, ← List.append_nil (encode s), scan_encode, scan, List.append_nil]
  obtain ⟨front, back, hsplit, hfront, -⟩ := List.map_eq_append_iff.1 hscan
  have hchars : front = t.toList := List.map_injective_iff.2 (fun _ _ => Option.some.inj) hfront
  have hs : s = t ++ String.ofList back := by
    rw [← String.toList_inj, String.toList_append, String.toList_ofList, hsplit, hchars]
  refine ⟨_, hs, ?_⟩
  rw [hs, encode_append] at h
  exact (List.append_cancel_left h).symm

end Larder.Utf8
