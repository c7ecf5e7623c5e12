import Larder.Proofs.Text.Utf8
import Larder.Url.PercentEncoding

/-!
Reading back what was percent encoded.

A character that is encoded is read back as its octets, and of the characters that are left as they
are only the percent sign says anything to the reader.  None of the sets has the percent sign in it.
So a text is read back unless it holds what looks like an escape, a percent sign with two digits
behind it, and that is read as one octet where the text has three.
-/

namespace Larder.Url

open Text (hexValue? upperHexDigit)

/-- A percent sign with two digits behind it is somewhere in a text. -/
def HasEscape (cs : List Char) : Prop :=
  ∃ a b, (hexValue? a).isSome ∧ (hexValue? b).isSome ∧ ['%', a, b] <:+: cs

/-- A text begins with a percent sign and two digits. -/
def StartsEscape (cs : List Char) : Prop :=
  ∃ a b rest, (hexValue? a).isSome ∧ (hexValue? b).isSome ∧ cs = '%' :: a :: b :: rest

theorem hasEscape_cons {c : Char} {cs : List Char} : HasEscape (c :: cs) ↔
    StartsEscape (c :: cs) ∨ HasEscape cs := by
  constructor
  · rintro ⟨a, b, ha, hb, hinfix⟩
    rcases List.infix_cons_iff.1 hinfix with ⟨rest, hprefix⟩ | hrest
    · exact Or.inl ⟨a, b, rest, ha, hb, hprefix.symm⟩
    · exact Or.inr ⟨a, b, ha, hb, hrest⟩
  · rintro (⟨a, b, rest, ha, hb, heq⟩ | ⟨a, b, ha, hb, hinfix⟩)
    · exact ⟨a, b, ha, hb, heq ▸ ⟨[], rest, rfl⟩⟩
    · exact ⟨a, b, ha, hb, List.infix_cons_iff.2 (Or.inr hinfix)⟩

/-- Reading takes what looks like an escape at once, and else one character after the other. -/
theorem escape_induction {P : List Char → Prop} (nil : P [])
    (escape : ∀ a b rest, (hexValue? a).isSome → (hexValue? b).isSome → P rest →
      P ('%' :: a :: b :: rest))
    (plain : ∀ c rest, ¬ StartsEscape (c :: rest) → P rest → P (c :: rest))
    (cs : List Char) : P cs := by
  induction hn : cs.length using Nat.strongRecOn generalizing cs with
  | _ n ih =>
    cases cs with
    | nil => exact nil
    | cons c cs =>
      rw [List.length_cons] at hn
      by_cases hstarts : StartsEscape (c :: cs)
      · obtain ⟨a, b, rest, ha, hb, heq⟩ := hstarts
        obtain ⟨rfl, rfl⟩ := List.cons.inj heq
        exact escape a b rest ha hb
          (ih rest.length (by simp only [List.length_cons] at hn; omega) rest rfl)
      · exact plain c cs hstarts (ih cs.length (by omega) cs rfl)

/-! ## Single characters -/

theorem hexValue?_upperHexDigit : ∀ n < 16, hexValue? (upperHexDigit n) = some n := by decide

theorem percentDecode_octet (b : UInt8) (rest : List Char) :
    percentDecode (encodeOctet b ++ rest) = b :: percentDecode rest := by
  have hb : b.toNat < 256 := UInt8.toNat_lt b
  have hhigh := hexValue?_upperHexDigit (b.toNat / 16) (by omega)
  have hlow := hexValue?_upperHexDigit (b.toNat % 16) (by omega)
  show percentDecode ('%' :: upperHexDigit (b.toNat / 16) :: upperHexDigit (b.toNat % 16) :: rest)
      = _
  rw [percentDecode, hhigh, hlow]
  dsimp only
  rw [show b.toNat / 16 * 16 + b.toNat % 16 = b.toNat by omega, UInt8.ofNat_toNat]

theorem percentDecode_octets (bytes : Bytes) (rest : List Char) :
    percentDecode (bytes.flatMap encodeOctet ++ rest) = bytes ++ percentDecode rest := by
  induction bytes with
  | nil => rfl
  | cons b bytes ih =>
    rw [List.flatMap_cons, List.append_assoc, percentDecode_octet, ih, List.cons_append]

theorem percentDecode_cons {c : Char} (hc : c ≠ '%') (rest : List Char) :
    percentDecode (c :: rest) = Utf8.encode (String.singleton c) ++ percentDecode rest := by
  rw [percentDecode]
  intro a b after heq
  exact absurd heq hc

theorem percentDecode_escape {a b : Char} {high low : Nat} (ha : hexValue? a = some high)
    (hb : hexValue? b = some low) (rest : List Char) :
    percentDecode ('%' :: a :: b :: rest) = UInt8.ofNat (high * 16 + low) ::
      percentDecode rest := by
  rw [percentDecode, ha, hb]

/-- A percent sign that begins no escape stands for itself. -/
theorem percentDecode_percent {rest : List Char} (h : ¬ StartsEscape ('%' :: rest)) :
    percentDecode ('%' :: rest) = Utf8.encode "%" ++ percentDecode rest := by
  match rest with
  | [] => rfl
  | [a] =>
    rw [percentDecode]
    · rfl
    · intro x y after _ heq
      cases heq
  | a :: b :: rest =>
    rw [percentDecode]
    cases ha : hexValue? a with
    | none => rfl
    | some high =>
      cases hb : hexValue? b with
      | none => rfl
      | some low => exact absurd ⟨a, b, rest, by rw [ha]; rfl, by rw [hb]; rfl, rfl⟩ h

/-! ## Texts -/

variable {reserved : Char → Bool}

theorem percentEncode_cons (c : Char) (cs : List Char) :
    percentEncode reserved (c :: cs) = encodeChar reserved c ++ percentEncode reserved cs :=
  List.flatMap_cons

theorem encode_cons (c : Char) (cs : List Char) :
    Utf8.encode (String.ofList (c :: cs)) = Utf8.encode (String.singleton c) ++
    Utf8.encode (String.ofList cs) := by
  have happend : String.ofList ([c] ++ cs) = String.ofList [c] ++ String.ofList cs :=
    String.ofList_append
  rw [← Utf8.encode_append]
  exact congrArg Utf8.encode happend

theorem length_encode_pos (c : Char) : 0 < (Utf8.encode (String.singleton c)).length := by
  have h : Utf8.encode (String.singleton c) = String.utf8EncodeChar c := by
    rw [Utf8.encode_eq, String.toList_singleton, List.flatMap_singleton]
  rw [h, String.length_utf8EncodeChar]
  exact c.utf8Size_pos

theorem isEmpty_percentEncode (cs : List Char) :
    (percentEncode reserved cs).isEmpty = cs.isEmpty := by
  cases cs with
  | nil => rfl
  | cons c cs =>
    rw [percentEncode_cons, encodeChar]
    split
    · obtain ⟨b, bytes, hbytes⟩ :=
        List.exists_cons_of_ne_nil (List.ne_nil_of_length_pos (length_encode_pos c))
      rw [hbytes]
      rfl
    · rfl

/-- A digit at the beginning of an encoded text stands at the beginning of the text. -/
theorem digit_of_percentEncode {a : Char} {cs rest : List Char} (ha : (hexValue? a).isSome)
    (h : percentEncode reserved cs = a :: rest) : ∃ cs', cs = a :: cs' ∧
    percentEncode reserved cs' = rest := by
  cases cs with
  | nil => cases h
  | cons c cs =>
    rw [percentEncode_cons, encodeChar] at h
    split at h
    · -- An octet is written with a percent sign in front, which is no digit.
      obtain ⟨b, bytes, hbytes⟩ :=
        List.exists_cons_of_ne_nil (List.ne_nil_of_length_pos (length_encode_pos c))
      rw [hbytes] at h
      have hpercent : '%' = a := (List.cons.inj h).1
      rw [← hpercent] at ha
      exact absurd ha (by decide)
    · obtain ⟨rfl, hrest⟩ := List.cons.inj h
      exact ⟨cs, rfl, hrest⟩

theorem percentDecode_percentEncode_cons {c : Char} {cs : List Char}
    (h : ¬ StartsEscape (c :: cs)) :
    percentDecode (percentEncode reserved (c :: cs))
      = Utf8.encode (String.singleton c) ++ percentDecode (percentEncode reserved cs) := by
  rw [percentEncode_cons, encodeChar]
  split
  · exact percentDecode_octets _ _
  · rw [List.singleton_append]
    by_cases hc : c = '%'
    · subst hc
      refine percentDecode_percent fun ⟨a, b, rest, ha, hb, heq⟩ => h ?_
      obtain ⟨cs', rfl, hcs'⟩ := digit_of_percentEncode ha (List.cons.inj heq).2
      obtain ⟨cs'', rfl, -⟩ := digit_of_percentEncode hb hcs'
      exact ⟨a, b, cs'', ha, hb, rfl⟩
    · exact percentDecode_cons hc _

/-- A text without an escape is read back. -/
theorem percentDecode_percentEncode {cs : List Char} (h : ¬ HasEscape cs) :
    percentDecode (percentEncode reserved cs) = Utf8.encode (String.ofList cs) := by
  induction cs with
  | nil => rfl
  | cons c cs ih =>
    rw [hasEscape_cons, not_or] at h
    rw [percentDecode_percentEncode_cons h.1, ih h.2, encode_cons]

section Digits

variable (hdigit : ∀ c, (hexValue? c).isSome → reserved c = false)
include hdigit

theorem percentEncode_digit {c : Char} (hc : (hexValue? c).isSome) (cs : List Char) :
    percentEncode reserved (c :: cs) = c :: percentEncode reserved cs := by
  rw [percentEncode_cons, encodeChar, if_neg (by rw [hdigit c hc]; exact Bool.false_ne_true),
    List.singleton_append]

/-- What is read back is never longer than the text, and shorter if that has an escape. -/
theorem length_percentDecode_percentEncode (hpercent : reserved '%' = false) (cs : List Char) :
    (percentDecode (percentEncode reserved cs)).length ≤ (Utf8.encode (String.ofList cs)).length ∧
      (HasEscape cs →
        (percentDecode (percentEncode reserved cs)).length
          < (Utf8.encode (String.ofList cs)).length) := by
  induction cs using escape_induction with
  | nil => exact ⟨Nat.le_refl _, fun ⟨_, _, _, _, h⟩ => absurd h (by simp)⟩
  | escape a b rest ha hb ih =>
    have hencoded : percentEncode reserved ('%' :: a :: b :: rest)
        = '%' :: a :: b :: percentEncode reserved rest := by
      rw [percentEncode_cons, encodeChar, if_neg (by rw [hpercent]; exact Bool.false_ne_true),
        percentEncode_digit hdigit ha, percentEncode_digit hdigit hb, List.singleton_append]
    obtain ⟨high, hhigh⟩ := Option.isSome_iff_exists.1 ha
    obtain ⟨low, hlow⟩ := Option.isSome_iff_exists.1 hb
    have hpos := length_encode_pos
    have hshorter : (percentDecode (percentEncode reserved ('%' :: a :: b :: rest))).length
        < (Utf8.encode (String.ofList ('%' :: a :: b :: rest))).length := by
      rw [hencoded, percentDecode_escape hhigh hlow, encode_cons, encode_cons, encode_cons]
      simp only [List.length_cons, List.length_append]
      have := hpos '%'
      have := hpos a
      have := hpos b
      have := ih.1
      omega
    exact ⟨Nat.le_of_lt hshorter, fun _ => hshorter⟩
  | plain c rest hstarts ih =>
    rw [percentDecode_percentEncode_cons hstarts, encode_cons, List.length_append,
      List.length_append, hasEscape_cons]
    exact ⟨Nat.add_le_add_left ih.1 _,
      fun h => Nat.add_lt_add_left (ih.2 (h.resolve_left hstarts)) _⟩

/-- A text is read back if it has no escape, and only then. -/
theorem percentDecode_percentEncode_iff (hpercent : reserved '%' = false) (cs : List Char) :
    percentDecode (percentEncode reserved cs) = Utf8.encode (String.ofList cs) ↔
      ¬ HasEscape cs := by
  refine ⟨fun h hescape => ?_, percentDecode_percentEncode⟩
  have hshorter := (length_percentDecode_percentEncode hdigit hpercent cs).2 hescape
  rw [h] at hshorter
  exact Nat.lt_irrefl _ hshorter

end Digits

/-! ## Credentials -/

theorem forall_ascii {P : Char → Prop} (h : ∀ n < 128, P (Char.ofNat n)) {c : Char}
    (hc : c.toNat < 128) : P c := by
  rw [← Char.ofNat_toNat c]
  exact h _ hc

theorem inUserinfo_digit {c : Char} (hc : (hexValue? c).isSome) : inUserinfo c = false := by
  have hlt : c.toNat < 128 := by
    unfold hexValue? at hc
    by_contra hge
    have hsmall : ∀ d : Char, d.toNat < 128 → ¬ c ≤ d := fun d hd hle =>
      hge (Nat.lt_of_le_of_lt hle hd)
    simp only [hsmall '9' (by decide), hsmall 'f' (by decide), hsmall 'F' (by decide), and_false,
      if_false] at hc
    cases hc
  exact forall_ascii (P := fun c => (hexValue? c).isSome → inUserinfo c = false) (by decide) hlt hc

/-- The characters that set off the parts of an authority are all encoded in credentials. -/
theorem not_mem_userinfo {c : Char} (hc : inUserinfo c = true) (cs : List Char) :
    c ∉ percentEncode inUserinfo cs := by
  have hoctet : ∀ b : UInt8, c ∉ encodeOctet b := by
    intro b hmem
    have hb : b.toNat < 256 := UInt8.toNat_lt b
    have hdigits : ∀ n < 16, (hexValue? (upperHexDigit n)).isSome := by decide
    rcases List.mem_cons.1 hmem with rfl | hmem
    · exact absurd hc (by decide)
    · have hdigit : (hexValue? c).isSome := by
        rcases List.mem_cons.1 hmem with rfl | hmem
        · exact hdigits _ (by omega)
        · rw [List.mem_singleton.1 hmem]
          exact hdigits _ (by omega)
      rw [inUserinfo_digit hdigit] at hc
      cases hc
  intro hmem
  obtain ⟨d, -, hd⟩ := List.mem_flatMap.1 hmem
  rw [encodeChar] at hd
  split at hd
  · obtain ⟨b, -, hb⟩ := List.mem_flatMap.1 hd
    exact hoctet b hb
  · next hnot =>
    rw [List.mem_singleton.1 hd] at hc
    exact hnot hc

end Larder.Url
