import Mathlib.Algebra.Group.Nat.Defs
import Larder.Proofs.Time.Calendar
import Larder.Proofs.Time.Reading
import Larder.Time.Rfc3339

/-!
Instants are read back from their text.

Each part of a text is read up to the character that follows it, whatever comes behind, so the parts
can be read one after the other (`read?_text`).  That holds of years before 0 and after 9999, which
have a sign, and of leap seconds, which the calendar has at the end of a minute.
-/

namespace Larder

namespace Time

/-! ## Numbers -/

theorem foldl_digits (cs : List Char) :
    cs.foldl (fun n c => n * 10 + (c.toNat - 48)) 0 = Nat.ofDigitChars 10 cs 0 := by
  have hstep : (fun (n : Nat) (c : Char) => n * 10 + (c.toNat - 48)) = fun n c =>
    10 * n + (c.toNat - '0'.toNat) := by
    funext n c
    rw [Nat.mul_comm]
    rfl
  rw [hstep]
  exact Nat.ofDigitChars_eq_foldl.symm

theorem isDigit_padded {width n : Nat} : ∀ c ∈ padded width n, c.isDigit = true := by
  intro c hc
  rcases List.mem_append.1 hc with hzero | hdigit
  · rw [List.eq_of_mem_replicate hzero]
    decide
  · exact Nat.isDigit_of_mem_toDigits (by decide) (by decide) hdigit

theorem padded_ne_nil (width n : Nat) : padded width n ≠ [] :=
  fun h => Nat.toDigits_ne_nil (List.append_eq_nil_iff.1 h).2

theorem length_padded {width n : Nat} (hwidth : 0 < width) (hn : n < 10 ^ width) :
    (padded width n).length = width := by
  have hlength : (Nat.toDigits 10 n).length ≤ width :=
    (Nat.length_toDigits_le_iff (by decide) hwidth).2 hn
  rw [padded, List.length_append, List.length_replicate]
  omega

/-- Zeros in front do not count. -/
theorem ofDigitChars_padded (width n : Nat) : Nat.ofDigitChars 10 (padded width n) 0 = n := by
  have hzeros : ∀ k, Nat.ofDigitChars 10 (List.replicate k '0') 0 = 0 := by
    intro k
    induction k with
    | zero => rfl
    | succ k ih =>
      rw [List.replicate_succ, Nat.ofDigitChars_cons]
      exact ih
  rw [padded, Nat.ofDigitChars_append, hzeros, Nat.ofDigitChars_ten_toDigits]

theorem no_digit_first {first : Char} (h : first.isDigit = false) (rest : List Char) :
    ∀ c ∈ (first :: rest).head?, c.isDigit = false := by
  intro c hc
  rw [← Option.some.inj hc]
  exact h

theorem takeWhile_digits {ds rest : List Char} (hds : ∀ c ∈ ds, c.isDigit = true)
    (hrest : ∀ c ∈ rest.head?, c.isDigit = false) : (ds ++ rest).takeWhile Char.isDigit = ds := by
  rw [List.takeWhile_append_of_pos hds]
  cases rest with
  | nil => exact List.append_nil ds
  | cons c rest =>
    rw [List.takeWhile_cons_of_neg (by rw [hrest c rfl]; exact Bool.false_ne_true), List.append_nil]

theorem dropWhile_digits {ds rest : List Char} (hds : ∀ c ∈ ds, c.isDigit = true)
    (hrest : ∀ c ∈ rest.head?, c.isDigit = false) : (ds ++ rest).dropWhile Char.isDigit = rest := by
  rw [List.dropWhile_append_of_pos hds]
  cases rest with
  | nil => rfl
  | cons c rest => exact List.dropWhile_cons_of_neg (by rw [hrest c rfl]; exact Bool.false_ne_true)

theorem takeWhile_take_digits {most : Nat} {ds rest : List Char} (hds : ∀ c ∈ ds, c.isDigit = true)
    (hmost : ds.length ≤ most) (hrest : ds.length = most ∨ ∀ c ∈ rest.head?, c.isDigit = false) :
    ((ds ++ rest).take most).takeWhile Char.isDigit = ds := by
  rw [List.take_append, List.take_of_length_le hmost]
  refine takeWhile_digits hds fun c hc => ?_
  rcases hrest with hfull | hrest
  · rw [hfull, Nat.sub_self, List.take_zero] at hc
    cases hc
  · refine hrest c ?_
    rw [List.head?_take] at hc
    split at hc
    · cases hc
    · exact hc

/-- A number is read up to its last place, or up to what is no digit. -/
theorem digits?_append {most : Nat} {ds rest : List Char} (hne : ds ≠ [])
    (hds : ∀ c ∈ ds, c.isDigit = true) (hmost : ds.length ≤ most)
    (hrest : ds.length = most ∨ ∀ c ∈ rest.head?, c.isDigit = false) :
    digits? most (ds ++ rest) = some (Nat.ofDigitChars 10 ds 0, rest) := by
  unfold digits?
  dsimp only
  rw [takeWhile_take_digits hds hmost hrest, if_neg (by rw [List.isEmpty_iff]; exact hne),
    foldl_digits, List.drop_left]

/-! ## Parts of a date -/

theorem skipBlanks_cons {c : Char} {rest : List Char} (hc : Text.isBlank c = false) :
    skipBlanks (c :: rest) = c :: rest :=
  List.dropWhile_cons_of_neg (by rw [hc]; exact Bool.false_ne_true)

theorem isBlank_of_isDigit {c : Char} (hc : c.isDigit = true) : Text.isBlank c = false := by
  have hbounds : 48 ≤ c.toNat ∧ c.toNat ≤ 57 := by
    unfold Char.isDigit at hc
    simp only [Bool.and_eq_true, decide_eq_true_eq] at hc
    exact hc
  unfold Text.isBlank
  simp only [Bool.or_eq_false_iff, Bool.and_eq_false_imp, decide_eq_true_eq,
    decide_eq_false_iff_not, beq_eq_false_iff_ne]
  omega

theorem skipBlanks_digits {ds rest : List Char} (hne : ds ≠ []) (hds : ∀ c ∈ ds, c.isDigit = true) :
    skipBlanks (ds ++ rest) = ds ++ rest := by
  obtain ⟨c, cs, rfl⟩ := List.exists_cons_of_ne_nil hne
  exact skipBlanks_cons (isBlank_of_isDigit (hds c List.mem_cons_self))

theorem symbol?_cons {c : Char} (hc : Text.isBlank c = false) (rest : List Char) :
    symbol? c (c :: rest) = some rest := by
  unfold symbol?
  rw [skipBlanks_cons hc]
  exact if_pos rfl

theorem twoDigits?_padded {low high n : Nat} (hlow : low ≤ n) (hhigh : n ≤ high) (hn : n < 100)
    (rest : List Char) :
    twoDigits? low high (padded 2 n ++ rest) = some (n, rest) := by
  have hdigits : ∀ c ∈ padded 2 n, c.isDigit = true := fun c => isDigit_padded c
  have hlength : (padded 2 n).length = 2 := length_padded (by decide) hn
  unfold twoDigits?
  rw [skipBlanks_digits (padded_ne_nil 2 n) hdigits,
    digits?_append (padded_ne_nil 2 n) hdigits (Nat.le_of_eq hlength) (Or.inl hlength),
      ofDigitChars_padded]
  exact if_pos ⟨hlow, hhigh⟩

/-- A year is read up to the hyphen behind it. -/
theorem year?_yearChars (year : Int) (hyear : year.natAbs < 1 <<< 63) (rest : List Char) :
    year? (yearChars year ++ '-' :: rest) = some (year, '-' :: rest) := by
  have hhyphen : ∀ c ∈ ('-' :: rest).head?, c.isDigit = false := no_digit_first (by decide) rest
  unfold yearChars
  split
  · next hshort =>
    have hdigits : ∀ c ∈ padded 4 year.toNat, c.isDigit = true := fun c => isDigit_padded c
    have hlength : (padded 4 year.toNat).length = 4 := length_padded (by decide) (by omega)
    have hfour :=
      digits?_append (padded_ne_nil 4 year.toNat) hdigits (Nat.le_of_eq hlength) (Or.inr hhyphen)
    unfold year?
    rw [skipBlanks_digits (padded_ne_nil 4 year.toNat) hdigits]
    -- A digit stands first, so there is no sign.
    have hsign : ∀ {c : Char} {cs : List Char}, padded 4 year.toNat ++ '-' :: rest = c :: cs →
        c.isDigit = true := by
      intro c cs h
      obtain ⟨d, ds, hd⟩ := List.exists_cons_of_ne_nil (padded_ne_nil 4 year.toNat)
      rw [hd] at h hdigits
      rw [← (List.cons.inj h).1]
      exact hdigits d List.mem_cons_self
    split
    · next h => exact absurd (hsign h) (by decide)
    · next h => exact absurd (hsign h) (by decide)
    · rw [hfour, ofDigitChars_padded]
      exact congrArg (fun n => some (n, '-' :: rest)) (Int.toNat_of_nonneg hshort.1)
  · next hlong =>
    have hdigits : ∀ c ∈ padded 4 year.natAbs, c.isDigit = true := fun c => isDigit_padded c
    have hread : longDigits? (padded 4 year.natAbs ++ '-' :: rest)
        = some (year.natAbs, '-' :: rest) := by
      unfold longDigits?
      rw [digits?_append (padded_ne_nil 4 year.natAbs) hdigits (by rw [List.length_append]; omega)
        (Or.inr hhyphen), ofDigitChars_padded]
      exact if_pos hyear
    rw [List.cons_append]
    unfold year?
    by_cases hneg : year < 0
    · rw [if_pos hneg, skipBlanks_cons (by decide)]
      show (longDigits? _).map _ = _
      rw [hread]
      exact congrArg (fun n => some (n, '-' :: rest)) (by omega)
    · rw [if_neg hneg, skipBlanks_cons (by decide)]
      show (longDigits? _).map _ = _
      rw [hread]
      exact congrArg (fun n => some (n, '-' :: rest)) (by omega)

/-- The places after the second are read as nanoseconds. -/
theorem fraction?_fractionChars {nanos : Nat} (hnanos : nanos < 1_000_000_000) (rest : List Char) :
    fraction? (fractionChars nanos ++ 'Z' :: rest) = some (nanos, 'Z' :: rest) := by
  have hletter : ∀ c ∈ ('Z' :: rest).head?, c.isDigit = false := no_digit_first (by decide) rest
  have hplaces : ∀ (width n : Nat), 0 < width → width ≤ 9 → n < 10 ^ width →
      n * 10 ^ (9 - width) = nanos →
      fraction? ('.' :: (padded width n ++ 'Z' :: rest)) = some (nanos, 'Z' :: rest) := by
    intro width n hpos hwidth hn hvalue
    have hdigits : ∀ c ∈ padded width n, c.isDigit = true := fun c => isDigit_padded c
    have hlength : (padded width n).length = width := length_padded hpos hn
    have htake := takeWhile_take_digits hdigits (hlength ▸ hwidth) (Or.inr hletter)
    have hread := digits?_append (padded_ne_nil width n) hdigits (hlength ▸ hwidth) (Or.inr hletter)
    have hdrop := dropWhile_digits hdigits hletter
    show (digits? 9 (padded width n ++ 'Z' :: rest)).bind (fun x =>
      some
        (x.1 * 10 ^ (9 - (((padded width n ++ 'Z' :: rest).take 9).takeWhile Char.isDigit).length),
        (padded width n ++ 'Z' :: rest).dropWhile Char.isDigit)) = _
    rw [hread, htake, hdrop, hlength, ofDigitChars_padded, Option.bind_some, hvalue]
  unfold fractionChars
  split
  · next hzero =>
    rw [hzero]
    rfl
  · split
    · exact hplaces 3 _ (by decide) (by decide) (by omega)
        (by show nanos / 1_000_000 * 1_000_000 = nanos; omega)
    · split
      · exact hplaces 6 _ (by decide) (by decide) (by omega)
          (by show nanos / 1000 * 1000 = nanos; omega)
      · exact hplaces 9 _ (by decide) (by decide) hnanos (Nat.mul_one nanos)

end Time

namespace Instant

/-- An instant of the years that instants are kept for.  A leap second is one at the end of a
minute, since there alone it has a text of its own. -/
structure Kept (t : Instant) : Prop where
  least : minimum.second ≤ t.second
  greatest : t.second ≤ maximum.second
  within : t.nanosecond < 1_000_000_000 ∨ t.nanosecond < 2_000_000_000 ∧ t.second % 60 = 59

theorem bind_of_eq_some {α β : Type} {x : Option α} {a : α} (h : x = some a) {f : α → Option β} :
    x.bind f = f a := by
  rw [h, Option.bind_some]

/-- The parts of a text that are read one after the other. -/
def parts (date : Time.Date) (hour minute second nanos : Nat) : List Char :=
  Time.yearChars date.year ++ '-' ::
    (Time.padded 2 date.month ++ '-' :: (Time.padded 2 date.day ++ 'T' ::
    (Time.padded 2 hour ++ ':' :: (Time.padded 2 minute ++ ':' :: (Time.padded 2 second ++
      (Time.fractionChars nanos ++ ['Z']))))))

theorem toList_text (t : Instant) :
    t.text.toList = parts (Time.Date.ofDays (t.second / 86400)) ((t.second % 86400).toNat / 3600)
      ((t.second % 86400).toNat / 60 % 60)
      (if 1_000_000_000 ≤ t.nanosecond then (t.second % 86400).toNat % 60 + 1
        else (t.second % 86400).toNat % 60)
      (if 1_000_000_000 ≤ t.nanosecond then t.nanosecond - 1_000_000_000 else t.nanosecond) := by
  have hdays : t.second.fdiv 86400 = t.second / 86400 := Int.fdiv_eq_ediv_of_nonneg _ (by decide)
  have hofDay : t.second.fmod 86400 = t.second % 86400 := Int.fmod_eq_emod_of_nonneg _ (by decide)
  rw [text, hdays, hofDay, String.toList_ofList, parts]
  simp only [List.append_assoc, List.cons_append]

/-- Reading goes from part to part. -/
theorem read?_parts {date : Time.Date} {hour minute second nanos : Nat}
    (hvalid : date.isValid = true) (hyear : firstYear ≤ date.year ∧ date.year ≤ lastYear)
    (hhour : hour ≤ 23) (hminute : minute ≤ 59)
    (hsecond : second ≤ 60) (hnanos : nanos < 1_000_000_000) {s : String}
    (hs : s.toList = parts date hour minute second nanos) :
    read? s =
      let utc := date.toDays * 86400 +
      (hour * 3600 + minute * 60 + (if second = 60 then 59 else second) : Nat)
      if minimum.second ≤ utc ∧ utc ≤ maximum.second then
        some ⟨utc, if second = 60 then nanos + 1_000_000_000 else nanos⟩
      else none := by
  have hdate := Time.Date.bounds_of_isValid hvalid
  have hyearRead := Time.year?_yearChars date.year (by unfold firstYear lastYear at hyear; omega)
  have hhyphen := Time.symbol?_cons (show Text.isBlank '-' = false by decide)
  have hcolon := Time.symbol?_cons (show Text.isBlank ':' = false by decide)
  have hseparator : ∀ rest, Time.separator? ('T' :: rest) = some rest := fun _ => rfl
  have hoffset : Time.offset? ['Z'] = some (0, []) := by decide
  have hfraction := Time.fraction?_fractionChars hnanos []
  unfold read?
  rw [hs, parts]
  -- One part after the other.
  refine (bind_of_eq_some (hyearRead _)).trans ?_
  refine (bind_of_eq_some (hhyphen _)).trans ?_
  refine (bind_of_eq_some (Time.twoDigits?_padded hdate.1.1 hdate.1.2 (by omega) _)).trans ?_
  refine (bind_of_eq_some (hhyphen _)).trans ?_
  refine (bind_of_eq_some (Time.twoDigits?_padded hdate.2.1 hdate.2.2 (by omega) _)).trans ?_
  refine (bind_of_eq_some (hseparator _)).trans ?_
  refine (bind_of_eq_some (Time.twoDigits?_padded (Nat.zero_le hour) hhour (by omega) _)).trans ?_
  refine (bind_of_eq_some (hcolon _)).trans ?_
  refine (bind_of_eq_some (Time.twoDigits?_padded (Nat.zero_le minute) hminute (by omega) _)).trans
    ?_
  refine (bind_of_eq_some (hcolon _)).trans ?_
  refine (bind_of_eq_some (Time.twoDigits?_padded (Nat.zero_le second) hsecond (by omega) _)).trans
    ?_
  refine (bind_of_eq_some hfraction).trans ?_
  refine (bind_of_eq_some hoffset).trans ?_
  have hgood : ¬ (!(Time.skipBlanks []).isEmpty || !date.isValid || decide (Int.natAbs 0 ≥ 24 * 60)
      || decide (date.year < firstYear) || decide (lastYear < date.year)) = true := by
    have hempty : (Time.skipBlanks []).isEmpty = true := rfl
    have hmidnight : decide (Int.natAbs 0 ≥ 24 * 60) = false := by decide
    rw [hempty, hvalid, hmidnight]
    simp only [Bool.not_true, Bool.false_or, Bool.or_eq_true, decide_eq_true_eq, not_or]
    omega
  refine (if_neg hgood).trans ?_
  dsimp only
  rw [Int.zero_mul, Int.sub_zero]

/-- The text of an instant names it. -/
theorem read?_text {t : Instant} (ht : t.Kept) : read? t.text = some t := by
  obtain ⟨hleast, hgreatest, hwithin⟩ := ht
  have hdays : -96465292 ≤ t.second / 86400 ∧ t.second / 86400 ≤ 95026236 := by
    rw [minimum_second] at hleast
    rw [maximum_second] at hgreatest
    omega
  obtain ⟨ofDay, hofDay⟩ : ∃ n : Nat, t.second % 86400 = n := ⟨(t.second % 86400).toNat, by omega⟩
  -- The second and the nanoseconds that are written, and what is made of them.
  obtain ⟨second, nanos, htext, hsecond, hnanos, hback, hnanosBack⟩ : ∃ second nanos : Nat,
      t.text.toList = parts (Time.Date.ofDays (t.second / 86400)) (ofDay / 3600) (ofDay / 60 % 60)
        second nanos ∧
        second ≤ 60 ∧ nanos < 1_000_000_000 ∧ (if second = 60 then 59 else second) = ofDay % 60 ∧
        (if second = 60 then nanos + 1_000_000_000 else nanos) = t.nanosecond := by
    have htext := toList_text t
    rw [hofDay, Int.toNat_natCast] at htext
    refine ⟨_, _, htext, ?_⟩
    by_cases hleap : 1_000_000_000 ≤ t.nanosecond
    · rw [if_pos hleap, if_pos hleap]
      have hminute : ofDay % 60 + 1 = 60 := by omega
      rw [hminute, if_pos rfl, if_pos rfl]
      omega
    · rw [if_neg hleap, if_neg hleap]
      have hminute : ¬ ofDay % 60 = 60 := by omega
      rw [if_neg hminute, if_neg hminute]
      omega
  rw [read?_parts (Time.Date.isValid_ofDays _) (Time.Date.year_ofDays hdays.1 hdays.2) (by omega)
    (by omega) hsecond hnanos
    htext, Time.Date.toDays_ofDays, hback, hnanosBack]
  have hutc : t.second / 86400 * 86400 +
      ((ofDay / 3600 * 3600 + ofDay / 60 % 60 * 60 + ofDay % 60 : Nat) : Int)
      = t.second := by omega
  rw [hutc]
  exact if_pos ⟨hleast, hgreatest⟩

end Instant

end Larder
