import Larder.Time.Calendar

/-!
Days and dates are the same.

An era of 400 years has four centuries of 36524 days and one day more, a century has 25 cycles of
four years of 1461 days, of which the last may be one day short, and a cycle has four years of 365
days and one day more.  Counted by these, the day of an era has the year that `ofDays` computes
(`yearOfEra_eq`), and the rest is arithmetic of linear terms.
-/

namespace Larder.Time

namespace Date

/-- A day of an era, by centuries, cycles of four years, years, and days from the first of March. -/
structure EraDay where
  century : Int
  cycle : Int
  year : Int
  day : Int
  century_bounds : 0 ≤ century ∧ century ≤ 3
  cycle_bounds : 0 ≤ cycle ∧ cycle ≤ 24
  year_bounds : 0 ≤ year ∧ year ≤ 3
  day_bounds : 0 ≤ day ∧ day ≤ 365
  /-- Only leap years have a last day of February that is the 29th. -/
  leap : day = 365 → year = 3 ∧ (cycle = 24 → century = 3)

namespace EraDay

def yearOfEra (e : EraDay) : Int := 100 * e.century + 4 * e.cycle + e.year

def dayOfEra (e : EraDay) : Int := 36524 * e.century + 1461 * e.cycle + 365 * e.year + e.day

end EraDay

theorem exists_eraDay {dayOfEra : Int} (hlow : 0 ≤ dayOfEra) (hhigh : dayOfEra < 146097) :
    ∃ e : EraDay, e.dayOfEra = dayOfEra := by
  obtain ⟨c, hc, hrest, hlast⟩ : ∃ c : Int, (0 ≤ c ∧ c ≤ 3) ∧
      (0 ≤ dayOfEra - 36524 * c ∧ dayOfEra - 36524 * c ≤ 36524) ∧
      (c < 3 → dayOfEra - 36524 * c < 36524) :=
    ⟨min (dayOfEra / 36524) 3, by omega, by omega, by omega⟩
  generalize hr : dayOfEra - 36524 * c = r at hrest hlast
  obtain ⟨q, hq, ht⟩ : ∃ q : Int, (0 ≤ q ∧ q ≤ 24) ∧ 0 ≤ r - 1461 * q ∧ r - 1461 * q ≤ 1460 :=
    ⟨r / 1461, by omega, by omega⟩
  obtain ⟨n, hn, hday, hshort⟩ : ∃ n : Int, (0 ≤ n ∧ n ≤ 3) ∧
      (0 ≤ r - 1461 * q - 365 * n ∧ r - 1461 * q - 365 * n ≤ 365) ∧
      (n < 3 → r - 1461 * q - 365 * n < 365) :=
    ⟨min ((r - 1461 * q) / 365) 3, by omega, by omega, by omega⟩
  refine ⟨⟨c, q, n, r - 1461 * q - 365 * n, hc, hq, hn, hday, ?_⟩, ?_⟩
  · omega
  · show 36524 * c + 1461 * q + 365 * n + (r - 1461 * q - 365 * n) = dayOfEra
    omega

/-- The year that is computed from a day of an era. -/
theorem yearOfEra_eq (e : EraDay) :
    (e.dayOfEra - e.dayOfEra / 1460 + e.dayOfEra / 36524 - e.dayOfEra / 146096) / 365
      = e.yearOfEra := by
  obtain ⟨c, q, n, day, hc, hq, hn, hday, hleap⟩ := e
  show (36524 * c + 1461 * q + 365 * n + day - (36524 * c + 1461 * q + 365 * n + day) / 1460
    + (36524 * c + 1461 * q + 365 * n + day) / 36524
    - (36524 * c + 1461 * q + 365 * n + day) / 146096) / 365
      = 100 * c + 4 * q + n
  have hcenturies : (36524 * c + 1461 * q + 365 * n + day) / 36524
      - (36524 * c + 1461 * q + 365 * n + day) / 146096 = c := by
    have hrest : ∃ r, 1461 * q + 365 * n + day = r ∧ 0 ≤ r ∧ (r < 36524 ∨ r = 36524 ∧ c = 3) :=
      ⟨_, rfl, by omega, by omega⟩
    obtain ⟨r, hr, hlow, hhigh⟩ := hrest
    have hsum : 36524 * c + 1461 * q + 365 * n + day = 36524 * c + r := by omega
    rw [hsum]
    omega
  have hcycles : (36524 * c + 1461 * q + 365 * n + day) / 1460
      = 25 * c + q + (24 * c + q + 365 * n + day) / 1460 := by
    omega
  have hbefore : (24 * c + q + 365 * n + day) / 1460 = 0 ∨
      (24 * c + q + 365 * n + day) / 1460 = 1 := by omega
  omega

theorem daysBefore_eq (e : EraDay) :
    e.dayOfEra - (365 * e.yearOfEra + e.yearOfEra / 4 - e.yearOfEra / 100) = e.day := by
  obtain ⟨c, q, n, day, hc, hq, hn, hday, hleap⟩ := e
  show 36524 * c + 1461 * q + 365 * n + day
    - (365 * (100 * c + 4 * q + n) + (100 * c + 4 * q + n) / 4 - (100 * c + 4 * q + n) / 100) = day
  omega

theorem EraDay.dayOfEra_bounds (e : EraDay) : 0 ≤ e.dayOfEra ∧ e.dayOfEra < 146097 := by
  obtain ⟨c, q, n, day, hc, hq, hn, hday, hleap⟩ := e
  show 0 ≤ 36524 * c + 1461 * q + 365 * n + day ∧ 36524 * c + 1461 * q + 365 * n + day < 146097
  omega

theorem EraDay.yearOfEra_bounds (e : EraDay) : 0 ≤ e.yearOfEra ∧ e.yearOfEra < 400 := by
  obtain ⟨c, q, n, day, hc, hq, hn, hday, hleap⟩ := e
  show 0 ≤ 100 * c + 4 * q + n ∧ 100 * c + 4 * q + n < 400
  omega

/-- The date of a day, counted from the first of March of a year. -/
def fromMarch (year day : Int) : Date :=
  let monthFromMarch := (5 * day + 2) / 153
  let month := if monthFromMarch < 10 then monthFromMarch + 3 else monthFromMarch - 9
  ⟨if month ≤ 2 then year + 1
    else year, month.toNat, (day - (153 * monthFromMarch + 2) / 5 + 1).toNat⟩

theorem ofDays_eq {days era : Int} {e : EraDay} (h : days + 719468 = era * 146097 + e.dayOfEra) :
    ofDays days = fromMarch (e.yearOfEra + era * 400) e.day := by
  have hbounds := e.dayOfEra_bounds
  have hera : (days + 719468).fdiv 146097 = era := by
    rw [Int.fdiv_eq_ediv_of_nonneg _ (by decide)]
    omega
  have hday : days + 719468 - era * 146097 = e.dayOfEra := by omega
  unfold ofDays
  dsimp only
  rw [hera, hday, yearOfEra_eq, daysBefore_eq]
  rfl

theorem exists_ofDays_eq (days : Int) :
    ∃ (era : Int) (e : EraDay), days + 719468 = era * 146097 + e.dayOfEra ∧
      ofDays days = fromMarch (e.yearOfEra + era * 400) e.day := by
  obtain ⟨e, he⟩ := exists_eraDay (Int.emod_nonneg (days + 719468) (by decide))
    (Int.emod_lt_of_pos (days + 719468) (by decide : (0 : Int) < 146097))
  have h : days + 719468 = (days + 719468) / 146097 * 146097 + e.dayOfEra := by
    rw [he]
    omega
  exact ⟨_, e, h, ofDays_eq h⟩

/-- Days of a year before a month, both counted from March. -/
def daysBefore (month : Nat) : Nat := (153 * month + 2) / 5

/-- The months from March on, with the days of the year before them. -/
theorem fromMarch_cases (year : Int) {day : Int} (hday : 0 ≤ day ∧ day ≤ 365) :
    ∃ m d : Nat, m ≤ 11 ∧ 1 ≤ d ∧ ((daysBefore m + d : Nat) : Int) = day + 1 ∧
    daysBefore m + d ≤ daysBefore (m + 1) ∧
      (m < 10 ∧ fromMarch year day = ⟨year, m + 3, d⟩ ∨ 10 ≤ m ∧
        fromMarch year day = ⟨year + 1, m - 9, d⟩) := by
  obtain ⟨m, hm⟩ : ∃ m : Nat, (5 * day + 2) / 153 = m := ⟨((5 * day + 2) / 153).toNat, by omega⟩
  have hbefore : (153 * (m : Int) + 2) / 5 = (daysBefore m : Nat) := rfl
  have hbounds : 5 * daysBefore m ≤ 153 * m + 2 ∧ 153 * m + 2 < 5 * daysBefore m + 5 := by
    unfold daysBefore
    omega
  have hnext : 153 * (m + 1) + 2 < 5 * daysBefore (m + 1) + 5 := by
    unfold daysBefore
    omega
  obtain ⟨d, hd⟩ : ∃ d : Nat, day - daysBefore m + 1 = d :=
    ⟨(day - daysBefore m + 1).toNat, by omega⟩
  refine ⟨m, d, by omega, by omega, by omega, by omega, ?_⟩
  unfold fromMarch
  dsimp only
  rw [hm, hbefore, hd]
  rcases Nat.lt_or_ge m 10 with hlt | hge
  · have hmonth : (if (m : Int) < 10 then (m : Int) + 3 else m - 9) = m + 3 := if_pos (by omega)
    rw [hmonth, if_neg (by omega)]
    exact Or.inl ⟨hlt, rfl⟩
  · have hmonth : (if (m : Int) < 10 then (m : Int) + 3 else m - 9) = (m - 9 : Nat) := by
      rw [if_neg (by omega)]
      omega
    rw [hmonth, if_pos (by omega)]
    exact Or.inr ⟨hge, rfl⟩

/-- A date is counted as the day that it came from. -/
theorem toDays_ofDays (days : Int) : (ofDays days).toDays = days := by
  obtain ⟨era, e, hdays, hdate⟩ := exists_ofDays_eq days
  obtain ⟨m, d, hm, hd, hday, -, hcases⟩ := fromMarch_cases (e.yearOfEra + era * 400) e.day_bounds
  have hyear := e.yearOfEra_bounds
  have hera : (e.yearOfEra + era * 400).fdiv 400 = era := by
    rw [Int.fdiv_eq_ediv_of_nonneg _ (by decide)]
    omega
  have hsum := daysBefore_eq e
  have hyears : e.yearOfEra + era * 400 - era * 400 = e.yearOfEra := by omega
  -- Whether or not the year has begun in January, it began in March.
  have hcount : ∀ date : Date, (if date.month ≤ 2 then date.year - 1 else date.year)
      = e.yearOfEra + era * 400 →
      (date.month + 9) % 12 = m → date.day = d → date.toDays = days := by
    intro date hfrom hmonth hd'
    unfold toDays
    dsimp only
    rw [hfrom, hmonth, hd', hera, hyears]
    change era * 146097
      + (e.yearOfEra * 365 + e.yearOfEra / 4 - e.yearOfEra / 100 +
        ((daysBefore m + d : Nat) - 1)) - 719468 = days
    omega
  rw [hdate]
  rcases hcases with ⟨hlt, h⟩ | ⟨hge, h⟩
  · rw [h]
    exact hcount _ (if_neg (by show ¬ m + 3 ≤ 2; omega)) (by show (m + 3 + 9) % 12 = m; omega) rfl
  · rw [h]
    refine hcount _ ?_ (by show (m - 9 + 9) % 12 = m; omega) rfl
    rw [if_pos (by show m - 9 ≤ 2; omega)]
    show e.yearOfEra + era * 400 + 1 - 1 = _
    omega

theorem EraDay.isLeapYear {e : EraDay} (h : e.day = 365) (era : Int) :
    isLeapYear (e.yearOfEra + era * 400 + 1) = true := by
  obtain ⟨c, q, n, day, hc, hq, hn, hday, hleap⟩ := e
  change day = 365 at h
  show Time.isLeapYear (100 * c + 4 * q + n + era * 400 + 1) = true
  unfold Time.isLeapYear
  simp only [Bool.and_eq_true, Bool.or_eq_true, beq_iff_eq, bne_iff_ne]
  omega

/-- Days that a month has in every year, the months counted from March. -/
theorem le_daysInMonth {m d : Nat} (hm : m < 11) (hd : daysBefore m + d ≤ daysBefore (m + 1))
    (year : Int) :
    d ≤ daysInMonth year (if m < 10 then m + 3 else m - 9) := by
  have hshort : ∀ m < 11, daysBefore (m + 1) - daysBefore m
      ≤ daysInMonth 0 (if m < 10 then m + 3 else m - 9) := by decide
  have hyear : daysInMonth year (if m < 10 then m + 3 else m - 9)
      = daysInMonth 0 (if m < 10 then m + 3 else m - 9) := by
    have hmonth : (if m < 10 then m + 3 else m - 9) ≠ 2 := by split <;> omega
    unfold daysInMonth
    rw [if_neg hmonth, if_neg hmonth]
  have hlength := hshort m hm
  rw [hyear]
  omega

/-- Every day has a date that exists. -/
theorem isValid_ofDays (days : Int) : (ofDays days).isValid = true := by
  obtain ⟨era, e, hdays, hdate⟩ := exists_ofDays_eq days
  obtain ⟨m, d, hm, hd, hday, hnext, hcases⟩ :=
    fromMarch_cases (e.yearOfEra + era * 400) e.day_bounds
  have hvalid : ∀ date : Date, 1 ≤ date.month → date.month ≤ 12 → date.day = d →
      d ≤ daysInMonth date.year date.month → date.isValid = true := by
    intro date hlow hhigh hd' hlength
    unfold isValid
    rw [hd']
    simp only [Bool.and_eq_true, decide_eq_true_eq]
    exact ⟨⟨⟨hlow, hhigh⟩, hd⟩, hlength⟩
  rw [hdate]
  rcases hcases with ⟨hlt, h⟩ | ⟨hge, h⟩
  · rw [h]
    refine hvalid _ (by show 1 ≤ m + 3; omega) (by show m + 3 ≤ 12; omega) rfl ?_
    have hlength := le_daysInMonth (by omega) hnext (e.yearOfEra + era * 400)
    rwa [if_pos hlt] at hlength
  · rw [h]
    refine hvalid _ (by show 1 ≤ m - 9; omega) (by show m - 9 ≤ 12; omega) rfl ?_
    show d ≤ daysInMonth (e.yearOfEra + era * 400 + 1) (m - 9)
    rcases Nat.lt_or_ge m 11 with hjanuary | hfebruary
    · have hlength := le_daysInMonth hjanuary hnext (e.yearOfEra + era * 400 + 1)
      rwa [if_neg (by omega)] at hlength
    · obtain rfl : m = 11 := by omega
      have hbefore : daysBefore 11 = 337 := by decide
      have hbounds := e.day_bounds
      rw [hbefore] at hday
      by_cases hleap : e.day = 365
      · show d ≤ daysInMonth _ 2
        rw [daysInMonth, if_pos rfl, EraDay.isLeapYear hleap, if_pos rfl]
        omega
      · show d ≤ daysInMonth _ 2
        rw [daysInMonth, if_pos rfl]
        split <;> omega

theorem bounds_of_isValid {date : Date} (h : date.isValid = true) :
    (1 ≤ date.month ∧ date.month ≤ 12) ∧ 1 ≤ date.day ∧ date.day ≤ 31 := by
  have hlength : daysInMonth date.year date.month ≤ 31 := by
    unfold daysInMonth
    split
    · split <;> decide
    · split <;> decide
  unfold isValid at h
  simp only [Bool.and_eq_true, decide_eq_true_eq] at h
  omega

/-- The days of the years that instants are kept for have dates in those years. -/
theorem year_ofDays {days : Int} (hlow : -96465292 ≤ days) (hhigh : days ≤ 95026236) :
    -262143 ≤ (ofDays days).year ∧ (ofDays days).year ≤ 262142 := by
  obtain ⟨era, e, hdays, hdate⟩ := exists_ofDays_eq days
  obtain ⟨m, d, hm, hd, hday, hnext, hcases⟩ :=
    fromMarch_cases (e.yearOfEra + era * 400) e.day_bounds
  obtain ⟨c, q, n, day, hc, hq, hn, hbounds, hleap⟩ := e
  change days + 719468 = era * 146097 + (36524 * c + 1461 * q + 365 * n + day) at hdays
  change ((daysBefore m + d : Nat) : Int) = day + 1 at hday
  have hera : -656 ≤ era ∧ era ≤ 655 := by omega
  rw [hdate]
  rcases hcases with ⟨hlt, h⟩ | ⟨hge, h⟩
  · have hfirst : daysBefore (m + 1) ≤ 306 := by
      unfold daysBefore
      omega
    rw [h]
    show -262143 ≤ 100 * c + 4 * q + n + era * 400 ∧ 100 * c + 4 * q + n + era * 400 ≤ 262142
    constructor <;> omega
  · have hlast : 306 ≤ daysBefore m := by
      unfold daysBefore
      omega
    rw [h]
    show -262143 ≤ 100 * c + 4 * q + n + era * 400 + 1 ∧
        100 * c + 4 * q + n + era * 400 + 1 ≤ 262142
    constructor <;> omega

end Date

end Larder.Time
