import Larder.Time.Instant

/-!
Instants that a clock shows, counted in nanoseconds, and the end of a time to live in that count.
-/

namespace Larder

namespace Instant

/-- Outside leap seconds, where nanoseconds since 1970 tell instants apart. -/
def Regular (t : Instant) : Prop := t.nanosecond < 1_000_000_000

theorem le_iff {a b : Instant} (ha : a.Regular) (hb : b.Regular) :
    a.le b = true ↔ a.toNanoseconds ≤ b.toNanoseconds := by
  unfold Regular at ha hb
  unfold le toNanoseconds
  simp only [Bool.or_eq_true, Bool.and_eq_true, decide_eq_true_eq, beq_iff_eq]
  omega

theorem regular_plus {t : Instant} (ht : t.Regular) (d : Duration) : (t.plus d).Regular := by
  unfold Regular at ht ⊢
  unfold plus
  dsimp only
  rw [if_neg (by omega)]
  exact Nat.mod_lt _ (by decide)

theorem toNanoseconds_plus {t : Instant} (ht : t.Regular) (d : Duration) :
    (t.plus d).toNanoseconds = t.toNanoseconds + d.nanoseconds := by
  unfold Regular at ht
  unfold plus toNanoseconds
  dsimp only
  rw [if_neg (by omega)]
  dsimp only
  omega

theorem minimum_second : minimum.second = -8334601228800 := by decide

theorem maximum_second : maximum.second = 8210266876799 := by decide

theorem maximum_nanosecond : maximum.nanosecond = 999_999_999 := rfl

theorem regular_maximum : maximum.Regular := by
  unfold Regular
  rw [maximum_nanosecond]
  decide

theorem regular_minimum : minimum.Regular := by
  unfold Regular
  decide

/-- The last second has all its nanoseconds. -/
theorem maximum_second_lt_iff {t : Instant} (ht : t.Regular) :
    maximum.second < t.second ↔ maximum.toNanoseconds < t.toNanoseconds := by
  unfold Regular at ht
  unfold toNanoseconds
  rw [maximum_nanosecond]
  omega

/-- A step that is too long for the calendar arithmetic leads past the last year from any
instant. -/
theorem maximum_lt_minimum_add_longestStep :
    maximum.toNanoseconds < minimum.toNanoseconds + longestStep := by decide

/-- A time to live that cannot be added: it is too long for one step, or leads past the last
year. -/
def Saturates (t : Instant) (ttl : Duration) : Prop :=
  longestStep < ttl.nanoseconds ∨ t.plus? ttl = none

section Expiry

variable {t : Instant} {ttl : Duration}

theorem plus?_eq_none_iff : t.plus? ttl = none ↔ maximum.second < (t.plus ttl).second := by
  unfold plus?
  dsimp only
  split
  · next hle => exact iff_of_false (fun h => by cases h) (Int.not_lt.2 hle)
  · next hgt => exact iff_of_true rfl (Int.not_le.1 hgt)

theorem expiry_of_saturates (h : t.Saturates ttl) : t.expiry ttl = maximum := by
  unfold expiry
  rcases h with hlong | hpast
  · exact if_pos hlong
  · rw [hpast]
    exact ite_self _

theorem expiry_of_not_saturates (h : ¬ t.Saturates ttl) : t.expiry ttl = t.plus ttl := by
  obtain ⟨hshort, hwithin⟩ := not_or.1 h
  rw [plus?_eq_none_iff, Int.not_lt] at hwithin
  unfold expiry plus?
  dsimp only
  rw [if_neg hshort, if_pos hwithin]
  rfl

end Expiry

end Instant

/-- What a clock can show: an instant of the years that instants are kept for, and no leap
second. -/
structure Reading where
  instant : Instant
  regular : instant.Regular
  least : Instant.minimum.le instant = true
  greatest : instant.le Instant.maximum = true

namespace Reading

/-- A clock on a whole second of the first days of 1970. -/
def ofSeconds (n : Nat) (h : n < 1_000_000) : Reading where
  instant := ⟨n, 0⟩
  regular := by
    show (0 : Nat) < 1_000_000_000
    decide
  least := by
    unfold Instant.le
    rw [Instant.minimum_second]
    simp only [Bool.or_eq_true, decide_eq_true_eq]
    omega
  greatest := by
    unfold Instant.le
    rw [Instant.maximum_second]
    simp only [Bool.or_eq_true, decide_eq_true_eq]
    omega

def nanoseconds (t : Reading) : Int := t.instant.toNanoseconds

theorem nanoseconds_le_maximum (t : Reading) : t.nanoseconds ≤ Instant.maximum.toNanoseconds :=
  (Instant.le_iff t.regular Instant.regular_maximum).1 t.greatest

theorem minimum_le_nanoseconds (t : Reading) : Instant.minimum.toNanoseconds ≤ t.nanoseconds :=
  (Instant.le_iff Instant.regular_minimum t.regular).1 t.least

variable (t : Reading) (ttl : Duration)

/-- No time to live ends in a leap second. -/
theorem regular_expiry : (t.instant.expiry ttl).Regular := by
  by_cases h : t.instant.Saturates ttl
  · rw [Instant.expiry_of_saturates h]
    exact Instant.regular_maximum
  · rw [Instant.expiry_of_not_saturates h]
    exact Instant.regular_plus t.regular ttl

/-- Both limits come to one: the time to live would end past the last instant. -/
theorem saturates_iff :
    t.instant.Saturates ttl ↔ Instant.maximum.toNanoseconds < t.nanoseconds + ttl.nanoseconds := by
  have hpast : t.instant.plus? ttl = none ↔
      Instant.maximum.toNanoseconds < t.nanoseconds + ttl.nanoseconds := by
    rw [Instant.plus?_eq_none_iff,
      Instant.maximum_second_lt_iff (Instant.regular_plus t.regular ttl),
      Instant.toNanoseconds_plus t.regular]
    rfl
  refine (or_congr_right hpast).trans (or_iff_right_of_imp fun hlong => ?_)
  have hstep := Instant.maximum_lt_minimum_add_longestStep
  have hleast := t.minimum_le_nanoseconds
  omega

/-- A time to live ends that much later, or with the last instant where that would be past it. -/
theorem expiry_eq_min :
    (t.instant.expiry ttl).toNanoseconds
      = min (t.nanoseconds + ttl.nanoseconds) Instant.maximum.toNanoseconds := by
  by_cases h : t.instant.Saturates ttl
  · rw [Instant.expiry_of_saturates h]
    exact (Int.min_eq_right (Int.le_of_lt ((t.saturates_iff ttl).1 h))).symm
  · rw [Instant.expiry_of_not_saturates h, Instant.toNanoseconds_plus t.regular]
    exact (Int.min_eq_left (Int.not_lt.1 fun hlt => h ((t.saturates_iff ttl).2 hlt))).symm

end Reading

end Larder
