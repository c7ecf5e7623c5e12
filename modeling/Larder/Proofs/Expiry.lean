import Larder.Cache.Memory
import Larder.Confirmation.Basic
import Larder.Proofs.Settings.Validation
import Larder.Proofs.Time.Reading

/-!
When what is kept or issued for a length of time ends.

A cached value and a confirmation end at one instant if they begin at one instant and are for one
length of time: that much later, to the nanosecond, or with the last instant if that comes before.
With an accepted time to live the last instant is not reached until the last hundred years.
-/

namespace Larder

namespace Instant

/-- The instant that is a number of nanoseconds after the beginning of 1970, outside leap
seconds. -/
def ofNanoseconds (n : Int) : Instant := ⟨n / 1_000_000_000, (n % 1_000_000_000).toNat⟩

theorem ofNanoseconds_toNanoseconds {t : Instant} (ht : t.Regular) :
    ofNanoseconds t.toNanoseconds = t := by
  unfold Regular at ht
  have hsecond : t.toNanoseconds / 1_000_000_000 = t.second := by
    unfold toNanoseconds
    omega
  have hnanosecond : (t.toNanoseconds % 1_000_000_000).toNat = t.nanosecond := by
    unfold toNanoseconds
    omega
  rw [ofNanoseconds, hsecond, hnanosecond]

end Instant

/-! ## Any time to live -/

namespace Reading

/-- The end of a length of time, but no later than the last instant. -/
def endOf (now : Reading) (ttl : Duration) : Instant :=
  .ofNanoseconds (min (now.nanoseconds + ttl.nanoseconds) Instant.maximum.toNanoseconds)

variable (now : Reading) (ttl : Duration)

theorem expiry_eq_endOf : now.instant.expiry ttl = now.endOf ttl := by
  rw [endOf, ← now.expiry_eq_min, Instant.ofNanoseconds_toNanoseconds (now.regular_expiry ttl)]

theorem le_expiry : now.instant.le (now.instant.expiry ttl) = true := by
  have hlast := now.nanoseconds_le_maximum
  rw [Instant.le_iff now.regular (now.regular_expiry ttl), now.expiry_eq_min]
  unfold nanoseconds at hlast ⊢
  omega

theorem expiry_le_expiry {later : Reading} (hnow : now.instant.le later.instant = true)
    {longer : Duration} (httl : ttl.nanoseconds ≤ longer.nanoseconds) :
    (now.instant.expiry ttl).le (later.instant.expiry longer) = true := by
  rw [Instant.le_iff now.regular later.regular] at hnow
  rw [Instant.le_iff (now.regular_expiry ttl) (later.regular_expiry longer), now.expiry_eq_min,
    later.expiry_eq_min]
  unfold nanoseconds
  omega

end Reading

/-- An entry is expired as it is made if its time to live is zero, or at the last instant. -/
theorem Cache.isExpiredAt_keptFor_iff (time : Reading) (value : Json.Value) (ttl : Duration) :
    (Entry.keptFor value time.instant ttl).isExpiredAt time.instant = true
      ↔ ¬ (0 < ttl.nanoseconds ∧ time.nanoseconds < Instant.maximum.toNanoseconds) := by
  have hle := Instant.le_iff (time.regular_expiry ttl) time.regular
  rw [time.expiry_eq_min] at hle
  refine Iff.trans hle ?_
  unfold Reading.nanoseconds
  omega

/-- When what begins at an instant and lasts for a length of time ends. -/
structure Ends (now : Reading) (ttl : Duration) : Prop where
  entry : ∀ value, (Cache.Entry.keptFor value now.instant ttl).expiresAt = now.endOf ttl
  confirmation : ∀ id recipient code,
    (Confirmation.issue id recipient code now.instant ttl).expiresAt = now.endOf ttl
  expiry : now.instant.expiry ttl = now.endOf ttl
  nanoseconds : (now.instant.expiry ttl).toNanoseconds
    = min (now.nanoseconds + ttl.nanoseconds) Instant.maximum.toNanoseconds
  saturates_iff : now.instant.Saturates ttl ↔
    Instant.maximum.toNanoseconds < now.nanoseconds + ttl.nanoseconds
  not_before : now.instant.le (now.instant.expiry ttl) = true
  mono : ∀ later : Reading, now.instant.le later.instant = true → ∀ longer : Duration,
    ttl.nanoseconds ≤ longer.nanoseconds →
    (now.instant.expiry ttl).le (later.instant.expiry longer) = true
  fresh : 0 < ttl.nanoseconds → now.nanoseconds < Instant.maximum.toNanoseconds → ∀ value,
    (Cache.Entry.keptFor value now.instant ttl).isExpiredAt now.instant = false

theorem ends (now : Reading) (ttl : Duration) : Ends now ttl where
  entry _ := now.expiry_eq_endOf ttl
  confirmation _ _ _ := now.expiry_eq_endOf ttl
  expiry := now.expiry_eq_endOf ttl
  nanoseconds := now.expiry_eq_min ttl
  saturates_iff := now.saturates_iff ttl
  not_before := now.le_expiry ttl
  mono _ hnow _ httl := now.expiry_le_expiry ttl hnow httl
  fresh hpos hlast value := by
    rw [← Bool.not_eq_true, Cache.isExpiredAt_keptFor_iff]
    exact fun hstale => hstale ⟨hpos, hlast⟩

/-! ## The time to live of settings -/

/-- A hundred years without their leap days. -/
def hundredYears : Int := 100 * 365 * 86_400 * 1_000_000_000

/-- What accepted settings keep values for. -/
structure DefaultEnds (s : Settings) : Prop where
  accepted_iff : ∀ minutes, { s with
    cache := { s.cache with defaultTtlMinutes := minutes } }.validate = .ok () ↔
    1 ≤ minutes ∧ minutes ≤ 100 * 365 * 24 * 60
  nanoseconds : s.cache.defaultTtl.nanoseconds = s.cache.defaultTtlMinutes * 60 * 1_000_000_000
  unsaturated : ∀ now : Reading, now.nanoseconds + hundredYears ≤ Instant.maximum.toNanoseconds →
    ¬ now.instant.Saturates s.cache.defaultTtl
  endOf_eq : ∀ now : Reading, now.nanoseconds + hundredYears ≤ Instant.maximum.toNanoseconds →
    now.endOf s.cache.defaultTtl
      = .ofNanoseconds (now.nanoseconds + s.cache.defaultTtlMinutes * 60 * 1_000_000_000)

theorem defaultEnds {s : Settings} (haccepted : s.validate = .ok ()) : DefaultEnds s := by
  have hcache := ((Settings.validate_eq_ok_iff_sections s).1 haccepted).1
  have hexact := hcache.nanoseconds_defaultTtl
  have hle : s.cache.defaultTtlMinutes ≤ 100 * 365 * 24 * 60 := hcache.ttl_le
  have hwithin (now : Reading)
      (hnow : now.nanoseconds + hundredYears ≤ Instant.maximum.toNanoseconds) :
      now.nanoseconds + s.cache.defaultTtl.nanoseconds ≤ Instant.maximum.toNanoseconds := by
    unfold hundredYears at hnow
    omega
  refine ⟨Settings.validate_with_ttl_iff haccepted, hexact, fun now hnow => ?_, fun now hnow => ?_⟩
  · rw [now.saturates_iff, Int.not_lt]
    exact hwithin now hnow
  · rw [Reading.endOf, Int.min_eq_left (hwithin now hnow), hexact]
    rfl

/-- The end of what is kept or issued, to the nanosecond, and what accepted settings make of it. -/
theorem ends_exactly :
    (∀ now ttl, Ends now ttl) ∧ ∀ s : Settings, s.validate = .ok () → DefaultEnds s :=
  ⟨ends, fun _ => defaultEnds⟩

/-- At the beginning of 1970 the longest accepted time to live has an end, and the longest length of
time has none but the last instant. -/
theorem ends_exactly_at_epoch :
    let now := Reading.ofSeconds 0 (by decide)
    let longest : Duration := ⟨CacheSettings.mostSeconds * 1_000_000_000 + 999_999_999⟩
    let s : Settings := {
      cache :=
        { kind := .memory, dsn := some "redis://c:1", defaultTtlMinutes := Settings.mostTtlMinutes }
      store := { dsn := some "mysql://d:1" } }
    s.validate = .ok () ∧ now.nanoseconds + hundredYears ≤ Instant.maximum.toNanoseconds ∧
      ¬ now.instant.Saturates s.cache.defaultTtl ∧
      now.endOf s.cache.defaultTtl = ⟨100 * 365 * 86_400, 0⟩ ∧
      now.instant.Saturates longest ∧ (Cache.Entry.keptFor .null now.instant longest).expiresAt
        = Instant.maximum := by
  intro now longest s
  have haccepted : s.validate = .ok () := (Settings.validate_eq_ok_iff s).2 (by decide +kernel)
  have hnow : now.nanoseconds + hundredYears ≤ Instant.maximum.toNanoseconds := by decide +kernel
  obtain ⟨hends, hdefault⟩ := ends_exactly
  have hlongest := hends now longest
  refine ⟨haccepted, hnow, (hdefault s haccepted).unsaturated now hnow, ?_,
    hlongest.saturates_iff.2 (by decide +kernel), ?_⟩
  · rw [(hdefault s haccepted).endOf_eq now hnow]
    decide +kernel
  · rw [hlongest.entry]
    decide +kernel

end Larder
