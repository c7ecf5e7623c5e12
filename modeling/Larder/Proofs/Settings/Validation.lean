import Larder.Settings.Validation

/-!
When settings are accepted.

The faults of settings are those of their sections, so each section is accepted on its own.
-/

namespace Larder.Settings

theorem faultIf_eq_nil_iff {condition : Bool} {fault : Fault} : faultIf condition fault = [] ↔
    condition = false := by
  cases condition with
  | true => exact ⟨fun h => (by cases h), fun h => (by cases h)⟩
  | false => exact ⟨fun _ => rfl, fun _ => rfl⟩

/-- Settings are accepted if they have no fault, and else refused with an error. -/
theorem validate_eq_ok_iff (s : Settings) : s.validate = .ok () ↔ s.faults = [] := by
  unfold validate
  cases s.faults with
  | nil => exact ⟨fun _ => rfl, fun _ => rfl⟩
  | cons fault rest =>
    dsimp only
    refine ⟨fun h => ?_, fun h => (by cases h)⟩
    split at h <;> cases h

theorem faults_eq_nil_iff (s : Settings) :
    s.faults = [] ↔ cacheFaults s.cache = [] ∧ storeFaults s.store = [] ∧
    eventFaults s.events = [] ∧
      observabilityFaults s.observability = [] := by
  rw [faults, List.append_eq_nil_iff, List.append_eq_nil_iff, List.append_eq_nil_iff, and_assoc,
    and_assoc]

/-- A URL that is given begins with one of the schemes. -/
theorem hasForeignScheme_eq_false_iff {dsn : Option String} {schemes : List String} :
    hasForeignScheme dsn schemes = false ↔ ∀ d, given dsn = some d →
    ∃ scheme ∈ schemes, scheme.toList <+: d.toList := by
  unfold hasForeignScheme
  cases given dsn with
  | none => exact ⟨fun _ d hd => (by cases hd), fun _ => rfl⟩
  | some url =>
    rw [Option.any_some, Bool.not_eq_false', List.any_eq_true]
    simp only [List.isPrefixOf_iff_prefix, Option.some.injEq, forall_eq']

/-- What accepted settings of a cache have. -/
structure CacheAccepted (s : CacheSettings) : Prop where
  complete : s.isComplete = true
  scheme : s.kind = .redis → hasForeignScheme s.dsn ["redis://", "rediss://"] = false
  ttl_pos : 0 < s.defaultTtlMinutes
  ttl_le : s.defaultTtlMinutes ≤ mostTtlMinutes
  pool_pos : 0 < s.poolSize
  pool_le : s.poolSize ≤ mostConnections

theorem cacheFaults_eq_nil_iff (s : CacheSettings) : cacheFaults s = [] ↔ CacheAccepted s := by
  simp only [cacheFaults, List.append_eq_nil_iff, faultIf_eq_nil_iff, Bool.not_eq_false',
    Bool.and_eq_false_iff, beq_eq_false_iff_ne, decide_eq_false_iff_not, Nat.not_lt]
  constructor
  · rintro ⟨⟨⟨⟨⟨hcomplete, hscheme⟩, httl⟩, httlLe⟩, hpool⟩, hpoolLe⟩
    exact ⟨hcomplete, fun hkind => hscheme.resolve_left fun hne => hne hkind,
      Nat.pos_of_ne_zero httl, httlLe, Nat.pos_of_ne_zero hpool, hpoolLe⟩
  · rintro ⟨hcomplete, hscheme, httl, httlLe, hpool, hpoolLe⟩
    exact ⟨⟨⟨⟨⟨hcomplete, Classical.or_iff_not_imp_left.2 fun hkind =>
      hscheme (Classical.not_not.1 hkind)⟩, Nat.ne_of_gt httl⟩,
      httlLe⟩, Nat.ne_of_gt hpool⟩, hpoolLe⟩

/-- What accepted settings of a document store have.  That there is room for a connection is not
among it. -/
structure StoreAccepted (s : StoreSettings) : Prop where
  complete : s.isComplete = true
  scheme : s.kind = .document → hasForeignScheme s.dsn ["mysql://"] = false
  least_le_most : s.minConnections ≤ s.maxConnections
  most_le : s.maxConnections ≤ mostConnections
  timeout_pos : 0 < s.connectTimeoutSeconds

theorem storeFaults_eq_nil_iff (s : StoreSettings) : storeFaults s = [] ↔ StoreAccepted s := by
  simp only [storeFaults, List.append_eq_nil_iff, faultIf_eq_nil_iff, Bool.not_eq_false',
    Bool.and_eq_false_iff, beq_eq_false_iff_ne, decide_eq_false_iff_not, Nat.not_lt]
  constructor
  · rintro ⟨⟨⟨⟨hcomplete, hscheme⟩, hleast⟩, hmost⟩, htimeout⟩
    exact ⟨hcomplete, fun hkind => hscheme.resolve_left fun hne => hne hkind, hleast, hmost,
      Nat.pos_of_ne_zero htimeout⟩
  · rintro ⟨hcomplete, hscheme, hleast, hmost, htimeout⟩
    exact ⟨⟨⟨⟨hcomplete, Classical.or_iff_not_imp_left.2 fun hkind =>
      hscheme (Classical.not_not.1 hkind)⟩, hleast⟩, hmost⟩, Nat.ne_of_gt htimeout⟩

/-- All that is asked of the time that a publish waits is that it is not zero. -/
theorem eventFaults_eq_nil_iff (s : EventSettings) : eventFaults s = [] ↔
    s.publishTimeoutSeconds ≠ some 0 := by
  rw [eventFaults, faultIf_eq_nil_iff, beq_eq_false_iff_ne]

/-- Settings are accepted section by section. -/
theorem validate_eq_ok_iff_sections (s : Settings) :
    s.validate = .ok () ↔ CacheAccepted s.cache ∧ StoreAccepted s.store ∧
    eventFaults s.events = [] ∧
      observabilityFaults s.observability = [] := by
  rw [validate_eq_ok_iff, faults_eq_nil_iff, cacheFaults_eq_nil_iff, storeFaults_eq_nil_iff]

/-- The time to live of accepted settings is not cut. -/
theorem CacheAccepted.nanoseconds_defaultTtl {s : CacheSettings} (h : CacheAccepted s) :
    s.defaultTtl.nanoseconds = s.defaultTtlMinutes * 60 * 1_000_000_000 := by
  have hle := h.ttl_le
  have hmost : mostTtlMinutes * 60 ≤ CacheSettings.mostSeconds := by decide
  have hseconds : s.defaultTtlSeconds = s.defaultTtlMinutes * 60 := Nat.min_eq_left (by omega)
  rw [CacheSettings.defaultTtl, hseconds]
  rfl

/-- In accepted settings the time to live can be any from a minute to a hundred years, and no
other. -/
theorem validate_with_ttl_iff {s : Settings} (haccepted : s.validate = .ok ()) (minutes : Nat) :
    { s with cache := { s.cache with defaultTtlMinutes := minutes } }.validate = .ok () ↔
      1 ≤ minutes ∧ minutes ≤ mostTtlMinutes := by
  obtain ⟨hcache, hrest⟩ := (validate_eq_ok_iff_sections s).1 haccepted
  rw [validate_eq_ok_iff_sections]
  constructor
  · rintro ⟨hminutes, -⟩
    exact ⟨hminutes.ttl_pos, hminutes.ttl_le⟩
  · rintro ⟨hpos, hle⟩
    exact ⟨{ hcache with ttl_pos := hpos, ttl_le := hle }, hrest⟩

/-- In accepted settings the time that a publish waits can be replaced by any other but zero. -/
theorem validate_with_timeout {s : Settings} (haccepted : s.validate = .ok ())
    {seconds : Option Nat} (hpositive : seconds ≠ some 0) :
    { s with events := ⟨seconds⟩ }.validate = .ok () := by
  rw [validate_eq_ok_iff, faults_eq_nil_iff] at haccepted ⊢
  obtain ⟨hcache, hstore, -, hobservability⟩ := haccepted
  exact ⟨hcache, hstore, (eventFaults_eq_nil_iff _).2 hpositive, hobservability⟩

end Larder.Settings
