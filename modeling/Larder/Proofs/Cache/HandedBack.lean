import Larder.Cache.Selection
import Larder.Proofs.Cache.Calls
import Larder.Proofs.Expiry

/-!
What a cache in the process hands back of a value that it is given.

A value is put and read back at once, so whatever was under the key is replaced, and it is fresh
unless its time is over as it begins: with a time to live of zero, or at the last instant, which no
time to live goes past.  A cache that keeps nothing hands every value back.  A cache in memory does
not (`zero_ttl_is_not_handed_back`).
-/

namespace Larder.Cache

/-! ## Putting and reading at one instant -/

theorem Memory.get_set (t : Table) (ns : String) (time : Reading) (key : Key) (value : Json.Value)
    (ttl : Duration) :
    get (set t ns time.instant key value ttl) ns time.instant key
      = if 0 < ttl.nanoseconds ∧ time.nanoseconds < Instant.maximum.toNanoseconds then .ok value
        else .error (.expired key.text) := by
  have hentry : Dict.get? ((set t ns time.instant key value ttl).entries ns) key
      = some (.keptFor value time.instant ttl) := by
    rw [entries_set, Dict.get?_insert, if_pos rfl]
  unfold get
  rw [hentry]
  dsimp only
  by_cases hfresh : 0 < ttl.nanoseconds ∧ time.nanoseconds < Instant.maximum.toNanoseconds
  · rw [if_pos hfresh,
      if_neg fun hexpired => (isExpiredAt_keptFor_iff time value ttl).1 hexpired hfresh]
    rfl
  · rw [if_neg hfresh, if_pos ((isExpiredAt_keptFor_iff time value ttl).2 hfresh)]

/-! ## Caches in the process -/

namespace Parts

variable {σ : Type}

/-- The table has a place of its own, and time does not pass when it is written. -/
structure Still (p : Parts σ) : Prop where
  table : p.table.Lawful
  clock : ∀ t s, p.clock (p.table.set t s) = p.clock s

/-- The caches in the process: any that are made with a namespace and a time to live, and the one
for which nothing is set. -/
inductive InProcess (p : Parts σ) : Backend σ → Prop where
  | made {kind : CacheKind} (hkind : kind ≠ .redis) (nameSpace : String) (defaultTtl : Duration) :
    InProcess p (p.backend kind nameSpace defaultTtl)
  | unset : InProcess p p.unset

theorem kind_backend (p : Parts σ) (kind : CacheKind) (nameSpace : String) (defaultTtl : Duration) :
    (p.backend kind nameSpace defaultTtl).kind = kind := by
  cases kind <;> rfl

theorem defaultTtl_backend (p : Parts σ) (kind : CacheKind) (nameSpace : String)
    (defaultTtl : Duration) :
    (p.backend kind nameSpace defaultTtl).defaultTtl = defaultTtl := by
  cases kind <;> rfl

/-- Settings that name no server connect to a cache in the process, of their kind and with their
time to live. -/
theorem connect_inProcess (p : Parts σ) {settings : CacheSettings} (hkind : settings.kind ≠ .redis)
    (s : σ) :
    ∃ b, (p.connect settings s).1 = .ok b ∧ p.InProcess b ∧ b.kind = settings.kind ∧
    b.defaultTtl = settings.defaultTtl := by
  refine ⟨p.backend settings.kind settings.effectiveNamespace settings.defaultTtl, ?_,
    .made hkind _ _, p.kind_backend _ _ _, p.defaultTtl_backend _ _ _⟩
  cases h : settings.kind with
  | noop | memory =>
    -- Neither has anything to prepare that could fail.
    unfold connect select
    rw [h]
    rfl
  | redis => exact absurd h hkind

end Parts

/-- What a cache hands back of a value, from every state, whatever is under the key. -/
structure HandsBack {σ : Type} (p : Parts σ) (b : Backend σ) : Prop where
  ok_iff : ∀ (time : Reading) (s : σ), p.clock s = time.instant → ∀ key value ttl,
    (b.getOrSet key value ttl s).1 = .ok value ↔
      b.kind = .noop ∨ 0 < (ttl.getD b.defaultTtl).nanoseconds ∧
      time.nanoseconds < Instant.maximum.toNanoseconds
  otherwise : ∀ (time : Reading) (s : σ), p.clock s = time.instant → ∀ key value ttl,
    (b.getOrSet key value ttl s).1 ≠ .ok value →
    (b.getOrSet key value ttl s).1 = .error (.expired key.text)

section Answers

variable {σ : Type} {p : Parts σ}

theorem handsBack_of_noop {b : Backend σ} (hkind : b.kind = .noop)
    (hanswer : ∀ key value ttl s, (b.getOrSet key value ttl s).1 = .ok value) : HandsBack p b where
  ok_iff _ s _ key value ttl := iff_of_true (hanswer key value ttl s) (Or.inl hkind)
  otherwise _ s _ key value ttl hnot := absurd (hanswer key value ttl s) hnot

namespace Parts.Still

variable (hp : p.Still)
include hp

theorem getOrSet_memory {time : Reading} {s : σ} (hclock : p.clock s = time.instant)
    (nameSpace : String) (defaultTtl : Duration) (key : Key) (value : Json.Value)
    (ttl : Option Duration) :
    ((p.backend .memory nameSpace defaultTtl).getOrSet key value ttl s).1
      = if 0 < (ttl.getD defaultTtl).nanoseconds ∧
      time.nanoseconds < Instant.maximum.toNanoseconds then .ok value
        else .error (.expired key.text) := by
  obtain ⟨t, ht⟩ : ∃ t, t
      = Memory.set (p.table.get s) nameSpace (p.clock s) key value (ttl.getD defaultTtl) := ⟨_, rfl⟩
  have hsteps : ((p.backend .memory nameSpace defaultTtl).getOrSet key value ttl s).1
      = Memory.get (p.table.get (p.table.set t s)) nameSpace (p.clock (p.table.set t s)) key := by
    rw [ht]
    rfl
  rw [hsteps, hp.table.get_set, hp.clock, ht, hclock, Memory.get_set]

theorem handsBack_memory (nameSpace : String) (defaultTtl : Duration) :
    HandsBack p (p.backend .memory nameSpace defaultTtl) where
  ok_iff time s hclock key value ttl := by
    have hkept : ¬ (p.backend .memory nameSpace defaultTtl).kind = .noop := fun h => by cases h
    rw [hp.getOrSet_memory hclock, or_iff_right hkept]
    constructor
    · intro hok
      by_contra hstale
      cases hok.symm.trans (if_neg hstale)
    · exact fun hfresh => if_pos hfresh
  otherwise time s hclock key value ttl hnot := by
    rw [hp.getOrSet_memory hclock] at hnot ⊢
    exact if_neg fun hfresh => hnot (if_pos hfresh)

theorem handsBack {b : Backend σ} (hb : p.InProcess b) : HandsBack p b := by
  cases hb with
  | @made kind hkind nameSpace defaultTtl =>
    cases kind with
    | noop => exact handsBack_of_noop rfl fun _ _ _ _ => rfl
    | memory => exact hp.handsBack_memory nameSpace defaultTtl
    | redis => exact absurd rfl hkind
  | unset => exact handsBack_of_noop rfl fun _ _ _ _ => rfl

end Parts.Still

theorem defaultTtl_pos {s : CacheSettings} (haccepted : Settings.CacheAccepted s) :
    0 < s.defaultTtl.nanoseconds := by
  have hminutes := haccepted.ttl_pos
  rw [haccepted.nanoseconds_defaultTtl]
  omega

end Answers

/-- What caches in the process hand back: those that are made by hand, and those that settings
connect to.  With accepted settings and no time to live of its own, a value is handed back at every
instant but the last. -/
theorem handed_back_iff {σ : Type} {p : Parts σ} (hp : p.Still) :
    (∀ b, p.InProcess b → HandsBack p b) ∧
    (∀ s : CacheSettings, s.kind ≠ .redis → ∀ before, ∃ b, (p.connect s before).1 = .ok b ∧
      HandsBack p b ∧ b.kind = s.kind ∧ b.defaultTtl = s.defaultTtl) ∧
    ∀ s : Settings, s.validate = .ok () → s.cache.kind ≠ .redis →
    ∀ before, ∃ b, (p.connect s.cache before).1 = .ok b ∧
      ∀ (time : Reading) (now : σ), p.clock now = time.instant →
      time.nanoseconds < Instant.maximum.toNanoseconds →
        ∀ key value, (b.getOrSet key value none now).1 = .ok value := by
  refine ⟨fun b hb => hp.handsBack hb, fun s hkind before => ?_, fun s haccepted hkind before => ?_⟩
  · obtain ⟨b, hconnect, hb, hsame⟩ := p.connect_inProcess hkind before
    exact ⟨b, hconnect, hp.handsBack hb, hsame⟩
  · obtain ⟨b, hconnect, hb, -, httl⟩ := p.connect_inProcess hkind before
    refine ⟨b, hconnect, fun time now hclock htime key value => ?_⟩
    have hpositive := defaultTtl_pos ((Settings.validate_eq_ok_iff_sections s).1 haccepted).1
    rw [← httl] at hpositive
    exact ((hp.handsBack hb).ok_iff time now hclock key value none).2 (Or.inr ⟨hpositive, htime⟩)

/-- What caches on a shelf are made of.  There is no server. -/
def Shelf.parts : Parts Shelf where
  clock := Shelf.now
  table := Shelf.tablePlace
  settings := Shelf.settingsPlace
  server := ⟨fun _ => none, fun _ s => s⟩
  send _ _ := return .noConnection .closed

theorem Shelf.parts_still : Shelf.parts.Still where
  table := ⟨fun _ _ => rfl, fun _ => rfl, fun _ _ _ => rfl⟩
  clock _ _ := rfl

/-- A shelf that has not been used, at the beginning of 1970. -/
def Shelf.atEpoch : Shelf := { Shelf.fresh with now := ⟨0, 0⟩ }

theorem handed_back_on_shelf :
    let s : Settings :=
  { cache := { kind := .memory, dsn := some "redis://c:1" },
    store := { dsn := some "mysql://d:1" } }
    Shelf.parts.Still ∧ s.validate = .ok () ∧
      ((Shelf.parts.backend .memory "units" (.ofSeconds 3600)).getOrSet (.ofText "k") .null none
        Shelf.atEpoch).1 = .ok .null ∧
      ∃ b, (Shelf.parts.connect s.cache Shelf.fresh).1 = .ok b ∧
        (b.getOrSet (.ofText "k") .null none Shelf.atEpoch).1 = .ok .null := by
  intro s
  have haccepted : s.validate = .ok () := by decide +kernel
  have hclock : Shelf.parts.clock Shelf.atEpoch = (Reading.ofSeconds 0 (by decide)).instant := rfl
  obtain ⟨hmade, -, hconnected⟩ := handed_back_iff Shelf.parts_still
  obtain ⟨b, hconnect, hanswer⟩ := hconnected s haccepted (by decide) Shelf.fresh
  exact ⟨Shelf.parts_still, haccepted,
    ((hmade _ (.made (by decide) _ _)).ok_iff _ _ hclock _ _ _).2 (Or.inr (by decide +kernel)),
    b, hconnect, hanswer _ _ hclock (by decide +kernel) _ _⟩

/-- With a time to live of zero a cache in memory tells that the value is expired that it was
given. -/
theorem zero_ttl_is_not_handed_back :
    ¬ ∀ (b : Backend Shelf) (time : Reading) (s : Shelf), Shelf.parts.InProcess b →
    s.now = time.instant →
      ∀ key value ttl, (b.getOrSet key value ttl s).1 = .ok value := by
  intro h
  have hmade : Shelf.parts.InProcess (Shelf.parts.backend .memory "units" (.ofSeconds 3600)) :=
    .made (by decide) _ _
  have hclock : Shelf.parts.clock Shelf.atEpoch = (Reading.ofSeconds 0 (by decide)).instant := rfl
  have hok := h _ _ _ hmade hclock (.ofText "k") .null (some ⟨0⟩)
  rw [Shelf.parts_still.getOrSet_memory hclock, if_neg (by decide)] at hok
  cases hok

end Larder.Cache
