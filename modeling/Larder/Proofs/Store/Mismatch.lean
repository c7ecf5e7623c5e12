import Larder.Proofs.Criteria.Fields
import Larder.Proofs.Error
import Larder.Proofs.Store.Requests
import Larder.Proofs.Store.Runs

/-!
When a read fails because the cache holds a value of another type.

The two reads share their keys and keep values of different types, so what one of them keeps makes
the other one fail until it expires, and nothing else does.
-/

namespace Larder.Store

open Error (isTypeMismatch_withContext)

variable {δ : Type}

def Moment.expiry {ns : String} (p : Moment δ ns) (ttl : Duration) : Int :=
  min (p.turn.time.nanoseconds + ttl.nanoseconds) Instant.maximum.toNanoseconds

section Lasting

variable {driver : Driver δ} {scope : Cache.Scope} {turns : List (Turn scope.nameSpace)}
  {w : World δ} {past future : List (Moment δ scope.nameSpace)} {now : Moment δ scope.nameSpace}

/-- What a read kept is held until it expires, where lookups do not fail. -/
theorem held_of_entry {p : Moment δ scope.nameSpace} {key : Cache.Key} {m : Method} {r : m.Result}
    (hget : Dict.get? (w.entries scope.nameSpace) key = some (p.entry m r))
    {t : Turn scope.nameSpace} (hlapse : t.lapse = .none)
    (hfresh : t.time.nanoseconds < p.expiry scope.defaultTtl) :
    held? scope (t.ready w) key = some (m.write r) := by
  refine held?_eq_some_iff.2 ⟨by show t.lapse.lookup = none; rw [hlapse]; rfl, p.entry m r, ?_,
    ?_, rfl⟩
  · rw [t.entries_ready]
    exact hget
  · rw [← Bool.not_eq_true]
    intro hexpired
    have hle :=
      (Instant.le_iff (p.turn.time.regular_expiry scope.defaultTtl) t.time.regular).1 hexpired
    rw [p.turn.time.expiry_eq_min] at hle
    exact absurd hle (not_le.2 hfresh)

/-- What a read kept is in the cache as long as the clock has not reached its expiry. -/
def Lasting (driver : Driver δ) (scope : Cache.Scope) (past : List (Moment δ scope.nameSpace))
    (w : World δ) : Prop :=
  ∀ p ∈ past, ∀ collection c m r, p.Fetches driver collection c m r →
    (∀ q ∈ past, q.turn.time.nanoseconds < p.expiry scope.defaultTtl) →
    Dict.get? (w.entries scope.nameSpace) (.forRead collection c) = some (p.entry m r)

theorem Lasting.step (h : Lasting driver scope past w) {t : Turn scope.nameSpace}
    (hlapse : t.lapse = .none) :
    Lasting driver scope (past ++ [t.moment w]) (t.after driver scope w) := by
  intro p hp collection c m r hfetch hclock
  rw [List.forall_mem_append, List.forall_mem_singleton] at hclock
  rcases List.mem_append.1 hp with hp | hp
  · have hget := h p hp collection c m r hfetch hclock.1
    rcases entries_after driver t w with hsame | ⟨collection', c', m', r', hfetch', hinsert⟩
    · rw [hsame]
      exact hget
    · -- A read with the same key would have found the value.
      have hne : Cache.Key.forRead collection c ≠ Cache.Key.forRead collection' c' := by
        intro hkey
        have hheld := held_of_entry hget hlapse hclock.2
        rw [hkey, show held? scope (t.ready w) (Cache.Key.forRead collection' c') = none
          from hfetch'.not_held] at hheld
        cases hheld
      rw [hinsert, Dict.get?_insert, if_neg hne]
      exact hget
  · obtain rfl := List.mem_singleton.1 hp
    rw [entries_after_of_fetches hfetch, hlapse]
    exact Dict.get?_insert_self _ _ _

theorem lasting_nil : Lasting driver scope [] w := fun _ hp => by cases hp

end Lasting

/-! ## The driver in memory -/

/-- Reads in memory fail only for their criteria. -/
theorem findAll_error {s : Memory.State} {collection : String} {c : Criteria} {e : Error}
    (h : Memory.findAll s collection c = .error e) : ∃ reason, e = .invalidCriteria reason := by
  cases hvalid : c.validate with
  | error e' =>
    rw [Memory.findAll_of_error hvalid] at h
    rw [← Except.error.inj h]
    exact Criteria.checkFields_error hvalid
  | ok _ =>
    unfold Memory.findAll at h
    rw [hvalid] at h
    cases h

theorem error_of_map {α β : Type} {f : α → β} {a : Answer α} {e : Error} (h : a.map f = .error e) :
    a = .error e := by
  cases a with
  | error e' => exact congrArg Except.error (Except.error.inj h)
  | ok x => cases h

theorem memory_fetch_error (ids : Nat → String) (s : Memory.State) (collection : String)
    (c : Criteria) (m : Method) {e : Error}
    (h : (m.fetch (memory ids Place.whole) collection c s).1 = .error e) :
    e.isTypeMismatch = false := by
  have hall : Memory.findAll s collection c = .error e := by
    cases m with
    | one => exact error_of_map ((Memory.findOne_eq_head s collection c).symm.trans h)
    | all => exact error_of_map h
  obtain ⟨reason, rfl⟩ := findAll_error hall
  rfl

/-- Over a driver that does not fail so itself, and a cache that does not fail, a read fails with a
mismatch of types exactly if an earlier one by the other method, for the same collection and
criteria, went to the driver, found something there, and what it kept has not expired. -/
theorem find_mismatch_iff (driver : Driver δ)
    (hdriver : ∀ d collection c (m : Method) e, (m.fetch driver collection c d).1 = .error e →
      e.isTypeMismatch = false)
    (scope : Cache.Scope) (start : World δ) (hempty : start.entries scope.nameSpace = [])
    (turns : List (Turn scope.nameSpace))
    (hclock : turns.Pairwise fun a b => a.time.nanoseconds ≤ b.time.nanoseconds)
    (hlapse : ∀ t ∈ turns, t.lapse = .none)
    {past future : List (Moment δ scope.nameSpace)} {now : Moment δ scope.nameSpace}
    (hrun : trace driver scope turns start = past ++ now :: future)
    (collection : String) (c : Criteria) (m : Method) :
    (∃ e, ((cachedStore driver scope).find collection c m now.world).1 = .error e ∧
      e.isTypeMismatch = true) ↔
      ∃ p ∈ past, ∃ m' r, m' ≠ m ∧ p.Fetches driver collection c m' r ∧
        now.turn.time.nanoseconds < p.expiry scope.defaultTtl := by
  constructor
  · rintro ⟨e, he, hkind⟩
    have houtcome := find_outcome driver scope collection c m now.world
    generalize ((cachedStore driver scope).find collection c m now.world).2.entries scope.nameSpace
      = left at houtcome
    generalize ((cachedStore driver scope).find collection c m now.world).1 = answer at he houtcome
    cases houtcome with
    | held hheld =>
      obtain ⟨p, hp, m', r', hfetch, rfl, hfresh⟩ := fetched_of_held hempty hrun hheld
      refine ⟨p, hp, m', r', ?_, hfetch, hfresh⟩
      rintro rfl
      rw [m'.expect_write] at he
      cases he
    | failed hnone hanswer =>
      rw [← Except.error.inj he, isTypeMismatch_withContext, hdriver _ _ _ _ _ hanswer] at hkind
      cases hkind
    | missing hnone hanswer =>
      rw [← Except.error.inj he] at hkind
      cases hkind
    | found hnone hanswer => cases he
  · rintro ⟨p, hp, m', r, hne, hfetch, hfresh⟩
    obtain ⟨w', hlasting, hworld⟩ := run_invariant (P := Lasting driver scope)
      (fun done t ht w h => h.step (hlapse t ht)) lasting_nil hrun
    have hpast : ∀ q ∈ past, q.turn.time.nanoseconds < p.expiry scope.defaultTtl :=
      fun q hq => (past_le_now hclock hrun q hq).trans_lt hfresh
    have hget := hlasting p hp collection c m' r hfetch hpast
    have hheld := held_of_entry hget (hlapse _ (turn_mem_of_run hrun)) hfresh
    rw [← hworld] at hheld
    obtain ⟨expected, found, hmismatch⟩ := Method.expect_write_of_ne hne.symm r
    rw [(find_of_held driver m hheld).1, hmismatch]
    exact ⟨_, rfl, rfl⟩

/-- In the short run, reading all documents fails because the one was read before. -/
theorem reading_all_after_one :
    ∃ p ∈ Sample.opening ++ [Sample.rereading], ∃ m' r, m' ≠ Method.all ∧
      p.Fetches Sample.driver "units" Sample.criteria m' r ∧
      Sample.readingAll.turn.time.nanoseconds < p.expiry Sample.scope.defaultTtl :=
  (find_mismatch_iff Sample.driver (fun d collection c m _ => memory_fetch_error _ d collection c m)
    Sample.scope Sample.start Sample.entries_start Sample.turns Sample.clock Sample.lapses
      Sample.run_all
    "units" Sample.criteria .all).1
    Sample.readingAll_answer

/-- Reads do fail with a mismatch of types where nothing but the store writes to the cache. -/
theorem find_can_mismatch :
    ¬ ∀ (δ : Type) (driver : Driver δ),
      (∀ d collection c (m : Method) e, (m.fetch driver collection c d).1 = .error e →
        e.isTypeMismatch = false) →
      ∀ (scope : Cache.Scope) (start : World δ), start.entries scope.nameSpace = [] →
      ∀ turns : List (Turn scope.nameSpace),
      turns.Pairwise (fun a b => a.time.nanoseconds ≤ b.time.nanoseconds) →
      (∀ t ∈ turns, t.lapse = .none) →
      ∀ (past future : List (Moment δ scope.nameSpace)) (now : Moment δ scope.nameSpace),
      trace driver scope turns start = past ++ now :: future →
      ∀ collection c m, now.turn.request = .find collection c m →
      ∀ e, ((cachedStore driver scope).find collection c m now.world).1 = .error e →
      e.isTypeMismatch = false := by
  intro hclaim
  obtain ⟨e, he, hkind⟩ := Sample.readingAll_answer
  have hnot := hclaim Memory.State Sample.driver
      (fun d collection c m _ => memory_fetch_error _ d collection c m)
    Sample.scope Sample.start Sample.entries_start Sample.turns Sample.clock Sample.lapses _ _ _
      Sample.run_all
    "units" Sample.criteria .all rfl e he
  rw [hkind] at hnot
  cases hnot

end Larder.Store
