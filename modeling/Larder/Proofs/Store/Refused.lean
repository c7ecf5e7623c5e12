import Larder.Cache.Noop
import Larder.Proofs.Store.Runs
import Larder.Proofs.Store.Wording

/-!
Requests that name a field which is no dotted name.

A store looks into its cache before any driver has seen the criteria.  Since no read with such
criteria was ever answered, nothing is kept for them, and so it is the driver that decides; and both
drivers refuse them before they do anything else.
-/

namespace Larder.Store

open Sql (Demand Statement)

/-! ## Stores -/

section Stores

variable {δ : Type} {driver : Driver δ} {scope : Cache.Scope} {w : World δ} {collection : String}
  {c : Criteria} {m : Method}

/-- Documents of a driver behind a cache that keeps nothing. -/
def uncachedStore (driver : Driver δ) (scope : Cache.Scope) : ReadThrough (World δ) where
  cache :=
    Cache.noop scope.nameSpace scope.defaultTtl (World.shelfPlace.within Cache.Shelf.settingsPlace)
  driver := driver.within World.documentsPlace

/-- The documents are the same, and so is what is cached, in every namespace. -/
structure Undisturbed (w w' : World δ) : Prop where
  documents : w'.documents = w.documents
  entries : ∀ ns, w'.entries ns = w.entries ns

/-- The lookup fails, but not for the type of a value. -/
def Misses (s : ReadThrough (World δ)) (key : Cache.Key) (w : World δ) : Prop :=
  ∃ e w', s.cache.get key w = (.error e, w') ∧ e.isTypeMismatch = false ∧ Undisturbed w w'

theorem misses_uncached (key : Cache.Key) : Misses (uncachedStore driver scope) key w :=
  ⟨Cache.missing key, w, rfl, rfl, rfl, fun _ => rfl⟩

theorem misses_cached {key : Cache.Key} (h : held? scope w key = none) :
    Misses (cachedStore driver scope) key w := by
  have hanswer : ((cachedStore driver scope).cached key Method.one.expect w).1 = .ok none := by
    obtain ⟨w', hcached, -⟩ := @cached_of_not_held δ driver scope w _ _ Method.one.expect h
    rw [hcached]
  have hleft : Undisturbed w ((cachedStore driver scope).cache.get key w).2 := by
    rw [cache_get]
    cases w.lapse.lookup with
    | some fault => exact ⟨rfl, fun _ => rfl⟩
    | none => exact ⟨rfl, fun ns => Cache.Table.entries_touch _ _ _⟩
  rw [cached_eq] at hanswer
  cases hget : ((cachedStore driver scope).cache.get key w).1 with
  | ok v =>
    rw [hget] at hanswer
    dsimp only at hanswer
    cases hv : Method.one.expect v <;> simp [hv, Except.map] at hanswer
  | error e =>
    refine ⟨e, _, Prod.ext hget rfl, ?_, hleft⟩
    rw [hget] at hanswer
    dsimp only at hanswer
    by_cases hkind : e.isTypeMismatch = true
    · simp [hkind] at hanswer
    · simpa using hkind

/-- A read that the cache has nothing for fails as the driver does. -/
theorem find_refused {s : ReadThrough (World δ)}
    (hs : s.driver = driver.within World.documentsPlace)
    (hmiss : Misses s (.forRead collection c) w) {e : Error} (hrefuses : driver.Refuses c e) :
    (s.find collection c m w).1
      = .error (e.withContext m.operation (ReadThrough.detail collection c)) ∧
      Undisturbed w (s.find collection c m w).2 := by
  obtain ⟨e', w', hget, hkind, hleft⟩ := hmiss
  have hcached : s.cached (.forRead collection c) m.expect w = (.ok none, w') := by
    rw [ReadThrough.cached, bind_apply, hget]
    dsimp only
    rw [hkind]
    rfl
  rw [ReadThrough.find_eq_read, ReadThrough.read, bind_apply, hcached]
  show ((m.fetch s.driver collection c >>= _) w').1 = _ ∧
      Undisturbed w ((m.fetch s.driver collection c >>= _) w').2
  rw [bind_apply, hs, fetch_within, hrefuses.fetch]
  exact ⟨rfl, hleft⟩

end Stores

/-! ## Requests -/

def Request.Fails (e : Error) : (r : Request) → r.Reply → Prop
  | find _ _ _, a => a = .error e
  | insertOne _ _, a => a = .error e
  | insertMany _ _, a => a = .error e
  | updateOne _ _ _, a => a = .error e
  | updateMany _ _ _, a => a = .error e
  | deleteOne _ _, a => a = .error e

section Requests

variable {δ : Type} {driver : Driver δ} {scope : Cache.Scope} {w : World δ} {reason : String}

structure Refused (s : ReadThrough (World δ)) (r : Request) (w : World δ) : Prop where
  fails : ∃ reason, r.Fails (.invalidCriteria reason) (r.run s w).1
  undisturbed : Undisturbed w (r.run s w).2

/-- The context of a write leaves a refusal as it is. -/
theorem write_refused {act : StateM δ (Answer Nat)}
    (h : act w.documents = (.error (.invalidCriteria reason), w.documents))
    (operation detail : String) :
    (do return Answer.withContext (← World.documentsPlace.run act) operation detail : StateM
      (World δ) (Answer Nat)) w
      = (.error (.invalidCriteria reason), w) := by
  have hrun : World.documentsPlace.run act w = (.error (.invalidCriteria reason), w) := by
    show ((act w.documents).1, { w with documents := (act w.documents).2 }) = _
    rw [h]
  rw [bind_apply, hrun]
  rfl

theorem refused_of_misses {s : ReadThrough (World δ)}
    (hs : s.driver = driver.within World.documentsPlace) {r : Request} {c : Criteria}
    (hc : r.criteria? = some c) (hmiss : ∀ collection, Misses s (.forRead collection c) w)
    (hrefuses : driver.Refuses c (.invalidCriteria reason)) : Refused s r w := by
  obtain ⟨cache, d⟩ := s
  obtain rfl : d = driver.within World.documentsPlace := hs
  have hwrite : ∀ {r : Request},
      (∃ a, r.run ⟨cache, driver.within World.documentsPlace⟩ w = (a, w) ∧
      r.Fails (.invalidCriteria reason) a) →
      Refused ⟨cache, driver.within World.documentsPlace⟩ r w := by
    rintro r ⟨a, hrun, hfails⟩
    constructor
    · rw [hrun]
      exact ⟨reason, hfails⟩
    · rw [hrun]
      exact ⟨rfl, fun _ => rfl⟩
  cases r with
  | find collection c' m =>
    obtain rfl : c' = c := Option.some.inj hc
    obtain ⟨hanswer, hleft⟩ := find_refused (m := m) rfl (hmiss collection) hrefuses
    exact ⟨⟨reason, hanswer⟩, hleft⟩
  | insertOne | insertMany => cases hc
  | updateOne collection c' patch =>
    obtain rfl : c' = c := Option.some.inj hc
    exact hwrite ⟨_, write_refused (hrefuses.updateOne collection patch w.documents) _ _, rfl⟩
  | updateMany collection c' patch =>
    obtain rfl : c' = c := Option.some.inj hc
    exact hwrite ⟨_, write_refused (hrefuses.updateMany collection patch w.documents) _ _, rfl⟩
  | deleteOne collection c' =>
    obtain rfl : c' = c := Option.some.inj hc
    exact hwrite ⟨_, write_refused (hrefuses.deleteOne collection w.documents) _ _, rfl⟩

end Requests

/-! ## Runs -/

/-- The moments of a run of any store. -/
def moments {δ : Type} {ns : String} (s : ReadThrough (World δ)) :
    List (Turn ns) → World δ → List (Moment δ ns)
  | [], _ => []
  | t :: rest, w => t.moment w :: moments s rest (t.request.run s (t.ready w)).2

section Runs

variable {δ : Type} {driver : Driver δ} {scope : Cache.Scope}

theorem moments_cachedStore (turns : List (Turn scope.nameSpace)) (w : World δ) :
    moments (cachedStore driver scope) turns w = trace driver scope turns w := by
  induction turns generalizing w with
  | nil => rfl
  | cons t rest ih =>
    rw [moments, trace, ih]
    rfl

/-- Of criteria that the driver refuses, nothing is ever found in the cache. -/
theorem not_held_of_refuses {turns : List (Turn scope.nameSpace)} {start : World δ}
    (hempty : start.entries scope.nameSpace = []) {past future : List (Moment δ scope.nameSpace)}
    {now : Moment δ scope.nameSpace} (hrun : trace driver scope turns start = past ++ now :: future)
    {c : Criteria} {e : Error} (hrefuses : driver.Refuses c e) (collection : String) :
    held? scope now.world (.forRead collection c) = none := by
  cases hheld : held? scope now.world (.forRead collection c) with
  | none => rfl
  | some v =>
    -- What is held was the driver's answer to an earlier read with the same criteria.
    obtain ⟨p, -, m, r, hfetch, -, -⟩ := fetched_of_held hempty hrun hheld
    have hanswer := hfetch.answer
    rw [driverAnswer, hrefuses.fetch] at hanswer
    cases hanswer

/-- Over the driver, and behind a cache in memory that nobody else writes to or behind none,
requests that name a field which is no dotted name are refused at every moment of every run. -/
def RefusesImproper (driver : Driver δ) : Prop :=
  ∀ (scope : Cache.Scope) (s : ReadThrough (World δ)), s = cachedStore driver scope ∨
    s = uncachedStore driver scope →
    ∀ (turns : List (Turn scope.nameSpace)) (start : World δ), start.entries scope.nameSpace = [] →
    ∀ (past future : List (Moment δ scope.nameSpace)) (now : Moment δ scope.nameSpace),
    moments s turns start = past ++ now :: future →
    ∀ (c : Criteria) (field : String), now.turn.request.criteria? = some c → field ∈ c.fields →
    ¬ Criteria.IsDotted field →
      Refused s now.turn.request now.world

theorem refusesImproper_of_refuses
    (h : ∀ c reason, c.validate = .error (.invalidCriteria reason) →
      driver.Refuses c (.invalidCriteria reason)) :
    RefusesImproper driver := by
  intro scope s hs turns start hempty past future now hrun c field hc hfield himproper
  obtain ⟨reason, hvalidate⟩ := Criteria.validate_of_not_dotted hfield himproper
  have hrefuses := h c reason hvalidate
  rcases hs with rfl | rfl
  · rw [moments_cachedStore] at hrun
    exact refused_of_misses rfl hc
      (fun collection => misses_cached (not_held_of_refuses hempty hrun hrefuses collection))
      hrefuses
  · exact refused_of_misses rfl hc (fun collection => misses_uncached _) hrefuses

/-- Neither driver lets such a field through.  That the log is as it was says that no statement is
sent. -/
theorem improper_fields_refused :
    (∀ ids : Nat → String, RefusesImproper (memory ids Place.whole)) ∧
      ∀ (σ : Type) (answer : (d : Demand) → StateM σ d.Response),
      RefusesImproper (relational (logged answer)) :=
  ⟨fun ids => refusesImproper_of_refuses fun _ _ h => memory_refuses h ids,
    fun _ answer => refusesImproper_of_refuses fun _ _ h => relational_refuses h (logged answer)⟩

/-- A search by a name with a blank in it, of a collection that there is not. -/
def Sample.search : Turn Sample.scope.nameSpace :=
  ⟨.ofSeconds 3 (by decide), .none, [], .find "nowhere" (.whereEq .all "a b" .null) .all⟩

theorem search_refused :
    ¬ Criteria.IsDotted "a b" ∧
      Refused (cachedStore Sample.driver Sample.scope) Sample.search.request
        (Sample.search.ready (Sample.before [Sample.inserted, Sample.read])) := by
  have hblank : ¬ Criteria.IsDotted "a b" := by
    rw [← Criteria.isField_iff]
    decide
  exact ⟨hblank, improper_fields_refused.1 (fun _ => "") Sample.scope _ (Or.inl rfl)
    [Sample.inserted, Sample.read, Sample.search] Sample.start Sample.entries_start
    [Sample.inserted.moment Sample.start, Sample.read.moment (Sample.before [Sample.inserted])] []
    (Sample.search.moment (Sample.before [Sample.inserted, Sample.read])) rfl _ "a b" rfl
      (by decide) hblank⟩

end Runs

end Larder.Store
