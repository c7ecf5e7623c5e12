import Larder.Proofs.Error
import Larder.Proofs.Store.Requests

/-!
What a store behind a cache asks of its cache and of its driver, whatever the two answer.

Both are watched: each call that they get is noted, and is answered as it would be anyway.  A store
makes no call but those that `Course` has for a read, and one call of its driver for a write.
-/

namespace Larder.Store

/-! ## Watching -/

inductive CacheCall where
  | prepare
  | setConnection (settings : CacheSettings)
  | connection
  | set (key : Cache.Key) (value : Json.Value) (ttl : Option Duration)
  | get (key : Cache.Key)
  | delete (key : Cache.Key)
  | contains (key : Cache.Key)
  | getOrSet (key : Cache.Key) (value : Json.Value) (ttl : Option Duration)
  | ping

/-- A call of the cache or of the driver. -/
inductive Errand where
  | cache (call : CacheCall)
  | driver (request : Request)
  | pingDriver
  | closeDriver

namespace Errand

def isSet : Errand → Bool
  | cache (.set ..) => true
  | _ => false

def isOfCache : Errand → Bool
  | cache _ => true
  | _ => false

end Errand

/-- A state with the calls that were made. -/
structure Watched (σ : Type) where
  state : σ
  calls : List Errand

variable {σ α β : Type}

def noted (call : Errand) (act : StateM σ α) : StateM (Watched σ) α := fun w =>
  ((act w.state).1, ⟨(act w.state).2, w.calls ++ [call]⟩)

def watchedCache (b : Cache.Backend σ) : Cache.Backend (Watched σ) where
  kind := b.kind
  nameSpace := b.nameSpace
  defaultTtl := b.defaultTtl
  prepare := noted (.cache .prepare) b.prepare
  setConnection settings := noted (.cache (.setConnection settings)) (b.setConnection settings)
  connection := noted (.cache .connection) b.connection
  set key value ttl := noted (.cache (.set key value ttl)) (b.set key value ttl)
  get key := noted (.cache (.get key)) (b.get key)
  delete key := noted (.cache (.delete key)) (b.delete key)
  contains key := noted (.cache (.contains key)) (b.contains key)
  getOrSet key value ttl := noted (.cache (.getOrSet key value ttl)) (b.getOrSet key value ttl)
  ping := noted (.cache .ping) b.ping

def Driver.watched (d : Driver σ) : Driver (Watched σ) where
  kind := d.kind
  findOne collection c := noted (.driver (.find collection c .one)) (d.findOne collection c)
  findAll collection c := noted (.driver (.find collection c .all)) (d.findAll collection c)
  insertOne collection doc :=
    noted (.driver (.insertOne collection doc)) (d.insertOne collection doc)
  insertMany collection batch :=
    noted (.driver (.insertMany collection batch)) (d.insertMany collection batch)
  updateOne collection c patch :=
    noted (.driver (.updateOne collection c patch)) (d.updateOne collection c patch)
  updateMany collection c patch :=
    noted (.driver (.updateMany collection c patch)) (d.updateMany collection c patch)
  deleteOne collection c := noted (.driver (.deleteOne collection c)) (d.deleteOne collection c)
  ping := noted .pingDriver d.ping
  close := noted .closeDriver d.close

def ReadThrough.watched (s : ReadThrough σ) : ReadThrough (Watched σ) :=
  ⟨watchedCache s.cache, s.driver.watched⟩

/-! ### Watching changes nothing -/

/-- With calls noted or not, the answer is the same, and so is the state. -/
def Shows (noting : StateM (Watched σ) α) (act : StateM σ α) : Prop :=
  ∀ w, (noting w).1 = (act w.state).1 ∧ (noting w).2.state = (act w.state).2

theorem shows_noted (call : Errand) (act : StateM σ α) : Shows (noted call act) act := fun _ =>
  ⟨rfl, rfl⟩

theorem shows_pure (a : α) : Shows (pure a : StateM (Watched σ) α) (pure a) := fun _ => ⟨rfl, rfl⟩

theorem Shows.bind {noting : StateM (Watched σ) α} {act : StateM σ α} (h : Shows noting act)
    {next : α → StateM (Watched σ) β} {next' : α → StateM σ β}
    (hnext : ∀ a, Shows (next a) (next' a)) :
    Shows (noting >>= next) (act >>= next') := by
  intro w
  obtain ⟨hanswer, hstate⟩ := h w
  rw [bind_apply, bind_apply, ← hanswer, ← hstate]
  exact hnext (noting w).1 (noting w).2

theorem shows_fetch (d : Driver σ) (collection : String) (c : Criteria) (m : Method) :
    Shows (m.fetch d.watched collection c) (m.fetch d collection c) := by
  cases m with
  | one => exact shows_noted _ _
  | all => exact (shows_noted _ _).bind fun a => shows_pure _

theorem shows_find (s : ReadThrough σ) (collection : String) (c : Criteria) (m : Method) :
    Shows (s.watched.find collection c m) (s.find collection c m) := by
  rw [ReadThrough.find_eq_read, ReadThrough.find_eq_read]
  have hcached : Shows (s.watched.cached (.forRead collection c) m.expect)
      (s.cached (.forRead collection c) m.expect) := by
    refine (shows_noted _ _).bind fun a => ?_
    cases a with
    | error e => exact shows_pure _
    | ok v => exact shows_pure _
  refine hcached.bind fun a => ?_
  rcases Answer.withContext a m.operation (ReadThrough.detail collection c) with e | _ | r
  · exact shows_pure _
  · refine (shows_fetch s.driver collection c m).bind fun a => ?_
    rcases Answer.withContext a m.operation (ReadThrough.detail collection c) with e | _ | r
    · exact shows_pure _
    · exact shows_pure _
    · exact (shows_noted _ _).bind fun _ => shows_pure _
  · exact shows_pure _

theorem shows_run (s : ReadThrough σ) (r : Request) : Shows (r.run s.watched) (r.run s) := by
  cases r with
  | find collection c m => exact shows_find s collection c m
  | insertOne | insertMany | updateOne | updateMany | deleteOne =>
    exact (shows_noted _ _).bind fun a => shows_pure _

/-! ## Reads -/

section Reads

variable (s : ReadThrough σ) (collection : String) (c : Criteria) (m : Method) (w : σ)

def ReadThrough.lookup : Answer Json.Value × σ := s.cache.get (.forRead collection c) w

/-- What the driver answers after the lookup. -/
def ReadThrough.fetched : Answer (Option m.Result) :=
  (m.fetch s.driver collection c (s.lookup collection c w).2).1

/-- The ways in which a read can go, each with the answer and the calls that it makes. -/
inductive Course : Answer m.Result → List Errand → Prop
  | held {v : Json.Value} (hget : (s.lookup collection c w).1 = .ok v) :
    Course (Answer.withContext (m.expect v) m.operation (ReadThrough.detail collection c))
      [.cache (.get (.forRead collection c))]
  | mismatched {e : Error} (hget : (s.lookup collection c w).1 = .error e)
    (hkind : e.isTypeMismatch = true) :
    Course (.error (e.withContext m.operation (ReadThrough.detail collection c)))
      [.cache (.get (.forRead collection c))]
  | failed {e e' : Error} (hget : (s.lookup collection c w).1 = .error e)
    (hkind : e.isTypeMismatch = false) (hfetched : s.fetched collection c m w = .error e') :
    Course (.error (e'.withContext m.operation (ReadThrough.detail collection c)))
      [.cache (.get (.forRead collection c)), .driver (.find collection c m)]
  | missing {e : Error} (hget : (s.lookup collection c w).1 = .error e)
    (hkind : e.isTypeMismatch = false) (hfetched : s.fetched collection c m w = .ok none) :
    Course (.error (.notFound collection c.describe))
      [.cache (.get (.forRead collection c)), .driver (.find collection c m)]
  | found {e : Error} {r : m.Result} (hget : (s.lookup collection c w).1 = .error e)
    (hkind : e.isTypeMismatch = false) (hfetched : s.fetched collection c m w = .ok (some r)) :
    Course (.ok r)
      [.cache (.get (.forRead collection c)), .driver (.find collection c m),
        .cache (.set (.forRead collection c) (m.write r) none)]

theorem fetch_watched :
    m.fetch s.watched.driver collection c
      = noted (.driver (.find collection c m)) (m.fetch s.driver collection c) := by
  cases m <;> rfl

theorem cached_watched {α : Type} (expect : Json.Value → Answer α) :
    s.watched.cached (.forRead collection c) expect ⟨w, []⟩
      = (match (s.lookup collection c w).1 with
          | .ok v => (expect v).map some
          | .error e => if e.isTypeMismatch then .error e else .ok none,
        ⟨(s.lookup collection c w).2, [.cache (.get (.forRead collection c))]⟩) := by
  show (match (s.lookup collection c w).1 with
    | .ok v => _
    | .error e => _ : StateM (Watched σ) (Answer (Option α))) _ = _
  cases (s.lookup collection c w).1 <;> rfl

theorem find_course : Course s collection c m w (s.watched.find collection c m ⟨w, []⟩).1
    (s.watched.find collection c m ⟨w, []⟩).2.calls := by
  rw [ReadThrough.find_eq_read, fetch_watched, ReadThrough.read, bind_apply, cached_watched]
  cases hget : (s.lookup collection c w).1 with
  | ok v =>
    have hheld := Course.held (m := m) hget
    dsimp only
    cases hv : m.expect v with
    | error e =>
      rw [hv] at hheld
      exact hheld
    | ok r =>
      rw [hv] at hheld
      exact hheld
  | error e =>
    dsimp only
    by_cases hkind : e.isTypeMismatch = true
    · rw [if_pos hkind]
      exact .mismatched hget hkind
    · rw [if_neg hkind]
      have hkind' : e.isTypeMismatch = false := by simpa using hkind
      show Course s collection c m w ((noted _ (m.fetch s.driver collection c) >>= _) _).1
        ((noted _ (m.fetch s.driver collection c) >>= _) _).2.calls
      rw [bind_apply]
      have hnoted : (noted (.driver (.find collection c m)) (m.fetch s.driver collection c)
          ⟨(s.lookup collection c w).2, [.cache (.get (.forRead collection c))]⟩).1
        = s.fetched collection c m w := rfl
      rw [hnoted]
      cases hfetched : s.fetched collection c m w with
      | error e' => exact .failed hget hkind' hfetched
      | ok found =>
        cases found with
        | none => exact .missing hget hkind' hfetched
        | some r => exact .found hget hkind' hfetched

end Reads

/-! ## What becomes of the driver's answer -/

/-- A success is passed on as it is, and a failure with its code. -/
def Carries (given answered : Answer α) : Prop :=
  match given with
  | .ok a => answered = .ok a
  | .error e => ∃ e', answered = .error e' ∧ e'.code = e.code

theorem carries_withContext (given : Answer α) (operation detail : String) :
    Carries given (given.withContext operation detail) := by
  cases given with
  | ok a => rfl
  | error e => exact ⟨_, rfl, e.code_withContext operation detail⟩

/-- Of a read, that nothing was found becomes a failure. -/
def Request.PassesOn : (r : Request) → r.Given → r.Reply → Prop
  | find collection c m, given, answered =>
    Carries (given.bind fun found =>
      found.elim (.error (.notFound collection c.describe)) .ok : Answer m.Result) answered
  | insertOne .., given, answered => Carries given answered
  | insertMany .., given, answered => Carries given answered
  | updateOne .., given, answered => Carries given answered
  | updateMany .., given, answered => Carries given answered
  | deleteOne .., given, answered => Carries given answered

/-! ## All requests -/

section Requests

variable (s : ReadThrough σ) (w : σ)

def callsOf (r : Request) : List Errand := (r.run s.watched ⟨w, []⟩).2.calls

/-- The lookup finds no value, and that is not because of its type. -/
def Missed (collection : String) (c : Criteria) : Prop :=
  ∃ e, (s.lookup collection c w).1 = .error e ∧ e.isTypeMismatch = false

/-- What a read asks for. -/
structure FindCalls (collection : String) (c : Criteria) (m : Method) : Prop where
  /-- Sets apart, the cache gets one call. -/
  looksUp : (callsOf s w (.find collection c m)).filter (fun call => call.isOfCache && !call.isSet)
    = [.cache (.get (.forRead collection c))]
  set_iff : (∃ call ∈ callsOf s w (.find collection c m), call.isSet = true)
    ↔ Missed s w collection c ∧ ∃ r, s.fetched collection c m w = .ok (some r)
  set_eq : ∀ r, Missed s w collection c → s.fetched collection c m w = .ok (some r) →
    (s.find collection c m w).1 = .ok r ∧
      (callsOf s w (.find collection c m)).filter Errand.isSet
        = [.cache (.set (.forRead collection c) (m.write r) none)]
  failed : ∀ e, (s.find collection c m w).1 = .error e →
    (callsOf s w (.find collection c m)).filter Errand.isSet = []
  fetches : Missed s w collection c →
    (callsOf s w (.find collection c m)).filter (fun call => !call.isOfCache)
      = [.driver (.find collection c m)] ∧
      (Request.find collection c m).PassesOn (s.fetched collection c m w)
        (s.find collection c m w).1
  /-- With a value in the cache, or one of another type, the driver is not asked. -/
  spares : (∃ v, (s.lookup collection c w).1 = .ok v) ∨
      (∃ e, (s.lookup collection c w).1 = .error e ∧ e.isTypeMismatch = true) →
    (callsOf s w (.find collection c m)).filter (fun call => !call.isOfCache) = []

variable {s w} {collection : String} {c : Criteria} {m : Method}

theorem Course.of_not_missed {answer : Answer m.Result} {calls : List Errand}
    (h : Course s collection c m w answer calls) (hmissed : ¬ Missed s w collection c) :
    calls = [.cache (.get (.forRead collection c))] := by
  cases h with
  | held hget => rfl
  | mismatched hget hkind => rfl
  | failed hget hkind => exact absurd ⟨_, hget, hkind⟩ hmissed
  | missing hget hkind => exact absurd ⟨_, hget, hkind⟩ hmissed
  | found hget hkind => exact absurd ⟨_, hget, hkind⟩ hmissed

/-- The set that follows the driver's answer. -/
def setFor (collection : String) (c : Criteria) (m : Method) :
    Answer (Option m.Result) → List Errand
  | .ok (some r) => [.cache (.set (.forRead collection c) (m.write r) none)]
  | _ => []

theorem Course.of_missed {answer : Answer m.Result} {calls : List Errand}
    (h : Course s collection c m w answer calls) (hmissed : Missed s w collection c) :
    (Request.find collection c m).PassesOn (s.fetched collection c m w) answer ∧
      calls = [.cache (.get (.forRead collection c)), .driver (.find collection c m)]
        ++ setFor collection c m (s.fetched collection c m w) := by
  obtain ⟨e, he, hother⟩ := hmissed
  cases h with
  | held hget =>
    rw [he] at hget
    cases hget
  | mismatched hget hkind =>
    rw [he] at hget
    rw [Except.error.inj hget, hkind] at hother
    cases hother
  | failed hget hkind hfetched =>
    rw [hfetched]
    exact ⟨⟨_, rfl, Error.code_withContext _ _ _⟩, rfl⟩
  | missing hget hkind hfetched =>
    rw [hfetched]
    exact ⟨⟨_, rfl, rfl⟩, rfl⟩
  | found hget hkind hfetched =>
    rw [hfetched]
    exact ⟨rfl, rfl⟩

variable (s w collection c m)

theorem find_calls : FindCalls s w collection c m := by
  have hcourse := find_course s collection c m w
  -- The answer of the watched store is that of the store itself.
  rw [(shows_find s collection c m ⟨w, []⟩).1] at hcourse
  change Course s collection c m w (s.find collection c m w).1 (callsOf s w (.find collection c m))
    at hcourse
  by_cases hmissed : Missed s w collection c
  · obtain ⟨hpasses, hcalls⟩ := hcourse.of_missed hmissed
    obtain ⟨e, hget, hkind⟩ := id hmissed
    cases hfetched : s.fetched collection c m w with
    | error e' =>
      rw [hfetched] at hcalls hpasses
      constructor <;>
        simp [hcalls, hfetched, hpasses, hget, hkind, setFor, Errand.isOfCache, Errand.isSet]
    | ok found =>
      rw [hfetched] at hcalls hpasses
      cases found with
      | none => constructor <;>
          simp [hcalls, hfetched, hpasses, hget, hkind, setFor, Errand.isOfCache, Errand.isSet]
      | some r =>
        have hanswer : (s.find collection c m w).1 = .ok r := hpasses
        rw [hanswer] at hpasses
        constructor <;>
          simp [hcalls, hfetched, hanswer, hpasses, hmissed, hget, hkind, setFor, Errand.isOfCache,
            Errand.isSet]
  · have hcalls := hcourse.of_not_missed hmissed
    constructor <;> simp [hcalls, hmissed, Errand.isOfCache, Errand.isSet]

/-- A write is one call of the driver. -/
structure WriteCalls (r : Request) : Prop where
  calls : callsOf s w r = [.driver r]
  passesOn : r.PassesOn (r.ask s.driver w).1 (r.run s w).1

theorem write_calls {r : Request} (h : r.isFind = false) : WriteCalls s w r := by
  cases r with
  | find => cases h
  | insertOne | insertMany | updateOne | updateMany | deleteOne =>
    exact ⟨rfl, carries_withContext _ _ _⟩

/-- Nothing but what the driver found for a read is put in the cache. -/
theorem calls_run (s : ReadThrough σ) (w : σ) :
    (∀ r : Request, Shows (r.run s.watched) (r.run s)) ∧
    (∀ collection c m, FindCalls s w collection c m) ∧
      ∀ r : Request, r.isFind = false → WriteCalls s w r :=
  ⟨shows_run s, find_calls s w, fun _ => write_calls s w⟩

end Requests

end Larder.Store
