import Larder.Proofs.Cache.Calls
import Larder.Proofs.Cache.ReadKey
import Larder.Store.ReadThrough

/-!
Reading documents through a cache in memory, turn by turn.

The cache may fail: a lookup with an error that is no miss and no mismatch of types, and a write by
being lost.  What one turn does is said by `find_outcome` for reads, by cases on what the cache
holds and on what the driver answers, and by `entries_after_of_write` for the rest.
-/

namespace Larder.Store

theorem bind_apply {σ α β : Type} (act : StateM σ α) (next : α → StateM σ β) (s : σ) :
    (act >>= next) s = next (act s).1 (act s).2 := rfl

/-! ## The two reads -/

/-- The reads, which differ in what they ask the driver and in how the cache keeps the answer. -/
inductive Method where
  | one
  | all
deriving DecidableEq

namespace Method

variable {σ : Type}

@[reducible]
def Result : Method → Type
  | one => Document
  | all => List Document

def operation : Method → String
  | one => "find_one"
  | all => "find_all"

def expect : (m : Method) → Json.Value → Answer m.Result
  | one => ReadThrough.document
  | all => ReadThrough.documents

def write : (m : Method) → m.Result → Json.Value
  | one => .object
  | all => fun ds => .array (ds.map .object)

/-- What the driver answers; only the first document can be missing. -/
def fetch (d : Driver σ) (collection : String) (c : Criteria) :
    (m : Method) → StateM σ (Answer (Option m.Result))
  | one => d.findOne collection c
  | all => do return (← d.findAll collection c).map some

/-- A kept answer is read back as it was by the same method. -/
theorem expect_write (m : Method) (r : m.Result) : m.expect (m.write r) = .ok r := by
  cases m with
  | one => rfl
  | all =>
    show (r.map Json.Value.object).mapM ReadThrough.item = .ok r
    induction r with
    | nil => rfl
    | cons d ds ih =>
      rw [List.map_cons, List.mapM_cons, ih]
      rfl

/-- By the other method it is taken for a value of another type. -/
theorem expect_write_of_ne {m m' : Method} (h : m ≠ m') (r : m'.Result) :
    ∃ expected found, m.expect (m'.write r) = .error (.typeMismatch expected found) := by
  cases m <;> cases m'
  · exact absurd rfl h
  · exact ⟨_, _, rfl⟩
  · exact ⟨_, _, rfl⟩
  · exact absurd rfl h

end Method

def ReadThrough.find {σ : Type} (s : ReadThrough σ) (collection : String) (c : Criteria) :
    (m : Method) → StateM σ (Answer m.Result)
  | .one => s.findOne collection c
  | .all => s.findAll collection c

theorem ReadThrough.find_eq_read {σ : Type} (s : ReadThrough σ) (collection : String) (c : Criteria)
    (m : Method) :
    s.find collection c m
      = s.read collection m.operation c m.expect m.write (m.fetch s.driver collection c) := by
  cases m <;> rfl

/-! ## The world of a run -/

/-- An error of a lookup that tells nothing of the value. -/
structure Fault where
  error : Error
  not_miss : error.isCacheMiss = false
  not_mismatch : error.isTypeMismatch = false

/-- What goes wrong in the cache during a turn. -/
structure Lapse where
  lookup : Option Fault
  dropsWrite : Bool

def Lapse.none : Lapse := ⟨.none, false⟩

/-- The shelf of the cache, the state of the driver, and what goes wrong at the moment. -/
structure World (δ : Type) where
  shelf : Cache.Shelf
  lapse : Lapse
  documents : δ

namespace World

variable {δ : Type}

def shelfPlace : Place (World δ) Cache.Shelf := ⟨shelf, fun s w => { w with shelf := s }⟩

def documentsPlace : Place (World δ) δ := ⟨documents, fun d w => { w with documents := d }⟩

def entries (w : World δ) (ns : String) : Dict Cache.Key Cache.Entry := w.shelf.table.entries ns

end World

/-- A cache with the lapses of the moment. -/
def lapsing {σ : Type} (b : Cache.Backend σ) (lapse : σ → Lapse) : Cache.Backend σ :=
  { b with
    set := fun key value ttl => do
      if (lapse (← MonadState.get)).dropsWrite then return () else b.set key value ttl
    get := fun key => do
      match (lapse (← MonadState.get)).lookup with
      | some fault => return .error fault.error
      | none => b.get key }

/-- A driver that works on its state at a place. -/
def Driver.within {σ δ : Type} (p : Place σ δ) (d : Driver δ) : Driver σ where
  kind := d.kind
  findOne collection c := p.run (d.findOne collection c)
  findAll collection c := p.run (d.findAll collection c)
  insertOne collection doc := p.run (d.insertOne collection doc)
  insertMany collection batch := p.run (d.insertMany collection batch)
  updateOne collection c patch := p.run (d.updateOne collection c patch)
  updateMany collection c patch := p.run (d.updateMany collection c patch)
  deleteOne collection c := p.run (d.deleteOne collection c)
  ping := p.run d.ping
  close := p.run d.close

section Turns

variable {δ : Type} (driver : Driver δ) (scope : Cache.Scope)

/-- Documents of a driver behind a cache in memory. -/
def cachedStore : ReadThrough (World δ) where
  cache := lapsing
    (Cache.memory (fun w => w.shelf.now) (World.shelfPlace.within Cache.Shelf.tablePlace)
      scope.nameSpace
      scope.defaultTtl (World.shelfPlace.within Cache.Shelf.settingsPlace))
    World.lapse
  driver := driver.within World.documentsPlace

/-! ## One read -/

variable {driver scope} {w : World δ} {collection : String} {c : Criteria} {m : Method}

/-- The value that a read finds in the cache: one that is not expired, where the lookup does not
fail. -/
def held? (scope : Cache.Scope) (w : World δ) (key : Cache.Key) : Option Json.Value :=
  match w.lapse.lookup with
  | some _ => none
  | none =>
    match Dict.get? (w.entries scope.nameSpace) key with
    | some e => if e.isExpiredAt w.shelf.now then none else some e.value
    | none => none

theorem held?_eq_some_iff {key : Cache.Key} {v : Json.Value} :
    held? scope w key = some v ↔ w.lapse.lookup = none ∧
      ∃ e, Dict.get? (w.entries scope.nameSpace) key = some e ∧ e.isExpiredAt w.shelf.now = false ∧
      e.value = v := by
  unfold held?
  cases w.lapse.lookup with
  | some fault =>
    constructor
    · intro h
      cases h
    · rintro ⟨h, -⟩
      cases h
  | none =>
    cases Dict.get? (w.entries scope.nameSpace) key with
    | none =>
      constructor
      · intro h
        cases h
      · rintro ⟨-, e, h, -⟩
        cases h
    | some e =>
      dsimp only
      split
      · next hexpired =>
        constructor
        · intro h
          cases h
        · rintro ⟨-, e', he, hfresh, -⟩
          rw [← Option.some.inj he, hexpired] at hfresh
          cases hfresh
      · next hfresh =>
        constructor
        · intro h
          exact ⟨rfl, e, rfl, Bool.not_eq_true _ ▸ hfresh, Option.some.inj h⟩
        · rintro ⟨-, e', he, -, rfl⟩
          rw [Option.some.inj he]

theorem cache_get (key : Cache.Key) (w : World δ) :
    (cachedStore driver scope).cache.get key w = match w.lapse.lookup with
      | some fault => (.error fault.error, w)
      | none => (Cache.Memory.get w.shelf.table scope.nameSpace w.shelf.now key,
          { w with shelf := { w.shelf with table := w.shelf.table.touch scope.nameSpace } }) := by
  obtain ⟨shelf, ⟨lookup, dropsWrite⟩, documents⟩ := w
  cases lookup <;> rfl

theorem cache_set (key : Cache.Key) (v : Json.Value) (w : World δ) :
    ((cachedStore driver scope).cache.set key v none w).2
      = if w.lapse.dropsWrite then w
        else { w with
          shelf := { w.shelf with
            table := Cache.Memory.set w.shelf.table scope.nameSpace w.shelf.now key v
              scope.defaultTtl } } := by
  obtain ⟨shelf, ⟨lookup, dropsWrite⟩, documents⟩ := w
  cases dropsWrite <;> rfl

theorem cached_eq {α : Type} (key : Cache.Key) (expect : Json.Value → Answer α) (w : World δ) :
    (cachedStore driver scope).cached key expect w
      = (match ((cachedStore driver scope).cache.get key w).1 with
          | .ok v => (expect v).map some
          | .error e => if e.isTypeMismatch then .error e else .ok none,
        ((cachedStore driver scope).cache.get key w).2) := by
  unfold ReadThrough.cached
  rw [bind_apply]
  cases ((cachedStore driver scope).cache.get key w).1 <;> rfl

/-- Worlds between which a lookup makes no difference that counts. -/
structure Alike (ns : String) (w w' : World δ) : Prop where
  entries : w'.entries ns = w.entries ns
  documents : w'.documents = w.documents
  lapse : w'.lapse = w.lapse
  now : w'.shelf.now = w.shelf.now

theorem alike_touch (ns : String) (w : World δ) :
    Alike ns w { w with shelf := { w.shelf with table := w.shelf.table.touch ns } } :=
  ⟨Cache.Table.entries_touch _ _ _, rfl, rfl, rfl⟩

theorem cached_of_held {α : Type} {key : Cache.Key} (expect : Json.Value → Answer α)
    {v : Json.Value} (h : held? scope w key = some v) :
    ∃ w', (cachedStore driver scope).cached key expect w = ((expect v).map some, w') ∧
      Alike scope.nameSpace w w' := by
  obtain ⟨hlapse, e, he, hfresh, rfl⟩ := held?_eq_some_iff.1 h
  refine ⟨_, ?_, alike_touch scope.nameSpace w⟩
  have hget : Cache.Memory.get w.shelf.table scope.nameSpace w.shelf.now key = .ok e.value := by
    unfold Cache.Memory.get
    rw [show Dict.get? (w.shelf.table.entries scope.nameSpace) key = some e from he]
    dsimp only
    rw [hfresh, if_neg Bool.false_ne_true]
  rw [cached_eq, cache_get, hlapse]
  dsimp only
  rw [hget]

theorem cached_of_not_held {α : Type} {key : Cache.Key} (expect : Json.Value → Answer α)
    (h : held? scope w key = none) :
    ∃ w', (cachedStore driver scope).cached key expect w = (.ok none, w') ∧
    Alike scope.nameSpace w w' := by
  unfold held? at h
  split at h
  · next fault hlapse =>
    refine ⟨w, ?_, rfl, rfl, rfl, rfl⟩
    rw [cached_eq, cache_get, hlapse]
    dsimp only
    rw [fault.not_mismatch]
    rfl
  · next hlapse =>
    refine ⟨_, ?_, alike_touch scope.nameSpace w⟩
    have hget : ∃ e, Cache.Memory.get w.shelf.table scope.nameSpace w.shelf.now key = .error e ∧
        e.isTypeMismatch = false := by
      unfold Cache.Memory.get
      split at h
      · next e he =>
        split at h
        · next hexpired =>
          rw [show Dict.get? (w.shelf.table.entries scope.nameSpace) key = some e from he]
          exact ⟨_, if_pos hexpired, rfl⟩
        · cases h
      · next hmissing =>
        rw [show Dict.get? (w.shelf.table.entries scope.nameSpace) key = none from hmissing]
        exact ⟨_, rfl, rfl⟩
    obtain ⟨e, hget, hkind⟩ := hget
    rw [cached_eq, cache_get, hlapse]
    dsimp only
    rw [hget]
    dsimp only
    rw [hkind]
    rfl

/-- A read of which a value is held answers with it and leaves the entries alone. -/
theorem find_of_held (driver : Driver δ) (m : Method) {v : Json.Value}
    (h : held? scope w (.forRead collection c) = some v) :
    ((cachedStore driver scope).find collection c m w).1
        = Answer.withContext (m.expect v) m.operation (ReadThrough.detail collection c) ∧
      ((cachedStore driver scope).find collection c m w).2.entries scope.nameSpace
        = w.entries scope.nameSpace := by
  obtain ⟨w', hcached, halike⟩ := @cached_of_held δ driver scope w _ _ m.expect v h
  rw [ReadThrough.find_eq_read, ReadThrough.read, bind_apply, hcached]
  cases m.expect v with
  | error e => exact ⟨rfl, halike.entries⟩
  | ok r => exact ⟨rfl, halike.entries⟩

def driverAnswer (driver : Driver δ) (w : World δ) (collection : String) (c : Criteria)
    (m : Method) :
    Answer (Option m.Result) :=
  (m.fetch driver collection c w.documents).1

theorem fetch_within (driver : Driver δ) (m : Method) (w : World δ) :
    m.fetch (driver.within World.documentsPlace) collection c w
      = ((m.fetch driver collection c w.documents).1,
        { w with documents := (m.fetch driver collection c w.documents).2 }) := by
  cases m <;> rfl

/-- A read of which no value is held answers as the driver does, and keeps what the driver found,
unless that is lost. -/
theorem find_of_not_held (driver : Driver δ) (m : Method)
    (h : held? scope w (.forRead collection c) = none) :
    ((cachedStore driver scope).find collection c m w).1
        = (match driverAnswer driver w collection c m with
          | .error e => .error (e.withContext m.operation (ReadThrough.detail collection c))
          | .ok none => .error (.notFound collection c.describe)
          | .ok (some r) => .ok r) ∧
      ((cachedStore driver scope).find collection c m w).2.entries scope.nameSpace
        = (match driverAnswer driver w collection c m with
          | .ok (some r) =>
            if w.lapse.dropsWrite then w.entries scope.nameSpace
            else Dict.insert (w.entries scope.nameSpace) (.forRead collection c)
              (.keptFor (m.write r) w.shelf.now scope.defaultTtl)
          | _ => w.entries scope.nameSpace) := by
  obtain ⟨w', hcached, halike⟩ := @cached_of_not_held δ driver scope w _ _ m.expect h
  rw [ReadThrough.find_eq_read, ReadThrough.read, bind_apply, hcached]
  show ((m.fetch (driver.within World.documentsPlace) collection c >>= _) w').1 = _ ∧
    ((m.fetch (driver.within World.documentsPlace) collection c >>= _) w').2.entries scope.nameSpace
      = _
  rw [bind_apply, fetch_within, halike.documents]
  unfold driverAnswer
  cases (m.fetch driver collection c w.documents).1 with
  | error e => exact ⟨rfl, halike.entries⟩
  | ok found =>
    cases found with
    | none => exact ⟨rfl, halike.entries⟩
    | some r =>
      refine ⟨rfl, ?_⟩
      show ((cachedStore driver scope).cache.set (.forRead collection c) (m.write r) none
        { w' with documents := _ }).2.entries scope.nameSpace = _
      rw [cache_set]
      dsimp only
      rw [halike.lapse]
      split
      · exact halike.entries
      · show (Cache.Memory.set w'.shelf.table scope.nameSpace w'.shelf.now _ _ _).entries
            scope.nameSpace = _
        rw [Cache.Memory.entries_set, halike.now]
        exact congrArg (fun d => Dict.insert d _ _) halike.entries

/-- The ways in which a read can go, each with the answer and with the entries that it leaves. -/
inductive Outcome (driver : Driver δ) (scope : Cache.Scope) (collection : String) (c : Criteria)
    (m : Method) (w : World δ) : Answer m.Result → Dict Cache.Key Cache.Entry → Prop where
  | held {v : Json.Value} (hheld : held? scope w (.forRead collection c) = some v) :
    Outcome driver scope collection c m w
      (Answer.withContext (m.expect v) m.operation (ReadThrough.detail collection c))
        (w.entries scope.nameSpace)
  | failed {e : Error} (hnone : held? scope w (.forRead collection c) = none)
    (hanswer : driverAnswer driver w collection c m = .error e) :
    Outcome driver scope collection c m w
      (.error (e.withContext m.operation (ReadThrough.detail collection c)))
        (w.entries scope.nameSpace)
  | missing (hnone : held? scope w (.forRead collection c) = none)
    (hanswer : driverAnswer driver w collection c m = .ok none) :
    Outcome driver scope collection c m w (.error (.notFound collection c.describe))
      (w.entries scope.nameSpace)
  | found {r : m.Result} (hnone : held? scope w (.forRead collection c) = none)
    (hanswer : driverAnswer driver w collection c m = .ok (some r)) :
    Outcome driver scope collection c m w (.ok r)
      (if w.lapse.dropsWrite then w.entries scope.nameSpace
        else Dict.insert (w.entries scope.nameSpace) (.forRead collection c)
          (.keptFor (m.write r) w.shelf.now scope.defaultTtl))

theorem find_outcome (driver : Driver δ) (scope : Cache.Scope) (collection : String) (c : Criteria)
    (m : Method) (w : World δ) :
    Outcome driver scope collection c m w ((cachedStore driver scope).find collection c m w).1
      (((cachedStore driver scope).find collection c m w).2.entries scope.nameSpace) := by
  cases hheld : held? scope w (.forRead collection c) with
  | some v =>
    rw [(find_of_held driver m hheld).1, (find_of_held driver m hheld).2]
    exact .held hheld
  | none =>
    rw [(find_of_not_held driver m hheld).1, (find_of_not_held driver m hheld).2]
    cases hanswer : driverAnswer driver w collection c m with
    | error e => exact .failed hheld hanswer
    | ok found =>
      cases found with
      | none => exact .missing hheld hanswer
      | some r => exact .found hheld hanswer

end Turns

/-! ## Turns -/

inductive Request where
  | find (collection : String) (c : Criteria) (m : Method)
  | insertOne (collection : String) (d : Document)
  | insertMany (collection : String) (batch : List Document)
  | updateOne (collection : String) (c : Criteria) (patch : Document)
  | updateMany (collection : String) (c : Criteria) (patch : Document)
  | deleteOne (collection : String) (c : Criteria)

namespace Request

@[reducible]
def Reply : Request → Type
  | find _ _ m => Answer m.Result
  | insertOne _ _ => Answer Document
  | insertMany _ _ => Answer (List Document)
  | updateOne _ _ _ => Answer Nat
  | updateMany _ _ _ => Answer Nat
  | deleteOne _ _ => Answer Nat

def run {σ : Type} (s : ReadThrough σ) : (r : Request) → StateM σ r.Reply
  | find collection c m => s.find collection c m
  | insertOne collection d => s.insertOne collection d
  | insertMany collection batch => s.insertMany collection batch
  | updateOne collection c patch => s.updateOne collection c patch
  | updateMany collection c patch => s.updateMany collection c patch
  | deleteOne collection c => s.deleteOne collection c

def isFind : Request → Bool
  | find _ _ _ => true
  | _ => false

end Request

/-- One turn: what the clock shows and what goes wrong, what others did with other namespaces of the
table before, and what is asked of the store. -/
structure Turn (ns : String) where
  time : Reading
  lapse : Lapse
  elsewhere : List {call : Cache.Call // call.scope.nameSpace ≠ ns}
  request : Request

namespace Turn

variable {δ : Type} {ns : String}

/-- The world in which the request of a turn is made. -/
def ready (t : Turn ns) (w : World δ) : World δ :=
  { w with
    shelf :=
      { t.elsewhere.foldl (fun s call => (call.1.perform s).2) w.shelf with now := t.time.instant }
    lapse := t.lapse }

theorem entries_ready (t : Turn ns) (w : World δ) : (t.ready w).entries ns = w.entries ns := by
  have hfold : ∀ (calls : List {call : Cache.Call // call.scope.nameSpace ≠ ns}) (s : Cache.Shelf),
      (calls.foldl (fun s call => (call.1.perform s).2) s).table.entries ns
        = s.table.entries ns := by
    intro calls
    induction calls with
    | nil => exact fun _ => rfl
    | cons call calls ih =>
      intro s
      rw [List.foldl_cons, ih, call.1.entries_perform, if_neg fun h => call.2 h.symm]
  exact hfold t.elsewhere w.shelf

def after (driver : Driver δ) (scope : Cache.Scope) (t : Turn scope.nameSpace)
    (w : World δ) : World δ :=
  (t.request.run (cachedStore driver scope) (t.ready w)).2

/-- Writes leave the cache alone. -/
theorem entries_after_of_write {driver : Driver δ} {scope : Cache.Scope} {t : Turn scope.nameSpace}
    (h : t.request.isFind = false) (w : World δ) :
    (t.after driver scope w).entries scope.nameSpace = w.entries scope.nameSpace := by
  have hleft : (t.request.run (cachedStore driver scope) (t.ready w)).2.shelf
      = (t.ready w).shelf := by
    cases hr : t.request with
    | find collection c m =>
      rw [hr] at h
      cases h
    | _ => rfl
  rw [← t.entries_ready w]
  unfold after World.entries
  rw [hleft]

end Turn

end Larder.Store
