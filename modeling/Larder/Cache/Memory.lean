import Larder.Cache.Backend
import Larder.Cache.Key
import Larder.Dict
import Larder.Time.Instant

/-!
The cache in memory: one namespace of a table, which other caches may share.  An expired entry stays
until it is replaced, deleted or purged.  Reading takes it as gone, while deleting it and asking
whether it is there do not.
-/

namespace Larder.Cache

/-! ## Entries -/

/-- One kept value and the instant from which on it is no longer used. -/
structure Entry where
  value : Json.Value
  expiresAt : Instant

namespace Entry

/-- An entry kept for a time to live; a time too long to be represented never ends. -/
def keptFor (value : Json.Value) (now : Instant) (ttl : Duration) : Entry := ⟨value, now.expiry ttl⟩

/-- At its expiry an entry is expired. -/
def isExpiredAt (e : Entry) (now : Instant) : Bool := e.expiresAt.le now

end Entry

/-! ## Tables -/

/-- Cached values, namespace by namespace.  A namespace is there from the first time that it is
used, and stays. -/
abbrev Table := Dict String (Dict Key Entry)

namespace Table

def entries (t : Table) (ns : String) : Dict Key Entry := (Dict.get? t ns).getD []

def withEntries (t : Table) (ns : String) (entries : Dict Key Entry) : Table :=
  Dict.insert t ns entries

/-- The table with a namespace in it. -/
def touch (t : Table) (ns : String) : Table := if Dict.contains t ns then t else t.withEntries ns []

/-- Number of entries in a namespace, expired or not. -/
def count (t : Table) (ns : String) : Nat := (t.entries ns).length

def names (t : Table) : List String := Dict.keys t

end Table

/-! ## The cache -/

namespace Memory

variable (t : Table) (ns : String) (now : Instant) (key : Key)

def set (value : Json.Value) (ttl : Duration) : Table :=
  t.withEntries ns (Dict.insert (t.entries ns) key (.keptFor value now ttl))

def get : Answer Json.Value :=
  match Dict.get? (t.entries ns) key with
  | none => .error (missing key)
  | some e => if e.isExpiredAt now then .error (.expired key.text) else .ok e.value

def contains : Answer Unit :=
  if Dict.contains (t.entries ns) key then .ok () else .error (missing key)

def delete : Answer Unit × Table :=
  (contains t ns key, t.withEntries ns (Dict.erase (t.entries ns) key))

/-- Removes the expired entries of a namespace; tells how many there were. -/
def purge : Nat × Table :=
  let left := (t.entries ns).filter fun entry => !entry.2.isExpiredAt now
  (t.count ns - left.length, t.withEntries ns left)

end Memory

/-- The connection settings that a cache in memory has before it is given others. -/
def Memory.settings : CacheSettings := { kind := .memory }

/-- A cache over a namespace of a table. -/
def memory {σ : Type} (clock : σ → Instant) (table : Place σ Table) (nameSpace : String)
    (defaultTtl : Duration) (settings : Place σ CacheSettings) : Backend σ :=
  let set (key : Key) (value : Json.Value) (ttl : Option Duration) : StateM σ Unit := do
    let now := clock (← MonadState.get)
    table.update fun t => ((), Memory.set t nameSpace now key value (ttl.getD defaultTtl))
  let get (key : Key) : StateM σ (Answer Json.Value) := do
    let now := clock (← MonadState.get)
    table.update fun t => (Memory.get t nameSpace now key, t.touch nameSpace)
  { kind := .memory
    nameSpace
    defaultTtl
    prepare := table.update fun t => (.ok (), t.touch nameSpace)
    setConnection := settings.write
    connection := settings.read
    set
    get
    delete := fun key => table.update fun t => Memory.delete t nameSpace key
    contains := fun key =>
      table.update fun t => (Memory.contains t nameSpace key, t.touch nameSpace)
    getOrSet := fun key value ttl => do
      set key value ttl
      get key
    ping := return .ok () }

/-- Removes what is expired in a namespace of a table. -/
def purge {σ : Type} (clock : σ → Instant) (table : Place σ Table) (nameSpace : String) :
    StateM σ Nat := do
  let now := clock (← MonadState.get)
  table.update fun t => Memory.purge t nameSpace now

end Larder.Cache
