import Larder.Rehearsal.Stage

/-!
Sessions on a stage: caches that were opened one after the other, and a store over the first of
them.
-/

namespace Larder.Rehearsal

open Stage (cacheParts storeParts newCell newTable)

/-- A cache that was opened. -/
structure Handle where
  backend : Cache.Backend Stage
  cell : Nat
  /-- The table, of a cache that was opened over one. -/
  table : Option Nat
  /-- Whether it can be asked if it is prepared. -/
  isServerCache : Bool
  /-- Whether it can be asked for its health. -/
  isManager : Bool

/-- Ways to open a cache. -/
inductive Opening where
  | noop (nameSpace : String) (ttl : Duration)
  | unset
  /-- With a table of its own, or with the common one. -/
  | memory (nameSpace : String) (ttl : Duration) (common : Bool)
  /-- Over the table of an earlier cache, with its time to live and settings. -/
  | sibling (earlier : Nat) (nameSpace : String)
  | server (nameSpace : String) (ttl : Duration)
  | select (s : CacheSettings)
  | connect (s : CacheSettings) (managed : Bool)
  /-- A manager around an earlier cache. -/
  | wrap (earlier : Nat)

/-- Why something could not be set up. -/
inductive Refusal where
  /-- There is no such earlier cache, or it has no table. -/
  | noSuchCache
  | failed (e : Error)

namespace Opening

def fit (kind : CacheKind) (nameSpace : String) (ttl : Duration) (settings : CacheSettings)
    (table : Option Nat) : StateM Stage Handle := do
  let cell ← newCell settings
  return ⟨(cacheParts cell (table.getD 0)).backend kind nameSpace ttl, cell, table,
    kind == .redis, false⟩

def perform (opened : List Handle) : Opening → StateM Stage (Except Refusal Handle)
  | noop nameSpace ttl => return .ok (← fit .noop nameSpace ttl Cache.Noop.settings none)
  | unset => do
    let cell ← newCell Cache.Noop.settings
    return .ok ⟨(cacheParts cell 0).unset, cell, none, false, false⟩
  | memory nameSpace ttl common => do
    let table ← if common then pure 0 else newTable
    return .ok (← fit .memory nameSpace ttl Cache.Memory.settings (some table))
  | sibling earlier nameSpace => do
    match opened[earlier]? with
    | some ⟨b, _, some table, _, _⟩ =>
      return .ok (← fit .memory nameSpace b.defaultTtl (← b.connection) (some table))
    | _ => return .error .noSuchCache
  | server nameSpace ttl => return .ok (← fit .redis nameSpace ttl {} none)
  | select s => do
    let cell ← newCell s
    return .ok ⟨← (cacheParts cell (← newTable)).select s, cell, none, false, false⟩
  | connect s managed => do
    let cell ← newCell s
    match ← (cacheParts cell (← newTable)).connect s with
    | .ok b => return .ok ⟨b, cell, none, false, managed⟩
    | .error e => return .error (.failed e)
  | wrap earlier =>
    match opened[earlier]? with
    | some h => return .ok { h with table := none, isServerCache := false, isManager := true }
    | none => return .error .noSuchCache

/-- Opens caches in order, up to the first that cannot be. -/
def performAll (opened : List Handle) : List Opening → StateM Stage (Except Refusal (List Handle))
  | [] => return .ok opened
  | opening :: rest => do
    match ← opening.perform opened with
    | .ok h => performAll (opened ++ [h]) rest
    | .error r => return .error r

end Opening

structure Session where
  caches : List Handle
  store : Store.ReadThrough Stage
  /-- The driver without failures in front of it. -/
  driver : Store.Driver Stage
  /-- What health checks and the shutdown work on. -/
  checked : Service.Backends Stage
  /-- Whether the number of documents is the stage's to tell, and the number of reads. -/
  countsDocuments : Bool
  countsReads : Bool

namespace Session

/-- What a session is set up with, beside its caches. -/
inductive Plan where
  /-- A driver as settings name it, or else one in memory, and the time that the bus waits. -/
  | parts (store : Option StoreSettings) (timeout : Option Duration)
  /-- A service from its settings, or one for which nothing is set but the time that its bus
  waits. -/
  | service (s : Settings) (isUnset : Bool)

def withBus (timeout : Option Duration) : StateM Stage Unit :=
  modify fun s => { s with bus := .create timeout }

/-- A session of a service; its cache comes before the others. -/
def ofService (ids : Nat → String) (openings : List Opening) (s : Settings) (isUnset : Bool) :
    StateM Stage (Except Refusal Session) := do
  let cell ← newCell Cache.Noop.settings
  let parts : Service.Parts Stage := ⟨cacheParts cell (← newTable), storeParts ids⟩
  withBus s.events.publishTimeout
  match ← if isUnset then pure (.ok parts.unset) else parts.connect s with
  | .error e => return .error (.failed e)
  | .ok b =>
    return (← Opening.performAll [⟨b.cache, cell, none, false, false⟩] openings).map fun caches =>
      ⟨caches, b.store, b.driver, Stage.withFaults b, false, false⟩

/-- A session of a store over the first of its caches. -/
def ofParts (ids : Nat → String) (openings : List Opening) (store : Option StoreSettings)
    (timeout : Option Duration) : StateM Stage (Except Refusal Session) := do
  withBus timeout
  match ← Opening.performAll [] openings with
  | .error r => return .error r
  | .ok [] => return .error .noSuchCache
  | .ok (first :: others) =>
    let driver ←
      match store with
      | some s => pure ((← (storeParts ids).connect s).mapError (·.toError))
      | none => pure (.ok (storeParts ids).unset)
    match driver with
    | .error e => return .error (.failed e)
    | .ok driver =>
      let checked := Stage.withFaults ⟨first.backend, driver⟩
      return .ok ⟨first :: others, checked.store, driver, checked, store.isNone, true⟩

def setUp (ids : Nat → String) (openings : List Opening) :
    Plan → StateM Stage (Except Refusal Session)
  | .parts store timeout => ofParts ids openings store timeout
  | .service s isUnset => ofService ids openings s isUnset

end Session

end Larder.Rehearsal
