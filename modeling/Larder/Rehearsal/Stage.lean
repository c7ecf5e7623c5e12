import Larder.Confirmation.Delivery
import Larder.Events.Script
import Larder.Faults
import Larder.Redis.Scripted
import Larder.Service.Backends
import Larder.Sql.Scripted

/-!
A stage on which backends are tried out: a clock that is moved by hand, memory for any number of
caches, scripted servers, an event bus, and failures that wait in queues.
-/

namespace Larder.Rehearsal

/-- What handlers leave behind. -/
inductive Note where
  | comment (c : Events.Comment)
  | delivered (c : Confirmation)

/-- What a cache keeps beside its values. -/
structure Cell where
  settings : CacheSettings
  server : Option Redis.Address

structure Stage where
  now : Instant
  cells : List Cell
  tables : List Cache.Table
  redis : Redis.Scripted
  sql : Sql.Scripted
  memory : Store.Memory.State
  bus : Events.Bus Note
  comments : List Events.Comment
  delivered : List Confirmation
  /-- Errors with which the next calls of the cache and of the driver fail. -/
  cacheFaults : List Error
  driverFaults : List Error
  reads : Nat
  closes : Nat

namespace Stage

/-- A stage on which nothing has happened.  The first table is common to those who ask for it. -/
def empty (now : Instant) (ids : Nat → String) : Stage :=
  { now, cells := [], tables := [[]], redis := .idle, sql := .idle ids, memory := .empty,
    bus := .create none, comments := [], delivered := [], cacheFaults := [], driverFaults := [],
    reads := 0, closes := 0 }

/-! ## Places -/

/-- A place in a list; `absent` is what is found past its end. -/
def item {α : Type} (absent : α) (i : Nat) : Place (List α) α :=
  ⟨fun xs => xs.getD i absent, fun x xs => xs.set i x⟩

def cell (i : Nat) : Place Stage Cell :=
  Place.within ⟨cells, fun a s => { s with cells := a }⟩ (item ⟨{}, none⟩ i)

def table (i : Nat) : Place Stage Cache.Table :=
  Place.within ⟨tables, fun a s => { s with tables := a }⟩ (item [] i)

def settingsOf (i : Nat) : Place Stage CacheSettings :=
  (cell i).within ⟨Cell.settings, fun a c => { c with settings := a }⟩

def serverOf (i : Nat) : Place Stage (Option Redis.Address) :=
  (cell i).within ⟨Cell.server, fun a c => { c with server := a }⟩

def redisPlace : Place Stage Redis.Scripted := ⟨redis, fun a s => { s with redis := a }⟩

def sqlPlace : Place Stage Sql.Scripted := ⟨sql, fun a s => { s with sql := a }⟩

def memoryPlace : Place Stage Store.Memory.State := ⟨memory, fun a s => { s with memory := a }⟩

def cacheFaultPlace : Place Stage (List Error) :=
  ⟨cacheFaults, fun a s => { s with cacheFaults := a }⟩

def driverFaultPlace : Place Stage (List Error) :=
  ⟨driverFaults, fun a s => { s with driverFaults := a }⟩

def readPlace : Place Stage Nat := ⟨reads, fun a s => { s with reads := a }⟩

def closePlace : Place Stage Nat := ⟨closes, fun a s => { s with closes := a }⟩

/-- Room for another cache. -/
def newCell (settings : CacheSettings) : StateM Stage Nat :=
  modifyGet fun s => (s.cells.length, { s with cells := s.cells ++ [⟨settings, none⟩] })

def newTable : StateM Stage Nat :=
  modifyGet fun s => (s.tables.length, { s with tables := s.tables ++ [[]] })

/-! ## Parts -/

def cacheParts (cell table : Nat) : Cache.Parts Stage :=
  { clock := now
    table := Stage.table table
    settings := settingsOf cell
    server := serverOf cell
    send := fun address c => redisPlace.run (Redis.Scripted.answer address c) }

def storeParts (ids : Nat → String) : Store.Parts Stage :=
  { ids
    memory := memoryPlace
    database := fun d => sqlPlace.run (Sql.Scripted.answer d) }

/-- Backends that fail with the queued errors. -/
def withFaults (b : Service.Backends Stage) : Service.Backends Stage :=
  ⟨b.cache.withFaults cacheFaultPlace, b.driver.withFaults driverFaultPlace readPlace closePlace⟩

/-! ## The bus -/

def commentOf : Note → Option Events.Comment
  | .comment c => some c
  | .delivered _ => none

def confirmationOf : Note → Option Confirmation
  | .delivered c => some c
  | .comment _ => none

/-- Acts on the bus and gathers what handlers left behind. -/
def onBus {α : Type} (act : Events.Bus Note → α × Events.Bus Note) : StateM Stage α := fun s =>
  let (a, bus) := act s.bus
  let (notes, bus) := bus.takeNotes
  (a, { s with
    bus
    comments := s.comments ++ notes.filterMap commentOf
    delivered := s.delivered ++ notes.filterMap confirmationOf })

/-- What handlers remarked on since this was last asked, by topic and handler. -/
def takeComments : StateM Stage (List Events.Comment) :=
  modifyGet fun s => (s.comments.mergeSort Events.Comment.le, { s with comments := [] })

def takeDelivered : StateM Stage (List Confirmation) :=
  modifyGet fun s => (s.delivered, { s with delivered := [] })

/-- A notifier that records what it delivers, and then ends as told. -/
def recorder (result : Answer Unit) : Confirmation.Notifier Note := fun c =>
  .note (.delivered c) (.done result)

end Stage

end Larder.Rehearsal
