import Larder.Cache.Backend
import Larder.Store.Driver

/-!
Backends that fail on demand, to see what becomes of a failure above them.  Errors stand in a queue,
and each call that can fail takes one.
-/

namespace Larder

/-- Takes the first of the queued errors. -/
def nextFault {σ : Type} (queue : Place σ (List Error)) : StateM σ (Option Error) :=
  queue.update fun errors => (errors.head?, errors.tail)

/-- Fails with the next queued error, or else acts. -/
def orFault {σ α : Type} (queue : Place σ (List Error)) (act : StateM σ (Answer α)) :
    StateM σ (Answer α) := do
  match ← nextFault queue with
  | some e => return .error e
  | none => act

/-- A cache of which lookups and pings fail with the queued errors. -/
def Cache.Backend.withFaults {σ : Type} (b : Cache.Backend σ) (queue : Place σ (List Error)) :
    Cache.Backend σ :=
  { b with
    get := fun key => orFault queue (b.get key)
    ping := orFault queue b.ping }

/-- A driver of which every call fails with the queued errors, with a count of the reads and of the
times it was closed. -/
def Store.Driver.withFaults {σ : Type} (d : Store.Driver σ) (queue : Place σ (List Error))
    (reads closes : Place σ Nat) : Store.Driver σ :=
  let count (counter : Place σ Nat) : StateM σ Unit := counter.update fun n => ((), n + 1)
  { kind := d.kind
    findOne := fun collection c => do
      count reads
      orFault queue (d.findOne collection c)
    findAll := fun collection c => do
      count reads
      orFault queue (d.findAll collection c)
    insertOne := fun collection doc => orFault queue (d.insertOne collection doc)
    insertMany := fun collection batch => orFault queue (d.insertMany collection batch)
    updateOne := fun collection c patch => orFault queue (d.updateOne collection c patch)
    updateMany := fun collection c patch => orFault queue (d.updateMany collection c patch)
    deleteOne := fun collection c => orFault queue (d.deleteOne collection c)
    ping := orFault queue d.ping
    close := do
      count closes
      d.close }

end Larder
