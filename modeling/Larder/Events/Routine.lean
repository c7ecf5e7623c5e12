import Larder.Error
import Larder.Events.Report
import Larder.Json.Shape
import Larder.Time.Instant

/-!
Handlers as resumable computations.  A routine is what is left of a handler's run: it has ended, or
it asks for something and says how it goes on with what it gets.  Nothing is said of how handlers
are written, so what holds of every routine holds of every handler.
-/

namespace Larder.Events

/-- A published event as its handlers see it. -/
structure Envelope where
  /-- Another one for each publish. -/
  id : Uuid
  topic : String
  payload : Json.Value

/-- The payload as a typed value. -/
def Envelope.decode {α : Type} (e : Envelope) (shape : Json.Shape α) : Answer α :=
  match shape e.payload with
  | .ok x => .ok x
  | .error m => .error (.ofJson m.message)

/-- The rest of a run.  `ν` is the type of the notes that handlers leave. -/
inductive Routine (ν : Type) where
  | done (result : Answer Unit)
  /-- Ends in a panic, with its message if it has one. -/
  | panic (message : Option String)
  /-- Ends the whole program at once. -/
  | abort
  | note (n : ν) (next : Routine ν)
  | sleep (d : Duration) (next : Routine ν)
  /-- Lets the others run first. -/
  | yield (next : Routine ν)
  /-- Waits at a gate until as many have come as it takes to open it. -/
  | meet (gate : String) (parties : Nat) (next : Routine ν)
  | register (topic name : String) (handler : Envelope → Routine ν) (next : Bool → Routine ν)
  | remove (topic name : String) (next : Answer Unit → Routine ν)
  | names (topic : String) (next : List String → Routine ν)
  /-- Publishes, and waits for the report. -/
  | publish (topic : String) (payload : Json.Value) (next : Answer Report → Routine ν)

abbrev Handler (ν : Type) := Envelope → Routine ν

/-- The message of a panic whose content is no text. -/
def namelessPanic : String := "handler panicked"

/-- Status of a run that gave back a result. -/
def Status.ofResult : Answer Unit → Status
  | .ok () => .completed
  | .error e => .failed e.message

end Larder.Events
