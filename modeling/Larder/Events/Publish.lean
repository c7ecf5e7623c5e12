import Larder.Events.Bus

/-!
Publishing, and letting time pass.

A publisher first looks at its handlers, then everything that can run does, and when nothing can,
the clock goes to the next time for which something waits.  How many turns that takes cannot be told
beforehand, since handlers may publish, so the number of turns is bounded.
-/

namespace Larder.Events

/-- How a publish ended. -/
inductive Ending where
  | report (r : Report)
  | refused (e : Error)
  /-- The publisher itself panicked. -/
  | panicked (message : String)
  /-- A handler has ended the program. -/
  | aborted
  /-- The handlers wait for something that will not happen, or took too many turns. -/
  | unfinished

/-- Something to publish under a topic of its own; to write its payload may fail. -/
structure Event where
  topic : String
  payload : Answer Json.Value

namespace Bus

variable {ν : Type}

/-- Runs the tasks that can run, and those which they wake. -/
def drain : Nat → Bus ν → Bus ν
  | 0, b => b
  | turns + 1, b =>
    if b.aborted then b
    else
      match b.queue with
      | [] => b
      | t :: rest => drain turns (resume { b with queue := rest } t)

/-- The earliest of the times at which a task is to be woken. -/
def nextDue (timers : List Timer) : Option Nat := (timers.map (·.due)).min?

/-- Sets the clock, and wakes the tasks whose time has come. -/
def advanceTo (b : Bus ν) (time : Nat) : Bus ν :=
  let due := b.timers.filter (·.due ≤ time)
  let later := b.timers.filter fun timer => time < timer.due
  due.foldl (fun b timer => b.wake timer.task) { b with now := time, timers := later }

/-- The earlier of two times, as far as they are given. -/
def earlier : Option Nat → Option Nat → Option Nat
  | some a, some b => some (min a b)
  | some a, none => some a
  | none, other => other

/-- What comes when no task can run: those that yielded can again, or else time passes, to the limit
at most. -/
def pass? (b : Bus ν) (limit : Option Nat) : Option (Bus ν) :=
  if b.yielded.isEmpty then (earlier (nextDue b.timers) limit).map b.advanceTo
  else some { b with queue := b.yielded, yielded := [] }

/-- Waits for the handlers of a publish. -/
def await : Nat → Dispatch → Bus ν → Ending × Bus ν
  | 0, _, b => (.unfinished, b)
  | turns + 1, d, b =>
    if b.aborted then (.aborted, b)
    else
      let (d, b) := b.settle d
      if d.pending.isEmpty then (.report d.report, b)
      else if b.queue.isEmpty then
        match b.pass? d.deadline with
        | some b => await turns d b
        | none => (.unfinished, b)
      else await turns d (drain turns b)

/-- Publishes, and waits for the handlers until a time is over, if one is given. -/
def publish (turns : Nat) (b : Bus ν) (topic : String) (payload : Json.Value)
    (timeout : Option Duration) :
    Ending × Bus ν :=
  match b.start topic payload timeout with
  | (.refused e, b) => (.refused e, b)
  | (.panicked message, b) => (.panicked message, b)
  | (.waiting d, b) => await turns d b

/-- Publishes with the time that the bus waits. -/
def publishEvent (turns : Nat) (b : Bus ν) (e : Event) : Ending × Bus ν :=
  match e.payload with
  | .ok payload => b.publish turns e.topic payload b.timeout
  | .error err => (.refused err, b)

def advanceUntil : Nat → Nat → Bus ν → Bus ν
  | 0, _, b => b
  | turns + 1, time, b =>
    if b.aborted || time ≤ b.now then b
    else if b.queue.isEmpty then
      match b.pass? (some time) with
      | some b => advanceUntil turns time b
      | none => b
    else advanceUntil turns time (drain turns b)

/-- Lets time pass. -/
def advance (turns : Nat) (b : Bus ν) (d : Duration) : Bus ν :=
  b.advanceUntil turns (b.now + d.nanoseconds)

end Bus

end Larder.Events
