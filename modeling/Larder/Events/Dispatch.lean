import Larder.Events.Report

/-!
Waiting for the handlers of one publish, one after the other in the order of their names.  Each look
at the handlers goes on as far as it can: past a handler that has ended, and once the deadline is
there past every handler, stopping those that still run.
-/

namespace Larder.Events

/-- Number of a running task. -/
abbrev TaskId := Nat

structure Dispatch where
  topic : String
  eventId : Uuid
  deadline : Option Nat
  /-- Outcomes of the handlers that were waited for. -/
  outcomes : List Outcome
  /-- Handlers to wait for, with their tasks. -/
  pending : List (String × TaskId)

namespace Dispatch

/-- Whether a deadline is there at a time. -/
def isOver (deadline : Option Nat) (now : Nat) : Bool := deadline.any (· ≤ now)

/-- What a look at the pending handlers brings: outcomes, the tasks to stop, and those still to wait
for. -/
structure Look where
  outcomes : List Outcome
  stopped : List TaskId
  pending : List (String × TaskId)

/-- Looks at the handlers in order.  A task that has ended is taken as it ended, also at the
deadline. -/
def look (statusOf : TaskId → Option Status) (late : Bool) : List (String × TaskId) → Look
  | [] => ⟨[], [], []⟩
  | (name, task) :: rest =>
    match statusOf task with
    | some status =>
      let l := look statusOf late rest
      { l with outcomes := ⟨name, status⟩ :: l.outcomes }
    | none =>
      if late then
        let l := look statusOf late rest
        { l with outcomes := ⟨name, .timedOut⟩ :: l.outcomes, stopped := task :: l.stopped }
      else ⟨[], [], (name, task) :: rest⟩

/-- The dispatch after a look at a time, and the tasks to stop. -/
def settle (d : Dispatch) (statusOf : TaskId → Option Status) (now : Nat) :
    Dispatch × List TaskId :=
  let l := look statusOf (isOver d.deadline now) d.pending
  ({ d with outcomes := d.outcomes ++ l.outcomes, pending := l.pending }, l.stopped)

def report (d : Dispatch) : Report := ⟨d.topic, d.eventId, d.outcomes⟩

end Dispatch

end Larder.Events
