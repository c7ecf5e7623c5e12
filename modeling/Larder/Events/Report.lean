import Larder.Uuid

/-!
What a publish tells: one outcome for each handler, in the order of the handlers' names.
-/

namespace Larder.Events

/-- How one run of a handler ended. -/
inductive Status where
  | completed
  /-- The handler gave back an error. -/
  | failed (message : String)
  | panicked (message : String)
  /-- The handler was still running at the deadline and was stopped. -/
  | timedOut
deriving DecidableEq, Repr

namespace Status

def label : Status → String
  | completed => "completed"
  | failed _ => "failed"
  | panicked _ => "panicked"
  | timedOut => "timed_out"

/-- The status of a label, with a message where there is one. -/
def labelled? (label message : String) : Option Status :=
  [completed, failed message, panicked message, timedOut].find? fun s => s.label == label

def text (s : Status) : String :=
  match s with
  | failed message => s.label ++ ": " ++ message
  | panicked message => s.label ++ ": " ++ message
  | _ => s.label

def isCompleted (s : Status) : Bool := s == completed

end Status

structure Outcome where
  handler : String
  status : Status
deriving DecidableEq, Repr

structure Report where
  topic : String
  eventId : Uuid
  outcomes : List Outcome

namespace Report

def allCompleted (r : Report) : Bool := r.outcomes.all (·.status.isCompleted)

def failures (r : Report) : List Outcome := r.outcomes.filter fun o => !o.status.isCompleted

/-- Status of the first outcome of a handler. -/
def statusOf (r : Report) (handler : String) : Option Status :=
  (r.outcomes.find? (·.handler == handler)).map (·.status)

end Report

end Larder.Events
