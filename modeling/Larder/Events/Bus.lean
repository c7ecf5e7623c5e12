import Larder.Events.Dispatch
import Larder.Events.Registry

/-!
The event bus: the registry, the tasks that run handlers, and a clock that stands still while tasks
run.

Tasks run one at a time, each until it has to wait; those that wait for time are woken in the order
in which their times come.  A task that publishes is woken when the handler it waits for has ended,
and at its deadline.  A stopped task runs no further, but handlers whose publisher was stopped go
on.
-/

namespace Larder.Events

/-- Where a task stands. -/
inductive Activity (ν : Type) where
  /-- The handler was not called yet. -/
  | fresh (h : Handler ν) (e : Envelope)
  | ready (rest : Routine ν)
  | sleeping (rest : Routine ν)
  | meeting (rest : Routine ν)
  | publishing (d : Dispatch) (next : Answer Report → Routine ν)
  | ended (status : Status)

/-- Wakes a task at a time. -/
structure Timer where
  due : Nat
  task : TaskId
deriving DecidableEq, Repr

/-- A gate that opens when as many tasks have come as there are parties, and is then as new. -/
structure Gate where
  parties : Nat
  arrived : Nat
  waiting : List TaskId
deriving DecidableEq, Repr

structure Bus (ν : Type) where
  registry : Registry ν
  /-- How long a publish waits for its handlers, if not otherwise said. -/
  timeout : Option Duration
  /-- Nanoseconds since the bus was made. -/
  now : Nat
  tasks : Dict TaskId (Activity ν)
  /-- Tasks that can run, in the order in which they will. -/
  queue : List TaskId
  /-- Tasks that run once no other can. -/
  yielded : List TaskId
  /-- In the order in which they were set. -/
  timers : List Timer
  gates : Dict String Gate
  notes : List ν
  /-- Number of tasks so far. -/
  spawned : Nat
  /-- Number of events so far. -/
  published : Nat
  /-- A handler has ended the program. -/
  aborted : Bool

namespace Bus

variable {ν : Type}

def create (timeout : Option Duration) : Bus ν :=
  { registry := [], timeout, now := 0, tasks := [], queue := [], yielded := [], timers := [],
    gates := [], notes := [], spawned := 0, published := 0, aborted := false }

/-! ## Listeners -/

def add (b : Bus ν) (topic name : String) (h : Handler ν) : Bool × Bus ν :=
  let (added, registry) := b.registry.add topic name h
  (added, { b with registry })

def remove (b : Bus ν) (topic name : String) : Answer Unit × Bus ν :=
  let (answer, registry) := b.registry.remove topic name
  (answer, { b with registry })

def topics (b : Bus ν) : List String := b.registry.topics

def names (b : Bus ν) (topic : String) : List String := b.registry.names topic

def has (b : Bus ν) (topic name : String) : Bool := b.registry.has topic name

/-- Hands out the notes that were left, and forgets them. -/
def takeNotes (b : Bus ν) : List ν × Bus ν := (b.notes, { b with notes := [] })

/-! ## Tasks -/

def set (b : Bus ν) (t : TaskId) (a : Activity ν) : Bus ν :=
  { b with tasks := Dict.insert b.tasks t a }

/-- How a task ended, if it has. -/
def statusOf (b : Bus ν) (t : TaskId) : Option Status :=
  match Dict.get? b.tasks t with
  | some (.ended status) => some status
  | _ => none

/-- Puts a task behind those that can run, unless it is among them. -/
def enqueue (b : Bus ν) (t : TaskId) : Bus ν :=
  if b.queue.contains t then b else { b with queue := b.queue ++ [t] }

/-- Whether a task waits for another one to end. -/
def Activity.awaits (t : TaskId) : Activity ν → Bool
  | .publishing d _ => d.pending.head?.any fun handler => handler.2 == t
  | _ => false

/-- The tasks that wait for a task to end. -/
def waitingFor (b : Bus ν) (t : TaskId) : List TaskId :=
  (b.tasks.filter fun task => Activity.awaits t task.2).map Prod.fst

/-- Ends a task and wakes who waits for it. -/
def finish (b : Bus ν) (t : TaskId) (status : Status) : Bus ν :=
  (b.waitingFor t).foldl enqueue (b.set t (.ended status))

/-- Takes tasks away that have not ended. -/
def stop (b : Bus ν) (stopped : List TaskId) : Bus ν :=
  { b with
    tasks := b.tasks.filter fun task => !stopped.contains task.1
    queue := b.queue.filter fun t => !stopped.contains t
    yielded := b.yielded.filter fun t => !stopped.contains t
    timers := b.timers.filter fun timer => !stopped.contains timer.task }

def setTimer (b : Bus ν) (t : TaskId) (due : Nat) : Bus ν :=
  { b with timers := b.timers ++ [⟨due, t⟩] }

def clearTimers (b : Bus ν) (t : TaskId) : Bus ν :=
  { b with timers := b.timers.filter (·.task ≠ t) }

/-- Wakes a task that waits for a time, at a gate or for a handler. -/
def wake (b : Bus ν) (t : TaskId) : Bus ν :=
  match Dict.get? b.tasks t with
  | some (.sleeping rest) => (b.set t (.ready rest)).enqueue t
  | some (.meeting rest) => (b.set t (.ready rest)).enqueue t
  | some (.publishing _ _) => b.enqueue t
  | _ => b

/-! ## Dispatching an event -/

/-- The latest time that a deadline can be: a signed 64-bit number of seconds, and nanoseconds. -/
def latest : Nat := ((1 <<< 63) - 1) * 1_000_000_000 + 999_999_999

/-- A time to wait from now on, as a deadline; none if that is too late to be represented. -/
def deadline? (now : Nat) (timeout : Duration) : Option Nat :=
  let due := now + timeout.nanoseconds
  if due ≤ latest then some due else none

/-- The message of the panic when a deadline cannot be represented. -/
def deadlinePanic : String := "overflow when adding duration to instant"

/-- Makes a task for each handler, in order. -/
def spawn (b : Bus ν) (e : Envelope) : Dict String (Handler ν) → List (String × TaskId) × Bus ν
  | [] => ([], b)
  | (name, h) :: rest =>
    let t := b.spawned
    let made : Bus ν :=
      { b with
        tasks := Dict.insert b.tasks t (.fresh h e)
        queue := b.queue ++ [t]
        spawned := t + 1 }
    let (others, b) := spawn made e rest
    ((name, t) :: others, b)

/-- How a publish begins. -/
inductive Start where
  | refused (e : Error)
  | panicked (message : String)
  | waiting (d : Dispatch)

/-- Begins a publish: one task for each handler that is registered now, all with the same
envelope. -/
def start (b : Bus ν) (topic : String) (payload : Json.Value) (timeout : Option Duration) :
    Start × Bus ν :=
  match b.registry.handlers topic with
  | [] => (.refused (.topicHasNoHandlers topic), b)
  | handlers =>
    let id := Uuid.timed (b.now / 1_000_000) b.published
    let (pending, b) := spawn { b with published := b.published + 1 } ⟨id, topic, payload⟩ handlers
    match timeout with
    | none => (.waiting ⟨topic, id, none, [], pending⟩, b)
    | some timeout =>
      match deadline? b.now timeout with
      | some due => (.waiting ⟨topic, id, some due, [], pending⟩, b)
      | none => (.panicked deadlinePanic, b)

/-- Looks at the handlers of a publish, and stops those whose time is over. -/
def settle (b : Bus ν) (d : Dispatch) : Dispatch × Bus ν :=
  let (d, stopped) := d.settle b.statusOf b.now
  (d, b.stop stopped)

/-! ## Running a task -/

/-- Comes to a gate; tells whether that opens it. -/
def meet (b : Bus ν) (t : TaskId) (gate : String) (parties : Nat) : Bool × Bus ν :=
  let g := (Dict.get? b.gates gate).getD ⟨max parties 1, 0, []⟩
  if g.arrived + 1 = g.parties then
    let opened : Bus ν := { b with gates := Dict.insert b.gates gate ⟨g.parties, 0, []⟩ }
    (true, g.waiting.foldl wake opened)
  else
    (false, { b with
      gates := Dict.insert b.gates gate ⟨g.parties, g.arrived + 1, g.waiting ++ [t]⟩ })

/-- Runs a task until it has to wait or has ended. -/
def run (b : Bus ν) (t : TaskId) : Routine ν → Bus ν
  | .done result => b.finish t (.ofResult result)
  | .panic message => b.finish t (.panicked (message.getD namelessPanic))
  | .abort => { b with aborted := true }
  | .note n next => run { b with notes := b.notes ++ [n] } t next
  | .sleep d next =>
    if d.nanoseconds = 0 then run b t next
    else (b.set t (.sleeping next)).setTimer t (b.now + d.nanoseconds)
  | .yield next => { b.set t (.ready next) with yielded := b.yielded ++ [t] }
  | .meet gate parties next =>
    match b.meet t gate parties with
    | (true, b) => run b t next
    | (false, b) => b.set t (.meeting next)
  | .register topic name h next =>
    let (added, b) := b.add topic name h
    run b t (next added)
  | .remove topic name next =>
    let (answer, b) := b.remove topic name
    run b t (next answer)
  | .names topic next => run b t (next (b.names topic))
  | .publish topic payload next =>
    match b.start topic payload b.timeout with
    | (.refused e, b) => run b t (next (.error e))
    | (.panicked message, b) => b.finish t (.panicked message)
    | (.waiting d, b) =>
      let (d, b) := b.settle d
      if d.pending.isEmpty then run b t (next (.ok d.report))
      else
        let waiting := b.set t (.publishing d next)
        match d.deadline with
        | some due => waiting.setTimer t due
        | none => waiting

/-- Goes on with a task that was woken. -/
def resume (b : Bus ν) (t : TaskId) : Bus ν :=
  match Dict.get? b.tasks t with
  | some (.fresh h e) => b.run t (h e)
  | some (.ready rest) => b.run t rest
  | some (.publishing d next) =>
    let (d, b) := b.settle d
    if d.pending.isEmpty then (b.clearTimers t).run t (next (.ok d.report))
    else b.set t (.publishing d next)
  | _ => b

end Bus

end Larder.Events
