import Larder.Events.Publish

/-!
The steps that runs are made of.

A relation between states that each kind of step keeps, and that can be followed from state to
state, is kept by whole runs of handlers (`Along.run`).  What a run does to the registry, to the
other tasks and to the queue is each said by such a relation.
-/

namespace Larder.Events.Bus

variable {ν : Type} {R : Bus ν → Bus ν → Prop}

/-- The steps that any task can make on the bus lead to a related state. -/
structure Steps (R : Bus ν → Bus ν → Prop) : Prop where
  trans : ∀ {b b' b'' : Bus ν}, R b b' → R b' b'' → R b b''
  /-- Clock, timers, gates and notes do not matter, nor which tasks have yielded. -/
  frame : ∀ {b b' : Bus ν}, b'.registry = b.registry → b'.timeout = b.timeout → b'.tasks = b.tasks →
    b'.queue = b.queue → b'.spawned = b.spawned → R b b'
  enqueue : ∀ (b : Bus ν) (u : TaskId), R b (b.enqueue u)
  wake : ∀ (b : Bus ν) (u : TaskId), R b (b.wake u)
  /-- A handler gets a task. -/
  make : ∀ (b : Bus ν) (h : Handler ν) (e : Envelope), R b { b with
    tasks := Dict.insert b.tasks b.spawned (.fresh h e), queue := b.queue ++ [b.spawned],
      spawned := b.spawned + 1 }
  add : ∀ (b : Bus ν) (topic name : String) (h : Handler ν), R b (b.add topic name h).2
  remove : ∀ (b : Bus ν) (topic name : String), R b (b.remove topic name).2

namespace Steps

variable (hR : Steps R)
include hR

theorem refl (b : Bus ν) : R b b := hR.frame rfl rfl rfl rfl rfl

theorem of_frame {b b' b'' : Bus ν} (h : R b' b'') (hregistry : b'.registry = b.registry)
    (htimeout : b'.timeout = b.timeout) (htasks : b'.tasks = b.tasks) (hqueue : b'.queue = b.queue)
    (hspawned : b'.spawned = b.spawned) : R b b'' :=
  hR.trans (hR.frame hregistry htimeout htasks hqueue hspawned) h

theorem foldl {β : Type} {step : Bus ν → β → Bus ν} (h : ∀ b x, R b (step b x)) (xs : List β)
    (b : Bus ν) :
    R b (xs.foldl step b) := by
  induction xs generalizing b with
  | nil => exact hR.refl b
  | cons x rest ih => exact hR.trans (h b x) (ih (step b x))

theorem meet (b : Bus ν) (t : TaskId) (gate : String) (parties : Nat) :
    R b (b.meet t gate parties).2 := by
  unfold Bus.meet
  dsimp only
  split
  · exact hR.of_frame (hR.foldl hR.wake _ _) rfl rfl rfl rfl rfl
  · exact hR.frame rfl rfl rfl rfl rfl

theorem spawn (e : Envelope) (handlers : Dict String (Handler ν)) (b : Bus ν) :
    R b (spawn b e handlers).2 := by
  induction handlers generalizing b with
  | nil => exact hR.refl b
  | cons handler rest ih => exact hR.trans (hR.make b handler.2 e) (ih _)

theorem start (b : Bus ν) (topic : String) (payload : Json.Value) (timeout : Option Duration) :
    R b (b.start topic payload timeout).2 := by
  have hspawn : ∀ (e : Envelope) (handlers : Dict String (Handler ν)),
      R b (Bus.spawn { b with published := b.published + 1 } e handlers).2 :=
    fun e handlers => hR.of_frame (hR.spawn e handlers _) rfl rfl rfl rfl rfl
  unfold Bus.start
  split
  · exact hR.refl b
  · dsimp only
    split
    · exact hspawn _ _
    · split <;> exact hspawn _ _

theorem advanceTo (b : Bus ν) (time : Nat) : R b (b.advanceTo time) :=
  hR.of_frame (hR.foldl (fun b (timer : Timer) => hR.wake b timer.task) _ _) rfl rfl rfl rfl rfl

/-- Time that passes leads to a related state, if the queue does not matter either. -/
theorem pass? (hqueue : ∀ (b : Bus ν) (queue yielded : List TaskId), R b { b with queue, yielded })
    {b b' : Bus ν} {limit : Option Nat} (h : b.pass? limit = some b') : R b b' := by
  unfold Bus.pass? at h
  split at h
  · obtain ⟨time, -, rfl⟩ := Option.map_eq_some_iff.1 h
    exact hR.advanceTo b time
  · rw [← Option.some.inj h]
    exact hqueue b b.yielded []

end Steps

/-- So do the steps of one task, which change where it stands. -/
structure Along (t : TaskId) (R : Bus ν → Bus ν → Prop) : Prop extends Steps R where
  set : ∀ (b : Bus ν) (a : Activity ν), R b (b.set t a)
  settle : ∀ {b b' : Bus ν} {topic : String} {payload : Json.Value} {d : Dispatch},
    b.start topic payload b.timeout = (.waiting d, b') → R b' (b'.settle d).2

namespace Along

variable {t : TaskId} (hR : Along t R)
include hR

theorem finish (b : Bus ν) (status : Status) : R b (b.finish t status) :=
  hR.trans (hR.set b (.ended status)) (hR.foldl hR.enqueue _ _)

/-- A run leads to a related state. -/
theorem run (r : Routine ν) (b : Bus ν) : R b (b.run t r) := by
  induction r generalizing b with
  | done result => exact hR.finish b _
  | panic message => exact hR.finish b _
  | abort => exact hR.frame rfl rfl rfl rfl rfl
  | note n next ih => exact hR.of_frame (ih { b with notes := b.notes ++ [n] }) rfl rfl rfl rfl rfl
  | sleep d next ih =>
    rw [Bus.run]
    split
    · exact ih b
    · exact hR.trans (hR.set b (.sleeping next)) (hR.frame rfl rfl rfl rfl rfl)
  | yield next ih => exact hR.trans (hR.set b (.ready next)) (hR.frame rfl rfl rfl rfl rfl)
  | meet gate parties next ih =>
    have hmeet := hR.meet b t gate parties
    rw [Bus.run]
    generalize b.meet t gate parties = met at hmeet
    obtain ⟨opened, b'⟩ := met
    cases opened with
    | true => exact hR.trans hmeet (ih b')
    | false => exact hR.trans hmeet (hR.set b' (.meeting next))
  | register topic name f next _ ih => exact hR.trans (hR.add b topic name f) (ih _ _)
  | remove topic name next ih => exact hR.trans (hR.remove b topic name) (ih _ _)
  | names topic next ih => exact ih _ b
  | publish topic payload next ih =>
    have hstart := hR.start b topic payload b.timeout
    rw [Bus.run]
    generalize hstarted : b.start topic payload b.timeout = started at hstart
    obtain ⟨outcome, b'⟩ := started
    cases outcome with
    | refused e => exact hR.trans hstart (ih _ b')
    | panicked message => exact hR.trans hstart (hR.finish b' _)
    | waiting d =>
      have hsettle := hR.trans hstart (hR.settle hstarted)
      dsimp only
      generalize b'.settle d = settled at hsettle
      obtain ⟨d', b''⟩ := settled
      have hwaiting : R b (b''.set t (.publishing d' next)) := hR.trans hsettle (hR.set b'' _)
      dsimp only
      split
      · exact hR.trans hsettle (ih _ b'')
      · split
        · exact hR.trans hwaiting (hR.frame rfl rfl rfl rfl rfl)
        · exact hwaiting

/-- A turn of the task leads to a related state, if every look at a publish does. -/
theorem resume (hsettle : ∀ (b : Bus ν) (d : Dispatch), R b (b.settle d).2) (b : Bus ν) :
    R b (b.resume t) := by
  unfold Bus.resume
  split
  · exact hR.run _ b
  · exact hR.run _ b
  · next d next _ =>
    have hsettled := hsettle b d
    generalize b.settle d = settled at hsettled
    obtain ⟨d', b'⟩ := settled
    dsimp only
    split
    · have hcleared : R b' (b'.clearTimers t) := hR.frame rfl rfl rfl rfl rfl
      exact hR.trans hsettled (hR.trans hcleared (hR.run _ _))
    · exact hR.trans hsettled (hR.set b' _)
  · exact hR.refl b

end Along

end Larder.Events.Bus
