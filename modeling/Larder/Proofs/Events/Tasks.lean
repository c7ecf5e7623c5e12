import Larder.Proofs.Dict
import Larder.Proofs.Events.Ways

/-!
What becomes of a task while others run.

A handler is called when its task is resumed for the first time.  Until then its task stays as it
was made or is stopped, and afterwards it is never made anew: whatever else happens on the bus
leaves it to itself (`Bus.Leaves`).  Which tasks are left to themselves is a condition on their
numbers, so that of all but the one that runs the same is said as of one.
-/

namespace Larder.Events

variable {ν : Type}

/-- The handler was not called yet. -/
def Activity.IsFresh : Activity ν → Prop
  | fresh _ _ => True
  | _ => False

/-- The handler waits, and this is what it has still to run. -/
def Activity.Rests (rest : Routine ν) : Activity ν → Prop
  | ready r => r = rest
  | sleeping r => r = rest
  | meeting r => r = rest
  | _ => False

/-- What can become of a task that is not run itself: it stays as it is, or is stopped, or what it
waited for has come. -/
inductive Shift : Option (Activity ν) → Option (Activity ν) → Prop where
  | same (a : Option (Activity ν)) : Shift a a
  | stopped (a : Option (Activity ν)) : Shift a none
  | moved {a : Activity ν} {rest : Routine ν}
    (h : a.Rests rest) : Shift (some a) (some (.ready rest))

namespace Shift

variable {a b c : Option (Activity ν)}

theorem trans (h : Shift a b) (h' : Shift b c) : Shift a c := by
  cases h with
  | same => exact h'
  | stopped => cases h' <;> exact .stopped _
  | moved h =>
    cases h' with
    | same => exact .moved h
    | stopped => exact .stopped _
    | moved hrest =>
      have hsame : _ = _ := hrest
      rw [← hsame]
      exact .moved h

/-- A handler that is still to be called was so before. -/
theorem fresh_before (h : Shift a b) {f : Handler ν} {e : Envelope} (hb : b = some (.fresh f e)) :
    a = some (.fresh f e) := by
  cases h with
  | same => exact hb
  | stopped => cases hb
  | moved _ => cases hb

/-- A task whose handler is still to be called has not ended. -/
theorem not_ended (h : Shift a b) (ha : ∀ x, a = some x → x.IsFresh) {x : Activity ν}
    (hb : b = some x) : x.IsFresh := by
  cases h with
  | same => exact ha x hb
  | stopped => cases hb
  | @moved a rest hrests =>
    have hfresh := ha a rfl
    cases a with
    | fresh f e => exact absurd hrests id
    | _ => exact absurd hfresh id

end Shift

namespace Bus

/-- Some of the tasks are left to themselves on the way from one state to another. -/
structure Leaves (P : TaskId → Prop) (b b' : Bus ν) : Prop where
  shift : ∀ u, P u → u < b.spawned → Shift (Dict.get? b.tasks u) (Dict.get? b'.tasks u)
  spawned : b.spawned ≤ b'.spawned

variable {P : TaskId → Prop} {t : TaskId} {b b' b'' : Bus ν}

theorem Leaves.refl (P : TaskId → Prop) (b : Bus ν) : Leaves P b b :=
  ⟨fun _ _ _ => .same _, Nat.le_refl _⟩

theorem Leaves.trans (h : Leaves P b b') (h' : Leaves P b' b'') : Leaves P b b'' where
  shift u hP hu := (h.shift u hP hu).trans (h'.shift u hP (Nat.lt_of_lt_of_le hu h.spawned))
  spawned := Nat.le_trans h.spawned h'.spawned

/-! ## The single steps -/

/-- Only the tasks and their number matter. -/
theorem leaves_of_eq (htasks : b'.tasks = b.tasks) (hspawned : b'.spawned = b.spawned) :
    Leaves P b b' :=
  ⟨fun _ _ _ => htasks ▸ .same _, Nat.le_of_eq hspawned.symm⟩

theorem get?_set (b : Bus ν) (t : TaskId) (a : Activity ν) (u : TaskId) :
    Dict.get? (b.set t a).tasks u = if u = t then some a else Dict.get? b.tasks u :=
  Dict.get?_insert _ _ _ _

theorem leaves_set (ht : ¬ P t) (b : Bus ν) (a : Activity ν) : Leaves P b (b.set t a) := by
  refine ⟨fun u hP _ => ?_, Nat.le_refl _⟩
  have hne : u ≠ t := fun hu => ht (hu ▸ hP)
  rw [get?_set, if_neg hne]
  exact .same _

theorem tasks_enqueue (b : Bus ν) (t : TaskId) : (b.enqueue t).tasks = b.tasks := by
  unfold enqueue
  split <;> rfl

theorem leaves_enqueue (P : TaskId → Prop) (b : Bus ν) (t : TaskId) : Leaves P b (b.enqueue t) := by
  refine leaves_of_eq (tasks_enqueue b t) ?_
  unfold enqueue
  split <;> rfl

theorem tasks_foldl_enqueue (ts : List TaskId) (b : Bus ν) :
    (ts.foldl enqueue b).tasks = b.tasks := by
  induction ts generalizing b with
  | nil => rfl
  | cons t rest ih => exact (ih (b.enqueue t)).trans (tasks_enqueue b t)

theorem get?_stop (b : Bus ν) (stopped : List TaskId) (u : TaskId) :
    Dict.get? (b.stop stopped).tasks u = if stopped.contains u then none
      else Dict.get? b.tasks u := by
  refine (Dict.get?_filter_key b.tasks (fun t => !stopped.contains t) u).trans ?_
  cases stopped.contains u <;> rfl

/-- Some of the tasks are gone, with all that was to come for them, and nothing else is. -/
structure Without (stopped : List TaskId) (b b' : Bus ν) : Prop where
  task : ∀ t, Dict.get? b'.tasks t = if t ∈ stopped then none else Dict.get? b.tasks t
  queue : b'.queue = b.queue.filter (· ∉ stopped)
  yielded : b'.yielded = b.yielded.filter (· ∉ stopped)
  timers : b'.timers = b.timers.filter (·.task ∉ stopped)
  frame : ∃ tasks queue yielded timers, b' = { b with tasks, queue, yielded, timers }

theorem without_stop (b : Bus ν) (stopped : List TaskId) : Without stopped b (b.stop stopped) := by
  have hkept : ∀ t : TaskId, (!stopped.contains t) = decide (t ∉ stopped) := by
    intro t
    rw [decide_not, List.contains_eq_mem]
  refine ⟨fun t => ?_, ?_, ?_, ?_, _, _, _, _, rfl⟩
  · rw [get?_stop]
    exact if_congr List.contains_iff_mem rfl rfl
  · exact List.filter_congr fun t _ => hkept t
  · exact List.filter_congr fun t _ => hkept t
  · exact List.filter_congr fun timer _ => hkept timer.task

theorem leaves_stop (P : TaskId → Prop) (b : Bus ν) (stopped : List TaskId) :
    Leaves P b (b.stop stopped) := by
  refine ⟨fun u _ _ => ?_, Nat.le_refl _⟩
  rw [get?_stop]
  split
  · exact .stopped _
  · exact .same _

theorem leaves_settle (P : TaskId → Prop) (b : Bus ν) (d : Dispatch) : Leaves P b (b.settle d).2 :=
  leaves_stop P b _

theorem leaves_wake (P : TaskId → Prop) (b : Bus ν) (t : TaskId) : Leaves P b (b.wake t) := by
  have hready : ∀ {rest : Routine ν} {a : Activity ν}, Dict.get? b.tasks t = some a → a.Rests rest →
      Leaves P b ((b.set t (.ready rest)).enqueue t) := by
    intro rest a ha hrests
    have hset : Leaves P b (b.set t (.ready rest)) := by
      refine ⟨fun u _ _ => ?_, Nat.le_refl _⟩
      rw [get?_set]
      split
      · next hu =>
        rw [hu, ha]
        exact .moved hrests
      · exact .same _
    exact hset.trans (leaves_enqueue P _ t)
  unfold wake
  split
  · next h => exact hready h rfl
  · next h => exact hready h rfl
  · exact leaves_enqueue P b t
  · exact .refl P b

theorem leaves_make (P : TaskId → Prop) (b : Bus ν) (h : Handler ν) (e : Envelope) :
    Leaves P b { b with
    tasks := Dict.insert b.tasks b.spawned (.fresh h e), queue := b.queue ++ [b.spawned],
      spawned := b.spawned + 1 } := by
  refine ⟨fun u _ hu => ?_, Nat.le_succ _⟩
  rw [Dict.get?_insert, if_neg (Nat.ne_of_lt hu)]
  exact .same _

theorem steps_leaves (P : TaskId → Prop) : Steps (@Leaves ν P) where
  trans := Leaves.trans
  frame _ _ htasks _ hspawned := leaves_of_eq htasks hspawned
  enqueue := leaves_enqueue P
  wake := leaves_wake P
  make := leaves_make P
  add _ _ _ _ := leaves_of_eq rfl rfl
  remove _ _ _ := leaves_of_eq rfl rfl

/-! ## Running a task -/

/-- What a task does leaves the others to themselves. -/
theorem along_leaves (ht : ¬ P t) : Along t (@Leaves ν P) :=
  { steps_leaves P with set := leaves_set ht, settle := fun _ => leaves_settle P _ _ }

theorem leaves_resume (ht : ¬ P t) (b : Bus ν) : Leaves P b (b.resume t) :=
  (along_leaves ht).resume (leaves_settle P) b

theorem spawned_le_resume (b : Bus ν) (t : TaskId) : b.spawned ≤ (b.resume t).spawned :=
  (leaves_resume (P := fun _ => False) id b).spawned

theorem leaves_pass? (P : TaskId → Prop) {limit : Option Nat} (h : b.pass? limit = some b') :
    Leaves P b b' :=
  (steps_leaves P).pass? (fun _ _ _ => leaves_of_eq rfl rfl) h

theorem Move.spawned_le {calls : List (Invocation ν)} (h : Move b calls b') :
    b.spawned ≤ b'.spawned := by
  cases h with
  | @turn _ t rest _ _ hturn => exact hturn.eq_resume ▸ spawned_le_resume { b with queue := rest } t
  | settle d => exact Nat.le_refl _
  | pass hpass => exact (leaves_pass? (fun _ => False) hpass).spawned

theorem Way.spawned_le {calls : List (Invocation ν)} (h : Way b calls b') :
    b.spawned ≤ b'.spawned :=
  h.along (R := fun b b' : Bus ν => b.spawned ≤ b'.spawned) (fun _ => Nat.le_refl _) Nat.le_trans
    Move.spawned_le

end Bus

end Larder.Events
