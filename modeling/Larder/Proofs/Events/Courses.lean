import Larder.Proofs.Events.Reports
import Larder.Proofs.Events.Tasks

/-!
What a task runs is the run of its handler.

A task is only ever given what is left of the run that it began with (`Runs`), so it ends as that
run can end (`Runs.comes`).
-/

namespace Larder.Events

variable {ν : Type}

namespace Routine

/-- What can be left of a run, with answers of any kind to what it asked for. -/
inductive Leads (r : Routine ν) : Routine ν → Prop where
  | start : Leads r r
  | note {n : ν} {next : Routine ν} (h : Leads r (.note n next)) : Leads r next
  | sleep {d : Duration} {next : Routine ν} (h : Leads r (.sleep d next)) : Leads r next
  | yield {next : Routine ν} (h : Leads r (.yield next)) : Leads r next
  | meet {gate : String} {parties : Nat} {next : Routine ν}
    (h : Leads r (.meet gate parties next)) : Leads r next
  | register {topic name : String} {f : Handler ν} {next : Bool → Routine ν}
    (h : Leads r (.register topic name f next)) (added : Bool) : Leads r (next added)
  | remove {topic name : String} {next : Answer Unit → Routine ν}
    (h : Leads r (.remove topic name next)) (answer : Answer Unit) : Leads r (next answer)
  | names {topic : String} {next : List String → Routine ν} (h : Leads r (.names topic next))
    (names : List String) :
    Leads r (next names)
  | publish {topic : String} {payload : Json.Value} {next : Answer Report → Routine ν}
    (h : Leads r (.publish topic payload next)) (answer : Answer Report) : Leads r (next answer)

/-- How a run can end: with its result, in its panic, or in the panic of a publish that has its
deadline too late. -/
inductive Comes (r : Routine ν) : Status → Prop where
  | done {result : Answer Unit} (h : Leads r (.done result)) : Comes r (.ofResult result)
  | panic {message : Option String}
    (h : Leads r (.panic message)) : Comes r (.panicked (message.getD namelessPanic))
  | overdue {topic : String} {payload : Json.Value} {next : Answer Report → Routine ν}
    (h : Leads r (.publish topic payload next)) : Comes r (.panicked deadlinePanic)

theorem Comes.ne_timedOut {r : Routine ν} {status : Status} (h : r.Comes status) :
    status ≠ .timedOut := by
  cases h with
  | @done result _ => cases result <;> exact fun h => by cases h
  | panic => exact fun h => by cases h
  | overdue => exact fun h => by cases h

end Routine

open Routine (Leads Comes)

/-- What a task stands at is left of a run. -/
def Activity.Of (r : Routine ν) : Activity ν → Prop
  | fresh h e => h e = r
  | ready rest => Leads r rest
  | sleeping rest => Leads r rest
  | meeting rest => Leads r rest
  | publishing _ next => ∀ answer, Leads r (next answer)
  | ended status => Comes r status

namespace Bus

/-- A task runs nothing but what is left of a run. -/
def Runs (t : TaskId) (r : Routine ν) (b : Bus ν) : Prop :=
  ∀ a, Dict.get? b.tasks t = some a → a.Of r

variable {t u : TaskId} {r : Routine ν} {b b' : Bus ν}

theorem Runs.of_leaves (h : Runs t r b) (ht : t < b.spawned) (hleaves : Leaves (· = t) b b') :
    Runs t r b' := by
  intro a ha
  have hshift := hleaves.shift t rfl ht
  rw [ha] at hshift
  generalize hbefore : Dict.get? b.tasks t = before at hshift
  cases hshift with
  | same => exact h a hbefore
  | @moved x rest hrests =>
    have hof := h x hbefore
    cases x with
    | ready r' | sleeping r' | meeting r' =>
      have hsame : r' = rest := hrests
      exact hsame ▸ hof
    | _ => exact absurd hrests id

/-- The handler of a task was called, and the task is known and stands at what is left of a run. -/
def Stands (t : TaskId) (r : Routine ν) (b : Bus ν) : Prop :=
  ∃ a, Dict.get? b.tasks t = some a ∧ ¬ a.IsFresh ∧ a.Of r

theorem stands_set (b : Bus ν) {a : Activity ν} (hfresh : ¬ a.IsFresh) (ha : a.Of r) :
    Stands t r (b.set t a) :=
  ⟨a, Dict.get?_insert_self _ _ _, hfresh, ha⟩

theorem stands_finish (b : Bus ν) {status : Status} (h : Comes r status) :
    Stands t r (b.finish t status) := by
  obtain ⟨a, ha, hof⟩ := stands_set (t := t) b (a := .ended status) id h
  refine ⟨a, ?_, hof⟩
  rw [finish, tasks_foldl_enqueue]
  exact ha

theorem Stands.runs (h : Stands t r b) : Runs t r b := by
  obtain ⟨a, ha, -, hof⟩ := h
  intro a' ha'
  rw [ha] at ha'
  rwa [← Option.some.inj ha']

theorem Stands.not_fresh (h : Stands t r b) {a : Activity ν} (ha : Dict.get? b.tasks t = some a) :
    ¬ a.IsFresh := by
  obtain ⟨a', ha', hfresh, -⟩ := h
  rw [ha'] at ha
  rwa [← Option.some.inj ha]

/-- What a turn makes of the task whose turn it is, unless it ends the program. -/
def Took (t : TaskId) (r : Routine ν) (b b' : Bus ν) : Prop :=
  b'.aborted = true ∧ Leaves (· = t) b b' ∨ Stands t r b'

theorem Took.after {b'' : Bus ν} (h : Took t r b' b'') (hleaves : Leaves (· = t) b b') :
    Took t r b b'' :=
  h.imp_left fun ⟨haborted, hrest⟩ => ⟨haborted, hleaves.trans hrest⟩

theorem took_run (rest : Routine ν) (hrest : Leads r rest) (b : Bus ν) :
    Took t r b (b.run t rest) := by
  induction rest generalizing b with
  | done result => exact Or.inr (stands_finish b (.done hrest))
  | panic message => exact Or.inr (stands_finish b (.panic hrest))
  | abort => exact Or.inl ⟨rfl, leaves_of_eq rfl rfl⟩
  | note n next ih =>
    exact (ih hrest.note { b with notes := b.notes ++ [n] }).after (leaves_of_eq rfl rfl)
  | sleep d next ih =>
    rw [run]
    split
    · exact ih hrest.sleep b
    · exact Or.inr (stands_set b (a := .sleeping next) id hrest.sleep)
  | yield next ih => exact Or.inr (stands_set b (a := .ready next) id hrest.yield)
  | meet gate parties next ih =>
    have hmeet := (steps_leaves (· = t)).meet b t gate parties
    rw [run]
    generalize b.meet t gate parties = met at hmeet
    obtain ⟨opened, b'⟩ := met
    cases opened with
    | true => exact (ih hrest.meet b').after hmeet
    | false => exact Or.inr (stands_set b' (a := .meeting next) id hrest.meet)
  | register topic name f next _ ih =>
    exact (ih _ (hrest.register _) (b.add topic name f).2).after (leaves_of_eq rfl rfl)
  | remove topic name next ih =>
    exact (ih _ (hrest.remove _) (b.remove topic name).2).after (leaves_of_eq rfl rfl)
  | names topic next ih => exact ih _ (hrest.names _) b
  | publish topic payload next ih =>
    have hstart := (steps_leaves (· = t)).start b topic payload b.timeout
    have hpanic : ∀ message, (b.start topic payload b.timeout).1 = .panicked message →
        message = deadlinePanic :=
      fun message => message_of_start
    rw [run]
    generalize b.start topic payload b.timeout = started at hstart hpanic
    obtain ⟨outcome, b'⟩ := started
    cases outcome with
    | refused e => exact (ih _ (hrest.publish _) b').after hstart
    | panicked message =>
      rw [hpanic message rfl]
      exact Or.inr (stands_finish b' (.overdue hrest))
    | waiting d =>
      have hsettle := hstart.trans (leaves_settle (· = t) b' d)
      dsimp only
      generalize b'.settle d = settled at hsettle
      obtain ⟨d', b''⟩ := settled
      have hwaiting : Stands t r (b''.set t (.publishing d' next)) :=
        stands_set b'' (a := .publishing d' next) id hrest.publish
      dsimp only
      split
      · exact (ih _ (hrest.publish _) b'').after hsettle
      · split <;> exact Or.inr hwaiting

theorem Runs.took (h : Runs t r b) (ht : t < b.spawned) (htook : Took t r b b') : Runs t r b' := by
  rcases htook with ⟨-, hleaves⟩ | hstands
  · exact h.of_leaves ht hleaves
  · exact hstands.runs

/-- A turn of the task runs nothing but what is left of the run. -/
theorem Turn.took {calls : List (Invocation ν)} (h : Turn t b calls b') (hruns : Runs t r b) :
    b' = b ∨ Took t r b b' := by
  cases h with
  | @call f e h =>
    have hof : f e = r := hruns _ h
    exact Or.inr (took_run _ (hof ▸ .start) b)
  | goOn h => exact Or.inr (took_run _ (hruns _ h) b)
  | @told b' d d' next h hsettle =>
    have hleaves := leaves_settle (· = t) b d
    rw [hsettle] at hleaves
    have hcleared : Leaves (· = t) b (b'.clearTimers t) := hleaves.trans (leaves_of_eq rfl rfl)
    have hnext : ∀ answer, Leads r (next answer) := hruns _ h
    exact Or.inr ((took_run _ (hnext _) _).after hcleared)
  | @waits b' d d' next h =>
    have hnext : ∀ answer, Leads r (next answer) := hruns _ h
    exact Or.inr (Or.inr (stands_set b' (a := .publishing d' next) id hnext))
  | idle => exact Or.inl rfl

theorem Runs.move {calls : List (Invocation ν)} (h : Runs t r b) (ht : t < b.spawned)
    (hmove : Move b calls b') : Runs t r b' := by
  cases hmove with
  | @turn _ u rest _ _ hturn =>
    have hnow : Runs t r { b with queue := rest } := h
    by_cases hne : t = u
    · subst hne
      rcases hturn.took hnow with rfl | htook
      · exact hnow
      · exact hnow.took ht htook
    · rw [hturn.eq_resume]
      exact hnow.of_leaves ht (leaves_resume (P := (· = t)) (fun hu => hne hu.symm) _)
  | settle d => exact h.of_leaves ht (leaves_settle _ b d)
  | pass hpass => exact h.of_leaves ht (leaves_pass? _ hpass)

theorem Runs.way {calls : List (Invocation ν)} (h : Runs t r b) (ht : t < b.spawned)
    (hway : Way b calls b') : Runs t r b' := by
  induction hway with
  | refl => exact h
  | move _ hmove _ ih => exact ih (h.move ht hmove) (Nat.lt_of_lt_of_le ht hmove.spawned_le)

theorem Runs.comes (h : Runs t r b) {status : Status} (hstatus : b.statusOf t = some status) :
    Comes r status := by
  unfold statusOf at hstatus
  split at hstatus
  · next status' ha =>
    rw [← Option.some.inj hstatus]
    exact h _ ha
  · cases hstatus

end Bus

end Larder.Events
