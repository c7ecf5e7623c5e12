import Mathlib.Data.DFinsupp.WellFounded
import Mathlib.SetTheory.Ordinal.Family
import Larder.Proofs.Events.Tasks

/-!
Handlers that end by themselves are brought on with every turn.

What is left of a handler's run goes down with each turn that its task gets, by a rank that is an
ordinal because a handler may go on in as many ways as there are answers.  A turn of a task that has
nothing to run takes it from the queue, so the ranks and then the length of what waits go down
together (`measure`).
-/

namespace Larder.Events

variable {ν : Type}

/-! ## Runs that end -/

namespace Routine

/-- The run ends by itself, whatever it is answered: it waits for no other run and does not end the
program. -/
def Ends : Routine ν → Prop
  | done _ => True
  | panic _ => True
  | abort => False
  | note _ next => next.Ends
  | sleep _ next => next.Ends
  | yield next => next.Ends
  | meet _ _ _ => False
  | register _ _ _ next => ∀ added, (next added).Ends
  | remove _ _ next => ∀ answer, (next answer).Ends
  | names _ next => ∀ names, (next names).Ends
  | publish _ _ _ => False

/-- How often a run that ends can still have to wait. -/
noncomputable def rank : Routine ν → Ordinal.{0}
  | note _ next => next.rank
  | sleep _ next => next.rank + 1
  | yield next => next.rank + 1
  | register _ _ _ next => ⨆ added, (next added).rank
  | remove _ _ next => ⨆ answer, (next answer).rank
  | names _ next => ⨆ names, (next names).rank
  | _ => 0

end Routine

/-- The rank of what a task has still to run. -/
noncomputable def Activity.rank : Activity ν → Ordinal.{0}
  | fresh h e => (h e).rank + 1
  | ready rest => rest.rank + 1
  | sleeping rest => rest.rank + 1
  | _ => 0

namespace Bus

/-! ## Tasks that will be run -/

/-- A task ends by itself, and unless it has ended it will be run: now, after the others, or at a
time. -/
def Waits (queue yielded : List TaskId) (timers : List Timer) (u : TaskId) : Activity ν → Prop
  | .fresh h e => (h e).Ends ∧ (u ∈ queue ∨ u ∈ yielded)
  | .ready rest => rest.Ends ∧ (u ∈ queue ∨ u ∈ yielded)
  | .sleeping rest => rest.Ends ∧ ∃ timer ∈ timers, timer.task = u
  | .ended _ => True
  | .meeting _ => False
  | .publishing _ _ => False

theorem Waits.mono {queue queue' yielded yielded' : List TaskId} {timers timers' : List Timer}
    {u : TaskId} {a : Activity ν} (h : Waits queue yielded timers u a)
    (hqueue : u ∈ queue ∨ u ∈ yielded → u ∈ queue' ∨ u ∈ yielded')
    (htimers : ∀ timer ∈ timers, timer.task = u → timer ∈ timers') :
    Waits queue' yielded' timers' u a := by
  cases a with
  | fresh | ready => exact ⟨h.1, hqueue h.2⟩
  | sleeping =>
    obtain ⟨hends, timer, hmem, htask⟩ := h
    exact ⟨hends, timer, htimers timer hmem htask, htask⟩
  | _ => exact h

/-- The program goes on, and some of the tasks will be run until they have ended. -/
structure Tame (P : TaskId → Prop) (b : Bus ν) : Prop where
  running : b.aborted = false
  known : ∀ u a, Dict.get? b.tasks u = some a → u < b.spawned
  waits : ∀ u, P u → ∀ a, Dict.get? b.tasks u = some a → Waits b.queue b.yielded b.timers u a

variable {t : TaskId} {b b' : Bus ν}

/-- What a run that ends makes of its task: it waits again, with a lower rank, or has ended. -/
structure Progressed (t : TaskId) (bound : Ordinal.{0}) (b b' : Bus ν) : Prop where
  tame : Tame (fun _ => True) b'
  others : ∀ u, u ≠ t → Dict.get? b'.tasks u = Dict.get? b.tasks u
  own : ∃ a, Dict.get? b'.tasks t = some a ∧ a.rank ≤ bound
  spawned : b'.spawned = b.spawned

/-- A task that was run is put where it waits. -/
theorem progressed_set (hb : Tame (· ≠ t) b) (ht : t < b.spawned) {a : Activity ν}
    {bound : Ordinal.{0}} (hrank : a.rank ≤ bound) {queue yielded : List TaskId}
    {timers : List Timer} (hqueue : ∀ u ∈ b.queue, u ∈ queue)
    (hyielded : ∀ u ∈ b.yielded, u ∈ yielded) (htimers : ∀ timer ∈ b.timers, timer ∈ timers)
    (ha : Waits queue yielded timers t a) :
    Progressed t bound b { b.set t a with queue, yielded, timers } := by
  have hget : ∀ u, Dict.get? (b.set t a).tasks u = if u = t then some a else Dict.get? b.tasks u :=
    get?_set b t a
  refine ⟨⟨hb.running, fun u x hx => ?_, fun u _ x hx => ?_⟩, fun u hne => ?_, ⟨a, ?_, hrank⟩, rfl⟩
  · change Dict.get? (b.set t a).tasks u = some x at hx
    rw [hget] at hx
    split at hx
    · next hu => exact hu ▸ ht
    · exact hb.known u x hx
  · change Dict.get? (b.set t a).tasks u = some x at hx
    rw [hget] at hx
    split at hx
    · next hu =>
      rw [hu, ← Option.some.inj hx]
      exact ha
    · next hu =>
      exact (hb.waits u hu x hx).mono (Or.imp (hqueue u) (hyielded u)) fun timer hmem _ =>
        htimers timer hmem
  · show Dict.get? (b.set t a).tasks u = _
    rw [hget, if_neg hne]
  · show Dict.get? (b.set t a).tasks t = _
    rw [hget, if_pos rfl]

theorem Progressed.mono {bound bound' : Ordinal.{0}} (h : Progressed t bound b b')
    (hle : bound ≤ bound') :
    Progressed t bound' b b' := by
  obtain ⟨a, ha, hrank⟩ := h.own
  exact ⟨h.tame, h.others, ⟨a, ha, hrank.trans hle⟩, h.spawned⟩

theorem foldl_enqueue_eq (ts : List TaskId) (b : Bus ν) :
    ∃ queue, ts.foldl enqueue b = { b with queue } ∧ ∀ u ∈ b.queue, u ∈ queue := by
  induction ts generalizing b with
  | nil => exact ⟨b.queue, rfl, fun _ hu => hu⟩
  | cons t rest ih =>
    obtain ⟨queue, heq, hqueue⟩ := ih (b.enqueue t)
    have henqueue : ∃ longer, b.enqueue t = { b with
        queue := longer } ∧ ∀ u ∈ b.queue, u ∈ longer := by
      unfold enqueue
      split
      · exact ⟨b.queue, rfl, fun _ hu => hu⟩
      · exact ⟨b.queue ++ [t], rfl, fun _ hu => List.mem_append_left _ hu⟩
    obtain ⟨longer, hlonger, hmem⟩ := henqueue
    rw [hlonger] at heq hqueue
    rw [List.foldl_cons, hlonger]
    exact ⟨queue, heq, fun u hu => hqueue u (hmem u hu)⟩

theorem progressed_finish (hb : Tame (· ≠ t) b) (ht : t < b.spawned) (status : Status) :
    Progressed t 0 b (b.finish t status) := by
  obtain ⟨queue, heq, hqueue⟩ := foldl_enqueue_eq (b.waitingFor t) (b.set t (.ended status))
  rw [finish, heq]
  exact progressed_set (a := .ended status) hb ht (le_refl 0) hqueue (fun _ h => h)
    (fun _ h => h) trivial

/-- What is left of a run gets less, and the other tasks wait as before. -/
theorem progressed_run (r : Routine ν) (hr : r.Ends) (b : Bus ν) (hb : Tame (· ≠ t) b)
    (ht : t < b.spawned) :
    Progressed t r.rank b (b.run t r) := by
  induction r generalizing b with
  | done result => exact progressed_finish hb ht _
  | panic message => exact progressed_finish hb ht _
  | abort => exact absurd hr id
  | note n next ih =>
    have h := ih hr { b with notes := b.notes ++ [n] } ⟨hb.running, hb.known, hb.waits⟩ ht
    exact ⟨h.tame, h.others, h.own, h.spawned⟩
  | sleep d next ih =>
    rw [run]
    split
    · exact (ih hr b hb ht).mono le_self_add
    · refine progressed_set (a := .sleeping next) hb ht (le_refl _) (fun _ h => h) (fun _ h => h)
        (fun _ h => List.mem_append_left _ h) ⟨hr, ⟨b.now + d.nanoseconds, t⟩, ?_, rfl⟩
      exact List.mem_append_right _ (List.mem_singleton_self _)
  | yield next ih =>
    refine progressed_set (a := .ready next) hb ht (le_refl _) (fun _ h => h)
      (fun _ h => List.mem_append_left _ h) (fun _ h => h) ⟨hr, Or.inr ?_⟩
    exact List.mem_append_right _ (List.mem_singleton_self _)
  | meet gate parties next ih => exact absurd hr id
  | register topic name f next _ ih =>
    have h :=
      ih _ (hr (b.add topic name f).1) (b.add topic name f).2 ⟨hb.running, hb.known, hb.waits⟩ ht
    have hle := Ordinal.le_iSup (fun added => (next added).rank) (b.add topic name f).1
    exact Progressed.mono ⟨h.tame, h.others, h.own, h.spawned⟩ hle
  | remove topic name next ih =>
    have h :=
      ih _ (hr (b.remove topic name).1) (b.remove topic name).2 ⟨hb.running, hb.known, hb.waits⟩ ht
    have hle := Ordinal.le_iSup (fun answer => (next answer).rank) (b.remove topic name).1
    exact Progressed.mono ⟨h.tame, h.others, h.own, h.spawned⟩ hle
  | names topic next ih =>
    have hle := Ordinal.le_iSup (fun names => (next names).rank) (b.names topic)
    exact (ih _ (hr _) b hb ht).mono hle
  | publish topic payload next ih => exact absurd hr id

/-! ## What gets less -/

/-- The rank of what a task has still to run, none if the task is not known. -/
noncomputable def rankAt (b : Bus ν) (u : TaskId) : Ordinal.{0} :=
  match Dict.get? b.tasks u with
  | some a => a.rank
  | none => 0

/-- What waits in the queue, and twice what is still to come there. -/
def load (b : Bus ν) : Nat := 2 * (b.timers.length + b.yielded.length) + b.queue.length

/-- What is left to run of the first tasks, and then how much waits. -/
noncomputable def measure (n : Nat) (b : Bus ν) : (Fin n → Ordinal.{0}) ×ₗ Nat :=
  toLex (fun u => b.rankAt u, b.load)

theorem measure_lt_of_rank {n : Nat} (ht : t < n) (hothers : ∀ u, u ≠ t → b'.rankAt u = b.rankAt u)
    (hlt : b'.rankAt t < b.rankAt t) : b'.measure n < b.measure n := by
  refine Prod.Lex.lt_iff.2 (Or.inl (Pi.lt_def.2 ⟨fun u => ?_, ⟨t, ht⟩, hlt⟩))
  by_cases hu : (u : TaskId) = t
  · show b'.rankAt u ≤ b.rankAt u
    rw [hu]
    exact hlt.le
  · exact (hothers u hu).le

theorem measure_lt_of_load (n : Nat) (hranks : ∀ u, b'.rankAt u = b.rankAt u)
    (hload : b'.load < b.load) :
    b'.measure n < b.measure n :=
  Prod.Lex.lt_iff.2 (Or.inr ⟨funext fun u => hranks u, hload⟩)

/-- The step keeps all tasks and goes on. -/
structure Onward (b b' : Bus ν) : Prop where
  tame : Tame (fun _ => True) b'
  spawned : b'.spawned = b.spawned
  kept : ∀ u, (Dict.get? b.tasks u).isSome → (Dict.get? b'.tasks u).isSome

theorem Onward.trans {b'' : Bus ν} (h : Onward b b') (h' : Onward b' b'') : Onward b b'' :=
  ⟨h'.tame, h'.spawned.trans h.spawned, fun u hu => h'.kept u (h.kept u hu)⟩

theorem Progressed.rankAt_lt {bound : Ordinal.{0}} {a : Activity ν} (h : Progressed t bound b b')
    (ha : Dict.get? b.tasks t = some a) (hlt : bound < a.rank) : b'.rankAt t < b.rankAt t := by
  obtain ⟨a', ha', hle⟩ := h.own
  unfold rankAt
  rw [ha, ha']
  exact hle.trans_lt hlt

theorem Progressed.rankAt_of_ne {bound : Ordinal.{0}} (h : Progressed t bound b b') {u : TaskId}
    (hu : u ≠ t) :
    b'.rankAt u = b.rankAt u := by
  unfold rankAt
  rw [h.others u hu]

theorem Progressed.onward {bound : Ordinal.{0}} (h : Progressed t bound b b') : Onward b b' := by
  refine ⟨h.tame, h.spawned, fun u hu => ?_⟩
  by_cases hne : u = t
  · obtain ⟨a, ha, -⟩ := h.own
    rw [hne, ha]
    rfl
  · rw [h.others u hne]
    exact hu

/-! ## A turn of a task -/

theorem Tame.pop (hb : Tame (fun _ => True) b) {rest : List TaskId} (hqueue : b.queue = t :: rest) :
    Tame (· ≠ t) { b with queue := rest } := by
  refine ⟨hb.running, hb.known,
    fun u hu a ha => (hb.waits u trivial a ha).mono (Or.imp_left fun hmem => ?_) fun _ h _ => h⟩
  rw [hqueue] at hmem
  exact (List.mem_cons.1 hmem).resolve_left hu

/-- A task in the queue that has nothing to run is passed over. -/
theorem passed_over (hb : Tame (fun _ => True) b) {rest : List TaskId}
    (hqueue : b.queue = t :: rest) (n : Nat)
    (hidle : ∀ a, Dict.get? b.tasks t = some a → Waits rest b.yielded b.timers t a) :
    Onward b { b with queue := rest } ∧ measure n { b with queue := rest } < b.measure n := by
  refine ⟨⟨⟨hb.running, hb.known, fun u _ a ha => ?_⟩, rfl, fun _ h => h⟩,
    measure_lt_of_load _ (fun _ => rfl) ?_⟩
  · by_cases hu : u = t
    · subst hu
      exact hidle a ha
    · exact (hb.pop hqueue).waits u hu a ha
  · show 2 * (b.timers.length + b.yielded.length) + rest.length < b.load
    rw [load, hqueue, List.length_cons]
    omega

/-- Each turn of a task brings the bus on. -/
theorem onward_resume (hb : Tame (fun _ => True) b) {rest : List TaskId}
    (hqueue : b.queue = t :: rest) {n : Nat} (hn : b.spawned = n) :
    Onward b (resume { b with queue := rest } t) ∧
      (resume { b with queue := rest } t).measure n < b.measure n := by
  have hrun : ∀ (a : Activity ν) (r : Routine ν), Dict.get? b.tasks t = some a → r.Ends →
      r.rank < a.rank → Onward b (run { b with queue := rest } t r) ∧
        (run { b with queue := rest } t r).measure n < b.measure n := by
    intro a r ha hends hlt
    have ht := hb.known t a ha
    have h := progressed_run r hends _ (hb.pop hqueue) ht
    exact ⟨⟨h.tame, h.spawned, h.onward.kept⟩,
      measure_lt_of_rank (hn ▸ ht) (fun _ hu => h.rankAt_of_ne hu) (h.rankAt_lt ha hlt)⟩
  unfold resume
  show Onward b (match Dict.get? b.tasks t with | _ => _) ∧
      measure _ (match Dict.get? b.tasks t with | _ => _) < _
  cases ha : Dict.get? b.tasks t with
  | none => exact passed_over hb hqueue n fun a h => by rw [ha] at h; cases h
  | some a =>
    have hwaits := hb.waits t trivial a ha
    cases a with
    | fresh h e => exact hrun _ _ ha hwaits.1 (lt_add_one _)
    | ready r => exact hrun _ _ ha hwaits.1 (lt_add_one _)
    | sleeping r | ended status =>
      refine passed_over hb hqueue n fun a h => ?_
      rw [ha] at h
      rw [← Option.some.inj h]
      exact hwaits
    | meeting r | publishing d next => exact absurd hwaits id

end Bus

end Larder.Events
