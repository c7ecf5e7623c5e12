import Larder.Proofs.Events.Courses
import Larder.Proofs.Events.Publishing

/-!
Handlers are called in turn.

The queue only grows at its end, and without deadlines no task is stopped, so a task that waits in
the queue to be run for the first time keeps its place whatever those before it do (`Keeps`).  Hence
a handler that ends the program is reached, unless one before it has ended the program already.
-/

namespace Larder.Events.Bus

variable {ν : Type} {t u : TaskId} {b b' b'' : Bus ν}

/-- The handler of a task is still to be called. -/
def Fresh (t : TaskId) (b : Bus ν) : Prop :=
  t < b.spawned ∧ ∃ f e, Dict.get? b.tasks t = some (.fresh f e)

/-- The task of a handler that is still to be called keeps its place. -/
structure Keeps (t : TaskId) (b b' : Bus ν) : Prop where
  timeout : b'.timeout = b.timeout
  spawned : b.spawned ≤ b'.spawned
  task : Fresh t b → Dict.get? b'.tasks t = Dict.get? b.tasks t
  queue : ∃ more, b'.queue = b.queue ++ more

theorem Keeps.of_same (htimeout : b'.timeout = b.timeout) (hspawned : b'.spawned = b.spawned)
    (htasks : b'.tasks = b.tasks) (hqueue : b'.queue = b.queue) : Keeps t b b' :=
  ⟨htimeout, Nat.le_of_eq hspawned.symm, fun _ => by
    rw [htasks], ⟨[], by rw [hqueue, List.append_nil]⟩⟩

theorem Keeps.fresh (h : Keeps t b b') (hfresh : Fresh t b) : Fresh t b' := by
  have htask := h.task hfresh
  obtain ⟨hlt, f, e, hget⟩ := hfresh
  exact ⟨Nat.lt_of_lt_of_le hlt h.spawned, f, e, htask.trans hget⟩

theorem Keeps.trans (h : Keeps t b b') (h' : Keeps t b' b'') : Keeps t b b'' where
  timeout := h'.timeout.trans h.timeout
  spawned := Nat.le_trans h.spawned h'.spawned
  task hfresh := (h'.task (h.fresh hfresh)).trans (h.task hfresh)
  queue := by
    obtain ⟨more, hmore⟩ := h.queue
    obtain ⟨further, hfurther⟩ := h'.queue
    exact ⟨more ++ further, by rw [hfurther, hmore, List.append_assoc]⟩

/-! ## The single steps -/

theorem keeps_enqueue (b : Bus ν) (u : TaskId) : Keeps t b (b.enqueue u) := by
  unfold enqueue
  split
  · exact .of_same rfl rfl rfl rfl
  · exact ⟨rfl, Nat.le_refl _, fun _ => rfl, ⟨[u], rfl⟩⟩

theorem keeps_set (hne : t ≠ u) (b : Bus ν) (a : Activity ν) : Keeps t b (b.set u a) := by
  refine ⟨rfl, Nat.le_refl _, fun _ => ?_, ⟨[], (List.append_nil _).symm⟩⟩
  rw [get?_set, if_neg hne]

theorem keeps_wake (b : Bus ν) (u : TaskId) : Keeps t b (b.wake u) := by
  have hready : ∀ {rest : Routine ν} {a : Activity ν}, Dict.get? b.tasks u = some a → ¬ a.IsFresh →
      Keeps t b ((b.set u (.ready rest)).enqueue u) := by
    intro rest a ha hawake
    have hset : Keeps t b (b.set u (.ready rest)) := by
      refine ⟨rfl, Nat.le_refl _, fun ⟨_, f, e, hget⟩ => ?_, ⟨[], (List.append_nil _).symm⟩⟩
      rw [get?_set, if_neg]
      intro htu
      rw [htu, ha] at hget
      rw [Option.some.inj hget] at hawake
      exact hawake trivial
    exact hset.trans (keeps_enqueue _ u)
  unfold wake
  split
  · next h => exact hready h id
  · next h => exact hready h id
  · exact keeps_enqueue b u
  · exact .of_same rfl rfl rfl rfl

theorem keeps_make (b : Bus ν) (h : Handler ν) (e : Envelope) : Keeps t b { b with
    tasks := Dict.insert b.tasks b.spawned (.fresh h e), queue := b.queue ++ [b.spawned],
      spawned := b.spawned + 1 } := by
  refine ⟨rfl, Nat.le_succ _, fun hfresh => ?_, ⟨[b.spawned], rfl⟩⟩
  rw [Dict.get?_insert, if_neg (Nat.ne_of_lt hfresh.1)]

theorem steps_keeps (t : TaskId) : Steps (@Keeps ν t) where
  trans := Keeps.trans
  frame _ htimeout htasks hqueue hspawned := .of_same htimeout hspawned htasks hqueue
  enqueue := keeps_enqueue
  wake := keeps_wake
  make := keeps_make
  add _ _ _ _ := .of_same rfl rfl rfl rfl
  remove _ _ _ := .of_same rfl rfl rfl rfl

/-- Without a timeout no handler is stopped. -/
theorem settle_of_no_timeout {topic : String} {payload : Json.Value} {d : Dispatch}
    (h : b.start topic payload none = (.waiting d, b')) : ∃ d', b'.settle d = (d', b') := by
  have hdeadline : d.deadline = none := by
    by_cases hnil : b.registry.handlers topic = []
    · rw [start_of_nil hnil] at h
      cases h
    · rw [start_of_ne_nil hnil] at h
      rw [← Start.waiting.inj (Prod.mk.inj h).1]
  have hlate : ¬ Dispatch.isOver d.deadline b'.now = true := by
    rw [hdeadline]
    exact Bool.false_ne_true
  obtain ⟨d', hsettle, -⟩ := settle_of_not_late hlate
  exact ⟨d', hsettle⟩

/-! ## A turn of another task -/

/-- Without a timeout, what another task does keeps the place of a task. -/
theorem along_keeps (hne : t ≠ u) : Along u fun b b' : Bus ν => b.timeout = none →
    Keeps t b b' where
  trans h h' hnone := (h hnone).trans (h' ((h hnone).timeout.trans hnone))
  frame hregistry htimeout htasks hqueue hspawned _ :=
    (steps_keeps t).frame hregistry htimeout htasks hqueue hspawned
  enqueue b u _ := keeps_enqueue b u
  wake b u _ := keeps_wake b u
  make b h e _ := keeps_make b h e
  add b topic name h _ := (steps_keeps t).add b topic name h
  remove b topic name _ := (steps_keeps t).remove b topic name
  set b a _ := keeps_set hne b a
  settle {b b' topic payload d} hstart hnone := by
    have htimeout : b'.timeout = b.timeout := by
      have hkeeps := (steps_keeps t).start b topic payload b.timeout
      rw [hstart] at hkeeps
      exact hkeeps.timeout
    rw [← htimeout, hnone] at hstart
    obtain ⟨d', hsettle⟩ := settle_of_no_timeout hstart
    rw [hsettle]
    exact (steps_keeps t).refl b'

/-! ## The turn of a task -/

theorem drain_of_aborted (h : b.aborted = true) (turns : Nat) : drain turns b = b := by
  cases turns with
  | zero => rfl
  | succ turns => rw [drain, if_pos h]

theorem resume_of_fresh {f : Handler ν} {e : Envelope}
    (htask : Dict.get? b.tasks t = some (.fresh f e)) : b.resume t = b.run t (f e) := by
  unfold resume
  rw [htask]

theorem aborted_foldl_enqueue (ts : List TaskId) (b : Bus ν) :
    (ts.foldl enqueue b).aborted = b.aborted := by
  obtain ⟨queue, heq, -⟩ := foldl_enqueue_eq ts b
  rw [heq]

/-- A run that ends by itself does not end the program. -/
theorem aborted_run (r : Routine ν) (hr : r.Ends) (b : Bus ν) :
    (b.run t r).aborted = b.aborted := by
  induction r generalizing b with
  | done result => exact aborted_foldl_enqueue _ (b.set t _)
  | panic message => exact aborted_foldl_enqueue _ (b.set t _)
  | abort | meet | publish => exact absurd hr id
  | note n next ih => exact ih hr _
  | sleep d next ih =>
    rw [run]
    split
    · exact ih hr b
    · rfl
  | yield next ih => rfl
  | register topic name f next _ ih => exact ih _ (hr _) (b.add topic name f).2
  | remove topic name next ih => exact ih _ (hr _) (b.remove topic name).2
  | names topic next ih => exact ih _ (hr _) b

/-- A handler in the queue is called, unless one before it ends the program. -/
theorem drain_in_turn {before after : List TaskId} (hrunning : b.aborted = false)
    (htimeout : b.timeout = none) (hqueue : b.queue = before ++ t :: after)
    (hbefore : (before ++ [t]).Nodup) (hfresh : ∀ u ∈ before ++ [t], Fresh u b) {f : Handler ν}
    {e : Envelope} (htask : Dict.get? b.tasks t = some (.fresh f e)) {turns : Nat}
    (hturns : before.length < turns) :
    (∃ calls, Way b calls (drain turns b) ∧ ⟨t, f, e⟩ ∈ calls) ∧
        (f e = .abort → (drain turns b).aborted = true) ∨
      (drain turns b).aborted = true ∧
        ∃ u ∈ before, ∃ g e', Dict.get? b.tasks u = some (.fresh g e') ∧ ¬ (g e').Ends := by
  induction before generalizing b after turns with
  | nil =>
    obtain ⟨turns, rfl⟩ : ∃ k, turns = k + 1 := ⟨turns - 1, by omega⟩
    have hturn : Move b [⟨t, f, e⟩] (run { b with queue := after } t (f e)) :=
      .turn hqueue (.call htask)
    have hresume := resume_of_fresh (b := { b with queue := after }) htask
    rw [drain_of_cons hrunning hqueue, hresume]
    obtain ⟨more, hmore⟩ := way_drain turns (run { b with queue := after } t (f e))
    refine Or.inl ⟨⟨_, .move hrunning hturn hmore, List.mem_cons_self⟩, fun habort => ?_⟩
    rw [habort]
    exact congrArg aborted (drain_of_aborted rfl turns)
  | cons u before ih =>
    obtain ⟨turns, rfl⟩ : ∃ k, turns = k + 1 := ⟨turns - 1, by omega⟩
    rw [List.cons_append] at hqueue hbefore hfresh
    obtain ⟨hu, hrest⟩ := List.nodup_cons.1 hbefore
    obtain ⟨-, g, e', hcall⟩ := hfresh u List.mem_cons_self
    have hturn : Move b [⟨u, g, e'⟩] (run { b with queue := before ++ t :: after } u (g e')) :=
      .turn hqueue (.call hcall)
    have hresume := resume_of_fresh (b := { b with queue := before ++ t :: after }) hcall
    rw [drain_of_cons hrunning hqueue, hresume]
    by_cases hnow : (run { b with queue := before ++ t :: after } u (g e')).aborted = true
    · refine Or.inr ⟨?_, u, List.mem_cons_self, g, e', hcall, fun hends => ?_⟩
      · rw [drain_of_aborted hnow]
        exact hnow
      · rw [aborted_run _ hends] at hnow
        exact Bool.false_ne_true (hrunning.symm.trans hnow)
    · have hkeeps : ∀ w ∈ before ++ [t], Keeps w { b with queue := before ++ t :: after }
          (run { b with queue := before ++ t :: after } u (g e')) :=
        fun w hw => (along_keeps fun hwu : w = u => hu (hwu ▸ hw)).run (g e') _ htimeout
      have htasks : ∀ w ∈ before ++ [t],
          Dict.get? (run { b with queue := before ++ t :: after } u (g e')).tasks w
            = Dict.get? b.tasks w :=
        fun w hw => (hkeeps w hw).task (hfresh w (List.mem_cons_of_mem _ hw))
      have ht : t ∈ before ++ [t] := List.mem_append_right _ (List.mem_singleton_self t)
      obtain ⟨more, hmore⟩ := (hkeeps t ht).queue
      have hnext : (run { b with queue := before ++ t :: after } u (g e')).queue
          = before ++ t :: (after ++ more) := by
        rw [hmore]
        exact List.append_assoc before (t :: after) more
      have hlater :=
        ih (Bool.not_eq_true _ ▸ hnow) ((hkeeps t ht).timeout.trans htimeout) hnext hrest
        (fun w hw => (hkeeps w hw).fresh (hfresh w (List.mem_cons_of_mem _ hw)))
          ((htasks t ht).trans htask)
        (show before.length < turns by rw [List.length_cons] at hturns; omega)
      refine hlater.imp (And.imp_left ?_) ?_
      · rintro ⟨calls, hway, hmem⟩
        exact ⟨_, .move hrunning hturn hway, List.mem_append_right _ hmem⟩
      rintro ⟨haborted, w, hw, g', e'', hget, hends⟩
      rw [htasks w (List.mem_append_left _ hw)] at hget
      exact ⟨haborted, w, List.mem_cons_of_mem _ hw, g', e'', hget, hends⟩

/-! ## The turns of a publish -/

variable {topic : String} {i turns : Nat} {name : String} {f : Handler ν}

/-- The tasks of a publish stand in the queue in the order of the handlers. -/
theorem queue_begun (hqueue : b.queue = []) (payload : Json.Value)
    (h : i < (b.registry.handlers topic).length) :
    ∃ after, (b.begun topic payload).2.queue
      = List.range' b.spawned i ++ (b.spawned + i) :: after := by
  have hlength : (b.registry.handlers topic).length
      = i + ((b.registry.handlers topic).length - i - 1 + 1) := by omega
  obtain ⟨tasks, heq⟩ := b.begun_eq topic payload
  refine ⟨List.range' (b.spawned + i + 1) ((b.registry.handlers topic).length - i - 1), ?_⟩
  rw [heq]
  dsimp only
  rw [hqueue, List.nil_append, hlength, ← List.range'_append_1, List.range'_succ, ← hlength]

/-- When nothing else waits, a handler has its turn once those before it had theirs. -/
theorem drain_begun (hrunning : b.aborted = false) (hqueue : b.queue = [])
    (htimeout : b.timeout = none) (payload : Json.Value)
    (h : (b.registry.handlers topic)[i]? = some (name, f)) (hturns : i < turns) :
    (∃ calls, Way (b.begun topic payload).2 calls (drain turns (b.begun topic payload).2) ∧
          ⟨b.spawned + i, f, b.envelope topic payload⟩ ∈ calls) ∧
        (f (b.envelope topic payload) = .abort →
          (drain turns (b.begun topic payload).2).aborted = true) ∨
      (drain turns (b.begun topic payload).2).aborted = true ∧
        ∃ j < i, ∃ handler, (b.registry.handlers topic)[j]? = some handler ∧
          ¬ (handler.2 (b.envelope topic payload)).Ends := by
  have hlt : i < (b.registry.handlers topic).length := (List.getElem?_eq_some_iff.1 h).1
  obtain ⟨after, hafter⟩ := queue_begun hqueue payload hlt
  have hbegun : (b.begun topic payload).2.timeout = none := by
    obtain ⟨tasks, heq⟩ := b.begun_eq topic payload
    rw [heq]
    exact htimeout
  have hfront : List.range' b.spawned i ++ [b.spawned + i] = List.range' b.spawned (i + 1) := by
    rw [List.range'_concat, Nat.one_mul]
  have htask : ∀ j (hj : j < (b.registry.handlers topic).length),
      Dict.get? (b.begun topic payload).2.tasks (b.spawned + j)
        = some (.fresh (b.registry.handlers topic)[j].2 (b.envelope topic payload)) :=
    fun j hj => (task_begun (i := j) payload (List.getElem?_eq_getElem hj)).2
  have hfresh : ∀ u ∈ List.range' b.spawned i ++ [b.spawned + i],
      Fresh u (b.begun topic payload).2 := by
    intro u hu
    rw [hfront, List.mem_range'_1] at hu
    obtain ⟨j, rfl⟩ : ∃ j, u = b.spawned + j := ⟨u - b.spawned, by omega⟩
    have hj : j < (b.registry.handlers topic).length := by omega
    exact ⟨lt_spawned_begun payload hj, _, _, htask j hj⟩
  have hnodup : (List.range' b.spawned i ++ [b.spawned + i]).Nodup := hfront ▸ List.nodup_range'
  have hturn := drain_in_turn (running_begun hrunning topic payload) hbegun hafter hnodup hfresh
      (task_begun payload h).2
    (show (List.range' b.spawned i).length < turns by rw [List.length_range']; exact hturns)
  refine hturn.imp_right ?_
  rintro ⟨haborted, u, hu, g, e', hget, hends⟩
  obtain ⟨hfirst, hlast⟩ := List.mem_range'_1.1 hu
  obtain ⟨j, rfl⟩ := Nat.exists_eq_add_of_le hfirst
  have hji : j < i := Nat.lt_of_add_lt_add_left hlast
  have hj : j < (b.registry.handlers topic).length := hji.trans hlt
  rw [htask j hj] at hget
  obtain ⟨rfl, rfl⟩ := Activity.fresh.inj (Option.some.inj hget)
  exact ⟨haborted, j, hji, _, List.getElem?_eq_getElem hj, hends⟩

/-- On a bus that waits for nothing and without a timeout each handler is called, whatever the other
handlers do, unless one before it ends the program. -/
theorem called_in_turn (hrunning : b.aborted = false) (hqueue : b.queue = [])
    (htimeout : b.timeout = none) (payload : Json.Value)
    (h : (b.registry.handlers topic)[i]? = some (name, f)) (hturns : i + 2 ≤ turns) :
    (∃ calls, Way (b.start topic payload none).2 calls (b.publish turns topic payload none).2 ∧
          callsOf (b.spawned + i) calls = [⟨b.spawned + i, f, b.envelope topic payload⟩]) ∧
        (f (b.envelope topic payload) = .abort →
          (b.publish turns topic payload none).1 = .aborted) ∨
      (b.publish turns topic payload none).1 = .aborted ∧
        ∃ j < i, ∃ handler, (b.registry.handlers topic)[j]? = some handler ∧
          ¬ (handler.2 (b.envelope topic payload)).Ends := by
  obtain ⟨k, rfl⟩ : ∃ k, turns = k + 1 + 1 := ⟨turns - 2, by omega⟩
  have hlt : i < (b.registry.handlers topic).length := (List.getElem?_eq_some_iff.1 h).1
  obtain ⟨hmem, htask⟩ := task_begun payload h
  obtain ⟨after, hafter⟩ := queue_begun hqueue payload hlt
  have hrunning' := running_begun hrunning topic payload
  rcases publish_cases (k + 1 + 1) b topic payload none with ⟨hnil, -⟩ | ⟨-, hin, -⟩ |
    ⟨hne, -, d, hdeadline, -, -, -, hpending, hpublish⟩
  · rw [hnil] at hlt
    cases hlt
  · exact absurd (fun t ht => by cases ht) hin
  · have hnot : ¬ Dispatch.isOver d.deadline (b.begun topic payload).2.now = true := by
      rw [hdeadline rfl]
      exact Bool.false_ne_true
    obtain ⟨d', hsettle, -, hlook⟩ := settle_of_not_late hnot
    have hwaits : ¬ d'.pending.isEmpty = true := by
      have hnone : (b.begun topic payload).2.statusOf (b.spawned + i) = none := by
        unfold statusOf
        rw [htask]
      have hstays : (name, b.spawned + i) ∈ d'.pending := by
        rw [hlook, hpending]
        exact Dispatch.mem_look_pending hmem hnone
      intro hempty
      rw [List.isEmpty_iff.1 hempty] at hstays
      cases hstays
    have hfull : ¬ (b.begun topic payload).2.queue.isEmpty = true := by
      rw [hafter, List.isEmpty_iff]
      exact List.append_ne_nil_of_right_ne_nil _ (List.cons_ne_nil _ _)
    have hawait : await (k + 1 + 1) d (b.begun topic payload).2
        = await (k + 1) d' (drain (k + 1) (b.begun topic payload).2) := by
      rw [await_succ hrunning' hsettle, if_neg hwaits, if_neg hfull]
    have hended : (drain (k + 1) (b.begun topic payload).2).aborted = true →
        (await (k + 1) d' (drain (k + 1) (b.begun topic payload).2)).1 = .aborted := by
      intro haborted
      rw [await, if_pos haborted]
    rw [hpublish, hawait]
    have hturn := drain_begun hrunning hqueue htimeout payload h (show i < k + 1 by omega)
    refine hturn.imp ?_ (And.imp_left hended)
    rintro ⟨⟨calls, hdrain, hcalled⟩, habort⟩
    obtain ⟨more, hmore⟩ := way_await (k + 1) d' (drain (k + 1) (b.begun topic payload).2)
    have hway : Way (b.start topic payload none).2 (calls ++ more)
        (await (k + 1) d' (drain (k + 1) (b.begun topic payload).2)).2 := by
      rw [snd_start hne]
      exact hdrain.trans hmore
    refine ⟨⟨_, hway, (called_at_most_once h hway).resolve_left fun hnone => ?_⟩,
      fun hf => hended (habort hf)⟩
    have hall := List.filter_eq_nil_iff.1 hnone _ (List.mem_append_left _ hcalled)
    exact hall (decide_eq_true rfl)

end Larder.Events.Bus
