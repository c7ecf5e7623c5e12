import Larder.Proofs.Events.Progress

/-!
A publish comes to a report when its handlers end by themselves.

The tasks in the queue are run until it is empty, which takes finitely many turns, and then either
tasks are woken or the deadline is there.  So the turns that a publish takes are bounded, although
no bound can be told beforehand.
-/

namespace Larder.Events

variable {ν : Type}

namespace Bus

variable {t : TaskId} {timers : List Timer} {b b' : Bus ν}

theorem measure_induction (n : Nat) {motive : Bus ν → Prop}
    (step : ∀ b, (∀ b', b'.measure n < b.measure n → motive b') → motive b)
    (b : Bus ν) : motive b :=
  (InvImage.wf (fun b : Bus ν => b.measure n) wellFounded_lt).induction b step

/-! ## Until the queue is empty -/

theorem drain_of_nil (hqueue : b.queue = []) (turns : Nat) : drain turns b = b := by
  cases turns with
  | zero => rfl
  | succ turns =>
    unfold drain
    split
    · rfl
    · rw [hqueue]

theorem drain_of_cons (hrunning : b.aborted = false) {rest : List TaskId}
    (hqueue : b.queue = t :: rest) (turns : Nat) :
    drain (turns + 1) b = drain turns (resume { b with queue := rest } t) := by
  rw [drain, if_neg (by rw [hrunning]; exact Bool.false_ne_true), hqueue]

/-- The queue gets empty, and unless it was, the bus is brought on. -/
theorem exists_drained (hb : Tame (fun _ => True) b) {n : Nat} (hn : b.spawned = n) :
    ∃ enough b', (∀ turns, enough ≤ turns → drain turns b = b') ∧ b'.queue = [] ∧ Onward b b' ∧
      (b.queue ≠ [] → b'.measure n < b.measure n) := by
  induction b using measure_induction n with
  | step b ih =>
    cases hqueue : b.queue with
    | nil =>
      refine ⟨0, b, fun turns _ => drain_of_nil hqueue turns, hqueue, ⟨hb, rfl, fun _ h => h⟩,
        fun hne => ?_⟩
      exact absurd rfl hne
    | cons t rest =>
      obtain ⟨honward, hlt⟩ := onward_resume hb hqueue hn
      obtain ⟨enough, b', hdrain, hempty, honward', hle⟩ :=
        ih _ hlt honward.tame (honward.spawned.trans hn)
      refine ⟨enough + 1, b', fun turns hturns => ?_, hempty, honward.trans honward', fun _ => ?_⟩
      · obtain ⟨turns, rfl⟩ : ∃ k, turns = k + 1 := ⟨turns - 1, by omega⟩
        rw [drain_of_cons hb.running hqueue]
        exact hdrain turns (by omega)
      · by_cases hnow : (resume { b with queue := rest } t).queue = []
        · have hsame : b' = resume { b with queue := rest } t :=
            (hdrain enough (Nat.le_refl _)).symm.trans (drain_of_nil hnow enough)
          rw [hsame]
          exact hlt
        · exact (hle hnow).trans hlt

/-! ## Time that passes -/

theorem wake_cases (b : Bus ν) {t : TaskId}
    (h : ∀ a, Dict.get? b.tasks t = some a → Waits b.queue b.yielded timers t a) :
    (∃ rest, Dict.get? b.tasks t = some (.sleeping rest) ∧
      b.wake t = (b.set t (.ready rest)).enqueue t) ∨
      (∀ rest, Dict.get? b.tasks t ≠ some (.sleeping rest)) ∧ b.wake t = b := by
  unfold wake
  split
  · next rest ha => exact Or.inl ⟨rest, ha, rfl⟩
  · next rest ha => exact absurd (h _ ha) id
  · next d next ha => exact absurd (h _ ha) id
  · next hno _ _ => exact Or.inr ⟨fun rest ha => hno rest ha, rfl⟩

theorem enqueue_eq (b : Bus ν) (t : TaskId) :
    ∃ queue, b.enqueue t = { b with queue } ∧ (∀ u ∈ b.queue, u ∈ queue) ∧ t ∈ queue ∧
      queue.length ≤ b.queue.length + 1 := by
  unfold enqueue
  split
  · next hmem => exact ⟨b.queue, rfl, fun _ hu => hu, List.contains_iff_mem.1 hmem, Nat.le_succ _⟩
  · refine ⟨b.queue ++ [t], rfl, fun _ hu => List.mem_append_left _ hu, ?_, ?_⟩
    · exact List.mem_append_right _ (List.mem_singleton_self _)
    · rw [List.length_append, List.length_singleton]

/-- What waking tasks makes of a bus: they go from sleeping to the queue, and some timers are
left. -/
structure Woken (count : Nat) (timers : List Timer) (b b' : Bus ν) : Prop where
  tame : Tame (fun _ => True) { b' with timers }
  kept : ∀ u, (Dict.get? b.tasks u).isSome → (Dict.get? b'.tasks u).isSome
  ranks : ∀ u, b'.rankAt u = b.rankAt u
  queue : b'.queue.length ≤ b.queue.length + count
  frame : ∃ tasks queue, b' = { b with tasks, queue }

/-- A timer that goes off is used up. -/
theorem woken_wake {timer : Timer} {left : List Timer}
    (hb : Tame (fun _ => True) { b with timers := timer :: left }) :
    Woken 1 left b (b.wake timer.task) := by
  -- Another task that sleeps does so until one of the timers that are left.
  have hleft : ∀ u, u ≠ timer.task → ∀ other ∈ timer :: left, other.task = u → other ∈ left := by
    intro u hu other hmem htask
    rcases List.mem_cons.1 hmem with rfl | hrest
    · exact absurd htask.symm hu
    · exact hrest
  rcases wake_cases b (hb.waits timer.task trivial) with ⟨rest, hsleeping, heq⟩ | ⟨hawake, heq⟩
  · obtain ⟨queue, hqueue, hmem, hself, hlength⟩ :=
      enqueue_eq (b.set timer.task (.ready rest)) timer.task
    have hget : ∀ u, Dict.get? (b.wake timer.task).tasks u
        = if u = timer.task then some (.ready rest) else Dict.get? b.tasks u := by
      intro u
      rw [heq, hqueue]
      exact get?_set b timer.task (.ready rest) u
    have hends : rest.Ends := (hb.waits timer.task trivial _ hsleeping).1
    refine ⟨⟨?_, fun u a ha => ?_, fun u _ a ha => ?_⟩, fun u hu => ?_, fun u => ?_, ?_, ?_⟩
    · rw [heq, hqueue]
      exact hb.running
    · have hspawned : (b.wake timer.task).spawned = b.spawned := by rw [heq, hqueue]; rfl
      show u < (b.wake timer.task).spawned
      change Dict.get? (b.wake timer.task).tasks u = some a at ha
      rw [hget] at ha
      rw [hspawned]
      split at ha
      · next hu => exact hu ▸ hb.known _ _ hsleeping
      · exact hb.known u a ha
    · change Dict.get? (b.wake timer.task).tasks u = some a at ha
      rw [hget] at ha
      rw [heq, hqueue]
      split at ha
      · next hu =>
        rw [hu, ← Option.some.inj ha]
        exact ⟨hends, Or.inl hself⟩
      · next hu => exact (hb.waits u trivial a ha).mono (Or.imp_left (hmem u)) (hleft u hu)
    · rw [hget]
      split
      · rfl
      · exact hu
    · unfold rankAt
      rw [hget]
      by_cases hu : u = timer.task
      · rw [if_pos hu, hu, hsleeping]
        rfl
      · rw [if_neg hu]
    · rw [heq, hqueue]
      exact hlength
    · exact ⟨_, queue, heq.trans hqueue⟩
  · rw [heq]
    refine ⟨⟨hb.running, hb.known, fun u _ a ha => ?_⟩, fun _ h => h, fun _ => rfl, Nat.le_succ _,
      ⟨b.tasks, b.queue, rfl⟩⟩
    have hwaits := hb.waits u trivial a ha
    by_cases hu : u = timer.task
    · cases a with
      | sleeping rest => exact absurd (hu ▸ ha) (hawake rest)
      | _ => exact hwaits
    · exact hwaits.mono id (hleft u hu)

theorem woken_foldl {due left : List Timer}
    (hb : Tame (fun _ => True) { b with timers := due ++ left }) :
    Woken due.length left b (due.foldl (fun b timer => b.wake timer.task) b) := by
  induction due generalizing b with
  | nil => exact ⟨hb, fun _ h => h, fun _ => rfl, Nat.le_refl _, ⟨b.tasks, b.queue, rfl⟩⟩
  | cons timer rest ih =>
    have hfirst : Woken 1 (rest ++ left) b (b.wake timer.task) := woken_wake hb
    have hrest := ih hfirst.tame
    refine ⟨hrest.tame, fun u hu => hrest.kept u (hfirst.kept u hu),
      fun u => (hrest.ranks u).trans (hfirst.ranks u), ?_, ?_⟩
    · have hone := hfirst.queue
      have hothers := hrest.queue
      rw [List.foldl_cons, List.length_cons]
      omega
    · obtain ⟨tasks, queue, heq⟩ := hrest.frame
      obtain ⟨tasks', queue', heq'⟩ := hfirst.frame
      refine ⟨tasks, queue, ?_⟩
      rw [List.foldl_cons, heq, heq']

/-- Time that comes to a timer brings the bus on, and no time takes it back. -/
theorem onward_advanceTo (hb : Tame (fun _ => True) b) (time : Nat) :
    Onward b (b.advanceTo time) ∧ (b.advanceTo time).now = time ∧
      ((∃ timer ∈ b.timers, timer.due ≤ time) →
        ∀ n, (b.advanceTo time).measure n < b.measure n) := by
  let due := b.timers.filter (·.due ≤ time)
  let later := b.timers.filter fun timer => time < timer.due
  have hsplit : ∀ timer ∈ b.timers, timer ∈ due ++ later := by
    intro timer hmem
    rcases Nat.lt_or_ge time timer.due with hlt | hge
    · exact List.mem_append_right _ (List.mem_filter.2 ⟨hmem, decide_eq_true hlt⟩)
    · exact List.mem_append_left _ (List.mem_filter.2 ⟨hmem, decide_eq_true hge⟩)
  have hstart : Tame (fun _ => True) { { b with now := time, timers := later } with
      timers := due ++ later } :=
    ⟨hb.running, hb.known, fun u _ a ha => (hb.waits u trivial a ha).mono id fun timer hmem _ =>
      hsplit timer hmem⟩
  have hwoken := woken_foldl hstart
  obtain ⟨tasks, queue, heq⟩ := hwoken.frame
  have hadvance : b.advanceTo time = { b with now := time, timers := later, tasks, queue } := heq
  change Woken due.length later _ (b.advanceTo time) at hwoken
  refine ⟨⟨?_, ?_, hwoken.kept⟩, ?_, ?_⟩
  · have htame := hwoken.tame
    rw [hadvance] at htame ⊢
    exact htame
  · rw [hadvance]
  · rw [hadvance]
  · rintro ⟨timer, hmem, hdue⟩ n
    have hpos : 0 < due.length :=
      List.length_pos_of_mem (List.mem_filter.2 ⟨hmem, decide_eq_true hdue⟩)
    have hlength : b.timers.length = due.length + later.length := by
      rw [List.length_eq_length_filter_add fun timer : Timer => decide (timer.due ≤ time)]
      refine congrArg (due.length + List.length ·) (List.filter_congr fun timer _ => ?_)
      rw [← decide_not]
      exact decide_eq_decide.2 Nat.not_le
    have hqueue := hwoken.queue
    refine measure_lt_of_load n hwoken.ranks ?_
    unfold load
    rw [hadvance] at hqueue ⊢
    dsimp only at hqueue ⊢
    omega

theorem timer_of_earlier {deadline : Option Nat} {time : Nat}
    (h : earlier (nextDue timers) deadline = some time) :
    Dispatch.isOver deadline time = true ∨ ∃ timer ∈ timers, timer.due ≤ time := by
  have hdue : ∀ due, nextDue timers = some due → ∃ timer ∈ timers, timer.due = due := by
    intro due hmin
    exact List.mem_map.1 (List.min?_mem hmin)
  cases hnext : nextDue timers with
  | none =>
    rw [hnext] at h
    have hdeadline : deadline = some time := h
    rw [hdeadline]
    exact Or.inl (decide_eq_true (Nat.le_refl time))
  | some due =>
    obtain ⟨timer, hmem, rfl⟩ := hdue due hnext
    rw [hnext] at h
    cases deadline with
    | none => exact Or.inr ⟨timer, hmem, Nat.le_of_eq (Option.some.inj h)⟩
    | some limit =>
      have htime : min timer.due limit = time := Option.some.inj h
      rcases Nat.le_total timer.due limit with hle | hle
      · exact Or.inr ⟨timer, hmem, by omega⟩
      · exact Or.inl (decide_eq_true (by omega))

theorem no_timers_of_earlier {deadline : Option Nat}
    (h : earlier (nextDue timers) deadline = none) : timers = [] := by
  have hnext : nextDue timers = none := by
    cases hnext : nextDue timers with
    | none => rfl
    | some due => rw [hnext] at h; cases deadline <;> cases h
  exact List.map_eq_nil_iff.1 (List.min?_eq_none_iff.1 hnext)

/-- When no task can run, something waits for time or there is a deadline, unless all tasks have
ended. -/
theorem pass?_cases (hb : Tame (fun _ => True) b) (hqueue : b.queue = []) (deadline : Option Nat) :
    (b.pass? deadline = none ∧ ∀ u, (Dict.get? b.tasks u).isSome → (b.statusOf u).isSome) ∨
      ∃ b', b.pass? deadline = some b' ∧ Onward b b' ∧
        (Dispatch.isOver deadline b'.now = true ∨ ∀ n, b'.measure n < b.measure n) := by
  unfold pass?
  split
  · next hyielded =>
    have hyielded : b.yielded = [] := List.isEmpty_iff.1 hyielded
    cases htime : earlier (nextDue b.timers) deadline with
    | none =>
      refine Or.inl ⟨rfl, fun u hu => ?_⟩
      obtain ⟨a, ha⟩ := Option.isSome_iff_exists.1 hu
      have hwaits := hb.waits u trivial a ha
      rw [hqueue, hyielded, no_timers_of_earlier htime] at hwaits
      unfold statusOf
      rw [ha]
      cases a with
      | ended status => rfl
      | fresh | ready =>
        exact absurd hwaits.2 (by simp only [List.not_mem_nil, or_self, not_false_eq_true])
      | sleeping => obtain ⟨-, timer, hmem, -⟩ := hwaits; cases hmem
      | meeting | publishing => exact absurd hwaits id
    | some time =>
      obtain ⟨honward, hnow, hless⟩ := onward_advanceTo hb time
      refine Or.inr ⟨_, rfl, honward, ?_⟩
      rw [hnow]
      exact (timer_of_earlier htime).imp_right hless
  · next hyielded =>
    refine Or.inr ⟨_, rfl, ⟨⟨hb.running, hb.known, fun u _ a ha => ?_⟩, rfl, fun _ h => h⟩,
      Or.inr fun n => ?_⟩
    · refine (hb.waits u trivial a ha).mono (fun hmem => ?_) fun _ h _ => h
      rw [hqueue] at hmem
      exact Or.inl (hmem.resolve_left List.not_mem_nil)
    · have hpos : 0 < b.yielded.length :=
        List.length_pos_iff.2 fun h => hyielded (List.isEmpty_iff.2 h)
      refine measure_lt_of_load n (fun _ => rfl) ?_
      unfold load
      rw [hqueue]
      dsimp only [List.length_nil]
      omega

/-! ## The report -/

theorem stop_nil (b : Bus ν) : b.stop [] = b := by
  have htasks : b.tasks.filter (fun task => !([] : List TaskId).contains task.1) = b.tasks :=
    List.filter_true _
  have hqueue : b.queue.filter (fun t => !([] : List TaskId).contains t) = b.queue :=
    List.filter_true _
  have hyielded : b.yielded.filter (fun t => !([] : List TaskId).contains t) = b.yielded :=
    List.filter_true _
  have htimers : b.timers.filter (fun timer => !([] : List TaskId).contains timer.task)
      = b.timers := List.filter_true _
  rw [stop, htasks, hqueue, hyielded, htimers]

end Bus

namespace Dispatch

variable {statusOf : TaskId → Option Status}

theorem look_late (pending : List (String × TaskId)) :
    (look statusOf true pending).pending = [] := by
  induction pending with
  | nil => rfl
  | cons handler rest ih =>
    obtain ⟨name, task⟩ := handler
    unfold look
    split
    · exact ih
    · exact ih

theorem look_not_late (pending : List (String × TaskId)) :
    (look statusOf false pending).stopped = [] ∧
      ∀ handler ∈ (look statusOf false pending).pending, handler ∈ pending := by
  induction pending with
  | nil => exact ⟨rfl, fun _ h => h⟩
  | cons handler rest ih =>
    obtain ⟨name, task⟩ := handler
    unfold look
    split
    · exact ⟨ih.1, fun handler h => List.mem_cons_of_mem _ (ih.2 handler h)⟩
    · exact ⟨rfl, fun _ h => h⟩

theorem look_all_ended {late : Bool} {pending : List (String × TaskId)}
    (h : ∀ handler ∈ pending, (statusOf handler.2).isSome) :
    (look statusOf late pending).pending = [] := by
  induction pending with
  | nil => rfl
  | cons handler rest ih =>
    obtain ⟨name, task⟩ := handler
    unfold look
    split
    · exact ih fun other hmem => h other (List.mem_cons_of_mem _ hmem)
    · next hnone =>
      have hended := h _ List.mem_cons_self
      rw [hnone] at hended
      cases hended

end Dispatch

namespace Bus

variable {b : Bus ν} {d : Dispatch}

theorem await_succ (hrunning : b.aborted = false) {d' : Dispatch} {b' : Bus ν}
    (hsettle : b.settle d = (d', b')) (turns : Nat) :
    await (turns + 1) d b
      = if d'.pending.isEmpty then (.report d'.report, b')
        else if b'.queue.isEmpty then
          match b'.pass? d'.deadline with
          | some b => await turns d' b
          | none => (.unfinished, b')
        else await turns d' (drain turns b') := by
  have hgoes : ¬ b.aborted = true := by
    rw [hrunning]
    exact Bool.false_ne_true
  rw [await]
  generalize b.settle d = settled at hsettle ⊢
  subst hsettle
  exact if_neg hgoes

theorem await_report_of_late (hrunning : b.aborted = false)
    (hlate : Dispatch.isOver d.deadline b.now = true) (turns : Nat) :
    ∃ r, (await (turns + 1) d b).1 = .report r := by
  have hpending : (b.settle d).1.pending = [] := by
    show (Dispatch.look b.statusOf (Dispatch.isOver d.deadline b.now) d.pending).pending = []
    rw [hlate]
    exact Dispatch.look_late _
  generalize hsettle : b.settle d = settled at hpending
  obtain ⟨d', b'⟩ := settled
  rw [await_succ hrunning hsettle, if_pos (List.isEmpty_iff.2 hpending)]
  exact ⟨_, rfl⟩

/-- Before the deadline a look at the handlers changes nothing on the bus. -/
theorem settle_of_not_late (hlate : ¬ Dispatch.isOver d.deadline b.now = true) :
    ∃ d', b.settle d = (d', b) ∧ d'.deadline = d.deadline ∧
      d'.pending = (Dispatch.look b.statusOf false d.pending).pending := by
  have hover : Dispatch.isOver d.deadline b.now = false := Bool.not_eq_true _ ▸ hlate
  refine ⟨(d.settle b.statusOf b.now).1, ?_, rfl, ?_⟩
  · show ((d.settle b.statusOf b.now).1,
      b.stop (Dispatch.look b.statusOf (Dispatch.isOver d.deadline b.now) d.pending).stopped) = _
    rw [hover, (Dispatch.look_not_late d.pending).1, stop_nil]
  · show (Dispatch.look b.statusOf (Dispatch.isOver d.deadline b.now) d.pending).pending = _
    rw [hover]

/-- When the tasks end by themselves, waiting for handlers comes to a report. -/
theorem exists_report (hb : Tame (fun _ => True) b) {n : Nat} (hn : b.spawned = n)
    (hpending : ∀ handler ∈ d.pending, (Dict.get? b.tasks handler.2).isSome) :
    ∃ enough, ∀ turns, enough ≤ turns → ∃ r, (await turns d b).1 = .report r := by
  induction b using measure_induction n generalizing d with
  | step b ih =>
    have hsucc : ∀ enough turns : Nat, enough + 1 ≤ turns → ∃ k, turns = k + 1 ∧ enough ≤ k :=
      fun _ turns _ => ⟨turns - 1, by omega, by omega⟩
    by_cases hlate : Dispatch.isOver d.deadline b.now = true
    · refine ⟨1, fun turns hturns => ?_⟩
      obtain ⟨k, rfl, -⟩ := hsucc 0 turns hturns
      exact await_report_of_late hb.running hlate k
    · obtain ⟨d', hsettle, hdeadline, hlook⟩ := settle_of_not_late hlate
      have hawait := await_succ hb.running hsettle
      have hleft : ∀ b', Onward b b' → ∀ handler ∈ d'.pending,
          (Dict.get? b'.tasks handler.2).isSome := by
        intro b' honward handler hmem
        rw [hlook] at hmem
        exact honward.kept _ (hpending handler ((Dispatch.look_not_late d.pending).2 handler hmem))
      by_cases hdone : d'.pending.isEmpty = true
      · refine ⟨1, fun turns hturns => ?_⟩
        obtain ⟨k, rfl, -⟩ := hsucc 0 turns hturns
        rw [hawait, if_pos hdone]
        exact ⟨_, rfl⟩
      by_cases hqueue : b.queue = []
      · rcases pass?_cases hb hqueue d'.deadline with ⟨-, hended⟩ | ⟨b', hpass, honward, hgoal⟩
        · -- Nothing is left to happen, so all handlers have ended.
          have hall : d'.pending = [] := by
            rw [hlook]
            exact Dispatch.look_all_ended fun handler hmem => hended _ (hpending handler hmem)
          exact absurd (List.isEmpty_iff.2 hall) hdone
        · have hnext : ∀ turns, await (turns + 1) d b = await turns d' b' := by
            intro turns
            rw [hawait, if_neg hdone, if_pos (List.isEmpty_iff.2 hqueue), hpass]
          rcases hgoal with hover | hless
          · refine ⟨2, fun turns hturns => ?_⟩
            obtain ⟨k, rfl, hk⟩ := hsucc 1 turns hturns
            obtain ⟨k, rfl, -⟩ := hsucc 0 k hk
            rw [hnext]
            exact await_report_of_late honward.tame.running hover k
          · obtain ⟨enough, hreport⟩ :=
              ih b' (hless n) honward.tame (honward.spawned.trans hn) (hleft b' honward)
            refine ⟨enough + 1, fun turns hturns => ?_⟩
            obtain ⟨k, rfl, hk⟩ := hsucc enough turns hturns
            rw [hnext]
            exact hreport k hk
      · obtain ⟨few, b', hdrain, -, honward, hless⟩ := exists_drained hb hn
        obtain ⟨enough, hreport⟩ :=
          ih b' (hless hqueue) honward.tame (honward.spawned.trans hn) (hleft b' honward)
        refine ⟨max few enough + 1, fun turns hturns => ?_⟩
        obtain ⟨k, rfl, hk⟩ := hsucc (max few enough) turns hturns
        rw [hawait, if_neg hdone, if_neg fun h => hqueue (List.isEmpty_iff.1 h),
          hdrain k (by omega)]
        exact hreport k (by omega)

end Bus

end Larder.Events
