import Larder.Proofs.Events.AllAtOnce

/-!
Handlers take their own time.

Handlers that neither wait for others nor publish take the time that they sleep, however many of
them there are and whatever the others do: on a bus on its own each finishes when its sleeps are
over, counted from the start (`finishes_of_takes`).  So handlers can be made to finish at any times
and in any ways, and they are reported so (`reports_in_own_time`).
-/

namespace Larder.Events

variable {ν : Type}

namespace Routine

/-- The run sleeps so long altogether and ends so, whatever it is answered. -/
def Takes : Routine ν → Nat → Status → Prop
  | done result, time, status => time = 0 ∧ status = .ofResult result
  | panic message, time, status => time = 0 ∧ status = .panicked (message.getD namelessPanic)
  | abort, _, _ => False
  | note _ next, time, status => next.Takes time status
  | sleep d next, time, status => ∃ left, time = d.nanoseconds + left ∧ next.Takes left status
  | yield next, time, status => next.Takes time status
  | meet _ _ _, _, _ => False
  | register _ _ _ next, time, status => ∀ added, (next added).Takes time status
  | remove _ _ next, time, status => ∀ answer, (next answer).Takes time status
  | names _ next, time, status => ∀ names, (next names).Takes time status
  | publish _ _ _, _, _ => False

theorem Takes.ends {r : Routine ν} {time : Nat} {status : Status}
    (h : r.Takes time status) : r.Ends := by
  induction r generalizing time with
  | done | panic => exact trivial
  | abort | meet | publish => exact h
  | note _ _ ih => exact ih h
  | sleep _ _ ih =>
    obtain ⟨left, -, hleft⟩ := h
    exact ih hleft
  | yield _ ih => exact ih h
  | register _ _ _ _ _ ih => exact fun added => ih added (h added)
  | remove _ _ _ ih => exact fun answer => ih answer (h answer)
  | names _ _ ih => exact fun names => ih names (h names)

end Routine

namespace Bus

variable {plan : TaskId → Nat × Status} {t u : TaskId} {b b' : Bus ν}

/-! ## Tasks on time -/

/-- A task is on its way to end at the planned time, in the planned way. -/
def OnTime (plan : TaskId → Nat × Status) (now : Nat) (timers : List Timer) (u : TaskId) :
    Activity ν → Prop
  | .fresh h e => ∃ left, (plan u).1 = now + left ∧ (h e).Takes left (plan u).2
  | .ready rest => ∃ left, (plan u).1 = now + left ∧ rest.Takes left (plan u).2
  | .sleeping rest =>
    ∃ due left, ⟨due, u⟩ ∈ timers ∧ (∀ timer ∈ timers, timer.task = u → timer.due = due) ∧
      now ≤ due ∧ (plan u).1 = due + left ∧ rest.Takes left (plan u).2
  | .ended status => (plan u).1 ≤ now ∧ status = (plan u).2
  | .meeting _ => False
  | .publishing _ _ => False

theorem OnTime.mono {now : Nat} {timers timers' : List Timer} {a : Activity ν}
    (h : OnTime plan now timers u a)
    (htimers : ∀ timer : Timer, timer.task = u → (timer ∈ timers' ↔ timer ∈ timers)) :
    OnTime plan now timers' u a := by
  cases a with
  | sleeping rest =>
    obtain ⟨due, left, hmem, hsame, hrest⟩ := h
    refine ⟨due, left, (htimers ⟨due, u⟩ rfl).2 hmem, fun timer hin htask => ?_, hrest⟩
    exact hsame timer ((htimers timer htask).1 hin) htask
  | _ => exact h

/-- Some of the tasks are on time, and only tasks that sleep have timers. -/
structure Punctual (plan : TaskId → Nat × Status) (P : TaskId → Prop) (b : Bus ν) : Prop where
  onTime : ∀ u, P u → ∀ a, Dict.get? b.tasks u = some a → OnTime plan b.now b.timers u a
  asleep : ∀ timer ∈ b.timers, P timer.task ∧
    ∃ rest, Dict.get? b.tasks timer.task = some (.sleeping rest)

/-- A task that is put where it waits is on time again. -/
theorem punctual_set (hb : Punctual plan (· ≠ t) b) {a : Activity ν} {queue yielded : List TaskId}
    {timers : List Timer}
    (hothers : ∀ timer : Timer, timer.task ≠ t → (timer ∈ timers ↔ timer ∈ b.timers))
    (hown : ∀ timer ∈ timers, timer.task = t → ∃ rest, a = .sleeping rest)
    (ha : OnTime plan b.now timers t a) :
    Punctual plan (fun _ => True) { b.set t a with queue, yielded, timers } := by
  refine ⟨fun u _ x hx => ?_, fun timer hmem => ⟨trivial, ?_⟩⟩
  · change Dict.get? (b.set t a).tasks u = some x at hx
    rw [get?_set] at hx
    split at hx
    · next hu =>
      rw [hu, ← Option.some.inj hx]
      exact ha
    · next hu =>
      exact (hb.onTime u hu x hx).mono fun timer htask => hothers timer fun h =>
        hu (htask.symm.trans h)
  · show ∃ rest, Dict.get? (b.set t a).tasks timer.task = some (.sleeping rest)
    rw [get?_set]
    split
    · next htask =>
      obtain ⟨rest, rfl⟩ := hown timer hmem htask
      exact ⟨rest, rfl⟩
    · next htask => exact (hb.asleep timer ((hothers timer htask).1 hmem)).2

theorem Punctual.untimed (hb : Punctual plan (· ≠ t) b) {a : Activity ν} :
    ∀ timer ∈ b.timers, timer.task = t → ∃ rest, a = .sleeping rest :=
  fun timer hmem htask => absurd htask (hb.asleep timer hmem).1

theorem punctual_finish (hb : Punctual plan (· ≠ t) b) (hover : (plan t).1 ≤ b.now)
    {status : Status} (hstatus : status = (plan t).2) :
    Punctual plan (fun _ => True) (b.finish t status) := by
  obtain ⟨queue, heq, -⟩ := foldl_enqueue_eq (b.waitingFor t) (b.set t (.ended status))
  rw [finish, heq]
  exact punctual_set hb (fun _ _ => Iff.rfl) hb.untimed ⟨hover, hstatus⟩

/-- A run of a task keeps all tasks on time. -/
theorem punctual_run (r : Routine ν) {left : Nat} (hr : r.Takes left (plan t).2) (b : Bus ν)
    (hb : Punctual plan (· ≠ t) b) (hplan : (plan t).1 = b.now + left) :
    Punctual plan (fun _ => True) (b.run t r) := by
  induction r generalizing b left with
  | done result | panic message =>
    obtain ⟨rfl, hstatus⟩ := hr
    exact punctual_finish hb (Nat.le_of_eq hplan) hstatus.symm
  | abort | meet | publish => exact absurd hr id
  | note n next ih => exact ih hr { b with notes := b.notes ++ [n] } ⟨hb.onTime, hb.asleep⟩ hplan
  | sleep d next ih =>
    obtain ⟨rest, rfl, hrest⟩ := hr
    rw [run]
    split
    · next hzero => exact ih hrest b hb (by omega)
    · have hmem : ∀ timer : Timer, timer ∈ b.timers ++ [⟨b.now + d.nanoseconds, t⟩] ↔
          timer ∈ b.timers ∨ timer = ⟨b.now + d.nanoseconds, t⟩ := by
        intro timer
        rw [List.mem_append, List.mem_singleton]
      refine punctual_set (a := .sleeping next) hb (fun timer htask => ?_)
        (fun _ _ _ => ⟨next, rfl⟩)
        ⟨b.now + d.nanoseconds, rest, (hmem _).2 (Or.inr rfl), fun timer hin htask => ?_,
          Nat.le_add_right _ _, hplan.trans (Nat.add_assoc _ _ _).symm, hrest⟩
      · exact (hmem timer).trans (or_iff_left fun h => htask (congrArg Timer.task h))
      · rcases (hmem timer).1 hin with hold | rfl
        · exact absurd htask (hb.asleep timer hold).1
        · rfl
  | yield next ih =>
    exact punctual_set (a := .ready next) hb (fun _ _ => Iff.rfl) hb.untimed ⟨left, hplan, hr⟩
  | register topic name f next _ ih =>
    exact ih _ (hr _) (b.add topic name f).2 ⟨hb.onTime, hb.asleep⟩ hplan
  | remove topic name next ih =>
    exact ih _ (hr _) (b.remove topic name).2 ⟨hb.onTime, hb.asleep⟩ hplan
  | names topic next ih => exact ih _ (hr _) b hb hplan

theorem Punctual.awake (hb : Punctual plan (fun _ => True) b) {a : Activity ν}
    (ha : Dict.get? b.tasks t = some a) (hawake : ∀ rest, a ≠ .sleeping rest) :
    Punctual plan (· ≠ t) b := by
  refine ⟨fun u _ => hb.onTime u trivial, fun timer hmem => ⟨?_, (hb.asleep timer hmem).2⟩⟩
  rintro rfl
  obtain ⟨rest, hrest⟩ := (hb.asleep timer hmem).2
  rw [ha] at hrest
  exact hawake rest (Option.some.inj hrest)

theorem punctual_resume (hb : Punctual plan (fun _ => True) b) (t : TaskId) :
    Punctual plan (fun _ => True) (b.resume t) := by
  unfold resume
  split
  · next f e ha =>
    obtain ⟨left, hplan, htakes⟩ := hb.onTime t trivial _ ha
    exact punctual_run _ htakes b (hb.awake ha fun rest h => by cases h) hplan
  · next rest ha =>
    obtain ⟨left, hplan, htakes⟩ := hb.onTime t trivial _ ha
    exact punctual_run _ htakes b (hb.awake ha fun rest h => by cases h) hplan
  · next d next ha => exact absurd (hb.onTime t trivial _ ha) id
  · exact hb

/-! ## Time that passes -/

/-- Where a task stands that waited and was woken. -/
def woken : Activity ν → Activity ν
  | .sleeping rest => .ready rest
  | .meeting rest => .ready rest
  | a => a

theorem woken_woken (a : Activity ν) : woken (woken a) = woken a := by
  cases a <;> rfl

theorem get?_wake (b : Bus ν) (t u : TaskId) :
    Dict.get? (b.wake t).tasks u = if u = t then (Dict.get? b.tasks u).map woken
      else Dict.get? b.tasks u := by
  have hset : ∀ {a : Activity ν} {rest : Routine ν}, Dict.get? b.tasks t = some a →
      woken a = .ready rest → Dict.get? ((b.set t (.ready rest)).enqueue t).tasks u
        = if u = t then (Dict.get? b.tasks u).map woken else Dict.get? b.tasks u := by
    intro a rest ha hwoken
    rw [tasks_enqueue, get?_set]
    split
    · next hu => rw [hu, ha, Option.map_some, hwoken]
    · rfl
  have hkept : (Dict.get? b.tasks t).map woken = Dict.get? b.tasks t →
      Dict.get? b.tasks u = if u = t then (Dict.get? b.tasks u).map woken
        else Dict.get? b.tasks u := by
    intro h
    split
    · next hu => rw [hu, h]
    · rfl
  unfold wake
  cases ha : Dict.get? b.tasks t with
  | none => exact hkept (by rw [ha]; rfl)
  | some a =>
    cases a with
    | sleeping rest | meeting rest => exact hset ha rfl
    | publishing d next =>
      show Dict.get? (b.enqueue t).tasks u = _
      rw [tasks_enqueue]
      exact hkept (by rw [ha]; rfl)
    | fresh | ready | ended => exact hkept (by rw [ha]; rfl)

theorem timers_wake (b : Bus ν) (t : TaskId) : (b.wake t).timers = b.timers := by
  unfold wake enqueue
  repeat' split
  all_goals rfl

/-- Time that passes wakes the tasks whose timers are due. -/
theorem get?_advanceTo (b : Bus ν) (time : Nat) (u : TaskId) :
    Dict.get? (b.advanceTo time).tasks u
      = if ∃ timer ∈ b.timers, timer.due ≤ time ∧ timer.task = u then
        (Dict.get? b.tasks u).map woken
        else Dict.get? b.tasks u := by
  have hfold : ∀ (due : List Timer) (b : Bus ν),
      Dict.get? (due.foldl (fun b timer => b.wake timer.task) b).tasks u
      = if ∃ timer ∈ due, timer.task = u then (Dict.get? b.tasks u).map woken
        else Dict.get? b.tasks u := by
    intro due
    induction due with
    | nil => exact fun b => (if_neg fun ⟨_, hmem, _⟩ => absurd hmem List.not_mem_nil).symm
    | cons timer rest ih =>
      intro b
      rw [List.foldl_cons, ih, get?_wake]
      by_cases hrest : ∃ other ∈ rest, other.task = u
      · have hmore : ∃ other ∈ timer :: rest, other.task = u :=
          hrest.imp fun other h => ⟨List.mem_cons_of_mem timer h.1, h.2⟩
        rw [if_pos hrest, if_pos hmore]
        split
        · rw [Option.map_map]
          exact congrArg (Option.map · (Dict.get? b.tasks u)) (funext woken_woken)
        · rfl
      · rw [if_neg hrest]
        refine if_congr ⟨fun hu => ⟨timer, List.mem_cons_self, hu.symm⟩, ?_⟩ rfl rfl
        rintro ⟨other, hmem, htask⟩
        rcases List.mem_cons.1 hmem with rfl | hmem
        · exact htask.symm
        · exact absurd ⟨other, hmem, htask⟩ hrest
  refine (hfold _ _).trans (if_congr ⟨?_, ?_⟩ rfl rfl)
  · rintro ⟨timer, hmem, htask⟩
    obtain ⟨hin, hdue⟩ := List.mem_filter.1 hmem
    exact ⟨timer, hin, of_decide_eq_true hdue, htask⟩
  · rintro ⟨timer, hin, hdue, htask⟩
    exact ⟨timer, List.mem_filter.2 ⟨hin, decide_eq_true hdue⟩, htask⟩

theorem timers_advanceTo (b : Bus ν) (time : Nat) :
    (b.advanceTo time).timers = b.timers.filter fun timer => time < timer.due := by
  have hfold : ∀ (due : List Timer) (b : Bus ν),
      (due.foldl (fun b timer => b.wake timer.task) b).timers = b.timers := by
    intro due
    induction due with
    | nil => exact fun _ => rfl
    | cons timer rest ih => exact fun b => (ih (b.wake timer.task)).trans (timers_wake b timer.task)
  exact hfold _ _

/-- When all tasks sleep or have ended, the clock can go to the first of the timers. -/
theorem punctual_advanceTo (hb : Punctual plan (fun _ => True) b) {time : Nat}
    (hwait : ∀ u a, Dict.get? b.tasks u = some a → (∃ rest, a = .sleeping rest) ∨
      ∃ status, a = .ended status)
    (hnow : b.now ≤ time) (hfirst : ∀ timer ∈ b.timers, time ≤ timer.due) :
    Punctual plan (fun _ => True) (b.advanceTo time) := by
  have hlater : ∀ timer : Timer, timer ∈ (b.advanceTo time).timers ↔
      timer ∈ b.timers ∧ time < timer.due := by
    intro timer
    rw [timers_advanceTo, List.mem_filter, decide_eq_true_eq]
  refine ⟨fun u _ a ha => ?_, fun timer hmem => ⟨trivial, ?_⟩⟩
  · rw [get?_advanceTo] at ha
    rw [(timely_advanceTo b time).2]
    split at ha
    · next hdue =>
      obtain ⟨timer, hmem, hle, rfl⟩ := hdue
      obtain ⟨rest, hrest⟩ := (hb.asleep timer hmem).2
      obtain ⟨due, left, -, hsame, -, hplan, htakes⟩ := hb.onTime _ trivial _ hrest
      rw [hrest] at ha
      obtain rfl : .ready rest = a := Option.some.inj ha
      have hdue : due = time :=
        (hsame timer hmem rfl).symm.trans (Nat.le_antisymm hle (hfirst timer hmem))
      exact ⟨left, hdue ▸ hplan, htakes⟩
    · next hnone =>
      have hon := hb.onTime u trivial a ha
      rcases hwait u a ha with ⟨rest, rfl⟩ | ⟨status, rfl⟩
      · obtain ⟨due, left, hmem, hsame, -, hplan⟩ := hon
        have hlt : time < due := Nat.lt_of_not_le fun hle => hnone ⟨⟨due, u⟩, hmem, hle, rfl⟩
        refine ⟨due, left, (hlater _).2 ⟨hmem, hlt⟩,
          fun timer hin => hsame timer ((hlater timer).1 hin).1, ?_, hplan⟩
        exact Nat.le_of_lt hlt
      · exact ⟨Nat.le_trans hon.1 hnow, hon.2⟩
  · obtain ⟨hin, hlt⟩ := (hlater timer).1 hmem
    obtain ⟨rest, hrest⟩ := (hb.asleep timer hin).2
    obtain ⟨due, left, -, hsame, -⟩ := hb.onTime _ trivial _ hrest
    refine ⟨rest, ?_⟩
    rw [get?_advanceTo, if_neg, hrest]
    rintro ⟨other, hother, hle, htask⟩
    have hdue := hsame timer hin rfl
    have hdue' := hsame other hother htask
    omega

/-! ## Runs -/

theorem sleeping_or_ended (htame : Tame (fun _ => True) b) (hqueue : b.queue = [])
    (hyielded : b.yielded = []) (u : TaskId) (a : Activity ν) (ha : Dict.get? b.tasks u = some a) :
    (∃ rest, a = .sleeping rest) ∨ ∃ status, a = .ended status := by
  have hwaits := htame.waits u trivial a ha
  rw [hqueue, hyielded] at hwaits
  cases a with
  | sleeping rest => exact Or.inl ⟨rest, rfl⟩
  | ended status => exact Or.inr ⟨status, rfl⟩
  | fresh | ready =>
    exact absurd hwaits.2 (by simp only [List.not_mem_nil, or_self, not_false_eq_true])
  | meeting | publishing => exact absurd hwaits id

theorem le_timer (hb : Punctual plan (fun _ => True) b) {timer : Timer} (hmem : timer ∈ b.timers) :
    b.now ≤ timer.due := by
  obtain ⟨rest, hrest⟩ := (hb.asleep timer hmem).2
  obtain ⟨due, left, -, hsame, hnow, -⟩ := hb.onTime _ trivial _ hrest
  exact (hsame timer hmem rfl).symm ▸ hnow

theorem punctual_step (htame : Tame (fun _ => True) b) (hb : Punctual plan (fun _ => True) b) :
    Punctual plan (fun _ => True) b.step := by
  cases hqueue : b.queue with
  | cons t rest =>
    rw [step_of_cons htame.running hqueue]
    exact punctual_resume (b := { b with queue := rest }) ⟨hb.onTime, hb.asleep⟩ t
  | nil =>
    rw [step_of_nil htame.running hqueue]
    unfold pass?
    split
    · next hyielded =>
      rw [earlier_none]
      cases hnext : nextDue b.timers with
      | none => exact hb
      | some time =>
        obtain ⟨hmin, hleast⟩ := List.min?_eq_some_iff.1 hnext
        obtain ⟨timer, hmem, rfl⟩ := List.mem_map.1 hmin
        refine punctual_advanceTo hb (sleeping_or_ended htame hqueue (List.isEmpty_iff.1 hyielded))
          (le_timer hb hmem) ?_
        exact fun other hother => hleast _ (List.mem_map_of_mem hother)
    · exact ⟨hb.onTime, hb.asleep⟩

theorem punctual_after (htame : Tame (fun _ => True) b) (hb : Punctual plan (fun _ => True) b)
    (k : Nat) :
    Punctual plan (fun _ => True) (after k b) := by
  induction k with
  | zero => exact hb
  | succ k ih => exact punctual_step (htame.after k) ih

/-- While the clock goes on no task ends. -/
theorem still_or_same (b : Bus ν) : b.step.now = b.now ∨ ∀ u, b.step.statusOf u = b.statusOf u := by
  unfold step
  split
  · exact Or.inl rfl
  · split
    · next t rest _ => exact Or.inl (still_resume { b with queue := rest } t).now
    · unfold pass?
      split
      · rw [earlier_none]
        cases nextDue b.timers with
        | none => exact Or.inl rfl
        | some time => exact Or.inr (statusOf_advanceTo b time)
      · exact Or.inl rfl

theorem known_after (htame : Tame (fun _ => True) b) (ht : (Dict.get? b.tasks t).isSome) (k : Nat) :
    (Dict.get? (after k b).tasks t).isSome := by
  induction k with
  | zero => exact ht
  | succ k ih =>
    rcases onward_or_rest (htame.after k) rfl with ⟨hsame, -⟩ | ⟨honward, -⟩
    · rw [after, hsame]
      exact ih
    · exact honward.kept t ih

theorem OnTime.le {now : Nat} {timers : List Timer} {a : Activity ν}
    (h : OnTime plan now timers u a) (ha : ∀ status, a ≠ .ended status) : now ≤ (plan u).1 := by
  cases a with
  | fresh | ready =>
    obtain ⟨left, hplan, -⟩ := h
    omega
  | sleeping =>
    obtain ⟨due, left, -, -, hnow, hplan, -⟩ := h
    omega
  | ended status => exact absurd rfl (ha status)
  | meeting | publishing => exact absurd h id

theorem ended_of_statusOf {status : Status} (h : b.statusOf t = some status) :
    Dict.get? b.tasks t = some (.ended status) := by
  unfold statusOf at h
  split at h
  · next ha => rw [ha, Option.some.inj h]
  · cases h

/-- A task on time that has not ended finishes as planned. -/
theorem finishes_on_time (htame : Tame (fun _ => True) b) (hb : Punctual plan (fun _ => True) b)
    (ht : (Dict.get? b.tasks t).isSome) (hunended : b.statusOf t = none) :
    Finishes b t (some (plan t)) := by
  obtain ⟨time, status, k, hstatus, hnow, hbefore⟩ := exists_finishes htame ht
  obtain ⟨hover, hplanned⟩ :=
    (punctual_after htame hb k).onTime t trivial _ (ended_of_statusOf hstatus)
  have htime : time = (plan t).1 := by
    cases k with
    | zero =>
      change b.statusOf t = some status at hstatus
      rw [hunended] at hstatus
      cases hstatus
    | succ k =>
      -- One step before it has not ended, and the step that ends it takes no time.
      have hnone := hbefore k (Nat.lt_succ_self k)
      obtain ⟨a, ha⟩ := Option.isSome_iff_exists.1 (known_after htame ht k)
      have hle : (after k b).now ≤ (plan t).1 := by
        refine ((punctual_after htame hb k).onTime t trivial a ha).le ?_
        rintro status' rfl
        unfold statusOf at hnone
        rw [ha] at hnone
        cases hnone
      have hstill : (after (k + 1) b).now = (after k b).now := by
        refine (still_or_same (after k b)).resolve_right fun hsame => ?_
        have hsame : (after (k + 1) b).statusOf t = (after k b).statusOf t := hsame t
        rw [hstatus, hnone] at hsame
        cases hsame
      omega
  have hplan : plan t = (time, status) := Prod.ext htime.symm hplanned.symm
  rw [hplan]
  exact ⟨k, hstatus, hnow, hbefore⟩

/-! ## A publish on an idle bus -/

/-- All tasks that there were have ended. -/
structure Idle (b : Bus ν) : Prop where
  running : b.aborted = false
  known : ∀ u a, Dict.get? b.tasks u = some a → u < b.spawned
  ended : ∀ u a, Dict.get? b.tasks u = some a → ∃ status, a = .ended status
  timers : b.timers = []

theorem Idle.tame (hb : Idle b) : Tame (fun _ => True) b := by
  refine ⟨hb.running, hb.known, fun u _ a ha => ?_⟩
  obtain ⟨status, rfl⟩ := hb.ended u a ha
  trivial

variable {topic : String} {payload : Json.Value}

theorem punctual_begun (hb : Idle b) (htame : Tame (fun _ => True) (b.begun topic payload).2)
    {own : Nat → Nat × Status}
    (htakes : ∀ (i : Nat) (name : String) (f : Handler ν),
      (b.registry.handlers topic)[i]? = some (name, f) →
      (f (b.envelope topic payload)).Takes (own i).1 (own i).2)
    (hplan : ∀ u, plan u = if u < b.spawned then (0, (b.statusOf u).getD .completed)
      else (b.now + (own (u - b.spawned)).1, (own (u - b.spawned)).2)) :
    Punctual plan (fun _ => True) (b.begun topic payload).2 := by
  obtain ⟨tasks, heq⟩ := b.begun_eq topic payload
  refine ⟨fun u _ a ha => ?_, fun timer hmem => ?_⟩
  · rw [now_begun]
    by_cases hu : u < b.spawned
    · have hold : Dict.get? (b.begun topic payload).2.tasks u = Dict.get? b.tasks u :=
        get?_spawn_of_ne _ _ fun i _ => Nat.ne_of_lt (Nat.lt_of_lt_of_le hu (Nat.le_add_right _ i))
      rw [hold] at ha
      obtain ⟨status, rfl⟩ := hb.ended u a ha
      have hstatus : b.statusOf u = some status := by
        unfold statusOf
        rw [ha]
      refine ⟨?_, ?_⟩ <;> rw [hplan, if_pos hu]
      · exact Nat.zero_le _
      · rw [hstatus]
        rfl
    · obtain ⟨i, rfl⟩ := Nat.exists_eq_add_of_le (Nat.le_of_not_lt hu)
      have hlt := htame.known _ a ha
      rw [heq] at hlt
      have hi : i < (b.registry.handlers topic).length := Nat.lt_of_add_lt_add_left hlt
      have htask := (task_begun payload (List.getElem?_eq_getElem hi)).2
      rw [htask] at ha
      rw [← Option.some.inj ha]
      have hown := htakes i _ _ (List.getElem?_eq_getElem hi)
      refine ⟨(own i).1, ?_, ?_⟩ <;> rw [hplan, if_neg hu, Nat.add_sub_cancel_left]
      exact hown
  · rw [heq] at hmem
    exact absurd (hb.timers ▸ hmem) List.not_mem_nil

/-- On an idle bus each handler finishes when its own time is over. -/
theorem finishes_of_takes (hb : Idle b) {own : Nat → Nat × Status}
    (htakes : ∀ (i : Nat) (name : String) (f : Handler ν),
      (b.registry.handlers topic)[i]? = some (name, f) →
      (f (b.envelope topic payload)).Takes (own i).1 (own i).2)
    {i : Nat} (hi : i < (b.registry.handlers topic).length) :
    Finishes (b.begun topic payload).2 (b.spawned + i) (some (b.now + (own i).1, (own i).2)) := by
  have htame : Tame (fun _ => True) (b.begun topic payload).2 := by
    refine hb.tame.begun fun handler hmem => ?_
    obtain ⟨j, hj⟩ := List.getElem?_of_mem hmem
    exact (htakes j _ _ hj).ends
  have hpunctual := punctual_begun hb htame htakes fun _ => rfl
  have htask := (task_begun payload (List.getElem?_eq_getElem hi)).2
  have hunended : (b.begun topic payload).2.statusOf (b.spawned + i) = none := by
    unfold statusOf
    rw [htask]
  have hfinish := finishes_on_time htame hpunctual (by rw [htask]; rfl) hunended
  rw [if_neg (Nat.not_lt_of_le (Nat.le_add_right _ _)), Nat.add_sub_cancel_left] at hfinish
  exact hfinish

/-- How a handler ends that takes so long is told if that is before the timeout. -/
theorem endedBy_dueAt (b : Bus ν) (timeout : Option Duration) (time : Nat) (status : Status) :
    endedBy (b.dueAt timeout) (some (b.now + time, status))
      = if timeout.all (time < ·.nanoseconds) then some status else none := by
  cases timeout with
  | none => rfl
  | some t =>
    show (if decide (b.now + t.nanoseconds ≤ b.now + time) then none else some status)
      = if decide (time < t.nanoseconds) then some status else none
    by_cases h : time < t.nanoseconds
    · rw [if_neg (by simpa using h), if_pos (decide_eq_true h)]
    · rw [if_pos (by simpa using h), if_neg (by simpa using h)]

/-- On an idle bus handlers that take their own times are reported as they end if their time is less
than the timeout, and else as timed out, whatever the others do. -/
theorem reports_in_own_time (hb : Idle b) {timeout : Option Duration}
    (hne : b.registry.handlers topic ≠ []) (hin : b.InTime timeout) {own : Nat → Nat × Status}
    (htakes : ∀ (i : Nat) (name : String) (f : Handler ν),
      (b.registry.handlers topic)[i]? = some (name, f) →
        (f (b.envelope topic payload)).Takes (own i).1 (own i).2)
    (hapart : ∀ i < (b.names topic).length, ∀ t, timeout = some t → (own i).1 ≠ t.nanoseconds) :
    ∃ enough, ∀ turns, enough ≤ turns → ∃ b' : Bus ν,
      b.publish turns topic payload timeout
          = (.report ⟨topic, (b.envelope topic payload).id, (b.names topic).mapIdx fun i name =>
                ⟨name, if timeout.all ((own i).1 < ·.nanoseconds) then (own i).2 else .timedOut⟩⟩,
              b'.stop (unended b'.statusOf (b.begun topic payload).1)) ∧
        ReturnsAt (b.dueAt timeout) (List.range (b.names topic).length)
          (fun i => some (b.now + (own i).1, (own i).2)) b'.now := by
  have htimely : Timely b := fun timer hmem => absurd (hb.timers ▸ hmem) List.not_mem_nil
  have hends : ∀ handler ∈ b.registry.handlers topic,
      (handler.2 (b.envelope topic payload)).Ends := by
    intro handler hmem
    obtain ⟨i, hi⟩ := List.getElem?_of_mem hmem
    exact (htakes i _ _ hi).ends
  let finish (i : Nat) : Option (Nat × Status) := some (b.now + (own i).1, (own i).2)
  have hfinish : ∀ i < (b.names topic).length,
      Finishes (b.begun topic payload).2 (b.spawned + i) (finish i) :=
    fun i hi => finishes_of_takes hb htakes (length_names b topic ▸ hi)
  have hlate : ∀ i < (b.names topic).length, ∀ time status, finish i = some (time, status) →
      b.dueAt timeout ≠ some time := by
    intro i hi time status htime hdue
    obtain ⟨t, rfl, hsum⟩ := Option.map_eq_some_iff.1 hdue
    have heq : b.now + (own i).1 = time := (Prod.mk.inj (Option.some.inj htime)).1
    exact hapart i hi t rfl (by omega)
  have hgoes : ∀ k, (after k (b.begun topic payload).2).aborted = false :=
    fun k => ((hb.tame.begun hends).after k).running
  have htold : ∀ i, (endedBy (b.dueAt timeout) (finish i)).getD .timedOut
      = if timeout.all ((own i).1 < ·.nanoseconds) then (own i).2 else .timedOut := by
    intro i
    rw [endedBy_dueAt]
    split <;> rfl
  obtain ⟨enough, hpublish⟩ := publish_of_finishes htimely hb.running hne hin hfinish hlate
    (fun _ _ _ => rfl) fun k _ => hgoes k
  refine ⟨enough, fun turns hturns => ?_⟩
  obtain ⟨b', hreport, -, -, hreturns⟩ := hpublish turns hturns
  simp only [htold] at hreport
  exact ⟨b', hreport, hreturns⟩

end Bus

end Larder.Events
