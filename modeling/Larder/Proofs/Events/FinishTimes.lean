import Larder.Proofs.Events.Waiting

/-!
Waiting for tasks that end at times of their own.

On the bus on its own each task ends at a time and in a way of its own, or never (`Finishes`); tasks
that end by themselves do so at some time (`exists_finishes`).  However the times lie, waiting for
such tasks comes back at the last of the times, if they are all before the deadline, and else at the
deadline, and those have ended by then whose times are before it (`exists_reports`).
-/

namespace Larder.Events.Bus

open Dispatch (isOver isOver_mono)

variable {ν : Type} {b : Bus ν} {t : TaskId}

/-! ## When tasks end -/

/-- When and how a task ends on the bus on its own, or that it never does: it is still running
however late it gets. -/
def Finishes (b : Bus ν) (t : TaskId) : Option (Nat × Status) → Prop
  | some (time, status) =>
    ∃ k, (after k b).statusOf t = some status ∧ (after k b).now = time ∧
      ∀ j < k, (after j b).statusOf t = none
  | none =>
    (∀ k, (after k b).statusOf t = none) ∧ ∀ time, ∃ k, time ≤ (after k b).now ∨ AtRest (after k b)

/-- How a task that ends so has ended before the deadline, if it has. -/
def endedBy (deadline : Option Nat) (finish : Option (Nat × Status)) : Option Status :=
  finish.bind fun f => if isOver deadline f.1 then none else some f.2

theorem endedBy_eq_none_iff {deadline : Option Nat} {finish : Option (Nat × Status)} :
    endedBy deadline finish = none ↔ ∀ time status, finish = some (time, status) →
    isOver deadline time = true := by
  cases finish with
  | none => exact iff_of_true rfl fun time status h => absurd h.symm (Option.some_ne_none _)
  | some f =>
    rw [endedBy, Option.bind_some, ite_eq_left_iff]
    constructor
    · intro h time status heq
      rw [Option.some.inj heq] at h
      by_contra hover
      cases h hover
    · exact fun h hover => absurd (h f.1 f.2 rfl) hover

theorem endedBy_eq_some_iff {deadline : Option Nat} {finish : Option (Nat × Status)}
    {status : Status} :
    endedBy deadline finish = some status ↔ ∃ time, finish = some (time, status) ∧
    isOver deadline time = false := by
  cases finish with
  | none => exact ⟨fun h => (by cases h), fun ⟨_, h, _⟩ => (by cases h)⟩
  | some f =>
    rw [endedBy, Option.bind_some]
    constructor
    · intro h
      split at h
      · cases h
      · next hover => exact ⟨f.1, by rw [← Option.some.inj h], Bool.eq_false_iff.2 hover⟩
    · rintro ⟨time, heq, hover⟩
      rw [Option.some.inj heq]
      dsimp only
      rw [hover]
      rfl

/-- A task that finishes has ended from one step on, which is made at its time. -/
theorem exists_last_step (hb : Timely b) (ht : t < b.spawned) {time : Nat} {status : Status}
    (h : Finishes b t (some (time, status))) :
    ∃ k, (after k b).now = time ∧
      ∀ j, (after j b).statusOf t = if k ≤ j then some status else none := by
  obtain ⟨k, hstatus, hnow, hfirst⟩ := h
  refine ⟨k, hnow, fun j => ?_⟩
  split
  · next hle => exact statusOf_after hb hle ht hstatus
  · next hlt => exact hfirst j (Nat.lt_of_not_le hlt)

/-- There is but one time and one way. -/
theorem finishes_unique {finish finish' : Option (Nat × Status)} (h : Finishes b t finish)
    (h' : Finishes b t finish') :
    finish = finish' := by
  have hnever : ∀ {f}, Finishes b t none → ¬ Finishes b t (some f) := by
    rintro f ⟨hnone, -⟩ ⟨k, hstatus, -⟩
    rw [hnone k] at hstatus
    cases hstatus
  have hfirst : ∀ {k k' status}, (after k b).statusOf t = some status →
      (∀ j < k', (after j b).statusOf t = none) → k' ≤ k := by
    intro k k' status hstatus hnone
    refine Nat.le_of_not_lt fun hlt => ?_
    rw [hnone k hlt] at hstatus
    cases hstatus
  cases finish with
  | none =>
    cases finish' with
    | none => rfl
    | some f' => exact absurd h' (hnever h)
  | some f =>
    cases finish' with
    | none => exact absurd h (hnever h')
    | some f' =>
      obtain ⟨k, hstatus, hnow, hnone⟩ := h
      obtain ⟨k', hstatus', hnow', hnone'⟩ := h'
      obtain rfl : k = k' := Nat.le_antisymm (hfirst hstatus' hnone) (hfirst hstatus hnone')
      rw [hstatus] at hstatus'
      exact congrArg some (Prod.ext (hnow.symm.trans hnow') (Option.some.inj hstatus'))

/-! ## Tasks that end by themselves -/

theorem after_succ (k : Nat) (b : Bus ν) : after (k + 1) b = after k b.step := by
  induction k with
  | zero => rfl
  | succ k ih => rw [after, ih, after]

/-- Where all tasks end by themselves, a step brings the bus on, unless they have ended and nothing
is left to happen. -/
theorem onward_or_rest (hb : Tame (fun _ => True) b) {n : Nat} (hn : b.spawned = n) :
    (b.step = b ∧ ∀ u, (Dict.get? b.tasks u).isSome → (b.statusOf u).isSome) ∨
      Onward b b.step ∧ b.step.measure n < b.measure n := by
  cases hqueue : b.queue with
  | nil =>
    rw [step_of_nil hb.running hqueue]
    rcases pass?_cases hb hqueue none with ⟨hpass, hended⟩ | ⟨b', hpass, honward, hover | hless⟩
    · rw [hpass]
      exact Or.inl ⟨rfl, hended⟩
    · cases hover
    · rw [hpass]
      exact Or.inr ⟨honward, hless n⟩
  | cons t rest =>
    rw [step_of_cons hb.running hqueue]
    exact Or.inr (onward_resume hb hqueue hn)

theorem Tame.after (hb : Tame (fun _ => True) b) (k : Nat) :
    Tame (fun _ => True) (Bus.after k b) := by
  induction k with
  | zero => exact hb
  | succ k ih =>
    rw [Bus.after]
    rcases onward_or_rest ih rfl with ⟨hsame, -⟩ | ⟨honward, -⟩
    · rwa [hsame]
    · exact honward.tame

theorem exists_ended (hb : Tame (fun _ => True) b) {n : Nat} (hn : b.spawned = n) :
    ∃ k, ∀ u, (Dict.get? b.tasks u).isSome → ((after k b).statusOf u).isSome := by
  induction b using measure_induction n with
  | step b ih =>
    rcases onward_or_rest hb hn with ⟨-, hended⟩ | ⟨honward, hless⟩
    · exact ⟨0, hended⟩
    · obtain ⟨k, hended⟩ := ih b.step hless honward.tame (honward.spawned.trans hn)
      refine ⟨k + 1, fun u hu => ?_⟩
      rw [after_succ]
      exact hended u (honward.kept u hu)

/-- Tasks that end by themselves finish, each at its time and in its way. -/
theorem exists_finishes (hb : Tame (fun _ => True) b) (ht : (Dict.get? b.tasks t).isSome) :
    ∃ time status, Finishes b t (some (time, status)) := by
  obtain ⟨k, hended⟩ := exists_ended hb rfl
  have hexists : ∃ k, ((after k b).statusOf t).isSome := ⟨k, hended t ht⟩
  obtain ⟨status, hstatus⟩ := Option.isSome_iff_exists.1 (Nat.find_spec hexists)
  refine ⟨_, status, Nat.find hexists, hstatus, rfl, fun j hj => ?_⟩
  exact Option.not_isSome_iff_eq_none.1 (Nat.find_min hexists hj)

/-! ## Until it is quiet -/

/-- Unless it is quiet until a time, a step does not get there. -/
theorem now_step_lt {due : Nat} (hnow : b.now < due) (hquiet : ¬ QuietUntil due b) :
    b.step.now < due := by
  unfold step
  split
  · exact hnow
  · split
    · next t rest _ =>
      rw [(still_resume { b with queue := rest } t).now]
      exact hnow
    · next hqueue =>
      unfold pass?
      split
      · next hyielded =>
        rw [earlier_none]
        cases hnext : nextDue b.timers with
        | none => exact hnow
        | some time =>
          show (b.advanceTo time).now < due
          rw [(timely_advanceTo b time).2]
          refine Nat.lt_of_not_le fun hle => hquiet ⟨hqueue, List.isEmpty_iff.1 hyielded, ?_⟩
          rw [hnext]
          exact congrArg some (Nat.min_eq_right hle)
      · exact hnow

theorem quiet_of_rest {due : Nat} (hrest : AtRest b) : QuietUntil due b := by
  obtain ⟨hqueue, hpass⟩ := hrest
  unfold pass? at hpass
  split at hpass
  · next hyielded =>
    rw [earlier_none, Option.map_eq_none_iff] at hpass
    exact ⟨hqueue, List.isEmpty_iff.1 hyielded, by rw [hpass]; rfl⟩
  · cases hpass

/-- When a task does not end before a time, the bus on its own gets to that time or comes to
rest. -/
theorem gets_late {finish : Option (Nat × Status)} (h : Finishes b t finish) {due : Nat}
    (hlate : endedBy (some due) finish = none) : ∃ k, due ≤ (after k b).now ∨
    AtRest (after k b) := by
  cases finish with
  | none => exact h.2 due
  | some f =>
    obtain ⟨k, -, hnow, -⟩ := h
    exact ⟨k, Or.inl (hnow ▸ of_decide_eq_true (endedBy_eq_none_iff.1 hlate f.1 f.2 rfl))⟩

/-- A bus that gets to a time or comes to rest is quiet until then at some point before. -/
theorem exists_quiet {due : Nat} (hnow : b.now < due)
    (h : ∃ k, due ≤ (after k b).now ∨ AtRest (after k b)) :
    ∃ last, (after last b).now < due ∧ QuietUntil due (after last b) ∧ ∀ j < last,
    ¬ QuietUntil due (after j b) := by
  have hbefore : ∀ k, (∀ j < k, ¬ QuietUntil due (after j b)) → (after k b).now < due := by
    intro k
    induction k with
    | zero => exact fun _ => hnow
    | succ k ih =>
      exact fun hnot => now_step_lt (ih fun j hj => hnot j (by omega)) (hnot k (Nat.lt_succ_self k))
  have hquiet : ∃ k, QuietUntil due (after k b) := by
    by_contra hnone
    have hnot : ∀ k, ¬ QuietUntil due (after k b) := fun k hk => hnone ⟨k, hk⟩
    obtain ⟨k, hlate | hrest⟩ := h
    · exact absurd hlate (Nat.not_le_of_lt (hbefore k fun j _ => hnot j))
    · exact hnot k (quiet_of_rest hrest)
  classical
  refine ⟨Nat.find hquiet, hbefore _ fun j hj => Nat.find_min hquiet hj, Nat.find_spec hquiet,
    fun j hj => ?_⟩
  exact Nat.find_min hquiet hj

/-- Once it is quiet until a time, the bus stays as it is or the next step gets there. -/
theorem after_of_quiet {due last k : Nat} (hb : Timely b)
    (hrunning : (after last b).aborted = false) (hquiet : QuietUntil due (after last b))
    (hk : last < k) : after k b = after last b ∨ due ≤ (after k b).now := by
  obtain ⟨hqueue, hyielded, hnext⟩ := hquiet
  have hstep : (after (last + 1) b)
      = ((nextDue (after last b).timers).map (after last b).advanceTo).getD (after last b) := by
    rw [after, step_of_nil hrunning hqueue, pass?, if_pos (List.isEmpty_iff.2 hyielded),
      earlier_none]
  cases hdue : nextDue (after last b).timers with
  | none =>
    refine Or.inl (after_of_rest ⟨hqueue, ?_⟩ (Nat.le_of_lt hk))
    rw [pass?, if_pos (List.isEmpty_iff.2 hyielded), hdue]
    rfl
  | some time =>
    right
    rw [hdue] at hstep hnext
    have hmin : min time due = due := Option.some.inj hnext
    have hnow : (after (last + 1) b).now = time := by
      rw [hstep]
      exact (timely_advanceTo _ time).2
    have hle : (after (last + 1) b).now ≤ (after k b).now := now_le_after hb hk
    omega

/-! ## Waiting with finish times -/

/-- A state on the way of the bus on its own: after some steps, or set forward to a time until which
it is quiet. -/
def OnWay (b b' : Bus ν) : Prop :=
  ∃ k, b' = after k b ∨ ∃ due, QuietUntil due (after k b) ∧ b' = (after k b).advanceTo due

/-- A publish that waits for tasks with these finish times comes back at the last of them, if all
are before the deadline, and else at the deadline. -/
structure ReturnsAt (deadline : Option Nat) (tasks : List TaskId)
    (finish : TaskId → Option (Nat × Status)) (time : Nat) : Prop where
  last : (∀ t ∈ tasks, (endedBy deadline (finish t)).isSome) →
    (∃ t ∈ tasks, ∃ status, finish t = some (time, status)) ∧
      ∀ t ∈ tasks, ∀ time' status, finish t = some (time', status) → time' ≤ time
  deadline : (∃ t ∈ tasks, endedBy deadline (finish t) = none) → deadline = some time

section Tasks

variable {tasks : List TaskId} {finish : TaskId → Option (Nat × Status)} {deadline : Option Nat}
  (hb : Timely b) (hknown : ∀ t ∈ tasks, t < b.spawned)
  (hfinish : ∀ t ∈ tasks, Finishes b t (finish t))
include hb hknown hfinish

/-- When all tasks end before the deadline, there is a first step after which all have, and it is
made at the last of their times. -/
theorem exists_last (hne : tasks ≠ []) (hend : ∀ t ∈ tasks, (endedBy deadline (finish t)).isSome) :
    ∃ last, (∀ t ∈ tasks, (after last b).statusOf t = endedBy deadline (finish t)) ∧
      (∀ j < last, ∃ t ∈ tasks, (after j b).statusOf t = none) ∧
      (∃ t ∈ tasks, ∃ status, finish t = some ((after last b).now, status)) ∧
      ∀ t ∈ tasks, ∀ time status, finish t = some (time, status) → time ≤ (after last b).now := by
  have hstep : ∀ t ∈ tasks, ∃ k, (∃ status, finish t = some ((after k b).now, status)) ∧
      ∀ j, (after j b).statusOf t = if k ≤ j then endedBy deadline (finish t) else none := by
    intro t hmem
    obtain ⟨status, hstatus⟩ := Option.isSome_iff_exists.1 (hend t hmem)
    obtain ⟨time, htime, -⟩ := endedBy_eq_some_iff.1 hstatus
    obtain ⟨k, hnow, hends⟩ := exists_last_step hb (hknown t hmem) (htime ▸ hfinish t hmem)
    exact ⟨k, ⟨status, by rw [htime, hnow]⟩, hstatus ▸ hends⟩
  choose! step htime hends using hstep
  -- The first step after which all tasks have ended is the last of the steps at which they end.
  obtain ⟨u, hu, hlast⟩ :=
    tasks.toFinset.exists_max_image step (List.toFinset_nonempty_iff tasks |>.2 hne)
  simp only [List.mem_toFinset] at hu hlast
  refine ⟨step u, fun t hmem => ?_, fun j hj => ⟨u, hu, ?_⟩, ⟨u, hu, htime u hu⟩,
    fun t hmem time status heq => ?_⟩
  · rw [hends t hmem, if_pos (hlast t hmem)]
  · rw [hends u hu, if_neg (Nat.not_le_of_lt hj)]
  · obtain ⟨status', heq'⟩ := htime t hmem
    rw [heq'] at heq
    rw [← (Prod.mk.inj (Option.some.inj heq)).1]
    exact now_le_after hb (hlast t hmem)

/-- When it gets quiet until the deadline, those tasks have ended that end before it. -/
theorem statusOf_quiet {due last : Nat} (hrunning : (after last b).aborted = false)
    (hnow : (after last b).now < due) (hquiet : QuietUntil due (after last b)) {t : TaskId}
    (hmem : t ∈ tasks)
    (hapart : ∀ status, finish t ≠ some (due, status)) :
    (after last b).statusOf t = endedBy (some due) (finish t) := by
  have hfin := hfinish t hmem
  cases htime : finish t with
  | none =>
    rw [htime] at hfin
    exact hfin.1 last
  | some f =>
    obtain ⟨time, status⟩ := f
    rw [htime] at hfin
    obtain ⟨k, hk, hends⟩ := exists_last_step hb (hknown t hmem) hfin
    have hne : time ≠ due := fun heq => hapart status (heq ▸ htime)
    show _ = if isOver (some due) time then none else some status
    rw [hends]
    by_cases hle : k ≤ last
    · have hbefore : (after k b).now ≤ (after last b).now := now_le_after hb hle
      rw [if_pos hle, if_neg]
      exact fun hover => Nat.not_le_of_lt (by omega : time < due) (of_decide_eq_true hover)
    · rw [if_neg hle, if_pos]
      refine decide_eq_true ?_
      rcases after_of_quiet hb hrunning hquiet (Nat.lt_of_not_le hle) with hsame | hlate
      · -- Nothing happens any more, so the task has ended already.
        have hnone := hends last
        rw [← hsame, hends, if_pos (Nat.le_refl k), if_neg hle] at hnone
        cases hnone
      · exact hk ▸ hlate

end Tasks

section Wait

variable {start : Dispatch} {finish : TaskId → Option (Nat × Status)}

/-- How a waiting ends: at a point on the way of the bus on its own, at which those handlers have
ended that end before the deadline. -/
structure Reports (start : Dispatch) (finish : TaskId → Option (Nat × Status))
    (b b' : Bus ν) : Prop where
  onWay : OnWay b b'
  status : ∀ handler ∈ start.pending,
    b'.statusOf handler.2 = endedBy start.deadline (finish handler.2)
  returns : ReturnsAt start.deadline (start.pending.map Prod.snd) finish b'.now

/-- A waiting that tells of a handler that its time was over comes back at the deadline. -/
theorem returnsAt_of_late
    (hlate : ∃ handler ∈ start.pending, endedBy start.deadline (finish handler.2) = none)
    {due : Nat} (hdeadline : start.deadline = some due) :
    ReturnsAt start.deadline (start.pending.map Prod.snd) finish due where
  last hend := by
    obtain ⟨handler, hin, hnone⟩ := hlate
    have hsome := hend handler.2 (List.mem_map_of_mem hin)
    rw [hnone] at hsome
    cases hsome
  deadline _ := hdeadline

variable (hb : Timely b)
  (hfinish : ∀ handler ∈ start.pending, Finishes b handler.2 (finish handler.2))
  (houtcomes : start.outcomes = [])
include hb hfinish houtcomes

/-- The deadline is there at once. -/
theorem reports_at_start (hrunning : b.aborted = false)
    (hfresh : ∀ handler ∈ start.pending, b.statusOf handler.2 = none)
    (hdeadline : start.deadline = some b.now)
    (hlate : ∃ handler ∈ start.pending, endedBy start.deadline (finish handler.2) = none) :
    ∃ enough, ∀ turns, enough ≤ turns → ∃ b', Reports start finish b b' ∧
      await turns start b
        = (.report (reportOn start b'), b'.stop (unended b'.statusOf start.pending)) := by
  have hover : isOver start.deadline b.now = true := by
    rw [hdeadline]
    exact decide_eq_true (Nat.le_refl b.now)
  refine ⟨1, fun turns hturns =>
    ⟨b, ⟨⟨0, Or.inl rfl⟩, fun handler hin => ?_, returnsAt_of_late hlate hdeadline⟩, ?_⟩⟩
  · rw [hfresh handler hin, eq_comm, endedBy_eq_none_iff]
    intro time status htime
    obtain ⟨k, -, hnow, -⟩ : Finishes b handler.2 (some (time, status)) :=
      htime ▸ hfinish handler hin
    rw [hdeadline, ← hnow]
    exact decide_eq_true (now_le_after hb (Nat.zero_le k))
  · obtain ⟨turns, rfl⟩ : ∃ k, turns = k + 1 := ⟨turns - 1, by omega⟩
    exact await_of_late hrunning hover (tells_start houtcomes) turns

variable (hknown : ∀ handler ∈ start.pending, handler.2 < b.spawned)
  (hgoes : ∀ k, isOver start.deadline (after k b).now = false → (after k b).aborted = false)
include hknown hgoes

theorem reports_when_all_end (hne : start.pending ≠ [])
    (hend : ∀ handler ∈ start.pending, (endedBy start.deadline (finish handler.2)).isSome) :
    ∃ enough, ∀ turns, enough ≤ turns → ∃ b', Reports start finish b b' ∧
      await turns start b
        = (.report (reportOn start b'), b'.stop (unended b'.statusOf start.pending)) := by
  have htasks : start.pending.map Prod.snd ≠ [] := fun h => hne (List.map_eq_nil_iff.1 h)
  have hends : ∀ t ∈ start.pending.map Prod.snd, (endedBy start.deadline (finish t)).isSome :=
    List.forall_mem_map.2 hend
  obtain ⟨last, hended, hfirst, ⟨t, hmem, status, htime⟩, hle⟩ := exists_last hb
    (List.forall_mem_map.2 hknown) (List.forall_mem_map.2 hfinish) htasks hends
  have hall : ∀ handler ∈ start.pending, ((after last b).statusOf handler.2).isSome := by
    intro handler hin
    rw [hended handler.2 (List.mem_map_of_mem hin)]
    exact hend handler hin
  have hrunning : ∀ j < last, ∃ handler ∈ start.pending, (after j b).statusOf handler.2 = none := by
    intro j hj
    obtain ⟨u, hu, hnone⟩ := hfirst j hj
    obtain ⟨handler, hin, rfl⟩ := List.mem_map.1 hu
    exact ⟨handler, hin, hnone⟩
  have hover : isOver start.deadline (after last b).now = false := by
    obtain ⟨status', hstatus'⟩ := Option.isSome_iff_exists.1 (hends t hmem)
    obtain ⟨time', htime', hbefore⟩ := endedBy_eq_some_iff.1 hstatus'
    rw [htime'] at htime
    rwa [← (Prod.mk.inj (Option.some.inj htime)).1]
  refine ⟨last + 1, fun turns hturns => ?_⟩
  have henough : last - 0 < turns := by omega
  obtain ⟨k, hk, hnow, hawait⟩ := await_until_all hb hknown hgoes hall hrunning hover henough
    (Or.inl (Nat.zero_le last)) (tells_start (b := after 0 b) houtcomes)
  have hstatus : ∀ handler ∈ start.pending,
      (after k b).statusOf handler.2 = endedBy start.deadline (finish handler.2) := by
    intro handler hin
    obtain ⟨status', hstatus'⟩ := Option.isSome_iff_exists.1 (hend handler hin)
    rw [hstatus']
    exact statusOf_after hb hk (hknown handler hin)
      ((hended _ (List.mem_map_of_mem hin)).trans hstatus')
  have hnone : unended (after k b).statusOf start.pending = [] := by
    refine List.map_eq_nil_iff.2 (List.filter_eq_nil_iff.2 fun handler hin hisNone => ?_)
    rw [hstatus handler hin, Option.isNone_iff_eq_none] at hisNone
    have hsome := hend handler hin
    rw [hisNone] at hsome
    cases hsome
  refine ⟨after k b, ⟨⟨k, Or.inl rfl⟩, hstatus, fun _ => ?_, fun ⟨u, hu, hlate⟩ => ?_⟩, ?_⟩
  · rw [hnow]
    exact ⟨⟨t, hmem, status, htime⟩, hle⟩
  · have hsome := hends u hu
    rw [hlate] at hsome
    cases hsome
  · rw [hnone, stop_nil]
    exact hawait

theorem reports_at_deadline {due : Nat} (hdeadline : start.deadline = some due) (hdue : b.now < due)
    (hapart : ∀ handler ∈ start.pending, ∀ status, finish handler.2 ≠ some (due, status))
    (hlate : ∃ handler ∈ start.pending, endedBy start.deadline (finish handler.2) = none) :
    ∃ enough, ∀ turns, enough ≤ turns → ∃ b', Reports start finish b b' ∧
      await turns start b
        = (.report (reportOn start b'), b'.stop (unended b'.statusOf start.pending)) := by
  obtain ⟨handler, hmem, hnone⟩ := hlate
  obtain ⟨last, hnow, hquiet, hfirst⟩ :=
    exists_quiet hdue (gets_late (hfinish handler hmem) (hdeadline ▸ hnone))
  have hbefore : isOver start.deadline (after last b).now = false := by
    rw [hdeadline]
    exact decide_eq_false (Nat.not_le_of_lt hnow)
  have hstatus : ∀ handler ∈ start.pending,
      (after last b).statusOf handler.2 = endedBy start.deadline (finish handler.2) := by
    intro handler hin
    rw [hdeadline]
    exact statusOf_quiet hb (List.forall_mem_map.2 hknown) (List.forall_mem_map.2 hfinish)
      (hgoes last hbefore)
      hnow hquiet (List.mem_map_of_mem hin) (hapart handler hin)
  have hsame : ((after last b).advanceTo due).statusOf = (after last b).statusOf :=
    funext (statusOf_advanceTo _ due)
  have hstill : ∃ handler ∈ start.pending, (after last b).statusOf handler.2 = none :=
    ⟨handler, hmem, (hstatus handler hmem).trans hnone⟩
  refine ⟨last + 2, fun turns hturns =>
    ⟨(after last b).advanceTo due, ⟨⟨last, Or.inr ⟨due, hquiet, rfl⟩⟩, ?_, ?_⟩, ?_⟩⟩
  · rw [hsame]
    exact hstatus
  · rw [(timely_advanceTo _ due).2]
    exact returnsAt_of_late ⟨handler, hmem, hnone⟩ hdeadline
  · rw [hsame]
    exact await_until_deadline hb hknown hgoes hdeadline hnow hquiet hfirst hstill (by omega)
      (Nat.zero_le last)
      (tells_start (b := after 0 b) houtcomes)

/-- However the times lie, the waiting ends so, if none of them is just the deadline, and with no
deadline if all tasks end. -/
theorem exists_reports (hrunning : b.aborted = false)
    (hfresh : ∀ handler ∈ start.pending, b.statusOf handler.2 = none) (hne : start.pending ≠ [])
    (hdue : ∀ due, start.deadline = some due → b.now ≤ due)
    (hapart : ∀ handler ∈ start.pending, ∀ time status, finish handler.2 = some (time, status) →
      start.deadline ≠ some time)
    (hall : start.deadline = none → ∀ handler ∈ start.pending, (finish handler.2).isSome) :
    ∃ enough, ∀ turns, enough ≤ turns → ∃ b', Reports start finish b b' ∧
      await turns start b
        = (.report (reportOn start b'), b'.stop (unended b'.statusOf start.pending)) := by
  by_cases hend : ∀ handler ∈ start.pending, (endedBy start.deadline (finish handler.2)).isSome
  · exact reports_when_all_end hb hfinish houtcomes hknown hgoes hne hend
  · simp only [not_forall, Option.not_isSome_iff_eq_none] at hend
    obtain ⟨handler, hmem, hlate⟩ := hend
    cases hdeadline : start.deadline with
    | none =>
      obtain ⟨⟨time, status⟩, hsome⟩ := Option.isSome_iff_exists.1 (hall hdeadline handler hmem)
      have hover := endedBy_eq_none_iff.1 hlate time status hsome
      rw [hdeadline] at hover
      cases hover
    | some due =>
      rcases Nat.lt_or_eq_of_le (hdue due hdeadline) with hlt | rfl
      · refine reports_at_deadline hb hfinish houtcomes hknown hgoes hdeadline hlt ?_
          ⟨handler, hmem, hlate⟩
        exact fun other hin status htime => hapart other hin due status htime hdeadline
      · exact reports_at_start hb hfinish houtcomes hrunning hfresh hdeadline ⟨handler, hmem, hlate⟩

end Wait

end Larder.Events.Bus
