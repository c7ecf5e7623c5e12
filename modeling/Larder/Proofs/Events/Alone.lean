import Larder.Proofs.Events.Completion
import Larder.Proofs.Events.Endings

/-!
The bus on its own, when nobody waits for a publish.

A step is the turn of a task, or when no task can run what comes then: those that yielded can run
again, or the clock goes on to the next time for which something waits.  So the clock never goes
back, and how a task has ended stays known.
-/

namespace Larder.Events

variable {ν : Type}

namespace Bus

variable {b b' b'' : Bus ν} {t u : TaskId}

/-! ## The clock while tasks run -/

/-- The clock stands still, and the timers that come are not for times before. -/
structure Still (b b' : Bus ν) : Prop where
  now : b'.now = b.now
  timers : ∀ timer ∈ b'.timers, timer ∈ b.timers ∨ b.now ≤ timer.due

theorem still_of_eq (hnow : b'.now = b.now) (htimers : b'.timers = b.timers) : Still b b' :=
  ⟨hnow, fun _ hmem => Or.inl (htimers ▸ hmem)⟩

theorem Still.trans (h : Still b b') (h' : Still b' b'') : Still b b'' where
  now := h'.now.trans h.now
  timers timer hmem := by
    rcases h'.timers timer hmem with hmem | hdue
    · exact h.timers timer hmem
    · exact Or.inr (h.now ▸ hdue)

theorem Still.of_frame (h : Still b' b'') (hnow : b'.now = b.now) (htimers : b'.timers = b.timers) :
    Still b b'' :=
  (still_of_eq hnow htimers).trans h

theorem still_foldl {β : Type} {f : Bus ν → β → Bus ν} (h : ∀ b x, Still b (f b x)) (xs : List β)
    (b : Bus ν) :
    Still b (xs.foldl f b) := by
  induction xs generalizing b with
  | nil => exact still_of_eq rfl rfl
  | cons x rest ih => exact (h b x).trans (ih (f b x))

theorem still_enqueue (b : Bus ν) (t : TaskId) : Still b (b.enqueue t) := by
  unfold enqueue
  split <;> exact still_of_eq rfl rfl

theorem still_wake (b : Bus ν) (t : TaskId) : Still b (b.wake t) := by
  have hready : ∀ rest : Routine ν, Still b ((b.set t (.ready rest)).enqueue t) :=
    fun rest => (still_enqueue (b.set t (.ready rest)) t).of_frame rfl rfl
  unfold wake
  split
  · exact hready _
  · exact hready _
  · exact still_enqueue b t
  · exact still_of_eq rfl rfl

theorem still_finish (b : Bus ν) (t : TaskId) (status : Status) : Still b (b.finish t status) :=
  (still_foldl still_enqueue _ (b.set t (.ended status))).of_frame rfl rfl

theorem still_meet (b : Bus ν) (t : TaskId) (gate : String) (parties : Nat) :
    Still b (b.meet t gate parties).2 := by
  unfold meet
  dsimp only
  split
  · exact (still_foldl still_wake _ _).of_frame rfl rfl
  · exact still_of_eq rfl rfl

theorem still_spawn (e : Envelope) (handlers : Dict String (Handler ν)) (b : Bus ν) :
    Still b (spawn b e handlers).2 := by
  induction handlers generalizing b with
  | nil => exact still_of_eq rfl rfl
  | cons handler rest ih => exact (ih _).of_frame rfl rfl

theorem still_start (b : Bus ν) (topic : String) (payload : Json.Value)
    (timeout : Option Duration) :
    Still b (b.start topic payload timeout).2 := by
  have hspawn : ∀ (e : Envelope) (handlers : Dict String (Handler ν)),
      Still b (spawn { b with published := b.published + 1 } e handlers).2 :=
    fun e handlers => (still_spawn e handlers _).of_frame rfl rfl
  unfold start
  split
  · exact still_of_eq rfl rfl
  · dsimp only
    split
    · exact hspawn _ _
    · split <;> exact hspawn _ _

theorem still_settle (b : Bus ν) (d : Dispatch) : Still b (b.settle d).2 :=
  ⟨rfl, fun _ hmem => Or.inl (List.mem_of_mem_filter hmem)⟩

/-- A deadline is not before the time at which it is set. -/
theorem le_deadline_of_start {topic : String} {payload : Json.Value} {timeout : Option Duration}
    {d : Dispatch} (h : b.start topic payload timeout = (.waiting d, b')) {due : Nat}
    (hdue : d.deadline = some due) : b'.now ≤ due := by
  unfold start at h
  split at h
  · cases h
  · dsimp only at h
    split at h
    · cases h
      cases hdue
    · split at h
      · next timeout due' hdeadline =>
        cases h
        rw [← Option.some.inj hdue]
        unfold deadline? at hdeadline
        dsimp only at hdeadline
        split at hdeadline
        · rw [← Option.some.inj hdeadline]
          exact Nat.le_add_right _ _
        · cases hdeadline
      · cases h

theorem still_setTimer (b : Bus ν) (t : TaskId) {due : Nat} (hdue : b.now ≤ due) :
    Still b (b.setTimer t due) := by
  refine ⟨rfl, fun timer hmem => ?_⟩
  rcases List.mem_append.1 hmem with hmem | hmem
  · exact Or.inl hmem
  · rw [List.mem_singleton.1 hmem]
    exact Or.inr hdue

theorem still_run (r : Routine ν) (b : Bus ν) : Still b (b.run t r) := by
  induction r generalizing b with
  | done result => exact still_finish b t _
  | panic message => exact still_finish b t _
  | abort => exact still_of_eq rfl rfl
  | note n next ih => exact (ih { b with notes := b.notes ++ [n] }).of_frame rfl rfl
  | sleep d next ih =>
    rw [run]
    split
    · exact ih b
    · exact (still_setTimer (b.set t (.sleeping next)) t (Nat.le_add_right b.now _)).of_frame rfl
        rfl
  | yield next ih => exact still_of_eq rfl rfl
  | meet gate parties next ih =>
    have hmeet := still_meet b t gate parties
    rw [run]
    generalize b.meet t gate parties = met at hmeet
    obtain ⟨opened, b'⟩ := met
    cases opened with
    | true => exact hmeet.trans (ih b')
    | false => exact hmeet.trans (still_of_eq rfl rfl)
  | register topic name f next _ ih => exact (ih _ (b.add topic name f).2).of_frame rfl rfl
  | remove topic name next ih => exact (ih _ (b.remove topic name).2).of_frame rfl rfl
  | names topic next ih => exact ih _ b
  | publish topic payload next ih =>
    have hstart := still_start b topic payload b.timeout
    rw [run]
    generalize hstarted : b.start topic payload b.timeout = started at hstart
    obtain ⟨outcome, b'⟩ := started
    cases outcome with
    | refused e => exact hstart.trans (ih _ b')
    | panicked message => exact hstart.trans (still_finish b' t _)
    | waiting d =>
      have hsettle := still_settle b' d
      have hdeadline : (b'.settle d).1.deadline = d.deadline := rfl
      dsimp only
      generalize b'.settle d = settled at hsettle hdeadline
      obtain ⟨d', b''⟩ := settled
      dsimp only at hdeadline ⊢
      split
      · exact hstart.trans (hsettle.trans (ih _ b''))
      · have hset : Still b (b''.set t (.publishing d' next)) :=
          hstart.trans (hsettle.trans (still_of_eq rfl rfl))
        split
        · next due hdue =>
          refine hset.trans (still_setTimer _ t ?_)
          show b''.now ≤ due
          rw [hsettle.now]
          exact le_deadline_of_start hstarted (hdeadline ▸ hdue)
        · exact hset

theorem still_resume (b : Bus ν) (t : TaskId) : Still b (b.resume t) := by
  unfold resume
  split
  · exact still_run _ b
  · exact still_run _ b
  · next d next _ =>
    have hsettle := still_settle b d
    generalize b.settle d = settled at hsettle
    obtain ⟨d', b'⟩ := settled
    dsimp only
    split
    · have hcleared : Still b' (b'.clearTimers t) :=
        ⟨rfl, fun _ hmem => Or.inl (List.mem_of_mem_filter hmem)⟩
      exact hsettle.trans (hcleared.trans (still_run _ _))
    · exact hsettle.trans (still_of_eq rfl rfl)
  · exact still_of_eq rfl rfl

/-! ## Steps -/

/-- The bus a step later when nobody waits; it stays as it is when nothing is left to happen. -/
def step (b : Bus ν) : Bus ν :=
  if b.aborted then b
  else
    match b.queue with
    | t :: rest => resume { b with queue := rest } t
    | [] => (b.pass? none).getD b

/-- The bus on its own, so many steps later. -/
def after : Nat → Bus ν → Bus ν
  | 0, b => b
  | k + 1, b => (after k b).step

theorem way_step (b : Bus ν) : ∃ calls, Way b calls b.step := by
  unfold step
  split
  · exact ⟨[], .refl b⟩
  · next hrunning =>
    have hrunning : b.aborted = false := Bool.not_eq_true _ ▸ hrunning
    split
    · next t rest hqueue =>
      obtain ⟨calls, hturn⟩ := turn_resume { b with queue := rest } t
      exact ⟨_, .move hrunning (.turn hqueue hturn) (.refl _)⟩
    · cases hpass : b.pass? none with
      | none => exact ⟨[], .refl b⟩
      | some b' => exact ⟨_, .move hrunning (.pass hpass) (.refl b')⟩

/-- The steps of the bus on its own are a way as well. -/
theorem way_after (k : Nat) (b : Bus ν) : ∃ calls, Way b calls (after k b) := by
  induction k with
  | zero => exact ⟨[], .refl b⟩
  | succ k ih =>
    obtain ⟨calls, hway⟩ := ih
    obtain ⟨more, hmore⟩ := way_step (after k b)
    exact ⟨calls ++ more, hway.trans hmore⟩

/-- No timer is for a time that is over. -/
def Timely (b : Bus ν) : Prop := ∀ timer ∈ b.timers, b.now ≤ timer.due

theorem Timely.still (h : Timely b) (hstill : Still b b') : Timely b' := by
  intro timer hmem
  rw [hstill.now]
  exact (hstill.timers timer hmem).elim (h timer) id

theorem timely_advanceTo (b : Bus ν) (time : Nat) :
    Timely (b.advanceTo time) ∧ (b.advanceTo time).now = time := by
  have hstart : Timely { b with
      now := time, timers := b.timers.filter fun timer => time < timer.due } :=
    fun timer hmem => Nat.le_of_lt (of_decide_eq_true (List.mem_filter.1 hmem).2)
  have hstill :=
    still_foldl (fun b (timer : Timer) => still_wake b timer.task) (b.timers.filter (·.due ≤ time))
    { b with now := time, timers := b.timers.filter fun timer => time < timer.due }
  exact ⟨hstart.still hstill, hstill.now⟩

theorem aborted_advanceTo (b : Bus ν) (time : Nat) : (b.advanceTo time).aborted = b.aborted := by
  have hwake : ∀ (b : Bus ν) (t : TaskId), (b.wake t).aborted = b.aborted := by
    intro b t
    unfold wake enqueue
    repeat' split
    all_goals rfl
  have hfold : ∀ (due : List Timer) (b : Bus ν),
      (due.foldl (fun b timer => b.wake timer.task) b).aborted = b.aborted := by
    intro due
    induction due with
    | nil => exact fun _ => rfl
    | cons timer rest ih => exact fun b => (ih (b.wake timer.task)).trans (hwake b timer.task)
  exact hfold _ _

theorem le_nextDue (hb : Timely b) {due : Nat} (h : nextDue b.timers = some due) : b.now ≤ due := by
  obtain ⟨timer, hmem, rfl⟩ := List.mem_map.1 (List.min?_mem h)
  exact hb timer hmem

theorem step_of_cons (hrunning : b.aborted = false) {rest : List TaskId}
    (hqueue : b.queue = t :: rest) :
    b.step = resume { b with queue := rest } t := by
  rw [step, if_neg (by rw [hrunning]; exact Bool.false_ne_true), hqueue]

theorem step_of_nil (hrunning : b.aborted = false) (hqueue : b.queue = []) :
    b.step = (b.pass? none).getD b := by
  rw [step, if_neg (by rw [hrunning]; exact Bool.false_ne_true), hqueue]

theorem earlier_none (a : Option Nat) : earlier a none = a := by
  cases a <;> rfl

/-- No step takes the clock back or anything from the tasks that have ended. -/
theorem onward_step (hb : Timely b) :
    Timely b.step ∧ b.now ≤ b.step.now ∧ Lasts (fun _ => True) b b.step := by
  have hsame : Timely b ∧ b.now ≤ b.now ∧ Lasts (fun _ => True) b b :=
    ⟨hb, Nat.le_refl _, lasts_of_eq rfl rfl⟩
  unfold step
  split
  · exact hsame
  · split
    · next t rest _ =>
      have hstill := still_resume { b with queue := rest } t
      have hlasts := lasts_resume { b with queue := rest } t
      have hb' : Timely { b with queue := rest } := hb
      exact ⟨hb'.still hstill, Nat.le_of_eq hstill.now.symm, hlasts.status, hlasts.spawned⟩
    · unfold pass?
      split
      · rw [earlier_none]
        cases hdue : nextDue b.timers with
        | none => exact hsame
        | some due =>
          obtain ⟨htimely, hnow⟩ := timely_advanceTo b due
          refine ⟨htimely, Nat.le_trans (le_nextDue hb hdue) (Nat.le_of_eq hnow.symm), ?_⟩
          exact (steps_lasts _).advanceTo b due
      · exact ⟨hb, Nat.le_refl _, lasts_of_eq rfl rfl⟩

/-! ## Runs -/

section Runs

variable (hb : Timely b)
include hb

theorem timely_after (k : Nat) : Timely (after k b) := by
  induction k with
  | zero => exact hb
  | succ k ih => exact (onward_step ih).1

theorem onward_after {j k : Nat} (hjk : j ≤ k) :
    (after j b).now ≤ (after k b).now ∧ Lasts (fun _ => True) (after j b) (after k b) := by
  induction hjk with
  | refl => exact ⟨Nat.le_refl _, lasts_of_eq rfl rfl⟩
  | step _ ih =>
    obtain ⟨-, hnow, hlasts⟩ := onward_step (timely_after hb _)
    exact ⟨Nat.le_trans ih.1 hnow, ih.2.trans hlasts⟩

theorem now_le_after {j k : Nat} (hjk : j ≤ k) : (after j b).now ≤ (after k b).now :=
  (onward_after hb hjk).1

theorem spawned_le_after (k : Nat) : b.spawned ≤ (after k b).spawned :=
  (onward_after hb (Nat.zero_le k)).2.spawned

/-- How a task has ended stays known. -/
theorem statusOf_after {j k : Nat} (hjk : j ≤ k) (hu : u < b.spawned) {status : Status}
    (h : (after j b).statusOf u = some status) : (after k b).statusOf u = some status :=
  (onward_after hb hjk).2.status u trivial (Nat.lt_of_lt_of_le hu (spawned_le_after hb j)) status h

end Runs

/-- Nothing is left to happen. -/
def AtRest (b : Bus ν) : Prop := b.queue = [] ∧ b.pass? none = none

theorem after_of_rest {j k : Nat} (hrest : AtRest (after j b)) (hjk : j ≤ k) :
    after k b = after j b := by
  induction hjk with
  | refl => rfl
  | step _ ih =>
    rw [after, ih, step]
    split
    · rfl
    · rw [hrest.1, hrest.2]
      rfl

/-! ## Running the queue -/

/-- Running the queue makes steps of the bus, at one time, until the queue is empty or the turns are
used up. -/
theorem drain_eq_after (turns j : Nat)
    (hgoes : ∀ k, j ≤ k → (after k b).now = (after j b).now → (after k b).aborted = false) :
    ∃ m, m ≤ turns ∧ drain turns (after j b) = after (j + m) b ∧
    (after (j + m) b).now = (after j b).now ∧
      (m < turns → (after (j + m) b).queue = []) ∧ ∀ i < m, (after (j + i) b).queue ≠ [] := by
  induction turns generalizing j with
  | zero =>
    refine ⟨0, Nat.le_refl _, rfl, rfl, fun h => absurd h (Nat.not_lt_zero _), fun i h => ?_⟩
    exact absurd h (Nat.not_lt_zero i)
  | succ turns ih =>
    have hrunning := hgoes j (Nat.le_refl _) rfl
    cases hqueue : (after j b).queue with
    | nil =>
      exact ⟨0, Nat.zero_le _, drain_of_nil hqueue _, rfl, fun _ => hqueue,
        fun i h => absurd h (Nat.not_lt_zero i)⟩
    | cons t rest =>
      have hstep : after (j + 1) b = resume { after j b with queue := rest } t :=
        step_of_cons hrunning hqueue
      have hnow : (after (j + 1) b).now = (after j b).now := by
        rw [hstep, (still_resume _ t).now]
      obtain ⟨m, hm, hdrain, hsame, hempty, hfull⟩ :=
        ih (j + 1) fun k hk hkn => hgoes k (by omega) (hkn.trans hnow)
      have hindex : j + 1 + m = j + (m + 1) := by omega
      rw [hindex] at hdrain hsame hempty
      refine ⟨m + 1, by omega, ?_, hsame.trans hnow, fun h => hempty (by omega), fun i hi => ?_⟩
      · rw [drain_of_cons hrunning hqueue, ← hdrain, hstep]
      · cases i with
        | zero =>
          rw [Nat.add_zero, hqueue]
          exact List.cons_ne_nil _ _
        | succ i =>
          have := hfull i (by omega)
          rwa [Nat.add_assoc, Nat.add_comm 1] at this

/-! ## What is done to a bus -/

theorem timely_create (timeout : Option Duration) : Timely (create timeout : Bus ν) := fun _ hmem =>
  by cases hmem

theorem Move.timely {calls : List (Invocation ν)} (h : Move b calls b') (hb : Timely b) :
    Timely b' := by
  cases h with
  | @turn _ t rest _ _ hturn =>
    have hnow : Timely { b with queue := rest } := hb
    exact hturn.eq_resume ▸ hnow.still (still_resume _ t)
  | settle d => exact hb.still (still_settle b d)
  | pass h =>
    unfold pass? at h
    split at h
    · obtain ⟨time, -, rfl⟩ := Option.map_eq_some_iff.1 h
      exact (timely_advanceTo b time).1
    · rw [← Option.some.inj h]
      exact hb

theorem Way.timely {calls : List (Invocation ν)} (h : Way b calls b') : Timely b → Timely b' :=
  h.along (R := fun b b' => Timely b → Timely b') (fun _ => id) (fun h h' => h' ∘ h) Move.timely

/-- A publish leaves no timer for a time that is over. -/
theorem timely_publish (hb : Timely b) (turns : Nat) (topic : String) (payload : Json.Value)
    (timeout : Option Duration) : Timely (b.publish turns topic payload timeout).2 := by
  obtain ⟨calls, hway⟩ := way_publish turns b topic payload timeout
  exact hway.timely (hb.still (still_start b topic payload timeout))

/-- Nor does time that passes. -/
theorem timely_advance (hb : Timely b) (turns : Nat) (d : Duration) :
    Timely (b.advance turns d) := by
  obtain ⟨calls, hway⟩ := way_advance turns b d
  exact hway.timely hb

/-- What a program can make of a new bus from outside. -/
inductive Reached : Bus ν → Prop where
  | create (timeout : Option Duration) : Reached (create timeout)
  | add {b : Bus ν} (h : Reached b) (topic name : String) (f : Handler ν) :
      Reached (b.add topic name f).2
  | remove {b : Bus ν} (h : Reached b) (topic name : String) : Reached (b.remove topic name).2
  | takeNotes {b : Bus ν} (h : Reached b) : Reached b.takeNotes.2
  | publish {b : Bus ν} (h : Reached b) (turns : Nat) (topic : String) (payload : Json.Value)
      (timeout : Option Duration) : Reached (b.publish turns topic payload timeout).2
  | advance {b : Bus ν} (h : Reached b) (turns : Nat) (d : Duration) : Reached (b.advance turns d)

theorem Reached.timely (h : Reached b) : Timely b := by
  induction h with
  | create timeout => exact timely_create timeout
  | add _ _ _ _ ih | remove _ _ _ ih | takeNotes _ ih => exact ih
  | publish _ turns topic payload timeout ih => exact timely_publish ih turns topic payload timeout
  | advance _ turns d ih => exact timely_advance ih turns d

end Bus

end Larder.Events
