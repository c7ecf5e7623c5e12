import Larder.Proofs.Events.Courses

/-!
How tasks end, and what a publish tells of it.

Once a task has ended that stays known, and a task that was stopped stays gone.  So what a look
tells of a handler still holds when the report is there: its run has ended so, or its time was over
and it was stopped (`told_await`).
-/

namespace Larder.Events

variable {ν : Type}

/-! ## Looking -/

/-- What is told of a handler: how its task has ended, or else that its time was over. -/
def outcomeOf (statusOf : TaskId → Option Status) (handler : String × TaskId) : Outcome :=
  ⟨handler.1, (statusOf handler.2).getD .timedOut⟩

/-- The tasks of the handlers that have not ended. -/
def unended (statusOf : TaskId → Option Status) (handlers : List (String × TaskId)) : List TaskId :=
  (handlers.filter fun handler => (statusOf handler.2).isNone).map Prod.snd

namespace Dispatch

/-- A look tells of the first handlers, of all if it is late and else of those that have ended. -/
theorem look_eq (statusOf : TaskId → Option Status) (late : Bool)
    (pending : List (String × TaskId)) :
    ∃ told, pending = told ++ (look statusOf late pending).pending ∧
      (look statusOf late pending).outcomes = told.map (outcomeOf statusOf) ∧
      (look statusOf late pending).stopped = unended statusOf told ∧
      (late = false → ∀ handler ∈ told, (statusOf handler.2).isSome) := by
  induction pending with
  | nil => exact ⟨[], rfl, rfl, rfl, fun _ handler hmem => absurd hmem List.not_mem_nil⟩
  | cons handler rest ih =>
    obtain ⟨name, task⟩ := handler
    obtain ⟨told, hpending, houtcomes, hstopped, hended⟩ := ih
    unfold look
    split
    · next status hstatus =>
      refine ⟨(name, task) :: told, congrArg ((name, task) :: ·) hpending, ?_, ?_, fun hlate => ?_⟩
      · rw [List.map_cons, ← houtcomes, outcomeOf, hstatus]
        rfl
      · rw [unended, List.filter_cons_of_neg (by rw [hstatus]; exact Bool.false_ne_true)]
        exact hstopped
      · refine List.forall_mem_cons.2 ⟨?_, hended hlate⟩
        rw [hstatus]
        rfl
    · next hstatus =>
      split
      · next hlate =>
        refine ⟨(name, task) :: told, congrArg ((name, task) :: ·) hpending, ?_, ?_, fun h => ?_⟩
        · rw [List.map_cons, ← houtcomes, outcomeOf, hstatus]
          rfl
        · rw [unended, List.filter_cons_of_pos (by rw [hstatus]; rfl), List.map_cons]
          exact congrArg (task :: ·) hstopped
        · rw [h] at hlate
          cases hlate
      · exact ⟨[], rfl, rfl, rfl, fun _ handler hmem => absurd hmem List.not_mem_nil⟩

/-- Before the deadline a handler whose task has not ended stays pending. -/
theorem mem_look_pending {statusOf : TaskId → Option Status} {pending : List (String × TaskId)}
    {handler : String × TaskId} (hmem : handler ∈ pending) (h : statusOf handler.2 = none) :
    handler ∈ (look statusOf false pending).pending := by
  obtain ⟨told, hpending, -, -, hended⟩ := look_eq statusOf false pending
  rw [hpending] at hmem
  refine (List.mem_append.1 hmem).resolve_left fun htold => ?_
  have hisSome := hended rfl handler htold
  rw [h] at hisSome
  cases hisSome

theorem none_of_stopped {statusOf : TaskId → Option Status} {late : Bool}
    {pending : List (String × TaskId)} {u : TaskId} (h : u ∈ (look statusOf late pending).stopped) :
    statusOf u = none := by
  obtain ⟨told, -, -, hstopped, -⟩ := look_eq statusOf late pending
  rw [hstopped, unended] at h
  obtain ⟨handler, hmem, rfl⟩ := List.mem_map.1 h
  exact Option.isNone_iff_eq_none.1 (List.mem_filter.1 hmem).2

end Dispatch

namespace Bus

open Routine (Comes)

variable {P : TaskId → Prop} {b b' b'' : Bus ν} {t u : TaskId} {calls : List (Invocation ν)}

/-! ## Tasks that have ended -/

/-- How these tasks have ended stays known. -/
structure Lasts (P : TaskId → Prop) (b b' : Bus ν) : Prop where
  status : ∀ u, P u → u < b.spawned → ∀ status, b.statusOf u = some status →
    b'.statusOf u = some status
  spawned : b.spawned ≤ b'.spawned

theorem Lasts.trans (h : Lasts P b b') (h' : Lasts P b' b'') : Lasts P b b'' where
  status u hP hu status hstatus :=
    h'.status u hP (Nat.lt_of_lt_of_le hu h.spawned) status (h.status u hP hu status hstatus)
  spawned := Nat.le_trans h.spawned h'.spawned

theorem statusOf_congr (h : Dict.get? b'.tasks u = Dict.get? b.tasks u) :
    b'.statusOf u = b.statusOf u := by
  unfold statusOf
  rw [h]

theorem lasts_of_eq (htasks : b'.tasks = b.tasks) (hspawned : b'.spawned = b.spawned) :
    Lasts P b b' :=
  ⟨fun u _ _ status hstatus => (statusOf_congr (by rw [htasks])).trans hstatus,
    Nat.le_of_eq hspawned.symm⟩

/-- Waking a task leaves it open how it ends. -/
theorem statusOf_wake (b : Bus ν) (t u : TaskId) : (b.wake t).statusOf u = b.statusOf u := by
  have hready : ∀ {rest : Routine ν} {a : Activity ν}, Dict.get? b.tasks t = some a → a.Rests rest →
      ((b.set t (.ready rest)).enqueue t).statusOf u = b.statusOf u := by
    intro rest a ha hrests
    by_cases hu : u = t
    · have hget : Dict.get? ((b.set t (.ready rest)).enqueue t).tasks u = some (.ready rest) := by
        rw [tasks_enqueue, get?_set, if_pos hu]
      unfold statusOf
      rw [hget, hu, ha]
      cases a with
      | ended status => exact absurd hrests id
      | _ => rfl
    · exact statusOf_congr (by rw [tasks_enqueue, get?_set, if_neg hu])
  unfold wake
  split
  · next h => exact hready h rfl
  · next h => exact hready h rfl
  · exact statusOf_congr (by rw [tasks_enqueue])
  · rfl

theorem statusOf_advanceTo (b : Bus ν) (time : Nat) (u : TaskId) :
    (b.advanceTo time).statusOf u = b.statusOf u := by
  have hfold : ∀ (due : List Timer) (b : Bus ν),
      (due.foldl (fun b timer => b.wake timer.task) b).statusOf u = b.statusOf u := by
    intro due
    induction due with
    | nil => exact fun _ => rfl
    | cons timer rest ih =>
      exact fun b => (ih (b.wake timer.task)).trans (statusOf_wake b timer.task u)
  exact hfold _ _

theorem spawned_wake (b : Bus ν) (t : TaskId) : b.spawned ≤ (b.wake t).spawned :=
  (leaves_wake (fun _ => False) b t).spawned

theorem lasts_make (P : TaskId → Prop) (b : Bus ν) (h : Handler ν) (e : Envelope) :
    Lasts P b { b with
    tasks := Dict.insert b.tasks b.spawned (.fresh h e), queue := b.queue ++ [b.spawned],
      spawned := b.spawned + 1 } := by
  refine ⟨fun u _ hu status hstatus => (statusOf_congr ?_).trans hstatus, Nat.le_succ _⟩
  exact (Dict.get?_insert _ _ _ _).trans (if_neg (Nat.ne_of_lt hu))

theorem steps_lasts (P : TaskId → Prop) : Steps (@Lasts ν P) where
  trans := Lasts.trans
  frame _ _ htasks _ hspawned := lasts_of_eq htasks hspawned
  enqueue b u := by
    unfold enqueue
    split <;> exact lasts_of_eq rfl rfl
  wake b t := ⟨fun u _ _ status hstatus => by rw [statusOf_wake, hstatus], spawned_wake b t⟩
  make := lasts_make P
  add _ _ _ _ := lasts_of_eq rfl rfl
  remove _ _ _ := lasts_of_eq rfl rfl

/-- Nothing is stopped that has ended. -/
theorem lasts_settle (P : TaskId → Prop) (b : Bus ν) (d : Dispatch) : Lasts P b (b.settle d).2 := by
  refine ⟨fun u _ _ status hstatus => (statusOf_congr ?_).trans hstatus, Nat.le_refl _⟩
  refine (get?_stop b _ u).trans (if_neg fun hmem => ?_)
  rw [Dispatch.none_of_stopped (List.contains_iff_mem.1 hmem)] at hstatus
  cases hstatus

theorem along_lasts (ht : ¬ P t) : Along t (@Lasts ν P) :=
  { steps_lasts P with
    set := fun b a => by
      refine ⟨fun u hP _ status hstatus => (statusOf_congr ?_).trans hstatus, Nat.le_refl _⟩
      exact (get?_set b t a u).trans (if_neg fun hu : u = t => ht (hu ▸ hP))
    settle := fun _ => lasts_settle P _ _ }

theorem resume_of_ended {status : Status} (h : b.statusOf t = some status) : b.resume t = b := by
  unfold statusOf at h
  unfold resume
  split at h
  · next ha => rw [ha]
  · cases h

theorem lasts_resume (b : Bus ν) (t : TaskId) : Lasts (fun _ => True) b (b.resume t) := by
  have hothers := (along_lasts (P := (· ≠ t)) fun h => h rfl).resume (lasts_settle _) b
  refine ⟨fun u _ hu status hstatus => ?_, hothers.spawned⟩
  by_cases hne : u = t
  · subst hne
    rw [resume_of_ended hstatus, hstatus]
  · exact hothers.status u hne hu status hstatus

theorem Move.lasts (h : Move b calls b') : Lasts (fun _ => True) b b' := by
  cases h with
  | @turn _ t rest _ _ hturn =>
    have hlasts := lasts_resume { b with queue := rest } t
    exact hturn.eq_resume ▸ ⟨hlasts.status, hlasts.spawned⟩
  | settle d => exact lasts_settle _ b d
  | pass h => exact (steps_lasts _).pass? (fun _ _ _ => lasts_of_eq rfl rfl) h

/-! ## Tasks that are gone -/

theorem gone_of_leaves (hgone : Dict.get? b.tasks t = none) (ht : t < b.spawned)
    (h : Leaves (· = t) b b') : Dict.get? b'.tasks t = none := by
  have hshift := h.shift t rfl ht
  rw [hgone] at hshift
  generalize Dict.get? b'.tasks t = after at hshift
  cases hshift with
  | same => rfl
  | stopped => rfl

/-- A task that is gone does not come back. -/
theorem Move.gone (h : Move b calls b') (hgone : Dict.get? b.tasks t = none) (ht : t < b.spawned) :
    Dict.get? b'.tasks t = none := by
  cases h with
  | @turn _ u rest _ _ hturn =>
    rw [hturn.eq_resume]
    by_cases hne : t = u
    · have hsame : resume { b with queue := rest } u = { b with queue := rest } := by
        subst hne
        unfold resume
        rw [hgone]
      rw [hsame]
      exact hgone
    · exact gone_of_leaves (b := { b with queue := rest }) hgone ht
        (leaves_resume (P := (· = t)) (fun hu => hne hu.symm) _)
  | settle d => exact gone_of_leaves hgone ht (leaves_settle _ b d)
  | pass h => exact gone_of_leaves hgone ht (leaves_pass? _ h)

theorem Way.gone (h : Way b calls b') (hgone : Dict.get? b.tasks t = none) (ht : t < b.spawned) :
    Dict.get? b'.tasks t = none := by
  induction h with
  | refl => exact hgone
  | move _ hmove _ ih => exact ih (hmove.gone hgone ht) (Nat.lt_of_lt_of_le ht hmove.spawned_le)

/-! ## What is told -/

/-- How a task has come to an end, such that this is told of its handler. -/
inductive EndedAs (b : Bus ν) (t : TaskId) (r : Routine ν) (limited : Prop) : Status → Prop where
  /-- Its run has ended so. -/
  | own {status : Status} (h : b.statusOf t = some status) (hcomes : Comes r status) :
      EndedAs b t r limited status
  /-- It was still running at the deadline and was stopped. -/
  | stopped (hlimited : limited) (h : Dict.get? b.tasks t = none) : EndedAs b t r limited .timedOut

variable {r : Routine ν} {limited : Prop} {status : Status}

theorem EndedAs.move (h : EndedAs b t r limited status) (ht : t < b.spawned)
    (hmove : Move b calls b') : EndedAs b' t r limited status := by
  cases h with
  | own h hcomes => exact .own (hmove.lasts.status t trivial ht status h) hcomes
  | stopped hlimited h => exact .stopped hlimited (hmove.gone h ht)

theorem EndedAs.way (h : EndedAs b t r limited status) (ht : t < b.spawned)
    (hway : Way b calls b') : EndedAs b' t r limited status := by
  induction hway with
  | refl => exact h
  | move _ hmove _ ih => exact ih (h.move ht hmove) (Nat.lt_of_lt_of_le ht hmove.spawned_le)

theorem EndedAs.mono {limited' : Prop} (h : EndedAs b t r limited status)
    (himp : limited → limited') : EndedAs b t r limited' status := by
  cases h with
  | own h hcomes => exact .own h hcomes
  | stopped hlimited h => exact .stopped (himp hlimited) h

/-- A handler is waited for, or what was told of it is how its task has ended. -/
def Told (name : String) (t : TaskId) (r : Routine ν) (d : Dispatch) (b : Bus ν) : Prop :=
  (name, t) ∈ d.pending ∨
    ∃ status, ⟨name, status⟩ ∈ d.outcomes ∧ EndedAs b t r (d.deadline ≠ none) status

theorem Told.settle {name : String} {d : Dispatch} (h : Told name t r d b) (hruns : Runs t r b)
    (ht : t < b.spawned) : Told name t r (b.settle d).1 (b.settle d).2 := by
  obtain ⟨told, hpending, houtcomes, hstopped, hended⟩ :=
    Dispatch.look_eq b.statusOf (Dispatch.isOver d.deadline b.now) d.pending
  rcases h with hmem | ⟨status, hmem, hends⟩
  · rw [hpending] at hmem
    refine (List.mem_append.1 hmem).symm.imp_right fun htold => ?_
    have houtcome : outcomeOf b.statusOf (name, t) ∈ (b.settle d).1.outcomes :=
      List.mem_append_right _ (houtcomes ▸ List.mem_map_of_mem htold)
    refine ⟨_, houtcome, ?_⟩
    cases hstatus : b.statusOf t with
    | some status =>
      exact .own ((lasts_settle (fun _ => True) b d).status t trivial ht status hstatus)
        (hruns.comes hstatus)
    | none =>
      have hlimited : d.deadline ≠ none := by
        intro hnone
        have hover : Dispatch.isOver d.deadline b.now = false := by rw [hnone]; rfl
        have hisSome := hended hover _ htold
        rw [hstatus] at hisSome
        cases hisSome
      refine .stopped hlimited ((get?_stop b _ t).trans (if_pos (List.contains_iff_mem.2 ?_)))
      rw [hstopped]
      refine List.mem_map_of_mem (f := Prod.snd) (List.mem_filter.2 ⟨htold, ?_⟩)
      rw [hstatus]
      rfl
  · exact Or.inr ⟨status, List.mem_append_left _ hmem, hends.move ht (.settle b d)⟩

theorem Told.way {name : String} {d : Dispatch} (h : Told name t r d b) (ht : t < b.spawned)
    (hway : Way b calls b') : Told name t r d b' :=
  h.imp_right fun ⟨status, hmem, hends⟩ => ⟨status, hmem, hends.way ht hway⟩

end Bus

end Larder.Events
