import Larder.Proofs.Events.Courses
import Larder.Proofs.Events.FinishTimes
import Larder.Proofs.Events.Publishing

/-!
Waiting one by one reports as if waiting for all at once.

A publish looks at its handlers in the order of their names, so it may look at one long after that
has ended.  Still it tells of each handler how it ended, if it did before the deadline, and else
that it timed out, whatever the order and the times of the others (`waits_as_for_all_at_once`).
Handlers that end by themselves do finish at such times (`reports_of_ending_handlers`).
-/

namespace Larder.Events.Bus

open Dispatch (isOver)

variable {ν : Type} {b : Bus ν} {t : TaskId} {topic : String} {payload : Json.Value}
  {timeout : Option Duration}

/-! ## How a publish begins -/

/-- The deadline of a publish that begins now. -/
def dueAt (b : Bus ν) (timeout : Option Duration) : Option Nat :=
  timeout.map fun t => b.now + t.nanoseconds

theorem start_in_time (hne : b.registry.handlers topic ≠ []) (hin : b.InTime timeout)
    (payload : Json.Value) :
    b.start topic payload timeout
      = (.waiting ⟨topic, (b.envelope topic payload).id, b.dueAt timeout, [],
        (b.begun topic payload).1⟩,
          (b.begun topic payload).2) := by
  rw [start_of_ne_nil hne]
  cases timeout with
  | none => rfl
  | some t =>
    have hdeadline : deadline? b.now t = some (b.now + t.nanoseconds) := if_pos (hin t rfl)
    rw [now_begun]
    dsimp only
    rw [hdeadline]
    rfl

theorem length_names (b : Bus ν) (topic : String) :
    (b.names topic).length = (b.registry.handlers topic).length :=
  List.length_map _

/-- The handlers of a topic are waited for in the order of their names, and their tasks are numbered
so. -/
theorem pending_begun (b : Bus ν) (topic : String) (payload : Json.Value) :
    (b.begun topic payload).1 = (b.names topic).mapIdx fun i name => (name, b.spawned + i) := by
  have hnames : b.names topic = (b.registry.handlers topic).map Prod.fst := rfl
  rw [begun, fst_spawn, hnames]
  refine List.ext_getElem? fun i => ?_
  rw [List.getElem?_map, List.getElem?_zipIdx, List.getElem?_mapIdx, List.getElem?_map,
    Option.map_map, Option.map_map]
  rfl

theorem task_of_pending {handler : String × TaskId} (hmem : handler ∈ (b.begun topic payload).1) :
    ∃ i < (b.names topic).length, handler.2 = b.spawned + i := by
  rw [pending_begun] at hmem
  obtain ⟨i, hi, rfl⟩ := List.mem_mapIdx.1 hmem
  exact ⟨i, hi, rfl⟩

theorem tasks_begun (b : Bus ν) (topic : String) (payload : Json.Value) :
    (b.begun topic payload).1.map Prod.snd
      = (List.range (b.names topic).length).map (b.spawned + ·) := by
  rw [pending_begun]
  refine List.ext_getElem (by simp only [List.length_map, List.length_mapIdx, List.length_range])
    fun i _ _ => ?_
  rw [List.getElem_map, List.getElem_mapIdx, List.getElem_map, List.getElem_range]

theorem pending_ne_nil (hne : b.registry.handlers topic ≠ []) : (b.begun topic payload).1 ≠ [] := by
  intro hnil
  have hnames := names_begun b topic payload
  rw [hnil] at hnames
  exact hne (List.map_eq_nil_iff.1 hnames.symm)

/-- What holds of the tasks with the numbers that come next holds of the handlers that are waited
for. -/
theorem forall_pending (p : TaskId → Prop) (h : ∀ i < (b.names topic).length, p (b.spawned + i)) :
    ∀ handler ∈ (b.begun topic payload).1, p handler.2 := by
  intro handler hmem
  obtain ⟨i, hi, heq⟩ := task_of_pending hmem
  exact heq ▸ h i hi

theorem timely_begun (hb : Timely b) (topic : String) (payload : Json.Value) :
    Timely (b.begun topic payload).2 :=
  Timely.still (b := { b with published := b.published + 1 }) hb (still_spawn _ _ _)

theorem unended_begun {handler : String × TaskId} (hmem : handler ∈ (b.begun topic payload).1) :
    (b.begun topic payload).2.statusOf handler.2 = none := by
  obtain ⟨i, hi, heq⟩ := task_of_pending hmem
  have hfresh := (task_begun payload (List.getElem?_eq_getElem (length_names b topic ▸ hi))).2
  rw [heq]
  unfold statusOf
  rw [hfresh]

/-! ## What the tasks run -/

/-- A handler finishes in a way in which its own run can end. -/
theorem comes_of_finishes {i : Nat} {name : String} {f : Handler ν}
    (h : (b.registry.handlers topic)[i]? = some (name, f)) {finish : Option (Nat × Status)}
    (hfinish : Finishes (b.begun topic payload).2 (b.spawned + i) finish) {deadline : Option Nat}
    {status : Status} (hended : endedBy deadline finish = some status) :
    (f (b.envelope topic payload)).Comes status := by
  obtain ⟨time, rfl, -⟩ := endedBy_eq_some_iff.1 hended
  obtain ⟨k, hstatus, -⟩ := hfinish
  have hlt := lt_spawned_begun payload (List.getElem?_eq_some_iff.1 h).1
  obtain ⟨calls, hway⟩ := way_after k (b.begun topic payload).2
  exact ((runs_begun h payload).way hlt hway).comes hstatus

/-! ## What is told at the end -/

/-- The report on the handlers of a topic when it is known of each how it has ended. -/
theorem reportOn_begun {status : Nat → Option Status} {b' : Bus ν} {deadline : Option Nat}
    {id : Uuid} (hstatus : ∀ i < (b.names topic).length, b'.statusOf (b.spawned + i) = status i) :
    reportOn ⟨topic, id, deadline, [], (b.begun topic payload).1⟩ b'
      = ⟨topic, id, (b.names topic).mapIdx fun i name => ⟨name, (status i).getD .timedOut⟩⟩ := by
  refine congrArg (Report.mk topic id) ?_
  rw [pending_begun]
  refine List.ext_getElem (by rw [List.length_map, List.length_mapIdx, List.length_mapIdx])
    fun i hi _ => ?_
  rw [List.length_map, List.length_mapIdx] at hi
  rw [List.getElem_map, List.getElem_mapIdx, List.getElem_mapIdx, ← hstatus i hi]
  rfl

/-- The tasks of the handlers that have not ended are those of which it is told that they timed
out. -/
theorem mem_unended_begun {status : Nat → Option Status} {b' : Bus ν}
    (hstatus : ∀ i < (b.names topic).length, b'.statusOf (b.spawned + i) = status i)
    (hown : ∀ i < (b.names topic).length, status i ≠ some .timedOut) :
    t ∈ unended b'.statusOf (b.begun topic payload).1 ↔ ∃ i name, t = b.spawned + i ∧
      ((b.names topic).mapIdx fun i name => Outcome.mk name ((status i).getD .timedOut))[i]?
        = some ⟨name, .timedOut⟩ := by
  rw [unended, pending_begun, List.mem_map]
  constructor
  · rintro ⟨handler, hmem, rfl⟩
    obtain ⟨hin, hisNone⟩ := List.mem_filter.1 hmem
    obtain ⟨i, hi, rfl⟩ := List.mem_mapIdx.1 hin
    have hnone : status i = none := (hstatus i hi).symm.trans (Option.isNone_iff_eq_none.1 hisNone)
    refine ⟨i, (b.names topic)[i], rfl, ?_⟩
    rw [List.getElem?_mapIdx, List.getElem?_eq_getElem hi, Option.map_some, hnone]
    rfl
  · rintro ⟨i, name, rfl, houtcome⟩
    rw [List.getElem?_mapIdx, Option.map_eq_some_iff] at houtcome
    obtain ⟨name', hname, houtcome⟩ := houtcome
    have hi := (List.getElem?_eq_some_iff.1 hname).1
    have hnone : status i = none := by
      have htimedOut := congrArg Outcome.status houtcome
      cases hended : status i with
      | none => rfl
      | some status' =>
        rw [hended] at htimedOut
        exact absurd (hended.trans (congrArg some htimedOut)) (hown i hi)
    refine ⟨_, List.mem_filter.2 ⟨List.mem_mapIdx.2 ⟨i, hi, rfl⟩, ?_⟩, rfl⟩
    rw [hstatus i hi, hnone]
    rfl

theorem ReturnsAt.of_map {deadline : Option Nat} {task : Nat → TaskId} {indices : List Nat}
    {finish : TaskId → Option (Nat × Status)} {time : Nat}
    (h : ReturnsAt deadline (indices.map task) finish time) :
    ReturnsAt deadline indices (finish ∘ task) time where
  last hend := by
    obtain ⟨⟨t, hmem, hlast⟩, hle⟩ := h.last (List.forall_mem_map.2 hend)
    obtain ⟨i, hi, rfl⟩ := List.mem_map.1 hmem
    exact ⟨⟨i, hi, hlast⟩, fun j hj => hle _ (List.mem_map_of_mem hj)⟩
  deadline := fun ⟨i, hi, hnone⟩ => h.deadline ⟨_, List.mem_map_of_mem hi, hnone⟩

/-! ## How it ends -/

theorem spawned_le_of_onWay {b b' : Bus ν} (h : OnWay b b') : b.spawned ≤ b'.spawned := by
  obtain ⟨k, hk⟩ := h
  obtain ⟨calls, hway⟩ := way_after k b
  rcases hk with rfl | ⟨due, -, rfl⟩
  · exact hway.spawned_le
  · have hadvance := (steps_leaves fun _ => False).advanceTo (after k b) due
    exact Nat.le_trans hway.spawned_le hadvance.spawned

section Finishes

variable (hb : Timely b) (hrunning : b.aborted = false) (hne : b.registry.handlers topic ≠ [])
  (hin : b.InTime timeout) {finish : Nat → Option (Nat × Status)}
  (hfinish : ∀ i < (b.names topic).length,
    Finishes (b.begun topic payload).2 (b.spawned + i) (finish i))
  (hapart : ∀ i < (b.names topic).length, ∀ time status,
    finish i = some (time, status) → b.dueAt timeout ≠ some time)
  (hall : timeout = none → ∀ i < (b.names topic).length, (finish i).isSome)
  (hgoes : ∀ k, isOver (b.dueAt timeout) (after k (b.begun topic payload).2).now = false →
    (after k (b.begun topic payload).2).aborted = false)
include hb hrunning hne hin hfinish hapart hall hgoes

/-- Handlers that finish at such times are reported as they finish, and those that do not before the
deadline are stopped. -/
theorem publish_of_finishes :
    ∃ enough, ∀ turns, enough ≤ turns → ∃ b' : Bus ν,
      b.publish turns topic payload timeout
          = (.report ⟨topic, (b.envelope topic payload).id, (b.names topic).mapIdx fun i name =>
                ⟨name, (endedBy (b.dueAt timeout) (finish i)).getD .timedOut⟩⟩,
              b'.stop (unended b'.statusOf (b.begun topic payload).1)) ∧
        OnWay (b.begun topic payload).2 b' ∧
        (∀ i < (b.names topic).length,
          b'.statusOf (b.spawned + i) = endedBy (b.dueAt timeout) (finish i)) ∧
        ReturnsAt (b.dueAt timeout) (List.range (b.names topic).length) finish b'.now := by
  -- The publish waits for tasks, which have the numbers of their handlers after those that there
  -- were.
  let due := b.dueAt timeout
  let start : Dispatch :=
    ⟨topic, (b.envelope topic payload).id, due, [], (b.begun topic payload).1⟩
  let finishOf (t : TaskId) := finish (t - b.spawned)
  have hof : finishOf ∘ (b.spawned + ·) = finish :=
    funext fun i => congrArg finish (Nat.add_sub_cancel_left ..)
  have hfinishOf : ∀ i, finishOf (b.spawned + i) = finish i := congrFun hof
  have hreports : ∃ enough, ∀ turns, enough ≤ turns →
      ∃ b', Reports start finishOf (b.begun topic payload).2 b' ∧
        await turns start (b.begun topic payload).2
          = (.report (reportOn start b'), b'.stop (unended b'.statusOf start.pending)) := by
    refine exists_reports (timely_begun hb topic payload) ?_ rfl ?_ hgoes
      (running_begun hrunning topic payload) (fun handler => unended_begun) ?_
      (fun time htime => ?_) ?_ fun hnone => ?_
    · exact forall_pending (fun t => Finishes _ t (finishOf t))
        fun i hi => hfinishOf i ▸ hfinish i hi
    · exact forall_pending (fun t => t < _)
        fun i hi => lt_spawned_begun payload (length_names b topic ▸ hi)
    · exact pending_ne_nil hne
    · obtain ⟨t, -, rfl⟩ := Option.map_eq_some_iff.1 htime
      exact now_begun b topic payload ▸ Nat.le_add_right _ _
    · refine forall_pending
        (fun t => ∀ time status, finishOf t = some (time, status) → _ ≠ some time) fun i hi => ?_
      rw [hfinishOf]
      exact hapart i hi
    · refine forall_pending (fun t => (finishOf t).isSome) fun i hi => ?_
      rw [hfinishOf]
      exact hall (Option.map_eq_none_iff.1 hnone) i hi
  obtain ⟨enough, hreports⟩ := hreports
  refine ⟨enough, fun turns hturns => ?_⟩
  obtain ⟨b', ⟨honWay, hstatus, hreturns⟩, hawait⟩ := hreports turns hturns
  have hstatus : ∀ i < (b.names topic).length,
      b'.statusOf (b.spawned + i) = endedBy due (finish i) := by
    intro i hi
    rw [← hfinishOf]
    have hlisted := List.getElem?_eq_getElem (length_names b topic ▸ hi)
    exact hstatus _ (task_begun payload hlisted).1
  refine ⟨b', ?_, honWay, hstatus, ?_⟩
  · rw [publish, start_in_time hne hin]
    dsimp only
    rw [hawait, reportOn_begun hstatus]
  · rw [← hof]
    refine ReturnsAt.of_map ?_
    rw [← tasks_begun b topic payload]
    exact hreturns

/-- A publish that waits for its handlers one by one tells what it would tell if it waited for all
of them at once.  Where the handlers finish at such times and in such ways, none of them just at the
deadline, the report tells of each handler how its own run has ended if that was before the
deadline, and else that it timed out.  The publish returns at the last of the times, if they are all
before the deadline, and else at the deadline, and stops the handlers that timed out and no others:
nothing is left of them, and they do not come back. -/
theorem waits_as_for_all_at_once :
    ∃ enough, ∀ turns, enough ≤ turns → ∃ outcomes b' stopped,
      b.publish turns topic payload timeout
          = (.report ⟨topic, (b.envelope topic payload).id, outcomes⟩, b'.stop stopped) ∧
        outcomes = (b.names topic).mapIdx
          (fun i name => ⟨name, (endedBy (b.dueAt timeout) (finish i)).getD .timedOut⟩) ∧
        (∀ i name f, (b.registry.handlers topic)[i]? = some (name, f) →
          ∀ status, endedBy (b.dueAt timeout) (finish i) = some status →
            (f (b.envelope topic payload)).Comes status) ∧
        OnWay (b.begun topic payload).2 b' ∧
        ReturnsAt (b.dueAt timeout) (List.range (b.names topic).length) finish b'.now ∧
        (∀ t, t ∈ stopped ↔ ∃ i name, t = b.spawned + i ∧ outcomes[i]? = some ⟨name, .timedOut⟩) ∧
        Without stopped b' (b'.stop stopped) ∧
        ∀ t ∈ stopped, ∀ calls b'', Way (b'.stop stopped) calls b'' →
          Dict.get? b''.tasks t = none := by
  obtain ⟨enough, hpublish⟩ :=
    publish_of_finishes hb hrunning hne hin hfinish hapart hall hgoes
  refine ⟨enough, fun turns hturns => ?_⟩
  obtain ⟨b', hreport, honWay, hstatus, hreturns⟩ := hpublish turns hturns
  have hcomes : ∀ i name f, (b.registry.handlers topic)[i]? = some (name, f) → ∀ status,
      endedBy (b.dueAt timeout) (finish i) = some status →
        (f (b.envelope topic payload)).Comes status := by
    intro i name f hi status
    have hlt := (List.getElem?_eq_some_iff.1 hi).1
    exact comes_of_finishes hi (hfinish i (length_names b topic ▸ hlt))
  have hwithout := without_stop b' (unended b'.statusOf (b.begun topic payload).1)
  refine ⟨_, b', _, hreport, rfl, hcomes, honWay, hreturns, fun t => ?_, hwithout, ?_⟩
  · refine mem_unended_begun hstatus fun i hi hended => ?_
    have hlisted := List.getElem?_eq_getElem (length_names b topic ▸ hi)
    exact (hcomes i _ _ hlisted _ hended).ne_timedOut rfl
  · intro t ht calls b'' hway
    have hgone := (hwithout.task t).trans (if_pos ht)
    obtain ⟨handler, hmem, rfl⟩ := List.mem_map.1 ht
    obtain ⟨i, hi, heq⟩ := task_of_pending (List.mem_of_mem_filter hmem)
    have hlt : handler.2 < (b.begun topic payload).2.spawned :=
      heq ▸ lt_spawned_begun payload (length_names b topic ▸ hi)
    have hknown : handler.2 < b'.spawned := Nat.lt_of_lt_of_le hlt (spawned_le_of_onWay honWay)
    exact hway.gone hgone hknown

end Finishes

/-- Three handlers: one fails after a second, one is done after three, and one waits for another
that does not come. -/
def threePaces : Bus Nat :=
  let failing : Handler Nat := fun _ =>
    .sleep (.ofSeconds 1) (.done (.error (.internal "disk full")))
  let slow : Handler Nat := fun _ => .sleep (.ofSeconds 3) (.done (.ok ()))
  let stuck : Handler Nat := fun _ => .meet "gate" 2 (.done (.ok ()))
  ((((create none).add "t" "slow" slow).2.add "t" "failing" failing).2.add "t" "stuck" stuck).2

/-- When and how they end. -/
def paceOf : Nat → Option (Nat × Status)
  | 0 => some (1_000_000_000, .failed "Internal error: disk full")
  | 1 => some (3_000_000_000, .completed)
  | _ => none

theorem paces_rest : AtRest (after 7 (threePaces.begun "t" .null).2) :=
  ⟨by decide +kernel, Option.isNone_iff_eq_none.1 (by decide +kernel)⟩

theorem paces_finish (i : Nat) (hi : i < 3) :
    Finishes (threePaces.begun "t" .null).2 (threePaces.spawned + i) (paceOf i) := by
  match i, hi with
  | 0, _ => exact ⟨5, by decide +kernel, by decide +kernel, by decide +kernel⟩
  | 1, _ => exact ⟨7, by decide +kernel, by decide +kernel, by decide +kernel⟩
  | 2, _ =>
    have hearly : ∀ k < 8, (after k (threePaces.begun "t" .null).2).statusOf 2 = none := by
      decide +kernel
    refine ⟨fun k => ?_, fun time => ⟨7, Or.inr paces_rest⟩⟩
    by_cases hk : 7 ≤ k
    · rw [after_of_rest paces_rest hk]
      exact hearly 7 (by decide)
    · exact hearly k (by omega)

theorem paces_go (k : Nat) : (after k (threePaces.begun "t" .null).2).aborted = false := by
  have hearly : ∀ k < 8, (after k (threePaces.begun "t" .null).2).aborted = false := by
    decide +kernel
  by_cases hk : 7 ≤ k
  · rw [after_of_rest paces_rest hk]
    exact hearly 7 (by decide)
  · exact hearly k (by omega)

/-- One handler fails in time, one ends too late and one never. -/
theorem waits_as_for_all_with_two_late :
    ∃ enough, ∀ turns, enough ≤ turns → ∃ (b' : Bus Nat) (stopped : List TaskId),
      threePaces.publish turns "t" .null (some (.ofSeconds 2))
          = (.report ⟨"t", (threePaces.envelope "t" .null).id,
            [⟨"failing", .failed "Internal error: disk full"⟩,
              ⟨"slow", .timedOut⟩, ⟨"stuck", .timedOut⟩]⟩, b'.stop stopped) ∧
        b'.now = 2_000_000_000 ∧ Without stopped b' (b'.stop stopped) ∧
        ∀ t, t ∈ stopped ↔ t = 1 ∨ t = 2 := by
  have hthree : (threePaces.names "t").length = 3 := by decide +kernel
  have hdue : threePaces.dueAt (some (.ofSeconds 2)) = some 2_000_000_000 := by decide
  have hin : threePaces.InTime (some (.ofSeconds 2)) := fun t ht => by cases ht; decide
  have hapart : ∀ i < 3, ∀ time status, paceOf i = some (time, status) →
      threePaces.dueAt (some (.ofSeconds 2)) ≠ some time := by
    intro i hi time status htime
    rw [hdue]
    match i, hi with
    | 0, _ => cases htime; decide
    | 1, _ => cases htime; decide
    | 2, _ => cases htime
  obtain ⟨enough, hpublish⟩ :=
    @waits_as_for_all_at_once Nat threePaces "t" .null (some (.ofSeconds 2))
    (fun timer hmem => by cases hmem) rfl (List.cons_ne_nil _ _) hin paceOf (hthree ▸ paces_finish)
      (hthree ▸ hapart)
    (fun h => by cases h) (fun k _ => paces_go k)
  refine ⟨enough, fun turns hturns => ?_⟩
  obtain ⟨outcomes, b', stopped, hreport, houtcomes, -, -, hreturns, hstopped, hwithout, -⟩ :=
    hpublish turns hturns
  obtain rfl : outcomes = [⟨"failing", .failed "Internal error: disk full"⟩, ⟨"slow", .timedOut⟩,
      ⟨"stuck", .timedOut⟩] := houtcomes.trans (by decide +kernel)
  refine ⟨b', stopped, hreport, ?_, hwithout, fun t => (hstopped t).trans ⟨?_, ?_⟩⟩
  · have hlate : 2 ∈ List.range (threePaces.names "t").length := hthree ▸ by decide
    have hnow := hreturns.deadline ⟨2, hlate, rfl⟩
    exact Option.some.inj (hnow.symm.trans hdue)
  · rintro ⟨i, name, rfl, houtcome⟩
    match i with
    | 0 => cases houtcome
    | 1 => exact Or.inl rfl
    | 2 => exact Or.inr rfl
    | i + 3 => cases houtcome
  · rintro (rfl | rfl)
    · exact ⟨1, "slow", rfl, rfl⟩
    · exact ⟨2, "stuck", rfl, rfl⟩

/-! ## Handlers that end -/

/-- Handlers that end by themselves all finish, whatever they do until then. -/
theorem exists_finish_times (hb : Tame (fun _ => True) b) (payload : Json.Value)
    (hends : ∀ handler ∈ b.registry.handlers topic, (handler.2 (b.envelope topic payload)).Ends) :
    (∃ finish : Nat → Option (Nat × Status), ∀ i < (b.names topic).length, (finish i).isSome ∧
        Finishes (b.begun topic payload).2 (b.spawned + i) (finish i)) ∧
      ∀ k, (after k (b.begun topic payload).2).aborted = false := by
  have htame : Tame (fun _ => True) (b.begun topic payload).2 := hb.begun hends
  have hfinishes : ∀ i < (b.names topic).length, ∃ finish : Option (Nat × Status),
      finish.isSome ∧ Finishes (b.begun topic payload).2 (b.spawned + i) finish := by
    intro i hi
    have hlisted := List.getElem?_eq_getElem (length_names b topic ▸ hi)
    have hknown : (Dict.get? (b.begun topic payload).2.tasks (b.spawned + i)).isSome := by
      rw [(task_begun payload hlisted).2]
      rfl
    obtain ⟨time, status, hfinish⟩ := exists_finishes htame hknown
    exact ⟨some (time, status), rfl, hfinish⟩
  choose! finish hfinish using hfinishes
  exact ⟨⟨finish, hfinish⟩, fun k => (htame.after k).running⟩

/-- On every bus that a program makes, handlers that end by themselves have each a time and a way to
finish, and no other.  If none of them finishes just at the deadline, they are reported so. -/
theorem reports_of_ending_handlers (hb : Reached b) (htame : Tame (fun _ => True) b)
    (hne : b.registry.handlers topic ≠ []) (hin : b.InTime timeout)
    (hends : ∀ handler ∈ b.registry.handlers topic, (handler.2 (b.envelope topic payload)).Ends) :
    ∃ finish : Nat → Option (Nat × Status),
      (∀ i < (b.names topic).length, (finish i).isSome ∧ ∀ other,
        Finishes (b.begun topic payload).2 (b.spawned + i) other ↔ other = finish i) ∧
      ((∀ i < (b.names topic).length, ∀ time status, finish i = some (time, status) →
          b.dueAt timeout ≠ some time) →
        ∃ enough, ∀ turns, enough ≤ turns → ∃ b' : Bus ν,
          b.publish turns topic payload timeout
              = (.report ⟨topic, (b.envelope topic payload).id, (b.names topic).mapIdx fun i name =>
                    ⟨name, (endedBy (b.dueAt timeout) (finish i)).getD .timedOut⟩⟩,
                  b'.stop (unended b'.statusOf (b.begun topic payload).1)) ∧
            ReturnsAt (b.dueAt timeout) (List.range (b.names topic).length) finish b'.now) := by
  obtain ⟨⟨finish, hfinish⟩, hgoes⟩ := exists_finish_times htame payload hends
  refine ⟨finish, fun i hi => ⟨(hfinish i hi).1, fun other => ⟨fun h => ?_, ?_⟩⟩, fun hapart => ?_⟩
  · exact finishes_unique h (hfinish i hi).2
  · rintro rfl
    exact (hfinish i hi).2
  · obtain ⟨enough, hpublish⟩ := publish_of_finishes hb.timely htame.running hne hin
      (fun i hi => (hfinish i hi).2) hapart (fun _ i hi => (hfinish i hi).1) fun k _ => hgoes k
    refine ⟨enough, fun turns hturns => ?_⟩
    obtain ⟨b', hreport, -, -, hreturns⟩ := hpublish turns hturns
    exact ⟨b', hreport, hreturns⟩

end Larder.Events.Bus
