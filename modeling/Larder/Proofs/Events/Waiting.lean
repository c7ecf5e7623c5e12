import Larder.Proofs.Events.Alone

/-!
Waiting for handlers one after the other, beside the bus on its own.

Until the deadline a publish that waits makes the steps that the bus would make on its own, a run of
the queue or a step of the clock at a time, so how the handlers end and when does not depend on the
waiting.  What it tells of those that it has looked at is how they have ended, and it ends at the
first look after all have (`await_until_all`), or at the deadline with a last look at all that are
left (`await_until_deadline`).
-/

namespace Larder.Events

variable {ν : Type}

namespace Dispatch

/-- What became of a dispatch: the outcomes tell how its first handlers have ended, and the others
are pending. -/
structure Tells (start : Dispatch) (b : Bus ν) (d : Dispatch) : Prop where
  topic : d.topic = start.topic
  eventId : d.eventId = start.eventId
  deadline : d.deadline = start.deadline
  handlers : ∃ told, start.pending = told ++ d.pending ∧
    d.outcomes = told.map (outcomeOf b.statusOf) ∧ ∀ handler ∈ told, (b.statusOf handler.2).isSome

theorem isOver_mono {deadline : Option Nat} {now now' : Nat} (h : isOver deadline now' = false)
    (hle : now ≤ now') :
    isOver deadline now = false := by
  cases deadline with
  | none => rfl
  | some due =>
    have hlt : now' < due := Nat.lt_of_not_le (of_decide_eq_false h)
    exact decide_eq_false (by omega)

end Dispatch

namespace Bus

open Dispatch (Tells isOver isOver_mono)

variable {b b' : Bus ν} {start d : Dispatch}

/-- The report on the handlers of a dispatch, by how their tasks have ended. -/
def reportOn (start : Dispatch) (b : Bus ν) : Report :=
  ⟨start.topic, start.eventId, start.pending.map (outcomeOf b.statusOf)⟩

theorem tells_start (hnone : start.outcomes = []) : Tells start b start :=
  ⟨rfl, rfl, rfl, [], rfl, hnone, fun _ hmem => absurd hmem List.not_mem_nil⟩

theorem report_of_tells (h : Tells start b d) (hpending : d.pending = []) :
    d.report = reportOn start b := by
  obtain ⟨told, hhandlers, houtcomes, -⟩ := h.handlers
  rw [hpending, List.append_nil] at hhandlers
  rw [Dispatch.report, h.topic, h.eventId, houtcomes, reportOn, hhandlers]

/-- A handler that is still running is pending. -/
theorem pending_of_running (h : Tells start b d) {handler : String × TaskId}
    (hmem : handler ∈ start.pending) (hrunning : b.statusOf handler.2 = none) :
    handler ∈ d.pending := by
  obtain ⟨told, hhandlers, -, hended⟩ := h.handlers
  rw [hhandlers] at hmem
  refine (List.mem_append.1 hmem).resolve_left fun htold => ?_
  have hsome := hended handler htold
  rw [hrunning] at hsome
  cases hsome

theorem tells_of_lasts (h : Tells start b d) (hlasts : Lasts (fun _ => True) b b')
    (hknown : ∀ handler ∈ start.pending, handler.2 < b.spawned) : Tells start b' d := by
  obtain ⟨told, hhandlers, houtcomes, hended⟩ := h.handlers
  have hsame : ∀ handler ∈ told, b'.statusOf handler.2 = b.statusOf handler.2 := by
    intro handler hmem
    obtain ⟨status, hstatus⟩ := Option.isSome_iff_exists.1 (hended handler hmem)
    have hin : handler ∈ start.pending := hhandlers ▸ List.mem_append_left _ hmem
    rw [hstatus, hlasts.status handler.2 trivial (hknown handler hin) status hstatus]
  refine ⟨h.topic, h.eventId, h.deadline, told, hhandlers, ?_, fun handler hmem => ?_⟩
  · rw [houtcomes]
    refine List.map_congr_left fun handler hmem => ?_
    rw [outcomeOf, outcomeOf, hsame handler hmem]
  · rw [hsame handler hmem]
    exact hended handler hmem

/-- A look before the deadline tells of further handlers that have ended, and leaves the bus
alone. -/
theorem tells_settle (h : Tells start b d) (hover : isOver start.deadline b.now = false) :
    ∃ d', b.settle d = (d', b) ∧ Tells start b d' ∧
      d'.pending = (Dispatch.look b.statusOf false d.pending).pending := by
  obtain ⟨told, hhandlers, houtcomes, hended⟩ := h.handlers
  obtain ⟨more, hpending, hmore, -, hendedMore⟩ := Dispatch.look_eq b.statusOf false d.pending
  rw [← h.deadline] at hover
  obtain ⟨d', hsettle, hdeadline, hleft⟩ := settle_of_not_late (Bool.eq_false_iff.1 hover)
  have hd' : d' = (d.settle b.statusOf b.now).1 := (congrArg Prod.fst hsettle).symm
  have houtcomes' : d'.outcomes = d.outcomes ++ more.map (outcomeOf b.statusOf) := by
    rw [← hmore, hd', Dispatch.settle, hover]
  refine ⟨d', hsettle,
    ⟨?_, ?_, hdeadline.trans h.deadline, told ++ more, ?_, ?_, fun handler hmem => ?_⟩, hleft⟩
  · rw [hd']
    exact h.topic
  · rw [hd']
    exact h.eventId
  · rw [hhandlers, List.append_assoc, hleft, ← hpending]
  · rw [houtcomes', houtcomes, List.map_append]
  · exact (List.mem_append.1 hmem).elim (hended handler) (hendedMore rfl handler)

/-- The last look tells of all handlers, and stops those that have not ended. -/
theorem settle_late (h : Tells start b d) (hover : isOver start.deadline b.now = true) :
    ∃ d', b.settle d = (d', b.stop (unended b.statusOf start.pending)) ∧ d'.pending = [] ∧
      d'.report = reportOn start b := by
  obtain ⟨told, hhandlers, houtcomes, hended⟩ := h.handlers
  obtain ⟨more, hpending, hmore, hstopped, -⟩ := Dispatch.look_eq b.statusOf true d.pending
  have hleft : (Dispatch.look b.statusOf true d.pending).pending = [] :=
    Dispatch.look_late d.pending
  rw [hleft, List.append_nil] at hpending
  rw [← h.deadline] at hover
  have hnone : unended b.statusOf told = [] := by
    refine List.map_eq_nil_iff.2 (List.filter_eq_nil_iff.2 fun handler hmem hisNone => ?_)
    rw [Option.isNone_iff_eq_none] at hisNone
    have hsome := hended handler hmem
    rw [hisNone] at hsome
    cases hsome
  have hall : unended b.statusOf start.pending = unended b.statusOf more := by
    rw [hhandlers, hpending, unended, List.filter_append, List.map_append]
    exact (congrArg (· ++ unended b.statusOf more) hnone).trans (List.nil_append _)
  refine ⟨(d.settle b.statusOf b.now).1, ?_, ?_, ?_⟩
  · show ((d.settle b.statusOf b.now).1,
      b.stop (Dispatch.look b.statusOf (isOver d.deadline b.now) d.pending).stopped) = _
    rw [hover, hstopped, hall]
  · show (Dispatch.look b.statusOf (isOver d.deadline b.now) d.pending).pending = []
    rw [hover, hleft]
  · show Report.mk d.topic d.eventId
      (d.outcomes ++ (Dispatch.look b.statusOf (isOver d.deadline b.now) d.pending).outcomes) = _
    rw [hover, hmore, houtcomes, ← List.map_append, h.topic, h.eventId, reportOn, hhandlers,
      hpending]

/-! ## Until all have ended -/

/-- A step that stays before the deadline is one that a publish makes too. -/
theorem pass?_eq_step {deadline : Option Nat} (hrunning : b.aborted = false) (hqueue : b.queue = [])
    (hmoves : ¬ AtRest b) (hover : isOver deadline b.step.now = false) :
    b.pass? deadline = some b.step := by
  rw [step_of_nil hrunning hqueue] at hover ⊢
  unfold pass? at hover ⊢
  split at hover
  · next hyielded =>
    rw [if_pos hyielded, if_pos hyielded]
    rw [earlier_none] at hover ⊢
    cases hdue : nextDue b.timers with
    | none =>
      refine absurd ⟨hqueue, ?_⟩ hmoves
      rw [pass?, if_pos hyielded, hdue]
      rfl
    | some due =>
      rw [hdue] at hover
      change isOver deadline (b.advanceTo due).now = false at hover
      rw [(timely_advanceTo b due).2] at hover
      cases deadline with
      | none => rfl
      | some limit =>
        have hlt : due < limit := Nat.lt_of_not_le (of_decide_eq_false hover)
        show some (b.advanceTo (min due limit)) = some (b.advanceTo due)
        rw [Nat.min_eq_left (Nat.le_of_lt hlt)]
  · next hyielded =>
    rw [if_neg hyielded, if_neg hyielded]
    rfl

/-- Once all handlers have ended, a look before the deadline ends the waiting. -/
theorem await_of_ended (hrunning : b.aborted = false) (hover : isOver start.deadline b.now = false)
    (h : Tells start b d) (hended : ∀ handler ∈ start.pending, (b.statusOf handler.2).isSome)
    (turns : Nat) :
    await (turns + 1) d b = (.report (reportOn start b), b) := by
  obtain ⟨d', hsettle, htells, hleft⟩ := tells_settle h hover
  have hpending : d'.pending = [] := by
    rw [hleft]
    refine Dispatch.look_all_ended fun handler hmem => hended handler ?_
    obtain ⟨told, hhandlers, -⟩ := h.handlers
    rw [hhandlers]
    exact List.mem_append_right _ hmem
  rw [await_succ hrunning hsettle, if_pos (List.isEmpty_iff.2 hpending),
    report_of_tells htells hpending]

/-- At the deadline a look ends the waiting, and the handlers that are still running are stopped. -/
theorem await_of_late (hrunning : b.aborted = false) (hover : isOver start.deadline b.now = true)
    (h : Tells start b d) (turns : Nat) :
    await (turns + 1) d b
      = (.report (reportOn start b), b.stop (unended b.statusOf start.pending)) := by
  obtain ⟨d', hsettle, hpending, hreport⟩ := settle_late h hover
  rw [await_succ hrunning hsettle, if_pos (List.isEmpty_iff.2 hpending), hreport]

/-- While a handler is still running, the waiting goes on after a look before the deadline. -/
theorem await_of_running (hrunning : b.aborted = false)
    (hover : isOver start.deadline b.now = false)
    (hpending : ∃ handler ∈ start.pending, b.statusOf handler.2 = none) (h : Tells start b d)
    (turns : Nat) :
    ∃ d', Tells start b d' ∧
      await (turns + 1) d b =
        if b.queue = [] then
          match b.pass? start.deadline with
          | some b' => await turns d' b'
          | none => (.unfinished, b)
        else await turns d' (drain turns b) := by
  obtain ⟨d', hsettle, htells, -⟩ := tells_settle h hover
  obtain ⟨handler, hmem, hnone⟩ := hpending
  have hleft : ¬ d'.pending.isEmpty = true := by
    intro hempty
    have hpending := pending_of_running htells hmem hnone
    rw [List.isEmpty_iff.1 hempty] at hpending
    cases hpending
  refine ⟨d', htells, ?_⟩
  rw [await_succ hrunning hsettle, if_neg hleft, htells.deadline]
  by_cases hqueue : b.queue = []
  · exact (if_pos (List.isEmpty_iff.2 hqueue)).trans (if_pos hqueue).symm
  · exact (if_neg fun h => hqueue (List.isEmpty_iff.1 h)).trans (if_neg hqueue).symm

/-- Nothing is left to happen before a time. -/
def QuietUntil (time : Nat) (b : Bus ν) : Prop :=
  b.queue = [] ∧ b.yielded = [] ∧ earlier (nextDue b.timers) (some time) = some time

theorem pass?_of_quiet {due : Nat} (hquiet : QuietUntil due b) :
    b.pass? (some due) = some (b.advanceTo due) := by
  rw [pass?, if_pos (List.isEmpty_iff.2 hquiet.2.1), hquiet.2.2]
  rfl

/-- Before the time at which it gets quiet, a bus makes its steps by itself. -/
theorem pass?_of_not_quiet {due : Nat} (hrunning : b.aborted = false) (hqueue : b.queue = [])
    (hquiet : ¬ QuietUntil due b) : b.pass? (some due) = some b.step := by
  rw [step_of_nil hrunning hqueue]
  unfold pass?
  split
  · next hyielded =>
    rw [earlier_none]
    cases hnext : nextDue b.timers with
    | none =>
      refine absurd ⟨hqueue, List.isEmpty_iff.1 hyielded, ?_⟩ hquiet
      rw [hnext]
      rfl
    | some time =>
      have hlt : time < due := by
        refine Nat.lt_of_not_le fun hle => hquiet ⟨hqueue, List.isEmpty_iff.1 hyielded, ?_⟩
        rw [hnext]
        exact congrArg some (Nat.min_eq_right hle)
      show some (b.advanceTo (min time due)) = some (b.advanceTo time)
      rw [Nat.min_eq_left (Nat.le_of_lt hlt)]
  · rfl

section Beside

variable (hb : Timely b) (hknown : ∀ handler ∈ start.pending, handler.2 < b.spawned)
  (hgoes : ∀ k, isOver start.deadline (after k b).now = false → (after k b).aborted = false)
include hb hknown

theorem tells_after {j k : Nat} (hjk : j ≤ k) (h : Tells start (after j b) d) :
    Tells start (after k b) d :=
  tells_of_lasts h (onward_after hb hjk).2 fun handler hmem =>
    Nat.lt_of_lt_of_le (hknown handler hmem) (spawned_le_after hb j)

include hgoes

/-- While a handler is still running, a look before the deadline is followed by steps of the bus on
its own. -/
theorem await_goes {turns j : Nat} (hturns : 0 < turns)
    (hover : isOver start.deadline (after j b).now = false)
    (hrunning : ∃ handler ∈ start.pending, (after j b).statusOf handler.2 = none)
    (hpass : (after j b).queue = [] → (after j b).pass? start.deadline = some (after (j + 1) b))
    (h : Tells start (after j b) d) :
    ∃ m d', 0 < m ∧ await (turns + 1) d (after j b) = await turns d' (after (j + m) b) ∧
      Tells start (after (j + m) b) d' ∧ (m = 1 ∨ (after (j + m) b).now = (after j b).now) ∧
      ∀ i, 0 < i → i < m → (after (j + i) b).queue ≠ [] := by
  obtain ⟨d', htells, hawait⟩ := await_of_running (hgoes j hover) hover hrunning h turns
  by_cases hqueue : (after j b).queue = []
  · rw [if_pos hqueue, hpass hqueue] at hawait
    refine ⟨1, d', Nat.one_pos, hawait, tells_after hb hknown (Nat.le_succ j) htells, Or.inl rfl,
      fun i hpos hlt => ?_⟩
    omega
  · have hsame : ∀ k, j ≤ k → (after k b).now = (after j b).now → (after k b).aborted = false :=
      fun k _ hnow => hgoes k (by rw [hnow]; exact hover)
    obtain ⟨m, hm, hdrain, hnow, hempty, hfull⟩ := drain_eq_after turns j hsame
    rw [if_neg hqueue, hdrain] at hawait
    have hpos : 0 < m := by
      refine Nat.pos_of_ne_zero fun hzero => ?_
      subst hzero
      exact hqueue (hempty hturns)
    exact ⟨m, d', hpos, hawait, tells_after hb hknown (Nat.le_add_right j m) htells, Or.inr hnow,
      fun i _ hi => hfull i hi⟩

/-- When all handlers end before the deadline, waiting goes on until they have, and reports how they
did. -/
theorem await_until_all {last : Nat}
    (hended : ∀ handler ∈ start.pending, ((after last b).statusOf handler.2).isSome)
    (hfirst : ∀ j < last, ∃ handler ∈ start.pending, (after j b).statusOf handler.2 = none)
    (hover : isOver start.deadline (after last b).now = false) {turns j : Nat}
    (hturns : last - j < turns) (hj : j ≤ last ∨ (after j b).now = (after last b).now)
    (h : Tells start (after j b) d) :
    ∃ k, last ≤ k ∧ (after k b).now = (after last b).now ∧
      await turns d (after j b) = (.report (reportOn start (after k b)), after k b) := by
  induction turns generalizing j d with
  | zero => exact absurd hturns (Nat.not_lt_zero _)
  | succ turns ih =>
    have hnow : (after j b).now ≤ (after last b).now := hj.elim (now_le_after hb) Nat.le_of_eq
    have hbefore : isOver start.deadline (after j b).now = false := isOver_mono hover hnow
    by_cases hlast : last ≤ j
    · have hall : ∀ handler ∈ start.pending, ((after j b).statusOf handler.2).isSome := by
        intro handler hmem
        obtain ⟨status, hstatus⟩ := Option.isSome_iff_exists.1 (hended handler hmem)
        rw [statusOf_after hb hlast (hknown handler hmem) hstatus]
        rfl
      refine ⟨j, hlast, Nat.le_antisymm hnow (now_le_after hb hlast), ?_⟩
      exact await_of_ended (hgoes j hbefore) hbefore h hall turns
    · have hlt : j < last := Nat.lt_of_not_le hlast
      have hnext : isOver start.deadline (after (j + 1) b).now = false :=
        isOver_mono hover (now_le_after hb hlt)
      have hmoves : ¬ AtRest (after j b) := by
        -- A bus at rest would still be so when the handlers have ended.
        intro hrest
        obtain ⟨handler, hmem, hnone⟩ := hfirst j hlt
        have hsome := hended handler hmem
        rw [after_of_rest hrest (Nat.le_of_lt hlt), hnone] at hsome
        cases hsome
      have hpositive : 0 < turns := by omega
      obtain ⟨m, d', hpos, hawait, htells, htime, -⟩ :=
        await_goes hb hknown hgoes hpositive hbefore (hfirst j hlt)
        (fun hqueue => pass?_eq_step (hgoes j hbefore) hqueue hmoves hnext) h
      rw [hawait]
      refine ih (by omega) ?_ htells
      rcases htime with rfl | hsame
      · exact Or.inl hlt
      · refine (Nat.le_total (j + m) last).imp id fun hle => ?_
        exact Nat.le_antisymm (hsame ▸ hnow) (now_le_after hb hle)

/-- When nothing is left to happen before the deadline, the clock goes there and the last look is
made. -/
theorem await_of_quiet {due j : Nat} (hdeadline : start.deadline = some due)
    (hover : isOver start.deadline (after j b).now = false)
    (hrunning : ∃ handler ∈ start.pending, (after j b).statusOf handler.2 = none)
    (hquiet : QuietUntil due (after j b)) (h : Tells start (after j b) d) (turns : Nat) :
    await (turns + 2) d (after j b) =
      (.report (reportOn start ((after j b).advanceTo due)),
        ((after j b).advanceTo due).stop (unended (after j b).statusOf start.pending)) := by
  obtain ⟨d', htells, hawait⟩ := await_of_running (hgoes j hover) hover hrunning h (turns + 1)
  rw [if_pos hquiet.1, hdeadline, pass?_of_quiet hquiet] at hawait
  have hlasts : Lasts (fun _ => True) (after j b) ((after j b).advanceTo due) :=
    (steps_lasts _).advanceTo _ due
  have htells' := tells_of_lasts htells hlasts fun handler hmem =>
    Nat.lt_of_lt_of_le (hknown handler hmem) (spawned_le_after hb j)
  have hlate : isOver start.deadline ((after j b).advanceTo due).now = true := by
    rw [hdeadline, (timely_advanceTo _ due).2]
    exact decide_eq_true (Nat.le_refl due)
  have hsame : ((after j b).advanceTo due).statusOf = (after j b).statusOf :=
    funext (statusOf_advanceTo _ due)
  rw [hawait]
  dsimp only
  rw [await_of_late ((aborted_advanceTo _ due).trans (hgoes j hover)) hlate htells', hsame]

/-- When a handler is still running while nothing is left to happen before the deadline, waiting
goes on until then.  It reports how the others ended, and stops the handlers that are still
running. -/
theorem await_until_deadline {due last : Nat} (hdeadline : start.deadline = some due)
    (hlast : (after last b).now < due) (hquiet : QuietUntil due (after last b))
    (hfirst : ∀ j < last, ¬ QuietUntil due (after j b))
    (hrunning : ∃ handler ∈ start.pending, (after last b).statusOf handler.2 = none) {turns j : Nat}
    (hturns : last + 1 - j < turns) (hj : j ≤ last) (h : Tells start (after j b) d) :
    await turns d (after j b) =
      (.report (reportOn start ((after last b).advanceTo due)),
        ((after last b).advanceTo due).stop (unended (after last b).statusOf start.pending)) := by
  have hbefore : ∀ {k}, k ≤ last → isOver start.deadline (after k b).now = false := by
    intro k hk
    rw [hdeadline]
    exact isOver_mono (decide_eq_false (Nat.not_le_of_lt hlast)) (now_le_after hb hk)
  have hstill : ∀ {k}, k ≤ last →
      ∃ handler ∈ start.pending, (after k b).statusOf handler.2 = none := by
    intro k hk
    obtain ⟨handler, hmem, hnone⟩ := hrunning
    refine ⟨handler, hmem, Option.eq_none_iff_forall_ne_some.2 fun status hstatus => ?_⟩
    rw [statusOf_after hb hk (hknown handler hmem) hstatus] at hnone
    cases hnone
  induction turns generalizing j d with
  | zero => exact absurd hturns (Nat.not_lt_zero _)
  | succ turns ih =>
    rcases Nat.lt_or_eq_of_le hj with hlt | rfl
    · have hpositive : 0 < turns := by omega
      have hpass : (after j b).queue = [] →
          (after j b).pass? start.deadline = some (after (j + 1) b) := by
        intro hqueue
        rw [hdeadline]
        exact pass?_of_not_quiet (hgoes j (hbefore hj)) hqueue (hfirst j hlt)
      obtain ⟨m, d', hpos, hawait, htells, -, hfull⟩ :=
        await_goes hb hknown hgoes hpositive (hbefore hj) (hstill hj) hpass h
      have hle : j + m ≤ last := by
        by_contra hgt
        refine hfull (last - j) (by omega) (by omega) ?_
        rw [Nat.add_sub_cancel' hj]
        exact hquiet.1
      rw [hawait]
      exact ih (by omega) hle htells
    · obtain ⟨turns, rfl⟩ : ∃ k, turns = k + 1 := ⟨turns - 1, by omega⟩
      exact await_of_quiet hb hknown hgoes hdeadline (hbefore hj) (hstill hj) hquiet h turns

end Beside

end Bus

end Larder.Events
