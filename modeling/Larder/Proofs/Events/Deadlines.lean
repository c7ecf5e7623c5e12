import Larder.Proofs.Events.Publishing
import Larder.Proofs.Settings.Validation

/-!
Deadlines that are too late to be represented.

Settings are accepted with any timeout but zero, and a publish adds its timeout to the clock without
a check.  So a publish panics when the sum is later than the latest time that there is, be it the
program that publishes or a handler, and the settings do not prevent it
(`accepted_publish_can_panic`).
-/

namespace Larder.Events.Bus

variable {ν : Type} {b : Bus ν} {topic : String} {payload : Json.Value}

/-- The deadline of a publish that waits for so many seconds is later than the latest time. -/
def Overdue (b : Bus ν) (seconds : Option Nat) : Prop :=
  ∃ n, seconds = some n ∧ latest < b.now + n * 1_000_000_000

theorem inTime_iff_not_overdue (b : Bus ν) (s : EventSettings) :
    b.InTime s.publishTimeout ↔ ¬ b.Overdue s.publishTimeoutSeconds := by
  unfold InTime Overdue EventSettings.publishTimeout
  cases s.publishTimeoutSeconds with
  | none => exact ⟨fun _ ⟨_, h, _⟩ => (by cases h), fun _ _ h => (by cases h)⟩
  | some n =>
    constructor
    · rintro hin ⟨m, hm, hlate⟩
      rw [← Option.some.inj hm] at hlate
      exact Nat.not_lt_of_le (hin (.ofSeconds n) rfl) hlate
    · intro hin t ht
      rw [← Option.some.inj ht]
      exact Nat.le_of_not_lt fun hlate => hin ⟨n, rfl, hlate⟩

/-- A publish with handlers panics when its deadline is too late, and only then. -/
theorem publish_panics_iff (hne : b.registry.handlers topic ≠ []) (payload : Json.Value)
    (turns : Nat) (timeout : Option Duration) :
    (∃ message, (b.publish turns topic payload timeout).1 = .panicked message) ↔
      ¬ b.InTime timeout := by
  rcases ending_cases turns b topic payload timeout with ⟨hnil, -⟩ | ⟨-, hlate, hend⟩ |
    ⟨-, hin, ⟨_, hend, -⟩ | hend | hend⟩
  · exact absurd hnil hne
  · exact ⟨fun _ => hlate, fun _ => ⟨_, hend⟩⟩
  all_goals
    rw [hend]
    exact ⟨fun ⟨_, h⟩ => (by cases h), fun h => absurd hin h⟩

/-- A handler whose publish has its deadline too late ends in that panic. -/
theorem run_publish_panics (hne : b.registry.handlers topic ≠ []) (hlate : ¬ b.InTime b.timeout)
    (t : TaskId) (next : Answer Report → Routine ν) :
    b.run t (.publish topic payload next)
      = (b.begun topic payload).2.finish t (.panicked deadlinePanic) := by
  rw [run, start_panicked hne hlate]

/-- Whatever timeout but zero there is in accepted settings, they are accepted; and on a bus with
that timeout a publish to handlers panics when its deadline is overdue, and only then.  Otherwise
handlers that end bring it to a report. -/
theorem accepted_publish_panics_iff {s : Settings} (haccepted : s.validate = .ok ())
    (seconds : Option Nat) (hpositive : seconds ≠ some 0) :
    { s with events := ⟨seconds⟩ }.validate = .ok () ∧
      ∀ (b : Bus ν) (topic : String) (payload : Json.Value),
      b.timeout = EventSettings.publishTimeout ⟨seconds⟩ →
        b.registry.handlers topic ≠ [] →
          (∀ turns, (∃ message, (b.publish turns topic payload b.timeout).1 = .panicked message) ↔
            b.Overdue seconds) ∧
          (b.Overdue seconds → ∀ t next,
            b.run t (.publish topic payload next)
              = (b.begun topic payload).2.finish t (.panicked deadlinePanic)) ∧
          (¬ b.Overdue seconds → Tame (fun _ => True) b →
            (∀ handler ∈ b.registry.handlers topic, (handler.2 (b.envelope topic payload)).Ends) →
              ∃ enough, ∀ turns, enough ≤ turns →
                ∃ r, (b.publish turns topic payload b.timeout).1 = .report r) := by
  refine ⟨Settings.validate_with_timeout haccepted hpositive,
    fun b topic payload htimeout hne => ?_⟩
  have hin : b.InTime b.timeout ↔ ¬ b.Overdue seconds := by
    rw [htimeout]
    exact inTime_iff_not_overdue b ⟨seconds⟩
  refine ⟨fun turns => ?_, fun hover t next => ?_, fun hnot htame hends => ?_⟩
  · rw [publish_panics_iff hne payload, hin, not_not]
  · exact run_publish_panics hne (fun h => hin.1 h hover) t next
  · exact comes_to_report htame hne (hin.2 hnot) hends

theorem accepted_publish_panics_after_longest_timeout :
    let s : Settings :=
  { cache := { dsn := some "redis://c:1" }, store := { dsn := some "mysql://d:1" } }
    let quick : Handler Nat := fun _ => .done (.ok ())
    let b :=
      ((create (EventSettings.publishTimeout ⟨some 18446744073709551615⟩)).add "t" "a" quick).2
    s.validate = .ok () ∧ { s with events := ⟨some 18446744073709551615⟩ }.validate = .ok () ∧
      b.Overdue (some 18446744073709551615) ∧
      ∃ message, (b.publish 2 "t" .null b.timeout).1 = .panicked message := by
  intro s quick b
  have hs : s.validate = .ok () := by decide +kernel
  obtain ⟨haccepted, hpublish⟩ :=
    accepted_publish_panics_iff (ν := Nat) hs (some 18446744073709551615) (by decide)
  have hover : b.Overdue (some 18446744073709551615) := ⟨_, rfl, by decide⟩
  have hne : b.registry.handlers "t" ≠ [] := List.cons_ne_nil _ _
  exact ⟨hs, haccepted, hover, ((hpublish b "t" .null rfl hne).1 2).2 hover⟩

/-- Accepted settings do not keep a publish from a panic. -/
theorem accepted_publish_can_panic :
    ¬ ∀ (s : Settings) (b : Bus Nat) (topic : String) (payload : Json.Value), s.validate = .ok () →
      b.timeout = s.events.publishTimeout → b.registry.handlers topic ≠ [] →
        ∀ turns message, (b.publish turns topic payload b.timeout).1 ≠ .panicked message := by
  intro hnever
  let s : Settings := {
    cache := { dsn := some "redis://c:1" }
    store := { dsn := some "mysql://d:1" }
    events := ⟨some 18446744073709551615⟩ }
  let b := ((create s.events.publishTimeout).add "t" "a" fun _ => (.done (.ok ()) : Routine Nat)).2
  have hne : b.registry.handlers "t" ≠ [] := List.cons_ne_nil _ _
  have hlate : ¬ b.InTime b.timeout := fun hin => absurd (hin _ rfl) (by decide)
  obtain ⟨message, hpanic⟩ := (publish_panics_iff hne .null 2 b.timeout).2 hlate
  have hs : s.validate = .ok () := by decide +kernel
  exact hnever s b "t" .null hs rfl hne 2 message hpanic

end Larder.Events.Bus
