import Larder.Proofs.Events.Listeners
import Larder.Proofs.Events.Completion
import Larder.Proofs.Events.Endings
import Larder.Proofs.Events.Invocations

/-!
What a publish does: how it begins, whom it calls, and what its report holds.

All handlers that are registered at the beginning get a task, and the tasks have numbers in the
order of the handlers.  How a publish ends and what it tells follows from how it begins
(`ending_cases`).
-/

namespace Larder.Events.Bus

variable {ν : Type} {b : Bus ν} {topic : String} {payload : Json.Value} {timeout : Option Duration}

/-! ## How a publish begins -/

/-- The time of the deadline, if there is one, can be represented. -/
def InTime (b : Bus ν) (timeout : Option Duration) : Prop :=
  ∀ t, timeout = some t → b.now + t.nanoseconds ≤ latest

/-- When a publish begins, its tasks are all that comes to the bus. -/
theorem begun_eq (b : Bus ν) (topic : String) (payload : Json.Value) :
    ∃ tasks, (b.begun topic payload).2
      = { b with
          published := b.published + 1
          tasks
          queue := b.queue ++ List.range' b.spawned (b.registry.handlers topic).length
          spawned := b.spawned + (b.registry.handlers topic).length } :=
  spawn_eq _ _ { b with published := b.published + 1 }

theorem now_begun (b : Bus ν) (topic : String) (payload : Json.Value) :
    (b.begun topic payload).2.now = b.now := by
  obtain ⟨tasks, heq⟩ := b.begun_eq topic payload
  rw [heq]

theorem running_begun (hrunning : b.aborted = false) (topic : String) (payload : Json.Value) :
    (b.begun topic payload).2.aborted = false := by
  obtain ⟨tasks, heq⟩ := b.begun_eq topic payload
  rw [heq]
  exact hrunning

theorem start_waiting (hne : b.registry.handlers topic ≠ []) (hin : b.InTime timeout)
    (payload : Json.Value) :
    ∃ deadline, (timeout = none → deadline = none) ∧
      b.start topic payload timeout
        = (.waiting ⟨topic, (b.envelope topic payload).id, deadline, [], (b.begun topic payload).1⟩,
            (b.begun topic payload).2) := by
  rw [start_of_ne_nil hne]
  cases timeout with
  | none => exact ⟨none, fun _ => rfl, rfl⟩
  | some t =>
    have hdeadline : deadline? b.now t = some (b.now + t.nanoseconds) := if_pos (hin t rfl)
    refine ⟨some (b.now + t.nanoseconds), fun h => absurd h (Option.some_ne_none t), ?_⟩
    rw [now_begun]
    dsimp only
    rw [hdeadline]

theorem start_panicked (hne : b.registry.handlers topic ≠ []) (hin : ¬ b.InTime timeout)
    (payload : Json.Value) :
    b.start topic payload timeout = (.panicked deadlinePanic, (b.begun topic payload).2) := by
  rw [start_of_ne_nil hne]
  cases timeout with
  | none => exact absurd (fun t h => nomatch h) hin
  | some t =>
    have hlate : ¬ b.now + t.nanoseconds ≤ latest := by
      intro hle
      refine hin fun t' ht' => ?_
      rw [← Option.some.inj ht']
      exact hle
    have hdeadline : deadline? b.now t = none := if_neg hlate
    rw [now_begun]
    dsimp only
    rw [hdeadline]

/-- Unless it is refused, a publish begins with the tasks of its handlers. -/
theorem snd_start (hne : b.registry.handlers topic ≠ []) (payload : Json.Value)
    (timeout : Option Duration) :
    (b.start topic payload timeout).2 = (b.begun topic payload).2 := by
  rw [start_of_ne_nil hne]

/-- How a publish ends: refused without handlers, with a panic if its deadline is too late, and
otherwise by waiting. -/
theorem publish_cases (turns : Nat) (b : Bus ν) (topic : String) (payload : Json.Value)
    (timeout : Option Duration) :
    (b.registry.handlers topic = [] ∧
        b.publish turns topic payload timeout = (.refused (.topicHasNoHandlers topic), b)) ∨
      (b.registry.handlers topic ≠ [] ∧ ¬ b.InTime timeout ∧
        b.publish turns topic payload timeout
          = (.panicked deadlinePanic, (b.begun topic payload).2)) ∨
      (b.registry.handlers topic ≠ [] ∧ b.InTime timeout ∧
        ∃ d, (timeout = none → d.deadline = none) ∧ d.topic = topic ∧
          d.eventId = (b.envelope topic payload).id ∧ d.outcomes = [] ∧
          d.pending = (b.begun topic payload).1 ∧
          b.publish turns topic payload timeout = await turns d (b.begun topic payload).2) := by
  unfold publish
  by_cases hnil : b.registry.handlers topic = []
  · rw [start_of_nil hnil]
    exact Or.inl ⟨hnil, rfl⟩
  by_cases hin : b.InTime timeout
  · obtain ⟨deadline, hdeadline, hstart⟩ := start_waiting hnil hin payload
    rw [hstart]
    exact Or.inr (Or.inr ⟨hnil, hin, _, hdeadline, rfl, rfl, rfl, rfl, rfl⟩)
  · rw [start_panicked hnil hin payload]
    exact Or.inr (Or.inl ⟨hnil, hin, rfl⟩)

/-! ## What the tasks of a publish are -/

theorem lt_spawned_begun (payload : Json.Value) {i : Nat}
    (h : i < (b.registry.handlers topic).length) :
    b.spawned + i < (b.begun topic payload).2.spawned := by
  obtain ⟨tasks, heq⟩ := b.begun_eq topic payload
  rw [heq]
  exact Nat.add_lt_add_left h _

/-- The task of a handler that is registered, before it is run. -/
theorem task_begun (payload : Json.Value) {i : Nat} {name : String} {f : Handler ν}
    (h : (b.registry.handlers topic)[i]? = some (name, f)) :
    (name, b.spawned + i) ∈ (b.begun topic payload).1 ∧
      Dict.get? (b.begun topic payload).2.tasks (b.spawned + i)
        = some (.fresh f (b.envelope topic payload)) := by
  have hmem : ((name, f), b.spawned + i) ∈ (b.registry.handlers topic).zipIdx b.spawned := by
    rw [List.mem_zipIdx_iff_le_and_getElem?_sub]
    exact ⟨Nat.le_add_right _ _, by rwa [Nat.add_sub_cancel_left]⟩
  refine ⟨?_, get?_spawn _ hmem⟩
  rw [begun, fst_spawn]
  exact List.mem_map_of_mem
    (f := fun handler : (String × Handler ν) × Nat => (handler.1.1, handler.2)) hmem

theorem known_begun (b : Bus ν) (topic : String) (payload : Json.Value) :
    ∀ handler ∈ (b.begun topic payload).1,
    (Dict.get? (b.begun topic payload).2.tasks handler.2).isSome := by
  intro handler hmem
  rw [begun, fst_spawn] at hmem
  obtain ⟨⟨⟨name, f⟩, t⟩, hzip, rfl⟩ := List.mem_map.1 hmem
  rw [begun, get?_spawn _ hzip]
  rfl

theorem Tame.spawn (hb : Tame (fun _ => True) b) (e : Envelope) {handlers : Dict String (Handler ν)}
    (hends : ∀ handler ∈ handlers, (handler.2 e).Ends) :
    Tame (fun _ => True) (spawn b e handlers).2 := by
  induction handlers generalizing b with
  | nil => exact hb
  | cons handler rest ih =>
    refine ih ⟨hb.running, fun u a ha => ?_, fun u _ a ha => ?_⟩ fun other hmem =>
      hends other (List.mem_cons_of_mem _ hmem)
    · change Dict.get? (Dict.insert b.tasks b.spawned _) u = some a at ha
      rw [Dict.get?_insert] at ha
      split at ha
      · next hu => exact hu ▸ Nat.lt_succ_self _
      · exact Nat.lt_succ_of_lt (hb.known u a ha)
    · change Dict.get? (Dict.insert b.tasks b.spawned _) u = some a at ha
      rw [Dict.get?_insert] at ha
      split at ha
      · next hu =>
        rw [← Option.some.inj ha, hu]
        exact ⟨hends handler List.mem_cons_self,
          Or.inl (List.mem_append_right _ (List.mem_singleton_self _))⟩
      · exact (hb.waits u trivial a ha).mono (Or.imp_left (List.mem_append_left _)) fun _ h _ => h

theorem Tame.begun (hb : Tame (fun _ => True) b)
    (hends : ∀ handler ∈ b.registry.handlers topic, (handler.2 (b.envelope topic payload)).Ends) :
    Tame (fun _ => True) (b.begun topic payload).2 :=
  Tame.spawn (b := { b with published := b.published + 1 }) ⟨hb.running, hb.known, hb.waits⟩ _ hends

/-! ## What comes to the bus -/

/-- A publish begins with a new task for each handler that is registered now, in the order of their
names and with one envelope for all; nothing else comes to the bus or is changed there. -/
structure Begins (b : Bus ν) (topic : String) (payload : Json.Value) (b' : Bus ν) : Prop where
  frame : ∃ tasks, b' = { b with
    published := b.published + 1
    tasks
    queue := b.queue ++ List.range' b.spawned (b.registry.handlers topic).length
    spawned := b.spawned + (b.registry.handlers topic).length }
  task : ∀ (i : Nat) name f, (b.registry.handlers topic)[i]? = some (name, f) →
    Dict.get? b'.tasks (b.spawned + i) = some (.fresh f (b.envelope topic payload))
  others : ∀ u, (∀ i < (b.registry.handlers topic).length, u ≠ b.spawned + i) →
    Dict.get? b'.tasks u = Dict.get? b.tasks u

section Called

variable {i : Nat} {name : String} {f : Handler ν}
  (h : (b.registry.handlers topic)[i]? = some (name, f))
include h

theorem handlers_ne_nil : b.registry.handlers topic ≠ [] := by
  intro hnil
  rw [hnil] at h
  cases h

/-- Whatever happens once a publish has begun, the task of a handler calls that once at most. -/
theorem called_at_most_once {calls : List (Invocation ν)} {b' : Bus ν}
    (hway : Way (b.start topic payload timeout).2 calls b') :
    callsOf (b.spawned + i) calls = [] ∨
      callsOf (b.spawned + i) calls = [⟨b.spawned + i, f, b.envelope topic payload⟩] := by
  rw [snd_start (handlers_ne_nil h)] at hway
  exact hway.calls_at_most_once (task_begun payload h).2
    (lt_spawned_begun payload (List.getElem?_eq_some_iff.1 h).1)

/-- It has called it when it has ended. -/
theorem called_once {calls : List (Invocation ν)} {b' : Bus ν}
    (hway : Way (b.start topic payload timeout).2 calls b') {status : Status}
    (hended : b'.statusOf (b.spawned + i) = some status) :
    callsOf (b.spawned + i) calls = [⟨b.spawned + i, f, b.envelope topic payload⟩] := by
  rw [snd_start (handlers_ne_nil h)] at hway
  exact hway.calls_once (task_begun payload h).2
    (lt_spawned_begun payload (List.getElem?_eq_some_iff.1 h).1) hended

end Called

theorem comes_to_report (hb : Tame (fun _ => True) b) (hne : b.registry.handlers topic ≠ [])
    (hin : b.InTime timeout)
    (hends : ∀ handler ∈ b.registry.handlers topic, (handler.2 (b.envelope topic payload)).Ends) :
    ∃ enough, ∀ turns, enough ≤ turns →
    ∃ r, (b.publish turns topic payload timeout).1 = .report r := by
  obtain ⟨deadline, -, hstart⟩ := start_waiting hne hin payload
  obtain ⟨enough, hreport⟩ := exists_report
    (d := ⟨topic, (b.envelope topic payload).id, deadline, [], (b.begun topic payload).1⟩)
      (hb.begun hends) rfl
    (known_begun b topic payload)
  refine ⟨enough, fun turns hturns => ?_⟩
  rw [publish, hstart]
  exact hreport turns hturns

/-! ## What a publish tells -/

/-- How a publish can end, and what its report holds. -/
theorem ending_cases (turns : Nat) (b : Bus ν) (topic : String) (payload : Json.Value)
    (timeout : Option Duration) :
    (b.registry.handlers topic = [] ∧
        (b.publish turns topic payload timeout).1 = .refused (.topicHasNoHandlers topic)) ∨
      (b.registry.handlers topic ≠ [] ∧ ¬ b.InTime timeout ∧
        (b.publish turns topic payload timeout).1 = .panicked deadlinePanic) ∨
      (b.registry.handlers topic ≠ [] ∧ b.InTime timeout ∧
        ((∃ outcomes, (b.publish turns topic payload timeout).1
            = .report ⟨topic, (b.envelope topic payload).id, outcomes⟩ ∧
              outcomes.map Outcome.handler = b.names topic) ∨
          (b.publish turns topic payload timeout).1 = .aborted ∨
          (b.publish turns topic payload timeout).1 = .unfinished)) := by
  rcases publish_cases turns b topic payload timeout with ⟨hnil, hpublish⟩ | ⟨hne, hin, hpublish⟩ |
    ⟨hne, hin, d, -, htopic, hid, houtcomes, hpending, hpublish⟩
  · exact Or.inl ⟨hnil, by rw [hpublish]⟩
  · exact Or.inr (Or.inl ⟨hne, hin, by rw [hpublish]⟩)
  · refine Or.inr (Or.inr ⟨hne, hin, ?_⟩)
    rw [hpublish]
    refine (await_cases turns d (b.begun topic payload).2).imp_left ?_
    rintro ⟨outcomes, hend, hhandlers⟩
    refine ⟨outcomes, ?_, ?_⟩
    · rw [hend, htopic, hid]
    · rw [hhandlers, Dispatch.handlers, houtcomes, hpending, List.map_nil, List.nil_append,
        names_begun]

theorem refused_iff (hb : b.registry.Sound) (turns : Nat) (topic : String) (payload : Json.Value)
    (timeout : Option Duration) (e : Error) :
    (b.publish turns topic payload timeout).1 = .refused e ↔
      topic ∉ b.topics ∧ e = .topicHasNoHandlers topic := by
  rw [topics, hb.mem_topics_iff, not_ne_iff]
  rcases ending_cases turns b topic payload timeout with ⟨hnil, hend⟩ | ⟨hne, -, hend⟩ |
    ⟨hne, -, ⟨_, hend, -⟩ | hend | hend⟩
  · rw [hend]
    exact ⟨fun h => ⟨hnil, (Ending.refused.inj h).symm⟩, fun h => h.2 ▸ rfl⟩
  all_goals
    rw [hend]
    exact ⟨fun h => (by cases h), fun h => absurd h.1 hne⟩

theorem panicked_iff (hb : b.registry.Sound) (turns : Nat) (topic : String) (payload : Json.Value)
    (timeout : Option Duration) (message : String) :
    (b.publish turns topic payload timeout).1 = .panicked message ↔
      topic ∈ b.topics ∧ ¬ b.InTime timeout ∧ message = deadlinePanic := by
  rw [topics, hb.mem_topics_iff]
  rcases ending_cases turns b topic payload timeout with ⟨hnil, hend⟩ | ⟨hne, hlate, hend⟩ |
    ⟨-, hin, ⟨_, hend, -⟩ | hend | hend⟩
  · rw [hend]
    exact ⟨fun h => (by cases h), fun h => absurd hnil h.1⟩
  · rw [hend]
    exact ⟨fun h => ⟨hne, hlate, (Ending.panicked.inj h).symm⟩, fun h => h.2.2 ▸ rfl⟩
  all_goals
    rw [hend]
    exact ⟨fun h => (by cases h), fun h => absurd hin h.2.1⟩

theorem reported (turns : Nat) {r : Report}
    (h : (b.publish turns topic payload timeout).1 = .report r) :
    r.topic = topic ∧ r.eventId = (b.envelope topic payload).id ∧
    r.outcomes.map Outcome.handler = b.names topic := by
  rcases ending_cases turns b topic payload timeout with ⟨-, hend⟩ | ⟨-, -, hend⟩ |
    ⟨-, -, ⟨outcomes, hend, hnames⟩ | hend | hend⟩
  case inr.inr.inl =>
    rw [hend] at h
    rw [← Ending.report.inj h]
    exact ⟨rfl, rfl, hnames⟩
  all_goals
    rw [hend] at h
    cases h

section Told

variable {i : Nat} {name : String} {f : Handler ν}
  (h : (b.registry.handlers topic)[i]? = some (name, f))
include h

/-- Before it is called, the task of a handler has its whole run before it. -/
theorem runs_begun (payload : Json.Value) :
    Runs (b.spawned + i) (f (b.envelope topic payload)) (b.begun topic payload).2 := by
  intro a ha
  rw [(task_begun payload h).2] at ha
  exact Option.some.inj ha ▸ rfl

end Told

end Larder.Events.Bus
