import Larder.Events.Publish
import Larder.Proofs.Dict

/-!
How a publish begins, and what its report holds.
-/

namespace Larder.Events

variable {ν : Type}

/-! ## The order of outcomes -/

namespace Dispatch

/-- The handlers of a dispatch, those that were waited for and those that are pending. -/
def handlers (d : Dispatch) : List String :=
  d.outcomes.map Outcome.handler ++ d.pending.map Prod.fst

theorem handlers_look (statusOf : TaskId → Option Status) (late : Bool)
    (pending : List (String × TaskId)) :
    (look statusOf late pending).outcomes.map Outcome.handler ++
    (look statusOf late pending).pending.map Prod.fst
      = pending.map Prod.fst := by
  induction pending with
  | nil => rfl
  | cons handler rest ih =>
    obtain ⟨name, task⟩ := handler
    unfold look
    split
    · exact congrArg (name :: ·) ih
    · split
      · exact congrArg (name :: ·) ih
      · rfl

theorem handlers_settle (d : Dispatch) (statusOf : TaskId → Option Status) (now : Nat) :
    (d.settle statusOf now).1.handlers = d.handlers := by
  have hlook := handlers_look statusOf (isOver d.deadline now) d.pending
  show List.map Outcome.handler
      (d.outcomes ++ (look statusOf (isOver d.deadline now) d.pending).outcomes)
    ++ (look statusOf (isOver d.deadline now) d.pending).pending.map Prod.fst = _
  rw [List.map_append, List.append_assoc, hlook]
  rfl

end Dispatch

namespace Bus

/-! ## The beginning -/

/-- The envelope of an event that is published next. -/
def envelope (b : Bus ν) (topic : String) (payload : Json.Value) : Envelope :=
  ⟨Uuid.timed (b.now / 1_000_000) b.published, topic, payload⟩

/-- The pending handlers and the state once each handler of a topic has a task. -/
def begun (b : Bus ν) (topic : String) (payload : Json.Value) : List (String × TaskId) × Bus ν :=
  spawn { b with
    published := b.published + 1 } (b.envelope topic payload) (b.registry.handlers topic)

theorem start_of_nil {b : Bus ν} {topic : String} (h : b.registry.handlers topic = [])
    (payload : Json.Value) (timeout : Option Duration) :
    b.start topic payload timeout = (.refused (.topicHasNoHandlers topic), b) := by
  unfold start
  rw [h]

theorem start_of_ne_nil {b : Bus ν} {topic : String} (h : b.registry.handlers topic ≠ [])
    (payload : Json.Value) (timeout : Option Duration) :
    b.start topic payload timeout
      = (match timeout with
          | none =>
            .waiting ⟨topic, (b.envelope topic payload).id, none, [], (b.begun topic payload).1⟩
          | some timeout =>
            match deadline? (b.begun topic payload).2.now timeout with
            | some due => .waiting ⟨topic, (b.envelope topic payload).id, some due, [],
                (b.begun topic payload).1⟩
            | none => .panicked deadlinePanic, (b.begun topic payload).2) := by
  unfold begun start envelope
  split
  · next hnil => exact absurd hnil h
  · cases timeout with
    | none => rfl
    | some timeout =>
      dsimp only
      generalize deadline? _ timeout = due
      cases due <;> rfl

/-- Publishing has but one panic of its own. -/
theorem message_of_start {b : Bus ν} {topic : String} {payload : Json.Value}
    {timeout : Option Duration} {message : String}
    (h : (b.start topic payload timeout).1 = .panicked message) : message = deadlinePanic := by
  by_cases hnil : b.registry.handlers topic = []
  · rw [start_of_nil hnil] at h
    cases h
  · rw [start_of_ne_nil hnil] at h
    cases timeout with
    | none => cases h
    | some timeout =>
      dsimp only at h
      split at h
      · cases h
      · exact (Start.panicked.inj h).symm

/-- The tasks come to the end of the queue, and their numbers follow those that there are. -/
theorem spawn_eq (e : Envelope) (handlers : Dict String (Handler ν)) (b : Bus ν) :
    ∃ tasks, (spawn b e handlers).2
      = { b with
          tasks
          queue := b.queue ++ List.range' b.spawned handlers.length
          spawned := b.spawned + handlers.length } := by
  induction handlers generalizing b with
  | nil => exact ⟨b.tasks, by rw [List.length_nil, List.range'_zero, List.append_nil]; rfl⟩
  | cons handler rest ih =>
    obtain ⟨tasks, heq⟩ := ih { b with
      tasks := Dict.insert b.tasks b.spawned (.fresh handler.2 e)
      queue := b.queue ++ [b.spawned]
      spawned := b.spawned + 1 }
    refine ⟨tasks, heq.trans ?_⟩
    dsimp only
    rw [List.length_cons, List.range'_succ, List.append_assoc, Nat.add_assoc, Nat.add_comm 1,
      List.singleton_append]

theorem fst_spawn (e : Envelope) (handlers : Dict String (Handler ν)) (b : Bus ν) :
    (spawn b e handlers).1 = (handlers.zipIdx b.spawned).map fun handler =>
      (handler.1.1, handler.2) := by
  induction handlers generalizing b with
  | nil => rfl
  | cons handler rest ih => exact congrArg ((handler.1, b.spawned) :: ·) (ih _)

theorem get?_spawn_of_ne (e : Envelope) (handlers : Dict String (Handler ν)) {b : Bus ν}
    {u : TaskId} (hu : ∀ i < handlers.length, u ≠ b.spawned + i) :
    Dict.get? (spawn b e handlers).2.tasks u = Dict.get? b.tasks u := by
  induction handlers generalizing b with
  | nil => rfl
  | cons handler rest ih =>
    refine (ih fun i hi => ?_).trans ?_
    · show u ≠ b.spawned + 1 + i
      rw [Nat.add_assoc, Nat.add_comm 1]
      exact hu (i + 1) (Nat.succ_lt_succ hi)
    · have hfirst : u ≠ b.spawned := hu 0 (Nat.succ_pos _)
      rw [Dict.get?_insert, if_neg hfirst]

/-- Each handler gets a task of its own, and all the same envelope. -/
theorem get?_spawn (e : Envelope) {handlers : Dict String (Handler ν)} {b : Bus ν} {name : String}
    {f : Handler ν} {t : TaskId} (h : ((name, f), t) ∈ handlers.zipIdx b.spawned) :
    Dict.get? (spawn b e handlers).2.tasks t = some (.fresh f e) := by
  induction handlers generalizing b with
  | nil => cases h
  | cons handler rest ih =>
    rw [List.zipIdx_cons] at h
    rcases List.mem_cons.1 h with heq | hrest
    · obtain ⟨rfl, rfl⟩ := Prod.mk.inj heq
      refine (get?_spawn_of_ne e rest fun i _ => ?_).trans ?_
      · show b.spawned ≠ b.spawned + 1 + i
        omega
      exact Dict.get?_insert_self _ _ _
    · exact ih hrest

theorem names_begun (b : Bus ν) (topic : String) (payload : Json.Value) :
    (b.begun topic payload).1.map Prod.fst = b.names topic := by
  rw [begun, fst_spawn, List.map_map]
  show ((b.registry.handlers topic).zipIdx b.spawned).map (Prod.fst ∘ Prod.fst)
      = (b.registry.handlers topic).map Prod.fst
  rw [← List.map_map, List.zipIdx_map_fst]

/-! ## The end -/

/-- How waiting ends: a report has the outcomes of all handlers in their order, and there is no
other answer. -/
theorem await_cases (turns : Nat) (d : Dispatch) (b : Bus ν) :
    (∃ outcomes, (await turns d b).1 = .report ⟨d.topic, d.eventId, outcomes⟩ ∧
        outcomes.map Outcome.handler = d.handlers) ∨
      (await turns d b).1 = .aborted ∨ (await turns d b).1 = .unfinished := by
  induction turns generalizing d b with
  | zero => exact Or.inr (Or.inr rfl)
  | succ turns ih =>
    unfold await
    split
    · exact Or.inr (Or.inl rfl)
    · have hhandlers : (b.settle d).1.handlers = d.handlers := d.handlers_settle b.statusOf b.now
      have htopic : (b.settle d).1.topic = d.topic := rfl
      have hid : (b.settle d).1.eventId = d.eventId := rfl
      generalize b.settle d = settled at hhandlers htopic hid
      obtain ⟨d', b'⟩ := settled
      rw [← hhandlers, ← htopic, ← hid]
      dsimp only
      split
      · next hpending =>
        refine Or.inl ⟨d'.outcomes, rfl, ?_⟩
        rw [Dispatch.handlers, List.isEmpty_iff.1 hpending]
        exact (List.append_nil _).symm
      · split
        · split
          · exact ih d' _
          · exact Or.inr (Or.inr rfl)
        · exact ih d' _

end Bus

end Larder.Events
