import Larder.Proofs.Events.Steps

/-!
What happens on the way from one state of the bus to another.

A handler is called in the first turn of its task, and what it gives is what the task then runs
(`Turn.call`).  Running the queue, waiting for a publish and letting time pass are made of turns,
looks at handlers that are waited for and steps of the clock, so there is a way from the state
before to the state after, with the calls that were made on it (`way_publish`).  What each move
keeps is kept on the whole way (`Way.along`).
-/

namespace Larder.Events

variable {ν : Type}

/-- A call of a handler. -/
structure Invocation (ν : Type) where
  task : TaskId
  handler : Handler ν
  envelope : Envelope

namespace Bus

/-- The turn of a task that has come out of the queue, and the calls of handlers in it. -/
inductive Turn (t : TaskId) : Bus ν → List (Invocation ν) → Bus ν → Prop where
  /-- In the first turn the handler is called, and what it gives is run. -/
  | call {b : Bus ν} {f : Handler ν} {e : Envelope}
      (h : Dict.get? b.tasks t = some (.fresh f e)) : Turn t b [⟨t, f, e⟩] (b.run t (f e))
  /-- Later the task goes on with what is left. -/
  | goOn {b : Bus ν} {rest : Routine ν} (h : Dict.get? b.tasks t = some (.ready rest)) :
      Turn t b [] (b.run t rest)
  /-- A publish of the task was waited for, and its report is there. -/
  | told {b b' : Bus ν} {d d' : Dispatch} {next : Answer Report → Routine ν}
      (h : Dict.get? b.tasks t = some (.publishing d next)) (hsettle : b.settle d = (d', b'))
      (hdone : d'.pending = []) : Turn t b [] ((b'.clearTimers t).run t (next (.ok d'.report)))
  /-- A publish of the task has still to be waited for. -/
  | waits {b b' : Bus ν} {d d' : Dispatch} {next : Answer Report → Routine ν}
      (h : Dict.get? b.tasks t = some (.publishing d next)) (hsettle : b.settle d = (d', b'))
      (hpending : d'.pending ≠ []) : Turn t b [] (b'.set t (.publishing d' next))
  /-- The task is gone or has ended, or waits for something else. -/
  | idle {b : Bus ν} (hfresh : ∀ f e, Dict.get? b.tasks t ≠ some (.fresh f e))
      (hready : ∀ rest, Dict.get? b.tasks t ≠ some (.ready rest))
      (hpublishing : ∀ d next, Dict.get? b.tasks t ≠ some (.publishing d next)) : Turn t b [] b

/-- One thing that happens on the bus, and the calls of handlers in it. -/
inductive Move : Bus ν → List (Invocation ν) → Bus ν → Prop where
  | turn {b b' : Bus ν} {t : TaskId} {rest : List TaskId} {calls : List (Invocation ν)}
      (hqueue : b.queue = t :: rest) (h : Turn t { b with queue := rest } calls b') :
      Move b calls b'
  /-- Handlers that are waited for are looked at, and stopped if their time is over. -/
  | settle (b : Bus ν) (d : Dispatch) : Move b [] (b.settle d).2
  | pass {b b' : Bus ν} {limit : Option Nat} (h : b.pass? limit = some b') : Move b [] b'

/-- A way from one state to another, as long as the program runs, and the calls of handlers on
it. -/
inductive Way : Bus ν → List (Invocation ν) → Bus ν → Prop where
  | refl (b : Bus ν) : Way b [] b
  | move {b b' b'' : Bus ν} {calls more : List (Invocation ν)} (hrunning : b.aborted = false)
      (h : Move b calls b') (h' : Way b' more b'') : Way b (calls ++ more) b''

variable {b b' b'' : Bus ν} {t : TaskId} {calls more : List (Invocation ν)}

/-! ## Turns -/

theorem turn_resume (b : Bus ν) (t : TaskId) : ∃ calls, Turn t b calls (b.resume t) := by
  unfold resume
  split
  · next h => exact ⟨_, .call h⟩
  · next h => exact ⟨_, .goOn h⟩
  · next d next h =>
    generalize hsettle : b.settle d = settled
    obtain ⟨d', b'⟩ := settled
    dsimp only
    split
    · next hdone => exact ⟨_, .told h hsettle (List.isEmpty_iff.1 hdone)⟩
    · next hpending => exact ⟨_, .waits h hsettle fun hnil => hpending (List.isEmpty_iff.2 hnil)⟩
  · next hfresh hready hpublishing => exact ⟨_, .idle hfresh hready hpublishing⟩

theorem Turn.eq_resume (h : Turn t b calls b') : b' = b.resume t := by
  cases h with
  | call h => rw [resume, h]
  | goOn h => rw [resume, h]
  | told h hsettle hdone =>
    rw [resume, h]
    dsimp only
    rw [hsettle]
    exact (if_pos (List.isEmpty_iff.2 hdone)).symm
  | waits h hsettle hpending =>
    rw [resume, h]
    dsimp only
    rw [hsettle]
    exact (if_neg fun hempty => hpending (List.isEmpty_iff.1 hempty)).symm
  | idle hfresh hready hpublishing =>
    unfold resume
    split
    · next h => exact absurd h (hfresh _ _)
    · next h => exact absurd h (hready _)
    · next h => exact absurd h (hpublishing _ _)
    · rfl

theorem Turn.task_eq (h : Turn t b calls b') : ∀ c ∈ calls, c.task = t := by
  cases h with
  | call => exact fun c hc => by rw [List.mem_singleton.1 hc]
  | _ => exact fun c hc => absurd hc List.not_mem_nil

/-! ## Ways -/

theorem Way.trans (h : Way b calls b') (h' : Way b' more b'') : Way b (calls ++ more) b'' := by
  induction h with
  | refl => exact h'
  | move hrunning h _ ih =>
    rw [List.append_assoc]
    exact .move hrunning h (ih h')

theorem Way.eq_of_aborted (haborted : b.aborted = true) (h : Way b calls b') :
    calls = [] ∧ b' = b := by
  cases h with
  | refl => exact ⟨rfl, rfl⟩
  | move hrunning => exact absurd (hrunning.symm.trans haborted) Bool.false_ne_true

/-- A relation that each move keeps is kept on the whole way. -/
theorem Way.along {R : Bus ν → Bus ν → Prop} (hrefl : ∀ b, R b b)
    (htrans : ∀ {b b' b''}, R b b' → R b' b'' → R b b'')
    (hmove : ∀ {b calls b'}, Move b calls b' → R b b') (h : Way b calls b') : R b b' := by
  induction h with
  | refl b => exact hrefl b
  | move _ h _ ih => exact htrans (hmove h) ih

theorem way_drain (turns : Nat) (b : Bus ν) : ∃ calls, Way b calls (drain turns b) := by
  induction turns generalizing b with
  | zero => exact ⟨[], .refl b⟩
  | succ turns ih =>
    unfold drain
    split
    · exact ⟨[], .refl b⟩
    · next hrunning =>
      split
      · exact ⟨[], .refl b⟩
      · next t rest hqueue =>
        obtain ⟨calls, hturn⟩ := turn_resume { b with queue := rest } t
        obtain ⟨more, hmore⟩ := ih (resume { b with queue := rest } t)
        exact ⟨calls ++ more, .move (Bool.not_eq_true _ ▸ hrunning) (.turn hqueue hturn) hmore⟩

theorem way_await (turns : Nat) (d : Dispatch) (b : Bus ν) :
    ∃ calls, Way b calls (await turns d b).2 := by
  induction turns generalizing d b with
  | zero => exact ⟨[], .refl b⟩
  | succ turns ih =>
    unfold await
    split
    · exact ⟨[], .refl b⟩
    · next hrunning =>
      have hrunning : b.aborted = false := Bool.not_eq_true _ ▸ hrunning
      have hsettle : Move b [] (b.settle d).2 := .settle b d
      have hsettled : (b.settle d).2.aborted = false := hrunning
      generalize b.settle d = settled at hsettle hsettled
      obtain ⟨d', b'⟩ := settled
      dsimp only at hsettle hsettled ⊢
      split
      · exact ⟨_, .move hrunning hsettle (.refl b')⟩
      · split
        · split
          · next b'' hpass =>
            obtain ⟨calls, hcalls⟩ := ih d' b''
            exact ⟨_, .move hrunning hsettle (.move hsettled (.pass hpass) hcalls)⟩
          · exact ⟨_, .move hrunning hsettle (.refl b')⟩
        · obtain ⟨calls, hcalls⟩ := way_drain turns b'
          obtain ⟨more, hmore⟩ := ih d' (drain turns b')
          exact ⟨_, .move hrunning hsettle (hcalls.trans hmore)⟩

/-- Once a publish has begun there is a way to where it ends. -/
theorem way_publish (turns : Nat) (b : Bus ν) (topic : String) (payload : Json.Value)
    (timeout : Option Duration) :
    ∃ calls, Way (b.start topic payload timeout).2 calls
      (b.publish turns topic payload timeout).2 := by
  unfold publish
  generalize b.start topic payload timeout = started
  obtain ⟨outcome, b'⟩ := started
  cases outcome with
  | refused e => exact ⟨[], .refl b'⟩
  | panicked message => exact ⟨[], .refl b'⟩
  | waiting d => exact way_await turns d b'

theorem way_advanceUntil (turns time : Nat) (b : Bus ν) :
    ∃ calls, Way b calls (advanceUntil turns time b) := by
  induction turns generalizing b with
  | zero => exact ⟨[], .refl b⟩
  | succ turns ih =>
    unfold advanceUntil
    split
    · exact ⟨[], .refl b⟩
    · next hgoes =>
      have hrunning : b.aborted = false :=
        (Bool.or_eq_false_iff.1 (Bool.not_eq_true _ ▸ hgoes)).1
      split
      · split
        · next b' hpass =>
          obtain ⟨calls, hcalls⟩ := ih b'
          exact ⟨_, .move hrunning (.pass hpass) hcalls⟩
        · exact ⟨[], .refl b⟩
      · obtain ⟨calls, hcalls⟩ := way_drain turns b
        obtain ⟨more, hmore⟩ := ih (drain turns b)
        exact ⟨calls ++ more, hcalls.trans hmore⟩

theorem way_advance (turns : Nat) (b : Bus ν) (d : Duration) :
    ∃ calls, Way b calls (b.advance turns d) :=
  way_advanceUntil turns _ b

end Bus

end Larder.Events
