import Larder.Proofs.Events.Courses

/-!
How often handlers are called.

Once a task had its turn it is past the call of its handler, or has ended the program.  So on no way
does a task call its handler more than once, and it must have called it before it has ended
(`Way.called`).
-/

namespace Larder.Events.Bus

variable {ν : Type} {t u : TaskId} {b b' : Bus ν} {calls more : List (Invocation ν)}

/-- The calls that a task makes. -/
def callsOf (u : TaskId) (calls : List (Invocation ν)) : List (Invocation ν) :=
  calls.filter fun c => c.task = u

theorem callsOf_append (u : TaskId) (calls more : List (Invocation ν)) :
    callsOf u (calls ++ more) = callsOf u calls ++ callsOf u more := List.filter_append _ _

theorem callsOf_eq_nil (h : ∀ c ∈ calls, c.task ≠ u) : callsOf u calls = [] :=
  List.filter_eq_nil_iff.2 fun c hc heq => h c hc (of_decide_eq_true heq)

/-- The handler of a task was not called, and will not be if the task is gone. -/
def Undone (u : TaskId) (b : Bus ν) : Prop := ∀ a, Dict.get? b.tasks u = some a → a.IsFresh

theorem Undone.statusOf (h : Undone u b) : b.statusOf u = none := by
  unfold Bus.statusOf
  split
  · next status ha => exact absurd (h _ ha) id
  · rfl

/-! ## One move -/

/-- A task does not call its handler. -/
structure Uncalled (u : TaskId) (calls : List (Invocation ν)) (b b' : Bus ν) : Prop where
  none : callsOf u calls = []
  fresh_before : ∀ f e, Dict.get? b'.tasks u = some (.fresh f e) →
    Dict.get? b.tasks u = some (.fresh f e)
  undone : Undone u b → Undone u b'

theorem uncalled_of_leaves (hnone : callsOf u calls = []) (hu : u < b.spawned)
    (h : Leaves (· = u) b b') : Uncalled u calls b b' where
  none := hnone
  fresh_before _ _ := (h.shift u rfl hu).fresh_before
  undone hundone _ ha := (h.shift u rfl hu).not_ended hundone ha

/-- Where the handler was called already, a turn of the task does not call it. -/
theorem uncalled_of_took {r : Routine ν} (hu : u < b.spawned) {a : Activity ν}
    (ha : Dict.get? b.tasks u = some a) (hcalled : ¬ a.IsFresh) (htook : Took u r b b') :
    Uncalled u ([] : List (Invocation ν)) b b' where
  none := rfl
  fresh_before f e h := by
    rcases htook with ⟨-, hleaves⟩ | hstands
    · exact (hleaves.shift u rfl hu).fresh_before h
    · exact absurd trivial (hstands.not_fresh h)
  undone h := absurd (h a ha) hcalled

/-- A task calls its handler once. -/
def Called (u : TaskId) (calls : List (Invocation ν)) (b : Bus ν) : Prop :=
  ∃ f e, Dict.get? b.tasks u = some (.fresh f e) ∧ callsOf u calls = [⟨u, f, e⟩]

/-- The handler of a task will not be called any more. -/
def Past (u : TaskId) (b : Bus ν) : Prop :=
  b.aborted = true ∨ ∀ a, Dict.get? b.tasks u = some a → ¬ a.IsFresh

theorem Turn.called (h : Turn u b calls b') (hu : u < b.spawned) :
    Uncalled u calls b b' ∨ Called u calls b ∧ Past u b' := by
  cases h with
  | @call f e h =>
    have honce : callsOf u [⟨u, f, e⟩] = [(⟨u, f, e⟩ : Invocation ν)] :=
      List.filter_cons_of_pos (decide_eq_true rfl)
    have htook : Took u (f e) b (b.run u (f e)) := took_run _ .start b
    refine Or.inr ⟨⟨f, e, h, honce⟩, htook.imp And.left fun hstands a ha => ?_⟩
    exact hstands.not_fresh ha
  | @goOn rest h =>
    have htook : Took u rest b (b.run u rest) := took_run rest .start b
    exact Or.inl (uncalled_of_took hu h id htook)
  | @told b' d d' next h hsettle =>
    have hleaves := leaves_settle (· = u) b d
    rw [hsettle] at hleaves
    have hcleared : Leaves (· = u) b (b'.clearTimers u) := hleaves.trans (leaves_of_eq rfl rfl)
    let left := next (.ok d'.report)
    have htook : Took u left (b'.clearTimers u) ((b'.clearTimers u).run u left) :=
      took_run left .start _
    exact Or.inl (uncalled_of_took hu h id (htook.after hcleared))
  | @waits b' d d' next h =>
    have hstands : Stands u (.publish "" .null next) (b'.set u (.publishing d' next)) :=
      stands_set b' (a := .publishing d' next) id (Routine.Leads.publish .start)
    exact Or.inl (uncalled_of_took hu h id (Or.inr hstands))
  | idle => exact Or.inl (uncalled_of_leaves rfl hu (.refl _ b))

theorem Move.called (h : Move b calls b') (hu : u < b.spawned) :
    Uncalled u calls b b' ∨ Called u calls b ∧ Past u b' := by
  cases h with
  | @turn _ t rest _ _ hturn =>
    by_cases hne : u = t
    · subst hne
      have hpopped : u < { b with queue := rest }.spawned := hu
      exact (hturn.called hpopped).imp_left fun h => ⟨h.none, h.fresh_before, h.undone⟩
    · have hothers : ∀ c ∈ calls, c.task ≠ u := fun c hc h => hne (h ▸ hturn.task_eq c hc)
      have hleaves := leaves_resume (P := (· = u)) (fun ht => hne ht.symm) { b with queue := rest }
      rw [← hturn.eq_resume] at hleaves
      exact Or.inl (uncalled_of_leaves (callsOf_eq_nil hothers) hu ⟨hleaves.shift, hleaves.spawned⟩)
  | settle d => exact Or.inl (uncalled_of_leaves rfl hu (leaves_settle _ b d))
  | pass h => exact Or.inl (uncalled_of_leaves rfl hu (leaves_pass? _ h))

/-! ## A whole way -/

/-- On a way a task calls its handler once, if that was still to be called; or it does not, and the
handler is still to be called afterwards if it was before, unless the task is gone. -/
theorem Way.called (h : Way b calls b') (hu : u < b.spawned) :
    callsOf u calls = [] ∧ (Undone u b → Undone u b') ∨ Called u calls b := by
  induction h with
  | refl => exact Or.inl ⟨rfl, id⟩
  | @move b b' b'' calls more _ hmove hway ih =>
    have hmore := ih (Nat.lt_of_lt_of_le hu hmove.spawned_le)
    rcases hmove.called hu with huncalled | ⟨⟨f, e, hfresh, hcall⟩, hpast⟩
    · rcases hmore with ⟨hnone, hundone⟩ | ⟨f, e, hfresh, hcall⟩
      · refine Or.inl ⟨?_, fun h => hundone (huncalled.undone h)⟩
        rw [callsOf_append, huncalled.none, hnone, List.append_nil]
      · refine Or.inr ⟨f, e, huncalled.fresh_before f e hfresh, ?_⟩
        rw [callsOf_append, huncalled.none, hcall, List.nil_append]
    · -- The call was made in this move, so none can follow.
      have hnone : callsOf u more = [] := by
        rcases hpast with haborted | hcalled
        · rw [(hway.eq_of_aborted haborted).1]
          rfl
        · rcases hmore with ⟨hnone, -⟩ | ⟨f', e', hfresh', -⟩
          · exact hnone
          · exact absurd trivial (hcalled _ hfresh')
      refine Or.inr ⟨f, e, hfresh, ?_⟩
      rw [callsOf_append, hcall, hnone, List.append_nil]

section Fresh

variable {f : Handler ν} {e : Envelope} (hfresh : Dict.get? b.tasks u = some (.fresh f e))
  (hu : u < b.spawned) (h : Way b calls b')
include hfresh hu h

theorem Way.calls_at_most_once : callsOf u calls = [] ∨ callsOf u calls = [⟨u, f, e⟩] := by
  refine (h.called hu).imp And.left ?_
  rintro ⟨f', e', hfresh', hcall⟩
  rw [hfresh] at hfresh'
  obtain ⟨rfl, rfl⟩ := Activity.fresh.inj (Option.some.inj hfresh')
  exact hcall

/-- A task that has ended has called its handler. -/
theorem Way.calls_once {status : Status} (hended : b'.statusOf u = some status) :
    callsOf u calls = [⟨u, f, e⟩] := by
  refine (h.calls_at_most_once hfresh hu).resolve_left fun hnone => ?_
  rcases h.called hu with ⟨-, hundone⟩ | ⟨f', e', -, hcall⟩
  · have hstill : Undone u b := by
      intro a ha
      rw [hfresh] at ha
      rw [← Option.some.inj ha]
      trivial
    rw [(hundone hstill).statusOf] at hended
    cases hended
  · rw [hnone] at hcall
    cases hcall

end Fresh

end Larder.Events.Bus
