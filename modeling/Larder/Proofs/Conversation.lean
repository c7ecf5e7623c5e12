import Larder.Conversation

/-!
Conversations one after another, and what can be asked in the course of one.
-/

namespace Larder.Conversation

variable {R : Type} {A : R → Type} {α β σ : Type}

theorem hold_bind (answer : (r : R) → StateM σ (A r)) (t : Conversation R A α)
    (f : α → Conversation R A β) (s : σ) :
    (t >>= f).hold answer s = (f (t.hold answer s).1).hold answer (t.hold answer s).2 := by
  induction t generalizing s with
  | done a => rfl
  | ask r next ih => exact ih (answer r s).1 (answer r s).2

/-- Whatever the responses are, only such requests are made. -/
def Within (P : R → Prop) : Conversation R A α → Prop
  | done _ => True
  | ask r next => P r ∧ ∀ response, (next response).Within P

theorem Within.bind {P : R → Prop} {t : Conversation R A α} {f : α → Conversation R A β}
    (ht : t.Within P) (hf : ∀ a, (f a).Within P) : (t >>= f).Within P := by
  induction t with
  | done a => exact hf a
  | ask r next ih => exact ⟨ht.1, fun response => ih response (ht.2 response)⟩

theorem Within.mono {P Q : R → Prop} {t : Conversation R A α} (h : ∀ r, P r → Q r)
    (ht : t.Within P) : t.Within Q := by
  induction t with
  | done a => trivial
  | ask r next ih => exact ⟨h r ht.1, fun response => ih response (ht.2 response)⟩

end Larder.Conversation
