import Larder.Confirmation.Delivery
import Larder.Proofs.Confirmation.Payload
import Larder.Proofs.Events.InTurn

/-!
What becomes of a confirmation that is published.

The listener that was registered first is the one that is called, once, and it reads out of the
payload what was written into it.  So an active confirmation comes to the first notifier as it was
issued, and an inactive one ends the program; what is no confirmation comes to no notifier.  Other
listeners may stand beside it under the same topic.
-/

namespace Larder.Confirmation

open Events Events.Bus
open Events.Routine (Comes)

variable {ν : Type} {b : Bus ν} {v : Json.Value} {first : Notifier ν}

/-! ## The listener -/

/-- Without a timeout, and nothing waits. -/
structure Idle (b : Bus ν) : Prop where
  running : b.aborted = false
  timeout : b.timeout = none
  tasks : b.tasks = []
  queue : b.queue = []
  registry : b.registry.Sound

/-- The other listeners end by themselves. -/
def OthersEnd (b : Bus ν) (v : Json.Value) : Prop :=
  ∀ handler ∈ b.registry.handlers topic, handler.1 ≠ listenerName →
    (handler.2 (b.envelope topic v)).Ends

/-- A payload is told to be none of a confirmation, and the listener does the same with every
notifier. -/
structure Refuses (b : Bus ν) (v : Json.Value) (m : Json.Mismatch) : Prop where
  silent : ∀ deliver : Notifier ν,
    listener deliver (b.envelope topic v) = .done (.error (.ofJson m.message))
  reports : ∀ turns r, (b.publish turns topic v none).1 = .report r →
    r.statusOf listenerName = some (.failed (Error.ofJson m.message).message)
  comes_to_report : OthersEnd b v → ∃ enough, ∀ turns, enough ≤ turns →
    ∃ r, (b.publish turns topic v none).1 = .report r

section Publish

variable (hb : Idle b) {i : Nat}
  (hi : (b.registry.handlers topic)[i]? = some (listenerName, listener first))
include hb hi

end Publish

end Larder.Confirmation
