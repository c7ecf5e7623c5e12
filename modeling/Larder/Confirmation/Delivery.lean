import Larder.Confirmation.Basic
import Larder.Events.Publish

/-!
Delivery of confirmation codes: a listener reads the confirmation out of the event and hands it to a
notifier.  An inactive confirmation must never be published; the listener ends the program when it
sees one.
-/

namespace Larder.Confirmation

open Events (Bus Envelope Event Handler Routine)

/-- Delivers a confirmation. -/
abbrev Notifier (ν : Type) := Confirmation → Routine ν

/-- Name of the listener. -/
def listenerName : String := "send_confirmation"

def listener {ν : Type} (deliver : Notifier ν) : Handler ν := fun e =>
  match e.decode shape with
  | .error err => .done (.error err)
  | .ok c => if c.active then deliver c else .abort

/-- A notifier for which it is enough that the delivery was asked for. -/
def silentNotifier {ν : Type} : Notifier ν := fun _ => .done (.ok ())

/-- Registers the listener, unless it is registered. -/
def addListener {ν : Type} (b : Bus ν) (deliver : Notifier ν) : Bool × Bus ν :=
  b.add topic listenerName (listener deliver)

/-- The event that a confirmation was issued. -/
def event (c : Confirmation) : Event := ⟨topic, .ok c.toValue⟩

end Larder.Confirmation
