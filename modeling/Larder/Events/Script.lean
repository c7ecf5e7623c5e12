import Larder.Events.Routine
import Larder.Json.Target

/-!
Handlers written as lists of deeds, done one after the other.  A handler that comes to the end of
its list has succeeded.  What it sees on its way it remarks on, under the topic and the name that it
was registered with.
-/

namespace Larder.Events

/-- What a scripted handler remarks on. -/
inductive Remark where
  | payload (v : Json.Value)
  | text (s : String)
  | decoded (a : Answer Json.Value)
  | added (wasNew : Bool)
  | removed (a : Answer Unit)
  | names (xs : List String)
  | published (a : Answer Report)

/-- A remark by the handler of a name under a topic. -/
structure Comment where
  topic : String
  handler : String
  remark : Remark

/-- Order by topic and then by handler. -/
def Comment.le (a b : Comment) : Bool :=
  ((compare a.topic b.topic).then (compare a.handler b.handler)) != .gt

inductive Deed where
  /-- Remarks on the payload. -/
  | record
  | say (text : String)
  | sleep (d : Duration)
  | yield
  | fail (e : Error)
  | panic (message : Option String)
  /-- Reads the payload as a type.  If that fails, and it is to be passed on, the handler fails as
  it would if it asked for a small number. -/
  | decode (target : Json.Target) (passOn : Bool)
  | meet (gate : String) (parties : Nat)
  | add (topic name : String) (deeds : List Deed)
  | remove (topic name : String)
  | names (topic : String)
  | publish (topic : String) (payload : Json.Value)

namespace Deed

variable {ν : Type} (note : Comment → ν)

mutual

/-- Does a deed and goes on. -/
def routine (topic name : String) (e : Envelope) (next : Routine ν) : Deed → Routine ν
  | record => .note (note ⟨topic, name, .payload e.payload⟩) next
  | say text => .note (note ⟨topic, name, .text text⟩) next
  | sleep d => .sleep d next
  | yield => .yield next
  | fail err => .done (.error err)
  | panic message => .panic message
  | decode target passOn =>
    let read := e.decode target.read
    .note (note ⟨topic, name, .decoded read⟩) <|
      match read, passOn, e.decode Json.Target.u32.read with
      | .error _, true, .error err => .done (.error err)
      | _, _, _ => next
  | meet gate parties => .meet gate parties next
  | add topic' name' deeds =>
    .register topic' name' (fun e => routines topic' name' e deeds) fun wasNew =>
      .note (note ⟨topic, name, .added wasNew⟩) next
  | remove topic' name' =>
    .remove topic' name' fun answer => .note (note ⟨topic, name, .removed answer⟩) next
  | names topic' => .names topic' fun xs => .note (note ⟨topic, name, .names xs⟩) next
  | publish topic' payload =>
    .publish topic' payload fun answer => .note (note ⟨topic, name, .published answer⟩) next

def routines (topic name : String) (e : Envelope) : List Deed → Routine ν
  | [] => .done (.ok ())
  | deed :: rest => routine topic name e (routines topic name e rest) deed

end

/-- The handler that does deeds in order. -/
def handler (topic name : String) (deeds : List Deed) : Handler ν := fun e =>
  routines note topic name e deeds

end Deed

end Larder.Events
