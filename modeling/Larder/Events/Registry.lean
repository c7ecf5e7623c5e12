import Larder.Dict
import Larder.Events.Routine

/-!
Which handlers listen to which topic.  A name is registered once under a topic, the first handler
stays, and a topic is there as long as a name is registered under it.
-/

namespace Larder.Events

abbrev Registry (ν : Type) := Dict String (Dict String (Handler ν))

namespace Registry

variable {ν : Type}

/-- The handlers of a topic in the order of their names. -/
def handlers (r : Registry ν) (topic : String) : Dict String (Handler ν) :=
  (Dict.get? r topic).getD []

def has (r : Registry ν) (topic name : String) : Bool :=
  Dict.contains (r.handlers topic) name

def names (r : Registry ν) (topic : String) : List String :=
  Dict.keys (r.handlers topic)

def topics (r : Registry ν) : List String := Dict.keys r

/-- Registers a handler, unless the name is taken; tells whether it was registered. -/
def add (r : Registry ν) (topic name : String) (h : Handler ν) : Bool × Registry ν :=
  if r.has topic name then (false, r)
  else (true, Dict.insert r topic (Dict.insert (r.handlers topic) name h))

/-- Takes a handler away, and its topic with the last one. -/
def remove (r : Registry ν) (topic name : String) : Answer Unit × Registry ν :=
  if r.has topic name then
    let left := Dict.erase (r.handlers topic) name
    (.ok (), if left.isEmpty then Dict.erase r topic else Dict.insert r topic left)
  else (.error (.handlerNotRegistered topic name), r)

end Registry

end Larder.Events
