import Larder.Redis.Command

/-!
What a client asks the cache server, and what it makes of the response.
-/

namespace Larder.Redis.Client

open Conversation (request)

/-- The answer that a response stands for, to someone who expects a certain kind of reply.  A
refusal is one wherever it stands in the reply. -/
def answer {α : Type} (expect : Reply → Except Failure α) : Response → Answer α
  | .noConnection f => .error f.toError
  | .lost f => .error f.toError
  | .reply r =>
    match r.firstError? with
    | some line => .error (Reply.refusal line).toError
    | none => (expect r).mapError Failure.toError

def setFor (key : Bytes) (seconds : Nat) (value : String) : Talk (Answer Unit) := do
  return answer Reply.toUnit (← request (.setFor key seconds value))

def get (key : Bytes) : Talk (Answer (Option String)) := do
  return answer Reply.toOptionalText (← request (.get key))

def contains (key : Bytes) : Talk (Answer Bool) := do
  return answer Reply.toBool (← request (.contains key))

/-- Number of keys that were deleted. -/
def delete (key : Bytes) : Talk (Answer Int) := do
  return answer Reply.toInteger (← request (.delete key))

def ping : Talk (Answer String) := do
  return answer Reply.toText (← request .ping)

end Larder.Redis.Client
