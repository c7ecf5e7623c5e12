import Larder.Conversation
import Larder.Redis.Failure
import Larder.Redis.Reply
import Larder.Text.Utf8

/-!
The commands that a cache sends to its server, and what can come of sending one.
-/

namespace Larder.Redis

inductive Command where
  /-- Keeps a value for a number of seconds. -/
  | setFor (key : Bytes) (seconds : Nat) (value : String)
  | get (key : Bytes)
  | contains (key : Bytes)
  | delete (key : Bytes)
  | ping
deriving DecidableEq

/-- The words of a command, as they are sent. -/
def Command.words : Command → List Bytes
  | setFor key seconds value =>
    [Utf8.encode "SETEX", key, Utf8.encode (toString seconds), Utf8.encode value]
  | get key => [Utf8.encode "GET", key]
  | contains key => [Utf8.encode "EXISTS", key]
  | delete key => [Utf8.encode "DEL", key]
  | ping => [Utf8.encode "PING"]

inductive Response where
  /-- There was no connection to send the command on. -/
  | noConnection (f : PoolFailure)
  /-- The connection failed, so it is not known what became of the command. -/
  | lost (f : Failure)
  | reply (r : Reply)

/-- A conversation with the server. -/
abbrev Talk (α : Type) := Conversation Command (fun _ => Response) α

end Larder.Redis
