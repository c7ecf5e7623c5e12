import Larder.Dict
import Larder.Redis.Command

/-!
The cache server: keys and their values, and what each command does to them.  A value goes away when
its time is over; the server is told so by `expire`.
-/

namespace Larder.Redis

abbrev Server := Dict Bytes Bytes

namespace Server

def ofBool (b : Bool) : Reply := .integer (if b then 1 else 0)

/-- Executes a command, all of it at once. -/
def execute (s : Server) : Command → Reply × Server
  | .setFor key _ value => (.okay, Dict.insert s key (Utf8.encode value))
  | .get key =>
    match Dict.get? s key with
    | some bytes => (.bulk bytes, s)
    | none => (.null, s)
  | .contains key => (ofBool (Dict.contains s key), s)
  | .delete key => (ofBool (Dict.contains s key), Dict.erase s key)
  | .ping => (.status "PONG", s)

/-- The time of a key is over. -/
def expire (s : Server) (key : Bytes) : Server := Dict.erase s key

end Server

end Larder.Redis
