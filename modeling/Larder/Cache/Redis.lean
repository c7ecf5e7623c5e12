import Larder.Cache.Backend
import Larder.Json.Reader
import Larder.Redis.Address
import Larder.Redis.Client

/-!
The cache on a server.  Keys have the namespace in front, values are kept as their text, and the
server itself lets them go when their time is over, so a value that is too old is simply missing.  A
write that fails is dropped.
-/

namespace Larder.Cache

open Larder.Redis (Address Client.setFor Client.get Client.contains Client.delete Client.ping Talk)

namespace Redis

/-- Keeps a value for whole seconds, one at least. -/
def set (ns : String) (key : Key) (value : Json.Value) (ttl : Duration) : Talk (Answer Unit) :=
  Client.setFor (key.namespaced ns) (max ttl.seconds 1) value.text

/-- The value that a text on the server stands for. -/
def valueOf (text : String) : Answer Json.Value :=
  match Json.read? text with
  | some v => .ok v
  | none => .error (.typeMismatch "JSON value" Json.malformedText)

def get (ns : String) (key : Key) : Talk (Answer Json.Value) := do
  match ← Client.get (key.namespaced ns) with
  | .ok (some text) => return valueOf text
  | .ok none => return .error (missing key)
  | .error e => return .error e

def contains (ns : String) (key : Key) : Talk (Answer Unit) := do
  match ← Client.contains (key.namespaced ns) with
  | .ok true => return .ok ()
  | .ok false => return .error (missing key)
  | .error e => return .error e

/-- Deletes a key that is there; it may go away between the question and the command. -/
def delete (ns : String) (key : Key) : Talk (Answer Unit) := do
  match ← contains ns key with
  | .error e => return .error e
  | .ok () =>
    match ← Client.delete (key.namespaced ns) with
    | .ok n => return if n = 0 then .error (missing key) else .ok ()
    | .error e => return .error e

def ping : Talk (Answer Unit) := do
  return (← Client.ping).map fun _ => ()

/-- The address of the server that settings name. -/
def addressOf (s : CacheSettings) : Answer Address := do
  let url ← s.connectionUrl
  (Address.read url).mapError fun f => .configuration ("Invalid Redis config: Redis: " ++ f.message)

def notPrepared : Error := .connectivity "Redis cache driver is not initialized"

end Redis

/-- A cache on a server.  `server` holds the address once the cache is prepared; no connection is
made before a command is to be sent. -/
def redis {σ : Type} (nameSpace : String) (defaultTtl : Duration) (settings : Place σ CacheSettings)
    (server : Place σ (Option Address))
    (send : Address → Larder.Redis.Command → StateM σ Larder.Redis.Response) : Backend σ :=
  let talk {α : Type} (t : Talk (Answer α)) : StateM σ (Answer α) := do
    match ← server.read with
    | none => return .error Redis.notPrepared
    | some address => t.hold (send address)
  let set (key : Key) (value : Json.Value) (ttl : Option Duration) : StateM σ Unit := do
    let _ ← talk (Redis.set nameSpace key value (ttl.getD defaultTtl))
    return ()
  let get (key : Key) : StateM σ (Answer Json.Value) := talk (Redis.get nameSpace key)
  { kind := .redis
    nameSpace
    defaultTtl
    prepare := do
      if (← server.read).isSome then return .ok ()
      match Redis.addressOf (← settings.read) with
      | .error e => return .error e
      | .ok address =>
        server.write (some address)
        return .ok ()
    setConnection := settings.write
    connection := settings.read
    set
    get
    delete := fun key => talk (Redis.delete nameSpace key)
    contains := fun key => talk (Redis.contains nameSpace key)
    getOrSet := fun key value ttl => do
      set key value ttl
      get key
    ping := talk Redis.ping }

end Larder.Cache
