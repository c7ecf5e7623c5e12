import Larder.Redis.Address
import Larder.Redis.Server

/-!
A cache server that keeps a log of its commands and can be told how to answer the next ones, to see
what a client makes of answers that a server seldom gives.
-/

namespace Larder.Redis

/-- What happens to the next command. -/
inductive Cue where
  /-- It is executed. -/
  | pass
  /-- The connection breaks before it is executed. -/
  | drop
  /-- It is not executed, and this stands on the wire in place of its reply. -/
  | raw (bytes : Bytes)
deriving DecidableEq

structure Scripted where
  /-- Host and port at which the server listens, if it does. -/
  address : Option (String × Nat)
  keys : Server
  script : List Cue
  log : List Command

namespace Scripted

def idle : Scripted := ⟨none, [], [], []⟩

/-- The failure of a connection to an address at which nothing listens. -/
def refused : Response := .noConnection (.backend (.io "Connection refused (os error 111)"))

def broken : Response := .lost (.io "broken pipe")

def execute (c : Command) : StateM Scripted Response := fun s =>
  let (reply, keys) := s.keys.execute c
  (.reply reply, { s with keys })

/-- Answers a command that was received. -/
def perform (c : Command) : Cue → StateM Scripted Response
  | .pass => execute c
  | .drop => return broken
  | .raw bytes =>
    match Reply.read? bytes with
    | some reply => return .reply reply
    | none => return broken

/-- Answers a command sent to an address. -/
def answer (a : Address) (c : Command) : StateM Scripted Response := do
  let s ← get
  if s.address != some (a.host, a.port) then return refused
  set { s with log := s.log ++ [c], script := s.script.tail }
  perform c (s.script.head?.getD .pass)

end Scripted

end Larder.Redis
