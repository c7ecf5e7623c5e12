import Larder.Sql.Demand
import Larder.Sql.Failure
import Larder.Url.Basic

/-!
A database server without data: it keeps a log of its statements and answers them from a script.
-/

namespace Larder.Sql

/-- Where a database server is, and who connects to it, read from a URL. -/
structure Address where
  host : String
  port : Nat
  user : String
deriving DecidableEq, Repr

def Address.defaultPort : Nat := 3306

def Address.read (url : String) : Except Failure Address :=
  match Url.read url with
  | .error e => .error (.configuration e.message)
  | .ok u => .ok ⟨String.ofList u.host, u.port.getD defaultPort, String.ofList u.username⟩

/-- What happens to the next statement. -/
inductive Cue where
  /-- A query brings these rows, and any other statement has changed so many. -/
  | bring (rows : Rows) (changed : Nat)
  | refuse (f : Failure)
  /-- The connection breaks. -/
  | drop
deriving DecidableEq

structure Scripted where
  /-- Host and port at which the server listens, if it does. -/
  address : Option (String × Nat)
  /-- Users that it does not let in. -/
  denied : List String
  migrationFailure : Option Failure
  closed : Bool
  script : List Cue
  log : List Statement
  /-- Identifiers to hand out, and how many were. -/
  ids : Nat → String
  drawn : Nat

namespace Scripted

def idle (ids : Nat → String) : Scripted := ⟨none, [], none, false, [], [], ids, 0⟩

def broken : Failure := .io "expected to read 4 bytes, got 0 bytes at EOF"

def connect (url : String) (s : Scripted) : Except Failure Unit :=
  match Address.read url with
  | .error f => .error f
  | .ok a =>
    if s.address != some (a.host, a.port) then .error .poolTimedOut
    else if s.denied.contains a.user then .error (.server 1045 "28000" "Access denied")
    else .ok ()

/-- Logs a statement, unless the connections are closed. -/
def receive (statement : Statement) : StateM Scripted (Except Failure Unit) := fun s =>
  if s.closed then (.error .poolClosed, s) else (.ok (), { s with log := s.log ++ [statement] })

/-- Logs a statement and answers it from the script. -/
def perform (statement : Statement) : StateM Scripted (Except Failure (Rows × Nat)) := do
  match ← receive statement with
  | .error f => return .error f
  | .ok () =>
    let cue ← modifyGet fun s => (s.script.head?, { s with script := s.script.tail })
    match cue with
    | none => return .ok ([], 0)
    | some (.bring rows changed) => return .ok (rows, changed)
    | some (.refuse f) => return .error f
    | some .drop => return .error broken

def answer : (d : Demand) → StateM Scripted d.Response
  | .connect url => return connect url (← get)
  | .migrate _ => return match (← get).migrationFailure with
    | some f => .error f
    | none => .ok ()
  | .query s => return (← perform s).map Prod.fst
  | .execute s => return (← perform s).map Prod.snd
  | .startTransaction => receive (.piece "BEGIN")
  | .commit => receive (.piece "COMMIT")
  | .close => modify fun s => { s with closed := true }
  | .identifier => modifyGet fun s => (s.ids s.drawn, { s with drawn := s.drawn + 1 })

end Scripted

end Larder.Sql
