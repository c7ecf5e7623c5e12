import Larder.Conversation
import Larder.Sql.Failure
import Larder.Sql.Statement

/-!
What is asked while documents are kept in a database: of the database server, and of whoever hands
out fresh identifiers.
-/

namespace Larder.Sql

inductive Demand where
  /-- Opens the connections to the server at a URL. -/
  | connect (url : String)
  /-- Brings the tables to a version. -/
  | migrate (version : Nat)
  | query (s : Statement)
  | execute (s : Statement)
  | startTransaction
  | commit
  /-- Closes the connections, now and for good. -/
  | close
  /-- An identifier that was not handed out before. -/
  | identifier

/-- The text of each row's only column, none for null. -/
abbrev Rows := List (Option String)

/-- What a demand is answered with: rows, the number of rows that were changed, or nothing but that
it was done. -/
abbrev Demand.Response : Demand → Type
  | connect _ => Except Failure Unit
  | migrate _ => Except Failure Unit
  | query _ => Except Failure Rows
  | execute _ => Except Failure Nat
  | startTransaction => Except Failure Unit
  | commit => Except Failure Unit
  | close => Unit
  | identifier => String

abbrev Talk (α : Type) := Conversation Demand Demand.Response α

namespace Talk

def connect (url : String) : Talk (Except Failure Unit) := .ask (Demand.connect url) .done

def migrate (version : Nat) : Talk (Except Failure Unit) := .ask (Demand.migrate version) .done

def query (s : Statement) : Talk (Except Failure Rows) := .ask (Demand.query s) .done

def execute (s : Statement) : Talk (Except Failure Nat) := .ask (Demand.execute s) .done

def startTransaction : Talk (Except Failure Unit) := .ask Demand.startTransaction .done

def commit : Talk (Except Failure Unit) := .ask Demand.commit .done

def identifier : Talk String := .ask Demand.identifier .done

end Talk

end Larder.Sql
