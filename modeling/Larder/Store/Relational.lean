import Larder.Document.Patch
import Larder.Json.Reader
import Larder.Settings.Basic
import Larder.Sql.Demand
import Larder.Store.Driver

/-!
Documents in one table of a database: a row for each document, with its collection, its identifier
and its body.

The text of a statement depends on the fields of the criteria, the kinds of their conditions and the
directions of their order, and on whether there is a limit and an offset.  All else is bound.
-/

namespace Larder.Store

namespace Relational

open Sql (Failure Statement Talk)
open Sql.Statement (bound joined piece)

/-! ## Statements -/

/-- The path of a dotted field within a body. -/
def path (field : String) : String :=
  "$." ++ ".".intercalate
    ((field.toList.splitOn '.').map fun segment => "\"" ++ String.ofList segment ++ "\"")

/-- The value at a field; one that is missing counts as null. -/
def valueAt (field : String) : String :=
  "COALESCE(JSON_EXTRACT(body, '" ++ path field ++ "'), CAST('null' AS JSON))"

/-- A value from its text. -/
def boundJson (v : Json.Value) : Statement :=
  piece "CAST(" ++ bound (.text v.text) ++ piece " AS JSON)"

def equals (field : String) (v : Json.Value) : Statement :=
  piece (valueAt field ++ " = ") ++ boundJson v

def condition (field : String) : Filter → Statement
  | .eq v => equals field v
  | .oneOf [] => piece "FALSE"
  | .oneOf candidates => piece "(" ++ joined " OR " (candidates.map (equals field)) ++ piece ")"

def whereClause (collection : String) (c : Criteria) : Statement :=
  piece " WHERE collection = " ++ bound (.text collection)
    ++ Statement.concat (c.filters.map fun (field, f) => piece " AND " ++ condition field f)

/-- Rows that the order of the criteria does not tell apart come in the order of insertion. -/
def orderClause (c : Criteria) : Statement :=
  piece " ORDER BY "
    ++ Statement.concat (c.order.map fun (field, d) =>
      piece ("JSON_EXTRACT(body, '" ++ path field ++ "') " ++ d.keyword ++ ", "))
    ++ piece "pk ASC"

/-- The limit that goes with an offset where none is asked for. -/
def noLimit : Nat := (1 <<< 64) - 1

def pageClause (limit offset : Option Nat) : Statement :=
  match limit, offset with
  | none, none => piece ""
  | limit, none => piece " LIMIT " ++ bound (.number (limit.getD noLimit))
  | limit, some offset =>
    piece " LIMIT " ++ bound (.number (limit.getD noLimit)) ++ piece " OFFSET " ++
      bound (.number offset)

def selectStatement (collection : String) (c : Criteria) (limit : Option Nat) : Statement :=
  piece "SELECT body FROM documents" ++ whereClause collection c ++ orderClause c ++
    pageClause limit c.offset

def firstOnly (single : Bool) : Statement := piece (if single then " LIMIT 1" else "")

def updateStatement (collection : String) (c : Criteria) (patch : Document)
    (single : Bool) : Statement :=
  piece "UPDATE documents SET body = JSON_MERGE_PATCH(body, " ++
    boundJson (.object (Document.stripId patch))
    ++ piece ")" ++ whereClause collection c ++ orderClause c ++ firstOnly single

def deleteStatement (collection : String) (c : Criteria) : Statement :=
  piece "DELETE FROM documents" ++ whereClause collection c ++ orderClause c ++ firstOnly true

def insertStatement (collection id : String) (d : Document) : Statement :=
  piece "INSERT INTO documents (collection, doc_id, body) VALUES (" ++ bound (.text collection) ++
    piece ", "
    ++ bound (.text id) ++ piece ", " ++ bound (.text (Document.text d)) ++ piece ")"

def pingText : String := "SELECT 1"

/-! ## Rows -/

/-- The value in the column of a row. -/
def valueOfRow : Option String → Except Failure Json.Value
  | none => .error (.columnDecode "0" "unexpected null; try decoding as an `Option`")
  | some text =>
    match Json.read? text with
    | some v => .ok v
    | none => .error (.columnDecode "0" Json.malformedText)

def documentOfValue : Json.Value → Answer Document
  | .object members => .ok members
  | v => .error (.decode ("document body is not a JSON object: " ++ v.text))

def documentsOfRows (rows : Sql.Rows) : Answer (List Document) := do
  let values ← (rows.mapM valueOfRow).mapError Failure.toError
  values.mapM documentOfValue

/-! ## Conversations -/

/-- Goes on only if criteria name proper fields. -/
def ifValid {α : Type} (c : Criteria) (t : Talk (Answer α)) : Talk (Answer α) :=
  match c.validate with
  | .error e => .done (.error e)
  | .ok () => t

def select (collection : String) (c : Criteria) (limit : Option Nat) :
    Talk (Answer (List Document)) :=
  ifValid c do
    match ← Talk.query (selectStatement collection c limit) with
    | .error f => return .error f.toError
    | .ok rows => return documentsOfRows rows

def findOne (collection : String) (c : Criteria) : Talk (Answer (Option Document)) := do
  return (← select collection c (some 1)).map List.getLast?

def findAll (collection : String) (c : Criteria) : Talk (Answer (List Document)) :=
  select collection c c.limit

def execute (s : Statement) : Talk (Answer Nat) := do
  return (← Talk.execute s).mapError Failure.toError

def update (collection : String) (c : Criteria) (patch : Document) (single : Bool) :
    Talk (Answer Nat) :=
  ifValid c (execute (updateStatement collection c patch single))

def deleteOne (collection : String) (c : Criteria) : Talk (Answer Nat) :=
  ifValid c (execute (deleteStatement collection c))

/-- The document with an identifier, and the text of that. -/
def identify (d : Document) : Talk (Document × String) := do
  if Document.lacksId d then return Document.withId d (← Talk.identifier)
  else return Document.withId d ""

def insertOne (collection : String) (d : Document) : Talk (Answer Document) := do
  let (stored, id) ← identify d
  return (← execute (insertStatement collection id stored)).map fun _ => stored

/-- Inserts documents one after the other, up to the first that is refused. -/
def insertEach (collection : String) : List Document → Talk (Answer (List Document))
  | [] => return .ok []
  | d :: rest => do
    match ← insertOne collection d with
    | .error e => return .error e
    | .ok stored => return (← insertEach collection rest).map (stored :: ·)

/-- Inserts documents in one transaction, which comes to nothing unless it is committed. -/
def insertMany (collection : String) (batch : List Document) : Talk (Answer (List Document)) := do
  match ← Talk.startTransaction with
  | .error f => return .error f.toError
  | .ok () =>
    match ← insertEach collection batch with
    | .error e => return .error e
    | .ok stored =>
      match ← Talk.commit with
      | .error f => return .error f.toError
      | .ok () => return .ok stored

def ping : Talk (Answer Unit) := do
  let answer ← execute (piece pingText)
  return (Answer.withContext answer "health_check" pingText).map fun _ => ()

/-- Version of the tables. -/
def schemaVersion : Nat := 20250101000000

/-- Why no database could be connected. -/
inductive ConnectFailure where
  /-- The settings name none. -/
  | settings (e : Error)
  | connection (f : Failure)
  | migration (f : Failure)

def ConnectFailure.toError : ConnectFailure → Error
  | settings e => e
  | connection f => .connectivity ("Failed to connect: " ++ f.message)
  | migration f =>
    .database ("Migration failed: while executing migration " ++ toString schemaVersion ++ ": " ++
      f.message)

/-- Connects as settings say, and sees to it that the table is there. -/
def connect (s : StoreSettings) : Talk (Except ConnectFailure Unit) :=
  match s.connectionUrl with
  | .error e => .done (.error (.settings e))
  | .ok url => do
    match ← Talk.connect url with
    | .error f => return .error (.connection f)
    | .ok () => return (← Talk.migrate schemaVersion).mapError .migration

end Relational

/-- Keeps documents in a database; `answer` is who answers for the server. -/
def relational {σ : Type} (answer : (d : Sql.Demand) → StateM σ d.Response) : Driver σ where
  kind := .document
  findOne collection c := (Relational.findOne collection c).hold answer
  findAll collection c := (Relational.findAll collection c).hold answer
  insertOne collection d := (Relational.insertOne collection d).hold answer
  insertMany collection batch := (Relational.insertMany collection batch).hold answer
  updateOne collection c patch := (Relational.update collection c patch true).hold answer
  updateMany collection c patch := (Relational.update collection c patch false).hold answer
  deleteOne collection c := (Relational.deleteOne collection c).hold answer
  ping := Relational.ping.hold answer
  close := answer .close

end Larder.Store
