import Larder.Cache.Backend
import Larder.Health
import Larder.Store.Driver

/-!
Documents behind a cache.  Reads ask the cache first, and what they find in the store they leave in
the cache.  Writes go to the store and leave the cache alone, so a read may be as old as values live
in the cache.
-/

namespace Larder.Store

structure ReadThrough (σ : Type) where
  cache : Cache.Backend σ
  driver : Driver σ

namespace ReadThrough

/-- A cached value as a document. -/
def document : Json.Value → Answer Document
  | .object members => .ok members
  | v => .error (.typeMismatch "document object" v.kind)

def expectedDocuments : String := "array of document objects"

def item : Json.Value → Answer Document
  | .object members => .ok members
  | v => .error (.typeMismatch expectedDocuments ("array containing " ++ v.kind))

/-- A cached value as a list of documents. -/
def documents : Json.Value → Answer (List Document)
  | .array items => items.mapM item
  | v => .error (.typeMismatch expectedDocuments v.kind)

/-- What a read is about, in errors. -/
def detail (collection : String) (c : Criteria) : String := collection ++ " " ++ c.describe

variable {σ : Type} (s : ReadThrough σ) (collection : String)

/-- Looks a key up in the cache.  One that is missing, expired or out of reach is none; a value of
another type than expected is an error. -/
def cached {α : Type} (key : Cache.Key) (expect : Json.Value → Answer α) :
    StateM σ (Answer (Option α)) := do
  match ← s.cache.get key with
  | .ok v => return (expect v).map some
  | .error e => return if e.isTypeMismatch then .error e else .ok none

/-- Reads through the cache: a value that is not in it comes from the store and is left there. -/
def read {α : Type} (operation : String) (c : Criteria) (expect : Json.Value → Answer α)
    (write : α → Json.Value) (fetch : StateM σ (Answer (Option α))) : StateM σ (Answer α) := do
  let key := Cache.Key.forRead collection c
  match Answer.withContext (← s.cached key expect) operation (detail collection c) with
  | .error e => return .error e
  | .ok (some found) => return .ok found
  | .ok none =>
    match Answer.withContext (← fetch) operation (detail collection c) with
    | .error e => return .error e
    | .ok none => return .error (.notFound collection c.describe)
    | .ok (some found) =>
      s.cache.set key (write found) none
      return .ok found

/-- The first document that criteria select; it is an error if there is none. -/
def findOne (c : Criteria) : StateM σ (Answer Document) :=
  s.read collection "find_one" c document .object (s.driver.findOne collection c)

def findAll (c : Criteria) : StateM σ (Answer (List Document)) :=
  s.read collection "find_all" c documents (fun ds => .array (ds.map .object)) do
    return (← s.driver.findAll collection c).map some

def insertOne (d : Document) : StateM σ (Answer Document) := do
  return Answer.withContext (← s.driver.insertOne collection d) "insert_one" collection

def insertMany (batch : List Document) : StateM σ (Answer (List Document)) := do
  return Answer.withContext (← s.driver.insertMany collection batch) "insert_many"
    (collection ++ " (" ++ toString batch.length ++ " documents)")

def updateOne (c : Criteria) (patch : Document) : StateM σ (Answer Nat) := do
  return Answer.withContext (← s.driver.updateOne collection c patch) "update_one"
    (detail collection c)

def updateMany (c : Criteria) (patch : Document) : StateM σ (Answer Nat) := do
  return Answer.withContext (← s.driver.updateMany collection c patch) "update_many"
    (detail collection c)

def deleteOne (c : Criteria) : StateM σ (Answer Nat) := do
  return Answer.withContext (← s.driver.deleteOne collection c) "delete_one" (detail collection c)

/-- The store as a driver, so that another cache can stand before it.  Where nothing is found it is
an error. -/
def asDriver : Driver σ :=
  { s.driver with
    findOne := fun collection c => do return (← s.findOne collection c).map some
    findAll := s.findAll
    insertOne := s.insertOne
    insertMany := s.insertMany
    updateOne := s.updateOne
    updateMany := s.updateMany
    deleteOne := s.deleteOne }

/-- Name of the health check. -/
def checkName : String := "document_store"

def health : StateM σ Health := do return .ofAnswer (← s.driver.ping)

end ReadThrough

end Larder.Store
