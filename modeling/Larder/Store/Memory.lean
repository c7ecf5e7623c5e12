import Larder.Criteria.Order
import Larder.Document.Patch
import Larder.Store.Driver

/-!
Documents in memory: collections as lists in the order of insertion.  A collection without documents
is as one that was never used.
-/

namespace Larder.Store

namespace Memory

/-- Collections, and the number of identifiers that were handed out. -/
structure State where
  collections : Dict String (List Document)
  drawn : Nat

def State.empty : State := ⟨[], 0⟩

def documents (s : State) (collection : String) : List Document :=
  (Dict.get? s.collections collection).getD []

def withDocuments (s : State) (collection : String) (documents : List Document) : State :=
  { s with collections := Dict.insert s.collections collection documents }

/-! ## Selecting -/

/-- The documents that criteria select, each with its position. -/
def select (documents : List Document) (c : Criteria) : List (Document × Nat) :=
  c.page (c.sort Prod.fst (documents.zipIdx.filter fun d => c.accepts d.1))

def findAll (s : State) (collection : String) (c : Criteria) : Answer (List Document) := do
  c.validate
  return (select (documents s collection) c).map Prod.fst

def findOne (s : State) (collection : String) (c : Criteria) : Answer (Option Document) := do
  c.validate
  return (select (documents s collection) c).head?.map Prod.fst

/-! ## Inserting -/

def hasId (documents : List Document) (id : String) : Bool :=
  documents.any fun d => (Dict.get? d Document.idField).bind Json.Value.asString? == some id

def duplicate (collection id : String) : Error :=
  .database ("Duplicate id '" ++ id ++ "' in collection '" ++ collection ++ "'")

/-- Gives identifiers to documents that lack one; tells how many were handed out by then. -/
def identify (ids : Nat → String) : Nat → List Document → List (Document × String) × Nat
  | drawn, [] => ([], drawn)
  | drawn, d :: rest =>
    let (others, total) := identify ids (if Document.lacksId d then drawn + 1 else drawn) rest
    (Document.withId d (ids drawn) :: others, total)

/-- The first text that stands further ahead already. -/
def firstRepeated : List String → List String → Option String
  | _, [] => none
  | before, id :: rest =>
    if before.contains id then some id else firstRepeated (before ++ [id]) rest

def insertMany (ids : Nat → String) (s : State) (collection : String) (batch : List Document) :
    Answer (List Document) × State :=
  let (identified, drawn) := identify ids s.drawn batch
  let existing := documents s collection
  let names := identified.map Prod.snd
  match (firstRepeated [] names).or (names.find? (hasId existing)) with
  | some id => (.error (duplicate collection id), s)
  | none =>
    let stored := identified.map Prod.fst
    (.ok stored, { withDocuments s collection (existing ++ stored) with drawn })

def insertOne (ids : Nat → String) (s : State) (collection : String) (d : Document) :
    Answer Document × State :=
  let (stored, id) := Document.withId d (ids s.drawn)
  let existing := documents s collection
  if hasId existing id then (.error (duplicate collection id), s)
  else
    (.ok stored, { withDocuments s collection (existing ++ [stored]) with
      drawn := if Document.lacksId d then s.drawn + 1 else s.drawn })

/-! ## Changing -/

/-- Patches the documents at positions. -/
def patchAt (positions : List Nat) (patch : Document) (documents : List Document) : List Document :=
  documents.zipIdx.map fun (d, i) => if positions.contains i then Document.mergePatch d patch else d

def update (s : State) (collection : String) (c : Criteria) (patch : Document) (single : Bool) :
    Answer Nat × State :=
  match c.validate with
  | .error e => (.error e, s)
  | .ok () =>
    let existing := documents s collection
    let selected := (select existing c).map Prod.snd
    let positions := if single then selected.take 1 else selected
    (.ok positions.length, withDocuments s collection (patchAt positions patch existing))

def deleteOne (s : State) (collection : String) (c : Criteria) : Answer Nat × State :=
  match c.validate with
  | .error e => (.error e, s)
  | .ok () =>
    let existing := documents s collection
    match select existing c with
    | [] => (.ok 0, s)
    | (_, position) :: _ => (.ok 1, withDocuments s collection (existing.eraseIdx position))

end Memory

/-- Keeps documents in memory; `ids` are the identifiers to hand out. -/
def memory {σ : Type} (ids : Nat → String) (place : Place σ Memory.State) : Driver σ where
  kind := .memory
  findOne collection c := return Memory.findOne (← place.read) collection c
  findAll collection c := return Memory.findAll (← place.read) collection c
  insertOne collection d := place.update fun s => Memory.insertOne ids s collection d
  insertMany collection batch := place.update fun s => Memory.insertMany ids s collection batch
  updateOne collection c patch := place.update fun s => Memory.update s collection c patch true
  updateMany collection c patch := place.update fun s => Memory.update s collection c patch false
  deleteOne collection c := place.update fun s => Memory.deleteOne s collection c
  ping := return .ok ()
  close := return ()

end Larder.Store
