import Larder.Proofs.Conversation
import Larder.Proofs.Store.Turns
import Larder.Store.Memory
import Larder.Store.Relational

/-!
Requests made of a driver itself, with no cache before it, and the conversations that the relational
driver holds then.
-/

namespace Larder

namespace Store

namespace Relational

open Sql

variable {α : Type} {c : Criteria}

theorem ifValid_of_ok (h : c.validate = .ok ()) (t : Talk (Answer α)) : ifValid c t = t := by
  rw [ifValid, h]

theorem ifValid_of_error {e : Error} (h : c.validate = .error e) (t : Talk (Answer α)) :
    ifValid c t = .done (.error e) := by
  rw [ifValid, h]

def answerOfRows (response : Except Failure Rows) : Answer (List Document) :=
  match response with
  | .error f => .error f.toError
  | .ok rows => documentsOfRows rows

theorem select_eq (h : c.validate = .ok ()) (collection : String) (limit : Option Nat) :
    select collection c limit
      = do return answerOfRows (← Talk.query (selectStatement collection c limit)) := by
  rw [select, ifValid_of_ok h]
  refine congrArg (Conversation.bind _) (funext fun response => ?_)
  cases response <;> rfl

end Relational

namespace Request

/-- What a driver answers a request with; only the first document can be missing. -/
@[reducible]
def Given : Request → Type
  | find _ _ m => Answer (Option m.Result)
  | insertOne _ _ => Answer Document
  | insertMany _ _ => Answer (List Document)
  | updateOne _ _ _ => Answer Nat
  | updateMany _ _ _ => Answer Nat
  | deleteOne _ _ => Answer Nat

variable {σ : Type}

def ask (d : Driver σ) : (r : Request) → StateM σ r.Given
  | find collection c m => m.fetch d collection c
  | insertOne collection doc => d.insertOne collection doc
  | insertMany collection batch => d.insertMany collection batch
  | updateOne collection c patch => d.updateOne collection c patch
  | updateMany collection c patch => d.updateMany collection c patch
  | deleteOne collection c => d.deleteOne collection c

end Request

/-- In memory a single read has the first of all that are read. -/
theorem Memory.findOne_eq_head (s : Memory.State) (collection : String) (c : Criteria) :
    Memory.findOne s collection c = (Memory.findAll s collection c).map List.head? := by
  unfold Memory.findOne Memory.findAll
  cases c.validate with
  | error e => rfl
  | ok _ => exact congrArg Except.ok (List.head?_map ..).symm

/-! ## Criteria that are refused -/

section Refusals

variable {δ : Type} {c : Criteria} {e : Error}

/-- Whatever is asked with the criteria fails with the error, and is done without a trace. -/
structure Driver.Refuses (driver : Driver δ) (c : Criteria) (e : Error) : Prop where
  fetch : ∀ collection (m : Method) d, m.fetch driver collection c d = (.error e, d)
  updateOne : ∀ collection patch d, driver.updateOne collection c patch d = (.error e, d)
  updateMany : ∀ collection patch d, driver.updateMany collection c patch d = (.error e, d)
  deleteOne : ∀ collection d, driver.deleteOne collection c d = (.error e, d)

variable (h : c.validate = .error e)
include h

theorem Memory.findAll_of_error (s : Memory.State) (collection : String) :
    Memory.findAll s collection c = .error e := by
  unfold Memory.findAll
  rw [h]
  rfl

theorem Memory.findOne_of_error (s : Memory.State) (collection : String) :
    Memory.findOne s collection c = .error e := by
  rw [Memory.findOne_eq_head, Memory.findAll_of_error h]
  rfl

theorem Memory.update_of_error (s : Memory.State) (collection : String) (patch : Document)
    (single : Bool) :
    Memory.update s collection c patch single = (.error e, s) := by
  unfold Memory.update
  rw [h]

theorem Memory.deleteOne_of_error (s : Memory.State) (collection : String) :
    Memory.deleteOne s collection c = (.error e, s) := by
  unfold Memory.deleteOne
  rw [h]

theorem memory_refuses (ids : Nat → String) : (memory ids Place.whole).Refuses c e where
  fetch collection m d := by
    cases m with
    | one =>
      exact congrArg (·, d) (Memory.findOne_of_error h d collection)
    | all =>
      show ((Memory.findAll d collection c).map some, d) = _
      rw [Memory.findAll_of_error h]
      rfl
  updateOne collection patch d := Memory.update_of_error h d collection patch true
  updateMany collection patch d := Memory.update_of_error h d collection patch false
  deleteOne collection d := Memory.deleteOne_of_error h d collection

theorem relational_refuses (answer : (d : Sql.Demand) → StateM δ d.Response) :
    (relational answer).Refuses c e := by
  have hdone : ∀ {t : Sql.Talk (Answer Nat)}, t = .done (.error e) →
      ∀ d, t.hold answer d = (.error e, d) := by
    rintro _ rfl d
    rfl
  refine ⟨fun collection m d => ?_, fun _ _ d => hdone (Relational.ifValid_of_error h _) d,
    fun _ _ d => hdone (Relational.ifValid_of_error h _) d,
      fun _ d => hdone (Relational.ifValid_of_error h _) d⟩
  have hselect : ∀ limit, Relational.select collection c limit = .done (.error e) :=
    fun limit => Relational.ifValid_of_error h _
  cases m with
  | one =>
    show (Relational.findOne collection c).hold answer d = _
    rw [Relational.findOne, hselect]
    rfl
  | all =>
    show (((Relational.select collection c c.limit).hold answer d).1.map some,
      ((Relational.select collection c c.limit).hold answer d).2) = _
    rw [hselect]
    rfl

end Refusals

end Store

end Larder
