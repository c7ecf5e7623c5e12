import Larder.Criteria.Basic
import Larder.Place
import Larder.Settings.Kind

/-!
What every place where documents are kept can do; `σ` is the state that it works on.
-/

namespace Larder.Store

structure Driver (σ : Type) where
  kind : StoreKind
  /-- The first document that criteria select. -/
  findOne : String → Criteria → StateM σ (Answer (Option Document))
  findAll : String → Criteria → StateM σ (Answer (List Document))
  /-- Gives the document back with its identifier. -/
  insertOne : String → Document → StateM σ (Answer Document)
  /-- Keeps all of the documents or none. -/
  insertMany : String → List Document → StateM σ (Answer (List Document))
  /-- Patches the first document that criteria select; tells how many that were. -/
  updateOne : String → Criteria → Document → StateM σ (Answer Nat)
  updateMany : String → Criteria → Document → StateM σ (Answer Nat)
  /-- Removes the first document that criteria select; tells how many that were. -/
  deleteOne : String → Criteria → StateM σ (Answer Nat)
  ping : StateM σ (Answer Unit)
  /-- Lets connections go; once they are, nothing happens. -/
  close : StateM σ Unit

end Larder.Store
