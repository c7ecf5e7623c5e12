import Larder.Store.Memory
import Larder.Store.ReadThrough
import Larder.Store.Relational

/-!
Where documents are kept, as the settings say.
-/

namespace Larder.Store

/-- What drivers are made of, whichever is chosen. -/
structure Parts (σ : Type) where
  /-- Identifiers to hand out. -/
  ids : Nat → String
  memory : Place σ Memory.State
  /-- Who answers for the database. -/
  database : (d : Sql.Demand) → StateM σ d.Response

namespace Parts

variable {σ : Type} (p : Parts σ)

/-- The driver for which nothing is set: documents in memory. -/
def unset : Driver σ := Store.memory p.ids p.memory

/-- The driver that settings name, connected and with its table. -/
def connect (s : StoreSettings) : StateM σ (Except Relational.ConnectFailure (Driver σ)) := do
  match s.kind with
  | .memory => return .ok p.unset
  | .document =>
    return (← (Relational.connect s).hold p.database).map fun _ => relational p.database

end Parts

end Larder.Store
