import Larder.Cache.Backend
import Larder.Json.Target

/-!
Typed values in a cache.  A value that is there but does not read as the type is a mismatch of
types; a value that cannot be written is not kept.
-/

namespace Larder.Cache.Backend

variable {σ : Type} (b : Backend σ) (key : Key)

/-- A cached value as a typed one; `title` names the type in the error. -/
def getAs {α : Type} (title : String) (shape : Json.Shape α) : StateM σ (Answer α) := do
  match ← b.get key with
  | .error e => return .error e
  | .ok v => return (shape v).mapError fun m => .typeMismatch title m.message

def setAs (written : Answer Json.Value) (ttl : Option Duration) : StateM σ (Answer Unit) := do
  match written with
  | .error e => return .error e
  | .ok v =>
    b.set key v ttl
    return .ok ()

end Larder.Cache.Backend
