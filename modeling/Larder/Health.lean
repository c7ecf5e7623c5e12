import Larder.Error

/-!
Health of a part of the system.
-/

namespace Larder

inductive Health where
  | healthy
  | degraded (reason : String)
  | unhealthy (reason : String)
deriving DecidableEq, Repr

namespace Health

def isHealthy : Health → Bool
  | healthy => true
  | _ => false

def isUnhealthy : Health → Bool
  | unhealthy _ => true
  | _ => false

/-- Healthy if a call came back without an error. -/
def ofAnswer {α : Type} : Answer α → Health
  | .ok _ => healthy
  | .error e => unhealthy e.message

end Health

end Larder
