import Larder.Cache.Memory
import Larder.Cache.Noop
import Larder.Cache.Redis
import Larder.Health

/-!
Which cache there is, as the settings say.
-/

namespace Larder.Cache

/-- What caches are made of, whichever is chosen. -/
structure Parts (σ : Type) where
  clock : σ → Instant
  table : Place σ Table
  settings : Place σ CacheSettings
  /-- The server, once the cache on it is prepared. -/
  server : Place σ (Option Larder.Redis.Address)
  send : Larder.Redis.Address → Larder.Redis.Command → StateM σ Larder.Redis.Response

namespace Parts

variable {σ : Type} (p : Parts σ)

def backend (kind : CacheKind) (nameSpace : String) (defaultTtl : Duration) : Backend σ :=
  match kind with
  | .noop => noop nameSpace defaultTtl p.settings
  | .memory => memory p.clock p.table nameSpace defaultTtl p.settings
  | .redis => redis nameSpace defaultTtl p.settings p.server p.send

/-- The backend that settings name, with the settings to connect with; it is not prepared yet. -/
def select (s : CacheSettings) : StateM σ (Backend σ) := do
  let b := p.backend s.kind s.effectiveNamespace s.defaultTtl
  b.setConnection s
  return b

/-- The backend that settings name, prepared. -/
def connect (s : CacheSettings) : StateM σ (Answer (Backend σ)) := do
  let b ← p.select s
  return (← b.prepare).map fun _ => b

/-- The cache for which nothing is set: none. -/
def unset : Backend σ := noop Noop.defaultNamespace Noop.defaultTtl p.settings

end Parts

/-- Name of the health check. -/
def checkName : String := "cache"

def Backend.health {σ : Type} (b : Backend σ) : StateM σ Health := do return .ofAnswer (← b.ping)

end Larder.Cache
