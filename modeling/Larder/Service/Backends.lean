import Larder.Cache.Selection
import Larder.Store.Selection

/-!
The cache and the document store of a running service.
-/

namespace Larder.Service

structure Backends (σ : Type) where
  cache : Cache.Backend σ
  driver : Store.Driver σ

/-- What the backends are made of. -/
structure Parts (σ : Type) where
  cache : Cache.Parts σ
  store : Store.Parts σ

variable {σ : Type}

/-- Connects the cache and then the store. -/
def Parts.connect (p : Parts σ) (s : Settings) : StateM σ (Answer (Backends σ)) := do
  match ← p.cache.connect s.cache with
  | .error e => return .error e
  | .ok cache =>
    match ← p.store.connect s.store with
    | .error f => return .error f.toError
    | .ok driver => return .ok ⟨cache, driver⟩

/-- The backends for which nothing is set. -/
def Parts.unset (p : Parts σ) : Backends σ := ⟨p.cache.unset, p.store.unset⟩

namespace Backends

def store (b : Backends σ) : Store.ReadThrough σ := ⟨b.cache, b.driver⟩

/-- Each health check by its name. -/
def health (b : Backends σ) : StateM σ (List (String × Health)) := do
  let cache ← b.cache.health
  let store ← b.store.health
  return [(Cache.checkName, cache), (Store.ReadThrough.checkName, store)]

/-- The checks that are not healthy. -/
def troubles (checks : List (String × Health)) : List (String × Health) :=
  checks.filter fun check => !check.2.isHealthy

/-- Lets connections go. -/
def shutDown (b : Backends σ) : StateM σ Unit := b.driver.close

end Backends

end Larder.Service
