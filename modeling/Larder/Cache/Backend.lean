import Larder.Cache.Key
import Larder.Place
import Larder.Settings.Basic

/-!
What every cache can do, whatever keeps its values; `σ` is the state that it works on.

Writing never fails: a cache that cannot keep a value goes without it.  Reading tells a missing
value from one that is too old, and both from a cache that is out of reach.
-/

namespace Larder.Cache

structure Backend (σ : Type) where
  kind : CacheKind
  nameSpace : String
  /-- Time to live of values that come without one. -/
  defaultTtl : Duration
  /-- Makes the backend ready; once it is, nothing happens. -/
  prepare : StateM σ (Answer Unit)
  /-- Keeps the settings that the backend connects with, without a look at them. -/
  setConnection : CacheSettings → StateM σ Unit
  connection : StateM σ CacheSettings
  set : Key → Json.Value → Option Duration → StateM σ Unit
  get : Key → StateM σ (Answer Json.Value)
  delete : Key → StateM σ (Answer Unit)
  contains : Key → StateM σ (Answer Unit)
  /-- Keeps a value and reads it back. -/
  getOrSet : Key → Json.Value → Option Duration → StateM σ (Answer Json.Value)
  ping : StateM σ (Answer Unit)

/-- The error for a key under which there is nothing. -/
def missing (key : Key) : Error := .notFound "cache" key.text

end Larder.Cache
