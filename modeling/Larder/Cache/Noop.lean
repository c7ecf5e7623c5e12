import Larder.Cache.Backend

/-!
The cache that keeps nothing: what reads through it always goes on to the store.
-/

namespace Larder.Cache

/-- The connection settings that a disabled cache has before it is given others. -/
def Noop.settings : CacheSettings := { kind := .noop }

/-- A cache that keeps nothing but its connection settings. -/
def noop {σ : Type} (nameSpace : String) (defaultTtl : Duration)
    (settings : Place σ CacheSettings) : Backend σ where
  kind := .noop
  nameSpace
  defaultTtl
  prepare := return .ok ()
  setConnection := settings.write
  connection := settings.read
  set _ _ _ := return ()
  get key := return .error (missing key)
  delete _ := return .ok ()
  contains key := return .error (missing key)
  getOrSet _ value _ := return .ok value
  ping := return .ok ()

/-- Namespace of a cache for which nothing is set. -/
def Noop.defaultNamespace : String := CacheSettings.defaultNamespace

/-- Time to live of a cache for which nothing is set. -/
def Noop.defaultTtl : Duration := ({} : CacheSettings).defaultTtl

end Larder.Cache
