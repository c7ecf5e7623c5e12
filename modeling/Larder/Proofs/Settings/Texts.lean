import Larder.Proofs.Settings.Layers
import Larder.Settings.Load

/-!
The settings that are texts, and what reading makes of them.
-/

namespace Larder

namespace Settings

/-- The settings that are texts. -/
inductive TextSetting where
  | name | version | environment
  | cacheDsn | cacheHost | cacheUser | cachePassword | cacheNamespace
  | storeDsn | storeHost | storeUser | storePassword | databaseName
  | logLevel | logFormat
deriving DecidableEq, Repr

namespace TextSetting

/-- Name of the section. -/
def part : TextSetting → String
  | name | version | environment => "app"
  | cacheDsn | cacheHost | cacheUser | cachePassword | cacheNamespace => "cache"
  | storeDsn | storeHost | storeUser | storePassword | databaseName => "persistence"
  | logLevel | logFormat => "observability"

/-- Name of the field in its section. -/
def field : TextSetting → String
  | name => "name"
  | version => "version"
  | environment => "environment"
  | cacheDsn | storeDsn => "dsn"
  | cacheHost | storeHost => "host"
  | cacheUser | storeUser => "user"
  | cachePassword | storePassword => "password"
  | cacheNamespace => "namespace"
  | databaseName => "database_name"
  | logLevel => "log_level"
  | logFormat => "log_format"

def get (s : Settings) : TextSetting → Option String
  | name => some s.identity.name
  | version => some s.identity.version
  | environment => some s.identity.environment
  | cacheDsn => s.cache.dsn
  | cacheHost => s.cache.host
  | cacheUser => s.cache.user
  | cachePassword => s.cache.password
  | cacheNamespace => s.cache.nameSpace
  | storeDsn => s.store.dsn
  | storeHost => s.store.host
  | storeUser => s.store.user
  | storePassword => s.store.password
  | databaseName => s.store.database
  | logLevel => some s.observability.logLevel
  | logFormat => some s.observability.logFormat

/-- The settings with another text. -/
def set (s : Settings) (text : String) : TextSetting → Settings
  | name => { s with identity := { s.identity with name := text } }
  | version => { s with identity := { s.identity with version := text } }
  | environment => { s with identity := { s.identity with environment := text } }
  | cacheDsn => { s with cache := { s.cache with dsn := some text } }
  | cacheHost => { s with cache := { s.cache with host := some text } }
  | cacheUser => { s with cache := { s.cache with user := some text } }
  | cachePassword => { s with cache := { s.cache with password := some text } }
  | cacheNamespace => { s with cache := { s.cache with nameSpace := some text } }
  | storeDsn => { s with store := { s.store with dsn := some text } }
  | storeHost => { s with store := { s.store with host := some text } }
  | storeUser => { s with store := { s.store with user := some text } }
  | storePassword => { s with store := { s.store with password := some text } }
  | databaseName => { s with store := { s.store with database := some text } }
  | logLevel => { s with observability := { s.observability with logLevel := text } }
  | logFormat => { s with observability := { s.observability with logFormat := text } }

theorem get_set (s : Settings) (text : String) (setting : TextSetting) :
    setting.get (setting.set s text) = some text := by cases setting <;> rfl

/-- The environment variable for a setting. -/
def variableName (setting : TextSetting) : String :=
  "KEYSTONE__" ++ setting.part.toUpper ++ "__" ++ setting.field.toUpper

theorem path?_variableName (setting : TextSetting) :
    Variables.path? setting.variableName = some (setting.part ++ "." ++ setting.field) := by
  cases setting <;> decide +kernel

theorem pathOf_part_field (setting : TextSetting) :
    Tree.pathOf (setting.part ++ "." ++ setting.field) = [setting.part, setting.field] := by
  cases setting <;> decide +kernel

theorem lower_part (setting : TextSetting) : Text.lower setting.part = setting.part := by
  cases setting <;> decide +kernel

theorem lower_field (setting : TextSetting) : Text.lower setting.field = setting.field := by
  cases setting <;> decide +kernel

end TextSetting

end Settings

open Settings

/-! ## Reading -/

namespace Settings

variable {α : Type} {es es' fs fs' : List (String × Tree)} {n : String}

theorem fieldOr_congr (h : Tree.find? fs n = Tree.find? fs' n) (read : Tree → Option α)
    (absent : α) :
    fieldOr fs n read absent = fieldOr fs' n read absent := by
  rw [fieldOr, fieldOr, h]

theorem fieldOr_found {t : Tree} (h : Tree.find? fs n = some t) (read : Tree → Option α)
    (absent : α) :
    fieldOr fs n read absent = read t := by
  rw [fieldOr, h]

end Settings

theorem Identity.ofTree?_eq_some_iff {fs : List (String × Tree)} {s : Identity} :
    Identity.ofTree? (.table fs) = some s ↔
      fieldOr fs "name" Tree.asText? ({} : Identity).name = some s.name ∧
      fieldOr fs "version" Tree.asText? ({} : Identity).version = some s.version ∧
      fieldOr fs "environment" Tree.asText? ({} : Identity).environment = some s.environment := by
  simp only [Identity.ofTree?, fieldsOf, Option.bind_eq_bind, Option.bind_some, Option.pure_def,
    Option.bind_eq_some_iff, Option.some.injEq]
  constructor
  · rintro ⟨_, hname, _, hversion, _, henvironment, rfl⟩
    exact ⟨hname, hversion, henvironment⟩
  · rintro ⟨hname, hversion, henvironment⟩
    exact ⟨_, hname, _, hversion, _, henvironment, rfl⟩

theorem CacheSettings.ofTree?_eq_some_iff {fs : List (String × Tree)} {s : CacheSettings} :
    CacheSettings.ofTree? (.table fs) = some s ↔
      fieldOr fs "kind" (fun t => t.asText?.map CacheKind.ofText) ({} : CacheSettings).kind
        = some s.kind ∧
      optionalText fs "dsn" = some s.dsn ∧ optionalText fs "host" = some s.host ∧
      optionalPort fs "port" = some s.port ∧ optionalText fs "user" = some s.user ∧
      optionalText fs "password" = some s.password ∧
      optionalText fs "namespace" = some s.nameSpace ∧
      fieldOr fs "default_ttl_minutes" Tree.asNatural? ({} : CacheSettings).defaultTtlMinutes =
        some s.defaultTtlMinutes ∧
      fieldOr fs "pool_size" Tree.asNatural? ({} : CacheSettings).poolSize = some s.poolSize := by
  simp only [CacheSettings.ofTree?, fieldsOf, Option.bind_eq_bind, Option.bind_some,
    Option.pure_def, Option.bind_eq_some_iff, Option.some.injEq]
  constructor
  · rintro ⟨_, hkind, _, hdsn, _, hhost, _, hport, _, huser, _, hpassword, _, hnamespace, _,
      hminutes, _, hpool, rfl⟩
    exact ⟨hkind, hdsn, hhost, hport, huser, hpassword, hnamespace, hminutes, hpool⟩
  · rintro ⟨hkind, hdsn, hhost, hport, huser, hpassword, hnamespace, hminutes, hpool⟩
    exact ⟨_, hkind, _, hdsn, _, hhost, _, hport, _, huser, _, hpassword, _, hnamespace, _,
      hminutes, _, hpool, rfl⟩

theorem StoreSettings.ofTree?_eq_some_iff {fs : List (String × Tree)} {s : StoreSettings} :
    StoreSettings.ofTree? (.table fs) = some s ↔
      fieldOr fs "kind" (fun t => t.asText?.map StoreKind.ofText) ({} : StoreSettings).kind
        = some s.kind ∧
      optionalText fs "dsn" = some s.dsn ∧ optionalText fs "host" = some s.host ∧
      optionalPort fs "port" = some s.port ∧ optionalText fs "user" = some s.user ∧
      optionalText fs "password" = some s.password ∧
      optionalText fs "database_name" = some s.database ∧
      fieldOr fs "min_connections" (Tree.asWord? 32) ({} : StoreSettings).minConnections
        = some s.minConnections ∧
      fieldOr fs "max_connections" (Tree.asWord? 32) ({} : StoreSettings).maxConnections
        = some s.maxConnections ∧
      fieldOr fs "connect_timeout_secs" Tree.asNatural? ({} : StoreSettings).connectTimeoutSeconds =
        some s.connectTimeoutSeconds ∧
      fieldOr fs "idle_timeout_secs" Tree.asNatural? ({} : StoreSettings).idleTimeoutSeconds =
        some s.idleTimeoutSeconds := by
  simp only [StoreSettings.ofTree?, fieldsOf, Option.bind_eq_bind, Option.bind_some,
    Option.pure_def, Option.bind_eq_some_iff, Option.some.injEq]
  constructor
  · rintro ⟨_, hkind, _, hdsn, _, hhost, _, hport, _, huser, _, hpassword, _, hdatabase, _, hmin, _,
      hmax, _, hconnect, _, hidle, rfl⟩
    exact ⟨hkind, hdsn, hhost, hport, huser, hpassword, hdatabase, hmin, hmax, hconnect, hidle⟩
  · rintro ⟨hkind, hdsn, hhost, hport, huser, hpassword, hdatabase, hmin, hmax, hconnect, hidle⟩
    exact ⟨_, hkind, _, hdsn, _, hhost, _, hport, _, huser, _, hpassword, _, hdatabase, _, hmin, _,
      hmax, _, hconnect, _, hidle, rfl⟩

theorem Observability.ofTree?_eq_some_iff {fs : List (String × Tree)} {s : Observability} :
    Observability.ofTree? (.table fs) = some s ↔
      fieldOr fs "log_level" Tree.asText? ({} : Observability).logLevel = some s.logLevel ∧
      fieldOr fs "log_format" Tree.asText? ({} : Observability).logFormat = some s.logFormat ∧
      fieldOr fs "metrics_enabled" Tree.asBool? ({} : Observability).metricsEnabled
        = some s.metricsEnabled := by
  simp only [Observability.ofTree?, fieldsOf, Option.bind_eq_bind, Option.bind_some,
    Option.pure_def, Option.bind_eq_some_iff, Option.some.injEq]
  constructor
  · rintro ⟨_, hlevel, _, hformat, _, hmetrics, rfl⟩
    exact ⟨hlevel, hformat, hmetrics⟩
  · rintro ⟨hlevel, hformat, hmetrics⟩
    exact ⟨_, hlevel, _, hformat, _, hmetrics, rfl⟩

theorem Settings.ofEntries?_eq_some_iff {es : List (String × Tree)} {s : Settings} :
    ofEntries? es = some s ↔
      fieldOr es "app" Identity.ofTree? {} = some s.identity ∧
      fieldOr es "cache" CacheSettings.ofTree? {} = some s.cache ∧
      fieldOr es "persistence" StoreSettings.ofTree? {} = some s.store ∧
      fieldOr es "events" EventSettings.ofTree? {} = some s.events ∧
      fieldOr es "observability" Observability.ofTree? {} = some s.observability := by
  simp only [ofEntries?, Option.bind_eq_bind, Option.pure_def, Option.bind_eq_some_iff,
    Option.some.injEq]
  constructor
  · rintro ⟨_, hidentity, _, hcache, _, hstore, _, hevents, _, hobservability, rfl⟩
    exact ⟨hidentity, hcache, hstore, hevents, hobservability⟩
  · rintro ⟨hidentity, hcache, hstore, hevents, hobservability⟩
    exact ⟨_, hidentity, _, hcache, _, hstore, _, hevents, _, hobservability, rfl⟩

namespace Settings.TextSetting

/-! ## One text in the place of another -/

section Sections

variable {setting : TextSetting} {fs fs' : List (String × Tree)} {t : Tree} {text : String}
  {base : Settings} (hsame : ∀ n, n ≠ setting.field → Tree.find? fs n = Tree.find? fs' n)
  (hthere : Tree.find? fs setting.field = some t)
  (ht : t.asText? = some text)
include hsame hthere ht

theorem identity_differ (hpart : setting.part = "app")
    (hbase : Identity.ofTree? (.table fs') = some base.identity) :
    Identity.ofTree? (.table fs) = some (setting.set base text).identity := by
  rw [Identity.ofTree?_eq_some_iff] at hbase ⊢
  cases setting <;> simp_all [fieldOr, set, field, part]

theorem cache_differ (hpart : setting.part = "cache")
    (hbase : CacheSettings.ofTree? (.table fs') = some base.cache) :
    CacheSettings.ofTree? (.table fs) = some (setting.set base text).cache := by
  rw [CacheSettings.ofTree?_eq_some_iff] at hbase ⊢
  cases setting <;> simp_all [optionalText, optionalPort, fieldOr, set, field, part]

theorem store_differ (hpart : setting.part = "persistence")
    (hbase : StoreSettings.ofTree? (.table fs') = some base.store) :
    StoreSettings.ofTree? (.table fs) = some (setting.set base text).store := by
  rw [StoreSettings.ofTree?_eq_some_iff] at hbase ⊢
  cases setting <;> simp_all [optionalText, optionalPort, fieldOr, set, field, part]

theorem observability_differ (hpart : setting.part = "observability")
    (hbase : Observability.ofTree? (.table fs') = some base.observability) :
    Observability.ofTree? (.table fs) = some (setting.set base text).observability := by
  rw [Observability.ofTree?_eq_some_iff] at hbase ⊢
  cases setting <;> simp_all [fieldOr, set, field, part]

end Sections

/-- Another text leaves the sections alone that the setting is not in. -/
theorem set_others (setting : TextSetting) (s : Settings) (text : String) :
    (setting.part ≠ "app" → (setting.set s text).identity = s.identity) ∧
      (setting.part ≠ "cache" → (setting.set s text).cache = s.cache) ∧
      (setting.part ≠ "persistence" → (setting.set s text).store = s.store) ∧
      (setting.set s text).events = s.events ∧
      (setting.part ≠ "observability" → (setting.set s text).observability = s.observability) := by
  cases setting <;> simp [set, part]

theorem part_ne_events (setting : TextSetting) : "events" ≠ setting.part := by
  cases setting <;> decide

section Whole

variable {α : Type} {part field text : String} {t t' : Tree} {es es' : List (String × Tree)}

/-- What is read of a section is the same, unless it is the one with the difference. -/
theorem fieldOr_differ (h : Tree.Differ part field t t' es es') {name : String}
    {read : Tree → Option α} {absent x y : α} (helse : part ≠ name → y = x)
    (hpart : part = name → ∀ fs fs', (∀ n, n ≠ field → Tree.find? fs n = Tree.find? fs' n) →
      Tree.find? fs field = some t → read (.table fs') = some x → read (.table fs) = some y)
    (hx : fieldOr es' name read absent = some x) : fieldOr es name read absent = some y := by
  by_cases hname : part = name
  · obtain ⟨fs, fs', hfs, hfs', hthere, -, hsame⟩ := h.inner
    rw [hname] at hfs hfs'
    rw [fieldOr_found hfs'] at hx
    rw [fieldOr_found hfs]
    exact hpart hname fs fs' hsame hthere hx
  · rw [fieldOr_congr (h.others name (Ne.symm hname)), helse hname, hx]

/-- Entries that differ in one text are read as settings that differ in it. -/
theorem ofEntries?_differ {setting : TextSetting} {base : Settings}
    (h : Tree.Differ setting.part setting.field t t' es es') (ht : t.asText? = some text)
    (hbase : ofEntries? es' = some base) : ofEntries? es = some (setting.set base text) := by
  rw [ofEntries?_eq_some_iff] at hbase ⊢
  obtain ⟨hidentity, hcache, hstore, hevents, hobservability⟩ := hbase
  obtain ⟨hidentity', hcache', hstore', hevents', hobservability'⟩ := set_others setting base text
  refine ⟨?_, ?_, ?_, ?_, ?_⟩
  · exact fieldOr_differ h hidentity'
      (fun hpart _ _ hsame hthere => identity_differ hsame hthere ht hpart) hidentity
  · exact fieldOr_differ h hcache'
      (fun hpart _ _ hsame hthere => cache_differ hsame hthere ht hpart) hcache
  · exact fieldOr_differ h hstore'
      (fun hpart _ _ hsame hthere => store_differ hsame hthere ht hpart) hstore
  · rw [fieldOr_congr (h.others _ (part_ne_events setting)), hevents', hevents]
  · exact fieldOr_differ h hobservability'
      (fun hpart _ _ hsame hthere => observability_differ hsame hthere ht hpart) hobservability

end Whole

end Settings.TextSetting

end Larder
