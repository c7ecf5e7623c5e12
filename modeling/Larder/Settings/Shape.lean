import Larder.Settings.Basic

/-!
Settings as values: each section is a record of which every field may be left out, and stands with
all its fields when it is written.
-/

namespace Larder

open Json (Value Shape Field memberOr)

namespace Settings

def textShape : Shape (Option String) := Json.Shape.optional Json.Shape.string

def portShape : Shape (Option Nat) := Json.Shape.optional (Json.Shape.natural "u16" 16)

def wordShape : Shape Nat := Json.Shape.natural "u32" 32

def longShape : Shape Nat := Json.Shape.natural "u64" 64

def textValue : Option String → Value
  | some s => .string s
  | none => .null

def naturalValue : Option Nat → Value
  | some n => .ofNat n
  | none => .null

end Settings

open Settings

namespace Identity

def fields : List Field :=
  [.optionalOf "name" Json.Shape.string, .optionalOf "version" Json.Shape.string,
   .optionalOf "environment" Json.Shape.string]

def shape : Shape Identity := fun v => do
  let members ← Json.record "struct AppMetadata" fields v
  let absent : Identity := {}
  return {
    name := ← memberOr members "name" Json.Shape.string absent.name
    version := ← memberOr members "version" Json.Shape.string absent.version
    environment := ← memberOr members "environment" Json.Shape.string absent.environment }

def toValue (s : Identity) : Value :=
  .object (Dict.ofList [("name", .string s.name), ("version", .string s.version),
    ("environment", .string s.environment)])

end Identity

namespace CacheSettings

def poolShape : Shape Nat := Json.Shape.natural "usize" 64

def fields : List Field :=
  [.optionalOf "kind" CacheKind.shape, .optionalOf "dsn" textShape, .optionalOf "host" textShape,
   .optionalOf "port" portShape, .optionalOf "user" textShape, .optionalOf "password" textShape,
   .optionalOf "namespace" textShape, .optionalOf "default_ttl_minutes" longShape,
   .optionalOf "pool_size" poolShape]

def shape : Shape CacheSettings := fun v => do
  let members ← Json.record "struct CacheConfig" fields v
  let absent : CacheSettings := {}
  return {
    kind := ← memberOr members "kind" CacheKind.shape absent.kind
    dsn := ← memberOr members "dsn" textShape none
    host := ← memberOr members "host" textShape none
    port := ← memberOr members "port" portShape none
    user := ← memberOr members "user" textShape none
    password := ← memberOr members "password" textShape none
    nameSpace := ← memberOr members "namespace" textShape none
    defaultTtlMinutes := ← memberOr members "default_ttl_minutes" longShape absent.defaultTtlMinutes
    poolSize := ← memberOr members "pool_size" poolShape absent.poolSize }

def toValue (s : CacheSettings) : Value :=
  .object (Dict.ofList [("kind", .string s.kind.name), ("dsn", textValue s.dsn),
    ("host", textValue s.host), ("port", naturalValue s.port), ("user", textValue s.user),
    ("password", textValue s.password), ("namespace", textValue s.nameSpace),
    ("default_ttl_minutes", .ofNat s.defaultTtlMinutes), ("pool_size", .ofNat s.poolSize)])

end CacheSettings

namespace StoreSettings

def fields : List Field :=
  [.optionalOf "kind" StoreKind.shape, .optionalOf "dsn" textShape, .optionalOf "host" textShape,
   .optionalOf "port" portShape, .optionalOf "user" textShape, .optionalOf "password" textShape,
   .optionalOf "database_name" textShape, .optionalOf "min_connections" wordShape,
   .optionalOf "max_connections" wordShape, .optionalOf "connect_timeout_secs" longShape,
   .optionalOf "idle_timeout_secs" longShape]

def shape : Shape StoreSettings := fun v => do
  let members ← Json.record "struct PersistenceConfig" fields v
  let absent : StoreSettings := {}
  return {
    kind := ← memberOr members "kind" StoreKind.shape absent.kind
    dsn := ← memberOr members "dsn" textShape none
    host := ← memberOr members "host" textShape none
    port := ← memberOr members "port" portShape none
    user := ← memberOr members "user" textShape none
    password := ← memberOr members "password" textShape none
    database := ← memberOr members "database_name" textShape none
    minConnections := ← memberOr members "min_connections" wordShape absent.minConnections
    maxConnections := ← memberOr members "max_connections" wordShape absent.maxConnections
    connectTimeoutSeconds :=
      ← memberOr members "connect_timeout_secs" longShape absent.connectTimeoutSeconds
    idleTimeoutSeconds := ← memberOr members "idle_timeout_secs" longShape
      absent.idleTimeoutSeconds }

def toValue (s : StoreSettings) : Value :=
  .object (Dict.ofList [("kind", .string s.kind.name), ("dsn", textValue s.dsn),
    ("host", textValue s.host), ("port", naturalValue s.port), ("user", textValue s.user),
    ("password", textValue s.password), ("database_name", textValue s.database),
    ("min_connections", .ofNat s.minConnections), ("max_connections", .ofNat s.maxConnections),
    ("connect_timeout_secs", .ofNat s.connectTimeoutSeconds),
    ("idle_timeout_secs", .ofNat s.idleTimeoutSeconds)])

end StoreSettings

namespace EventSettings

def timeoutShape : Shape (Option Nat) := Json.Shape.optional longShape

def fields : List Field := [.optionalOf "publish_timeout_secs" timeoutShape]

def shape : Shape EventSettings := fun v => do
  let members ← Json.record "struct EventsConfig" fields v
  return { publishTimeoutSeconds := ← memberOr members "publish_timeout_secs" timeoutShape none }

def toValue (s : EventSettings) : Value :=
  .object [("publish_timeout_secs", naturalValue s.publishTimeoutSeconds)]

end EventSettings

namespace Observability

def fields : List Field :=
  [.optionalOf "log_level" Json.Shape.string, .optionalOf "log_format" Json.Shape.string,
   .optionalOf "metrics_enabled" Json.Shape.bool]

def shape : Shape Observability := fun v => do
  let members ← Json.record "struct ObservabilityConfig" fields v
  let absent : Observability := {}
  return {
    logLevel := ← memberOr members "log_level" Json.Shape.string absent.logLevel
    logFormat := ← memberOr members "log_format" Json.Shape.string absent.logFormat
    metricsEnabled := ← memberOr members "metrics_enabled" Json.Shape.bool absent.metricsEnabled }

def toValue (s : Observability) : Value :=
  .object (Dict.ofList [("log_level", .string s.logLevel), ("log_format", .string s.logFormat),
    ("metrics_enabled", .bool s.metricsEnabled)])

end Observability

namespace Settings

def sections : List Field :=
  [.optionalOf "app" Identity.shape, .optionalOf "cache" CacheSettings.shape,
   .optionalOf "persistence" StoreSettings.shape, .optionalOf "events" EventSettings.shape,
   .optionalOf "observability" Observability.shape]

def shape : Shape Settings := fun v => do
  let members ← Json.record "struct AppConfig" sections v
  return {
    identity := ← memberOr members "app" Identity.shape {}
    cache := ← memberOr members "cache" CacheSettings.shape {}
    store := ← memberOr members "persistence" StoreSettings.shape {}
    events := ← memberOr members "events" EventSettings.shape {}
    observability := ← memberOr members "observability" Observability.shape {} }

def toValue (s : Settings) : Value :=
  .object (Dict.ofList [("app", s.identity.toValue), ("cache", s.cache.toValue),
    ("persistence", s.store.toValue), ("events", s.events.toValue),
    ("observability", s.observability.toValue)])

end Settings

end Larder
