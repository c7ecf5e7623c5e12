import Larder.Error
import Larder.Logging.Settings
import Larder.Settings.Kind
import Larder.Time.Instant
import Larder.Url.Basic

/-!
The settings of the program, section by section, and what the sections say of a connection: whether
enough is given, and the URL to connect to.
-/

namespace Larder

/-- What the program calls itself. -/
structure Identity where
  name : String := "keystone"
  version : String := "0.1.0"
  environment : String := "development"
deriving DecidableEq

structure CacheSettings where
  kind : CacheKind := .default
  dsn : Option String := none
  host : Option String := none
  port : Option Nat := none
  user : Option String := none
  password : Option String := none
  nameSpace : Option String := none
  defaultTtlMinutes : Nat := 8600
  poolSize : Nat := 16
deriving DecidableEq

structure StoreSettings where
  kind : StoreKind := .default
  dsn : Option String := none
  host : Option String := none
  port : Option Nat := none
  user : Option String := none
  password : Option String := none
  database : Option String := none
  minConnections : Nat := 1
  maxConnections : Nat := 10
  connectTimeoutSeconds : Nat := 30
  idleTimeoutSeconds : Nat := 600
deriving DecidableEq

structure EventSettings where
  /-- How long a publish waits for its handlers; without it, as long as they take. -/
  publishTimeoutSeconds : Option Nat := none
deriving DecidableEq

structure Observability where
  logLevel : String := "info"
  logFormat : String := "pretty"
  metricsEnabled : Bool := true
deriving DecidableEq

structure Settings where
  identity : Identity := {}
  cache : CacheSettings := {}
  store : StoreSettings := {}
  events : EventSettings := {}
  observability : Observability := {}
deriving DecidableEq

namespace Settings

/-- Whether a setting has anything but blanks in it. -/
def isPresent (s : Option String) : Bool := s.any Text.isFilled

/-- A setting that is not empty. -/
def given (s : Option String) : Option String := s.filter fun t => !t.isEmpty

/-- The URL of a server from its host, port, credentials and database.  The reason is given if there
is none. -/
def serverUrl (scheme : String) (host : Option String) (port : Option Nat)
    (user password database : Option String) : Except String Url := do
  let host ← match given host with
    | some h => .ok h
    | none => .error "host is required"
  let port ← match port with
    | some n => .ok n
    | none => .error "port is required"
  let url ← match Url.ofAuthority scheme (host ++ ":" ++ toString port) with
    | .ok u => .ok u
    | .error e => .error ("invalid host '" ++ host ++ "': " ++ e.message)
  let url ← match given user with
    | none => .ok url
    | some u =>
      match url.withUsername? u with
      | some url => .ok url
      | none => .error "user cannot be set on this URL"
  let url ← match given password with
    | none => .ok url
    | some p =>
      match url.withPassword? p with
      | some url => .ok url
      | none => .error "password cannot be set on this URL"
  match given database with
  | none => return url
  | some d => return url.withPath ("/" ++ d)

end Settings

namespace CacheSettings

open Settings (isPresent given serverUrl)

def defaultNamespace : String := "keystone"

def effectiveNamespace (s : CacheSettings) : String :=
  (given s.nameSpace).getD defaultNamespace

/-- The largest number of seconds of a duration. -/
def mostSeconds : Nat := (1 <<< 64) - 1

/-- Default time to live in seconds; one that is too long is cut to the longest duration. -/
def defaultTtlSeconds (s : CacheSettings) : Nat := min (s.defaultTtlMinutes * 60) mostSeconds

def defaultTtl (s : CacheSettings) : Duration := .ofSeconds s.defaultTtlSeconds

def hasDsn (s : CacheSettings) : Bool := isPresent s.dsn

def hasDiscreteFields (s : CacheSettings) : Bool :=
  isPresent s.host && s.port.isSome && isPresent s.user && isPresent s.password &&
    isPresent s.nameSpace

def isComplete (s : CacheSettings) : Bool := s.hasDsn || s.hasDiscreteFields

/-- The URL of the cache server: the one that is given, or one made of the single fields. -/
def connectionUrl (s : CacheSettings) : Answer String :=
  match given s.dsn with
  | some dsn => .ok dsn
  | none =>
    match serverUrl "redis" s.host s.port s.user s.password none with
    | .ok url => .ok url.text
    | .error reason => .error (.configurationMissing ("cache: " ++ reason))

end CacheSettings

namespace StoreSettings

open Settings (isPresent given serverUrl)

def hasDsn (s : StoreSettings) : Bool := isPresent s.dsn

def hasDiscreteFields (s : StoreSettings) : Bool :=
  isPresent s.host && s.port.isSome && isPresent s.user && isPresent s.password &&
    isPresent s.database

def isComplete (s : StoreSettings) : Bool := s.hasDsn || s.hasDiscreteFields

/-- The URL of the database: the one that is given, or one made of the single fields. -/
def connectionUrl (s : StoreSettings) : Answer String :=
  match given s.dsn with
  | some dsn => .ok dsn
  | none =>
    match serverUrl "mysql" s.host s.port s.user s.password s.database with
    | .ok url => .ok url.text
    | .error reason => .error (.configurationMissing ("persistence: " ++ reason))

end StoreSettings

namespace EventSettings

def publishTimeout (s : EventSettings) : Option Duration := s.publishTimeoutSeconds.map .ofSeconds

end EventSettings

namespace Observability

def logging (s : Observability) : Logging.Settings := ⟨s.logLevel, .ofText s.logFormat⟩

end Observability

end Larder
