import Larder.Confirmation.Delivery
import Larder.Logging.Record
import Larder.Service.Backends
import Larder.Settings.Load
import Larder.Text.Quoted

/-!
A run of the service from its settings to its end, and what it logs.  Before the settings are read
there is no logger, so an error up to then is only told to whoever started the service.
-/

namespace Larder.Service

open Logging (Level Record)

/-! ## What is logged -/

namespace Message

def mainTarget : String := "keystone_server"

def startupTarget : String := "keystone_server::startup"

def info (target message : String) (fields : List (String × Json.Value)) : Record :=
  ⟨.info, target, message, Dict.ofList fields⟩

def warn (target message : String) (fields : List (String × Json.Value)) : Record :=
  ⟨.warn, target, message, Dict.ofList fields⟩

/-- Version of the program. -/
def version : String := "0.1.0"

def started : List Record :=
  [info mainTarget "Starting Keystone..." [], info mainTarget ("Version: " ++ version) []]

def cacheReady {σ : Type} (b : Cache.Backend σ) : List Record :=
  (if b.kind = .redis then
    [info "keystone_cache::redis_cache"
      ("Redis cache pool created for namespace '" ++ b.nameSpace ++ "'") []]
  else [])
    ++ [info "keystone_cache::manager" "Cache backend ready"
      [("kind", .string b.kind.name), ("namespace", .string b.nameSpace),
       ("default_ttl_secs", .ofNat b.defaultTtl.seconds)]]

def poolTarget : String := "keystone_repository::pool"

def connecting (s : StoreSettings) : List Record :=
  if s.kind = .document then [info poolTarget "Connecting to MySQL database..." []] else []

def connected : List Record :=
  [info poolTarget "MySQL connection pool established" [],
    info poolTarget "Running database migrations..." []]

def storeReady (s : StoreSettings) : List Record :=
  if s.kind = .document then connected ++ [info poolTarget "Database migrations completed" []]
    else []

def storeFailed : Store.Relational.ConnectFailure → List Record
  | .settings _ => []
  | .connection f => [warn poolTarget ("Failed to connect to database: " ++ f.message) []]
  | .migration _ => connected

def healthText : Health → String
  | .healthy => "Healthy"
  | .degraded reason => "Degraded(" ++ Text.quoted reason ++ ")"
  | .unhealthy reason => "Unhealthy(" ++ Text.quoted reason ++ ")"

def checkFields (check : String × Health) : List (String × Json.Value) :=
  [("check", .string check.1), ("status", .string (healthText check.2))]

def checked (check : String × Health) : Record :=
  if check.2.isHealthy then info startupTarget "Healthy" [("check", .string check.1)]
  else warn startupTarget "Health check failed" (checkFields check)

def unhealthy (check : String × Health) : Record :=
  warn mainTarget "Starting with an unhealthy dependency" (checkFields check)

def listed (topics : List String) : String :=
  "[" ++ ", ".intercalate (topics.map Text.quoted) ++ "]"

def listening {ν : Type} (b : Events.Bus ν) : List Record :=
  [info "keystone_events::bus" "Listener registered"
    [("topic", .string Confirmation.topic), ("handler", .string Confirmation.listenerName)],
   info startupTarget "Event listeners registered" [("topics", .string (listed b.topics))]]

def separator : String := String.ofList (List.replicate 60 '=')

def summary (s : Settings) : List Record :=
  let timeout :=
    match s.events.publishTimeoutSeconds with
    | some n => toString n ++ "s"
    | none => "none"
  [separator, "Keystone " ++ s.identity.version, "Environment:  " ++ s.identity.environment,
    "Cache:        " ++ s.cache.kind.name ++ " (" ++ s.cache.effectiveNamespace ++ ")",
    "Persistence:  " ++ s.store.kind.name, "Publish timeout: " ++ timeout,
    separator].map fun message => info startupTarget message []

def failed (e : Error) : Record := ⟨.error, mainTarget, "Application error: " ++ e.message, []⟩

end Message

/-! ## The run -/

/-- What asks a running service to stop. -/
inductive StopSignal where
  | interrupt
  | terminate
deriving DecidableEq, Repr

def Message.stopping : StopSignal → Record
  | .interrupt => info mainTarget "Received Ctrl+C, initiating graceful shutdown..." []
  | .terminate => info mainTarget "Received terminate signal, initiating graceful shutdown..." []

def Message.closing {σ : Type} (b : Backends σ) : List Record :=
  if b.driver.kind = .document then
    [info poolTarget "Closing database connection pool..." [],
      info poolTarget "Database connection pool closed" []]
  else []

def Message.stopped {σ : Type} (b : Backends σ) : List Record :=
  closing b ++ [info startupTarget "Document store closed" [("store", .string b.driver.kind.name)],
   info mainTarget "Server shutdown complete" []]

/-- A service that runs, and the way it logs. -/
structure Running (σ ν : Type) where
  settings : Settings
  backends : Backends σ
  bus : Events.Bus ν

/-- A start: what was logged up to its end, by which filter and in which format, and the service or
the error that kept it from running. -/
structure Start (σ ν : Type) where
  logger : Option (Logging.Filter × Logging.Format)
  records : List Record
  outcome : Answer (Running σ ν)

variable {σ ν : Type}

/-- Makes the bus and registers the listeners. -/
def listen (s : Settings) : Events.Bus ν :=
  (Confirmation.addListener (Events.Bus.create s.events.publishTimeout)
    Confirmation.silentNotifier).2

/-- Connects what the settings name and looks after its health. -/
def Parts.begin (p : Parts σ) (s : Settings) : StateM σ (List Record × Answer (Running σ ν)) := do
  match ← p.cache.connect s.cache with
  | .error e => return (Message.started ++ [Message.failed e], .error e)
  | .ok cache =>
    let upToStore := Message.started ++ Message.cacheReady cache ++ Message.connecting s.store
    match ← p.store.connect s.store with
    | .error f =>
      return (upToStore ++ Message.storeFailed f ++ [Message.failed f.toError], .error f.toError)
    | .ok driver =>
      let backends : Backends σ := ⟨cache, driver⟩
      let checks ← backends.health
      let bus : Events.Bus ν := listen s
      return (upToStore ++ Message.storeReady s.store ++ checks.map Message.checked
        ++ (Backends.troubles checks).map Message.unhealthy ++ Message.listening bus ++
          Message.summary s,
        .ok ⟨s, backends, bus⟩)

/-- Name of the variable that has a filter on the log. -/
def logVariable : String := "RUST_LOG"

/-- Starts the service among its files and variables. -/
def Parts.start (p : Parts σ) (around : Settings.Surroundings) : StateM σ (Start σ ν) := do
  let loader := Settings.Loader.create Settings.Loader.defaultDirectory around.vars
  match loader.load around with
  | .error e => return ⟨none, [], .error e⟩
  | .ok s =>
    let (installed, logger) :=
      (Logging.Logger.mk none).install (Dict.get? around.loaded logVariable) s.observability.logging
    match installed with
    | .error e => return ⟨none, [], .error e⟩
    | .ok () =>
      let (records, outcome) ← p.begin s
      return ⟨logger.installed, records, outcome⟩

/-- Stops a service that runs; gives what is logged meanwhile. -/
def Running.stop (r : Running σ ν) (signal : StopSignal) : StateM σ (List Record) := do
  r.backends.shutDown
  return Message.stopping signal :: Message.stopped r.backends

/-- The line with which the program complains about an error. -/
def complaint (e : Error) : String := "keystone: " ++ e.message

end Larder.Service
