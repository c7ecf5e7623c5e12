import Larder.Settings.Basic

/-!
The faults of settings, all of them in a fixed order, and the error that refuses settings with
faults.
-/

namespace Larder

namespace Settings

inductive Fault where
  /-- Neither a URL nor all single fields of a connection. -/
  | missingConnection (part fields : String)
  | invalidUrl (part reason : String)
  | notPositive (name : String)
  | invalidPoolSize (least most : Nat)
  | valueTooLarge (name : String) (value largest : Nat)
  | poolSizeTooLarge (name : String) (value largest : Nat)
  | invalidLogLevel (value : String)
deriving DecidableEq

namespace Fault

/-- Name of the kind of fault. -/
def label : Fault → String
  | missingConnection _ _ => "MissingConnection"
  | invalidUrl _ _ => "InvalidUrl"
  | notPositive _ => "NonPositiveValue"
  | invalidPoolSize _ _ => "InvalidPoolSize"
  | valueTooLarge _ _ _ => "ValueTooLarge"
  | poolSizeTooLarge _ _ _ => "PoolSizeTooLarge"
  | invalidLogLevel _ => "InvalidLogLevel"

def tooLargeText (name : String) (value largest : Nat) : String :=
  "'" ++ name ++ "' = " ++ toString value ++ " exceeds maximum allowed (" ++ toString largest ++ ")"

def message : Fault → String
  | missingConnection part fields =>
    part ++ ": either 'dsn' or all of " ++ fields ++ " must be set"
  | invalidUrl part reason => "Invalid " ++ part ++ " URL: " ++ reason
  | notPositive name => "'" ++ name ++ "' must be positive"
  | invalidPoolSize least most =>
    "Invalid pool size: min (" ++ toString least ++ ") cannot be greater than max ("
      ++ toString most ++ ")"
  | valueTooLarge name value largest => tooLargeText name value largest
  | poolSizeTooLarge name value largest => tooLargeText name value largest
  | invalidLogLevel value =>
    "Invalid log level: '" ++ value ++ "' (valid: trace, debug, info, warn, error)"

def isMissingConnection : Fault → Bool
  | missingConnection _ _ => true
  | _ => false

end Fault

def mostConnections : Nat := 1000

/-- A hundred years. -/
def mostTtlMinutes : Nat := 100 * 365 * 24 * 60

def logLevels : List String := ["trace", "debug", "info", "warn", "error"]

/-- A fault if the condition holds. -/
def faultIf (condition : Bool) (fault : Fault) : List Fault := if condition then [fault] else []

/-- Whether a URL is given that begins with none of the schemes. -/
def hasForeignScheme (dsn : Option String) (schemes : List String) : Bool :=
  (given dsn).any fun d => !schemes.any fun s => s.toList.isPrefixOf d.toList

def cacheFaults (s : CacheSettings) : List Fault :=
  faultIf (!s.isComplete) (.missingConnection "cache" "host, port, user, password, namespace")
    ++ faultIf (s.kind == .redis && hasForeignScheme s.dsn ["redis://", "rediss://"])
      (.invalidUrl "cache" "URL must start with redis:// or rediss://")
    ++ faultIf (s.defaultTtlMinutes == 0) (.notPositive "cache.default_ttl_minutes")
    ++ faultIf (mostTtlMinutes < s.defaultTtlMinutes)
      (.valueTooLarge "cache.default_ttl_minutes" s.defaultTtlMinutes mostTtlMinutes)
    ++ faultIf (s.poolSize == 0) (.notPositive "cache.pool_size")
    ++ faultIf (mostConnections < s.poolSize)
      (.poolSizeTooLarge "cache.pool_size" s.poolSize mostConnections)

def storeFaults (s : StoreSettings) : List Fault :=
  faultIf (!s.isComplete)
      (.missingConnection "persistence" "host, port, user, password, database_name")
    ++ faultIf (s.kind == .document && hasForeignScheme s.dsn ["mysql://"])
      (.invalidUrl "persistence" "URL must start with mysql://")
    ++ faultIf (s.maxConnections < s.minConnections)
      (.invalidPoolSize s.minConnections s.maxConnections)
    ++ faultIf (mostConnections < s.maxConnections)
      (.poolSizeTooLarge "persistence.max_connections" s.maxConnections mostConnections)
    ++ faultIf (s.connectTimeoutSeconds == 0) (.notPositive "persistence.connect_timeout_secs")

def eventFaults (s : EventSettings) : List Fault :=
  faultIf (s.publishTimeoutSeconds == some 0) (.notPositive "events.publish_timeout_secs")

def observabilityFaults (s : Observability) : List Fault :=
  faultIf (!logLevels.contains (Text.lower s.logLevel)) (.invalidLogLevel s.logLevel)

def faults (s : Settings) : List Fault :=
  cacheFaults s.cache ++ storeFaults s.store ++ eventFaults s.events
    ++ observabilityFaults s.observability

/-- Settings without faults are accepted.  The error names all faults; a missing connection decides
its kind. -/
def validate (s : Settings) : Answer Unit :=
  match s.faults with
  | [] => .ok ()
  | faults =>
    let text := "; ".intercalate (faults.map Fault.message)
    if faults.any Fault.isMissingConnection then .error (.configurationMissing text)
    else .error (.configuration text)

end Settings

end Larder
