import Larder.Settings.DotEnv
import Larder.Settings.Validation
import Larder.Toml.Reader

/-!
Loading the settings: the files of a directory and the environment variables laid over one another,
later ones on top, then read as typed settings and validated.
-/

namespace Larder

namespace Settings

/-! ## Typed settings from a tree -/

/-- The fields of a section, by their names or in their order. -/
def fieldsOf (names : List String) : Tree → Option (List (String × Tree))
  | .table entries => some entries
  | .list items => some (names.zip items)
  | _ => none

/-- Reads a field with the given reader, if it is there. -/
def fieldOr {α : Type} (fields : List (String × Tree)) (name : String) (read : Tree → Option α)
    (absent : α) : Option α :=
  match Tree.find? fields name with
  | some t => read t
  | none => some absent

def optionalText (fields : List (String × Tree)) (name : String) : Option (Option String) :=
  fieldOr fields name (fun t => t.asText?.map some) none

def optionalPort (fields : List (String × Tree)) (name : String) : Option (Option Nat) :=
  fieldOr fields name (fun t => (t.asWord? 16).map some) none

end Settings

open Settings

namespace Identity

def ofTree? (t : Tree) : Option Identity := do
  let fields ← fieldsOf ["name", "version", "environment"] t
  let absent : Identity := {}
  return {
    name := ← fieldOr fields "name" Tree.asText? absent.name
    version := ← fieldOr fields "version" Tree.asText? absent.version
    environment := ← fieldOr fields "environment" Tree.asText? absent.environment }

end Identity

namespace CacheSettings

def ofTree? (t : Tree) : Option CacheSettings := do
  let fields ← fieldsOf ["kind", "dsn", "host", "port", "user", "password", "namespace",
    "default_ttl_minutes", "pool_size"] t
  let absent : CacheSettings := {}
  return {
    kind := ← fieldOr fields "kind" (fun t => t.asText?.map CacheKind.ofText) absent.kind
    dsn := ← optionalText fields "dsn"
    host := ← optionalText fields "host"
    port := ← optionalPort fields "port"
    user := ← optionalText fields "user"
    password := ← optionalText fields "password"
    nameSpace := ← optionalText fields "namespace"
    defaultTtlMinutes :=
      ← fieldOr fields "default_ttl_minutes" Tree.asNatural? absent.defaultTtlMinutes
    poolSize := ← fieldOr fields "pool_size" Tree.asNatural? absent.poolSize }

end CacheSettings

namespace StoreSettings

def ofTree? (t : Tree) : Option StoreSettings := do
  let fields ← fieldsOf ["kind", "dsn", "host", "port", "user", "password", "database_name",
    "min_connections", "max_connections", "connect_timeout_secs", "idle_timeout_secs"] t
  let absent : StoreSettings := {}
  return {
    kind := ← fieldOr fields "kind" (fun t => t.asText?.map StoreKind.ofText) absent.kind
    dsn := ← optionalText fields "dsn"
    host := ← optionalText fields "host"
    port := ← optionalPort fields "port"
    user := ← optionalText fields "user"
    password := ← optionalText fields "password"
    database := ← optionalText fields "database_name"
    minConnections := ← fieldOr fields "min_connections" (Tree.asWord? 32) absent.minConnections
    maxConnections := ← fieldOr fields "max_connections" (Tree.asWord? 32) absent.maxConnections
    connectTimeoutSeconds :=
      ← fieldOr fields "connect_timeout_secs" Tree.asNatural? absent.connectTimeoutSeconds
    idleTimeoutSeconds :=
      ← fieldOr fields "idle_timeout_secs" Tree.asNatural? absent.idleTimeoutSeconds }

end StoreSettings

namespace EventSettings

def ofTree? (t : Tree) : Option EventSettings := do
  let fields ← fieldsOf ["publish_timeout_secs"] t
  return {
    publishTimeoutSeconds :=
      ← fieldOr fields "publish_timeout_secs" (fun t => t.asNatural?.map some) none }

end EventSettings

namespace Observability

def ofTree? (t : Tree) : Option Observability := do
  let fields ← fieldsOf ["log_level", "log_format", "metrics_enabled"] t
  let absent : Observability := {}
  return {
    logLevel := ← fieldOr fields "log_level" Tree.asText? absent.logLevel
    logFormat := ← fieldOr fields "log_format" Tree.asText? absent.logFormat
    metricsEnabled := ← fieldOr fields "metrics_enabled" Tree.asBool? absent.metricsEnabled }

end Observability

namespace Settings

def ofEntries? (entries : List (String × Tree)) : Option Settings := do
  return {
    identity := ← fieldOr entries "app" Identity.ofTree? {}
    cache := ← fieldOr entries "cache" CacheSettings.ofTree? {}
    store := ← fieldOr entries "persistence" StoreSettings.ofTree? {}
    events := ← fieldOr entries "events" EventSettings.ofTree? {}
    observability := ← fieldOr entries "observability" Observability.ofTree? {} }

/-! ## Loading -/

/-- What is there to load from: files by their paths from the working directory, and variables. -/
structure Surroundings where
  files : List (List String × String)
  vars : Variables

namespace Surroundings

/-- Whether a path leads to a directory with files in it. -/
def isDirectory (s : Surroundings) (path : List String) : Bool :=
  s.files.any fun f => path.isPrefixOf f.1 && path.length < f.1.length

/-- Walks the steps of a path from directory to directory; the last step is not entered. -/
def walk (s : Surroundings) : List String → List String → Option (List String)
  | here, [] => some here
  | here, step :: rest =>
    if step = "" ∨ step = "." then walk s here rest
    else if step = ".." then if here.isEmpty then none else walk s here.dropLast rest
    else if rest.isEmpty ∨ s.isDirectory (here ++ [step]) then walk s (here ++ [step]) rest
    else none

/-- The text of the file at a path. -/
def file? (s : Surroundings) (path : String) : Option String := do
  if path.startsWith "/" then none
  else
    let place ← s.walk [] ((path.toList.splitOn '/').map String.ofList)
    (s.files.find? (·.1 == place)).map (·.2)

/-- The variables once the file of variables was loaded over them. -/
def loaded (s : Surroundings) : Variables :=
  match s.file? ".env" with
  | some text => DotEnv.load s.vars text
  | none => s.vars

end Surroundings

structure Loader where
  directory : String
  environment : String

namespace Loader

def defaultDirectory : String := "./config"

def defaultEnvironment : String := "development"

/-- A loader for a directory.  The variables name the environment now, before a file of variables is
loaded. -/
def create (directory : String) (vars : Variables) : Loader :=
  ⟨directory, (Dict.get? vars Variables.environmentName).getD defaultEnvironment⟩

/-- Path of a file of settings. -/
def pathOf (l : Loader) (name : String) : String :=
  (if l.directory.isEmpty then "" else l.directory ++ "/") ++ name ++ ".toml"

/-- Names of the files, later ones on top.  A file that is called by its ending alone is passed
over. -/
def fileNames (l : Loader) : List String :=
  ["default", l.environment, "local"].filter fun name => !name.isEmpty && !name.endsWith "/"

/-- All settings laid over one another. -/
def entries? (l : Loader) (s : Surroundings) : Option (List (String × Tree)) := do
  let files ← (l.fileNames.filterMap fun name => s.file? (l.pathOf name)).mapM fun text =>
    Toml.read? (text.dropPrefix "\ufeff").toString
  return (files ++ [s.loaded.settings]).foldl (fun lower upper => Tree.layer upper lower) []

/-- Loads and validates the settings. -/
def load (l : Loader) (s : Surroundings) : Answer Settings := do
  match (l.entries? s).bind ofEntries? with
  | none => .error (.configuration "settings could not be read")
  | some settings =>
    settings.validate
    return settings

end Loader

end Settings

end Larder
