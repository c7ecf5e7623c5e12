/-!
What can go wrong, as causes, with one function for the text and one for the stable code of each.

Context is added from the inside out.  It never changes the code: an error with a free text gets the
context in front of the text, a mismatch of types gets it behind what was found, and lookup,
configuration and registry errors, which callers tell apart by their fields, stay as they are.
-/

namespace Larder

inductive Error where
  | notFound (resource key : String)
  | expired (key : String)
  | typeMismatch (expected found : String)
  | invalidCriteria (reason : String)
  | connectivity (reason : String)
  | database (reason : String)
  | decode (reason : String)
  | cache (reason : String)
  | serialization (reason : String)
  | configurationMissing (reason : String)
  | configuration (reason : String)
  | handlerNotRegistered (topic handler : String)
  | topicHasNoHandlers (topic : String)
  | internal (reason : String)
  /-- An error from elsewhere, with the contexts it was given, the latest first. -/
  | other (reason : String) (contexts : List String)
deriving DecidableEq, Repr

namespace Error

/-- Stable code of the cause. -/
def code : Error → String
  | notFound _ _ => "NOT_FOUND"
  | expired _ => "EXPIRED"
  | typeMismatch _ _ => "TYPE_MISMATCH"
  | invalidCriteria _ => "INVALID_CRITERIA"
  | connectivity _ => "CONNECTIVITY_FAILURE"
  | database _ => "DATABASE_ERROR"
  | decode _ => "DECODE_ERROR"
  | cache _ => "CACHE_ERROR"
  | serialization _ => "SERIALIZATION_ERROR"
  | configurationMissing _ => "CONFIGURATION_MISSING"
  | configuration _ => "CONFIGURATION_ERROR"
  | handlerNotRegistered _ _ => "HANDLER_NOT_REGISTERED"
  | topicHasNoHandlers _ => "TOPIC_HAS_NO_HANDLERS"
  | internal _ => "INTERNAL_ERROR"
  | other _ _ => "INTERNAL_ERROR"

def message : Error → String
  | notFound resource key => "Not found: " ++ resource ++ " '" ++ key ++ "'"
  | expired key => "Cache entry expired: '" ++ key ++ "'"
  | typeMismatch expected found => "Type mismatch: expected " ++ expected ++ ", found " ++ found
  | invalidCriteria reason => "Invalid criteria: " ++ reason
  | connectivity reason => "Connectivity failure: " ++ reason
  | database reason => "Database error: " ++ reason
  | decode reason => "Decode error: " ++ reason
  | cache reason => "Cache error: " ++ reason
  | serialization reason => "Serialization error: " ++ reason
  | configurationMissing reason => "Configuration missing: " ++ reason
  | configuration reason => "Configuration error: " ++ reason
  | handlerNotRegistered topic handler =>
    "Handler '" ++ handler ++ "' is not registered for topic '" ++ topic ++ "'"
  | topicHasNoHandlers topic => "Topic '" ++ topic ++ "' has no registered handlers"
  | internal reason => "Internal error: " ++ reason
  | other reason contexts => contexts.headD reason

/-- The error of a cause by its name; `field` has the parts of it. -/
def named? (cause : String) (field : String → String) : Option Error :=
  let reason := field "message"
  match cause with
  | "NotFound" => some (notFound (field "resource") (field "key"))
  | "Expired" => some (expired (field "key"))
  | "TypeMismatch" => some (typeMismatch (field "expected") (field "found"))
  | "InvalidCriteria" => some (invalidCriteria reason)
  | "Connectivity" => some (connectivity reason)
  | "Database" => some (database reason)
  | "Decode" => some (decode reason)
  | "Cache" => some (cache reason)
  | "Serialization" => some (serialization reason)
  | "ConfigurationMissing" => some (configurationMissing reason)
  | "Configuration" => some (configuration reason)
  | "HandlerNotRegistered" => some (handlerNotRegistered (field "topic") (field "handler"))
  | "TopicHasNoHandlers" => some (topicHasNoHandlers (field "topic"))
  | "Internal" => some (internal reason)
  | "Other" => some (other reason [])
  | _ => none

/-- Whether the error says that no usable value is cached. -/
def isCacheMiss : Error → Bool
  | notFound _ _ => true
  | expired _ => true
  | _ => false

/-- Whether trying again may help. -/
def isRetriable : Error → Bool
  | connectivity _ => true
  | database _ => true
  | cache _ => true
  | _ => false

def isTypeMismatch : Error → Bool
  | typeMismatch _ _ => true
  | _ => false

/-- The text of a context: an operation and what it was applied to. -/
def contextText (operation detail : String) : String := operation ++ " [" ++ detail ++ "]"

def withContext (e : Error) (operation detail : String) : Error :=
  let context := contextText operation detail
  match e with
  | connectivity reason => connectivity (context ++ ": " ++ reason)
  | database reason => database (context ++ ": " ++ reason)
  | decode reason => decode (context ++ ": " ++ reason)
  | cache reason => cache (context ++ ": " ++ reason)
  | serialization reason => serialization (context ++ ": " ++ reason)
  | internal reason => internal (context ++ ": " ++ reason)
  | typeMismatch expected found => typeMismatch expected (found ++ " (" ++ context ++ ")")
  | other reason contexts => other reason (context :: contexts)
  | e => e

/-- A value that could not be read as the type that was asked for, or a text that is no document. -/
def ofJson (detail : String) : Error := serialization ("JSON serialization error: " ++ detail)

end Error

/-- An answer, or the error in place of it. -/
abbrev Answer (α : Type) := Except Error α

/-- Adds context to the error of an answer. -/
def Answer.withContext {α : Type} (a : Answer α) (operation detail : String) : Answer α :=
  a.mapError fun e => e.withContext operation detail

end Larder
