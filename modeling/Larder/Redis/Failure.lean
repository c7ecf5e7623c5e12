import Larder.Error

/-!
What a connection to the cache server reports when a command fails, what the pool of connections
reports, and the cause that each report stands for.
-/

namespace Larder.Redis

/-- The kinds of trouble that a client tells apart. -/
inductive FailureKind where
  | io
  | response
  | type
  | authentication
  | readOnly
  | busyLoading
  | client
  | invalidClientConfig
  | execAbort
  | noScript
  | moved
  | ask
  | tryAgain
  | clusterDown
  | crossSlot
  | masterDown
  | notBusy
deriving DecidableEq, Repr

def FailureKind.name : FailureKind → String
  | io => "IoError"
  | response => "ResponseError"
  | type => "TypeError"
  | authentication => "AuthenticationFailed"
  | readOnly => "ReadOnly"
  | busyLoading => "BusyLoadingError"
  | client => "ClientError"
  | invalidClientConfig => "InvalidClientConfig"
  | execAbort => "ExecAbortError"
  | noScript => "NoScriptError"
  | moved => "Moved"
  | ask => "Ask"
  | tryAgain => "TryAgain"
  | clusterDown => "ClusterDown"
  | crossSlot => "CrossSlot"
  | masterDown => "MasterDown"
  | notBusy => "NotBusy"

inductive Failure where
  /-- The connection itself failed. -/
  | io (reason : String)
  | described (kind : FailureKind) (description : String)
  | detailed (kind : FailureKind) (description detail : String)
  /-- The server refused the command with a code of its own. -/
  | extension (code detail : String)
deriving DecidableEq, Repr

namespace Failure

/-- A failure of a kind that goes by a word, with a detail. -/
def named? (word detail : String) : Option Failure :=
  match word with
  | "io" => some (io detail)
  | "io_kind" => some (detailed .io "io" detail)
  | "response" => some (detailed .response word detail)
  | "type" => some (detailed .type word detail)
  | "auth" => some (detailed .authentication word detail)
  | "readonly" => some (detailed .readOnly word detail)
  | "client" => some (detailed .client word detail)
  | _ => none

def message : Failure → String
  | io reason => reason
  | described kind description => description ++ "- " ++ kind.name
  | detailed kind description detail => description ++ " - " ++ kind.name ++ ": " ++ detail
  | extension code detail => code ++ ": " ++ detail

def isIo : Failure → Bool
  | io _ => true
  | described kind _ => kind == .io
  | detailed kind _ _ => kind == .io
  | extension _ _ => false

def toError (f : Failure) : Error :=
  if f.isIo then .connectivity f.message else .cache f.message

end Failure

/-- Why the pool hands out no connection. -/
inductive PoolFailure where
  | closed
  | noRuntime
  | backend (f : Failure)
deriving DecidableEq, Repr

def PoolFailure.named? (word detail : String) : Option PoolFailure :=
  match word with
  | "closed" => some closed
  | "no_runtime" => some noRuntime
  | _ => (Failure.named? word detail).map backend

def PoolFailure.message : PoolFailure → String
  | closed => "Pool has been closed"
  | noRuntime => "No runtime specified"
  | backend f => "Error occurred while creating a new object: " ++ f.message

def PoolFailure.toError (f : PoolFailure) : Error :=
  .connectivity ("Failed to get Redis connection: " ++ f.message)

end Larder.Redis
