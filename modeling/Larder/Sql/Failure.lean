import Larder.Error

/-!
What a database connection reports when a statement fails, and the cause that each report stands
for.
-/

namespace Larder.Sql

inductive Failure where
  | rowNotFound
  | poolTimedOut
  | poolClosed
  | workerCrashed
  | io (reason : String)
  | tls (reason : String)
  | decode (reason : String)
  | columnDecode (column reason : String)
  | columnNotFound (name : String)
  | columnIndexOutOfBounds (length index : Nat)
  | typeNotFound (name : String)
  | protocol (reason : String)
  | encode (reason : String)
  | configuration (reason : String)
  /-- The server refused the statement. -/
  | server (code : Nat) (state reason : String)
deriving DecidableEq, Repr

namespace Failure

/-- A failure that goes by a word, with its text and the index of a column. -/
def named? (word text : String) (index : Nat) : Option Failure :=
  match word with
  | "row_not_found" => some rowNotFound
  | "pool_timed_out" => some poolTimedOut
  | "pool_closed" => some poolClosed
  | "worker_crashed" => some workerCrashed
  | "io" => some (io text)
  | "tls" => some (tls text)
  | "decode" => some (decode text)
  | "column_decode" => some (columnDecode (toString index) text)
  | "column_not_found" => some (columnNotFound text)
  | "column_index" => some (columnIndexOutOfBounds 1 index)
  | "type_not_found" => some (typeNotFound text)
  | "protocol" => some (protocol text)
  | "encode" => some (encode text)
  | "configuration" => some (configuration text)
  | _ => none

def message : Failure → String
  | rowNotFound => "no rows returned by a query that expected to return at least one row"
  | poolTimedOut => "pool timed out while waiting for an open connection"
  | poolClosed => "attempted to acquire a connection on a closed pool"
  | workerCrashed => "attempted to communicate with a crashed background worker"
  | io reason => "error communicating with database: " ++ reason
  | tls reason => "error occurred while attempting to establish a TLS connection: " ++ reason
  | decode reason => "error occurred while decoding: " ++ reason
  | columnDecode column reason =>
    "error occurred while decoding column " ++ column ++ ": " ++ reason
  | columnNotFound name => "no column found for name: " ++ name
  | columnIndexOutOfBounds length index =>
    "column index out of bounds: the len is " ++ toString length ++ ", but the index is "
      ++ toString index
  | typeNotFound name => "type named " ++ name ++ " not found"
  | protocol reason => "encountered unexpected or invalid data: " ++ reason
  | encode reason => "error occurred while encoding a value: " ++ reason
  | configuration reason => "error with configuration: " ++ reason
  | server code state reason =>
    "error returned from database: " ++ toString code ++ " (" ++ state ++ "): " ++ reason

/-- A lost or refused connection is a connectivity failure, a row that cannot be read a decoding
one, and everything else is an error of the database. -/
def toError (f : Failure) : Error :=
  match f with
  | rowNotFound => .notFound "database_row" "unknown"
  | io _ => .connectivity f.message
  | tls _ => .connectivity f.message
  | poolTimedOut => .connectivity f.message
  | poolClosed => .connectivity f.message
  | columnDecode _ _ => .decode f.message
  | decode _ => .decode f.message
  | _ => .database f.message

end Failure

end Larder.Sql
