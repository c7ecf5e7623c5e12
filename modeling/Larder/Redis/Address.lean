import Larder.Number.Extended
import Larder.Redis.Failure
import Larder.Url.Basic

/-!
Where a cache server is, read from a URL.
-/

namespace Larder.Redis

structure Address where
  host : String
  port : Nat
  database : Int
deriving DecidableEq, Repr

namespace Address

def defaultPort : Nat := 6379

def malformed (reason : String) : Failure := .described .invalidClientConfig reason

def schemes : List String := ["redis", "rediss", "redis+unix", "unix"]

/-- The pairs of a query, decoded. -/
def queryPairs (query : List Char) : List (Bytes × Bytes) :=
  let decode (cs : List Char) : Bytes :=
    Url.percentDecode (cs.map fun c => if c = '+' then ' ' else c)
  (Url.splitOn '&' query).filterMap fun pair =>
    if pair.isEmpty then none
    else
      let name := pair.takeWhile (· != '=')
      some (decode name, decode (pair.drop (name.length + 1)))

def queryValue? (u : Url) (name : String) : Option String :=
  ((queryPairs (u.query.getD [])).reverse.find? fun pair => pair.1 == Utf8.encode name).map
    fun pair => Utf8.decodeLossy pair.2

def withoutSlashes (cs : List Char) : List Char :=
  ((cs.dropWhile (· == '/')).reverse.dropWhile (· == '/')).reverse

def databaseNumber (text : List Char) : Except Failure Int :=
  if text.isEmpty then .ok 0
  else
    match Extended.signed64? text with
    | some n => .ok n
    | none => .error (malformed "Invalid database number")

def checkText (what : String) (escaped : List Char) : Except Failure Unit :=
  match Utf8.decode? (Url.percentDecode escaped) with
  | some _ => .ok ()
  | none => .error (malformed (what ++ " is not valid UTF-8 string"))

def checkProtocol (u : Url) : Except Failure Unit :=
  match queryValue? u "protocol" with
  | none => .ok ()
  | some p =>
    if ["2", "resp2", "3", "resp3"].contains p then .ok ()
    else .error (.detailed .invalidClientConfig "Invalid protocol version" p)

def ofServerUrl (u : Url) : Except Failure Address := do
  if u.host.isEmpty then .error (malformed "Missing hostname")
  else if u.scheme == "rediss" then
    .error (malformed "can't connect with TLS, the feature is not enabled")
  else
    let number ← databaseNumber (withoutSlashes u.path)
    checkText "Username" u.username
    checkText "Password" u.password
    checkProtocol u
    return ⟨String.ofList u.host, u.port.getD defaultPort, number⟩

/-- A server behind a socket of the file system. -/
def ofSocketUrl (u : Url) : Except Failure Address := do
  if !u.host.isEmpty || u.path.head? != some '/' then .error (malformed "Missing path")
  else
    let number ← databaseNumber ((queryValue? u "db").getD "").toList
    checkProtocol u
    return ⟨Utf8.decodeLossy (Url.percentDecode u.path), 0, number⟩

def read (text : String) : Except Failure Address :=
  match Url.read text with
  | .error _ => .error (malformed "Redis URL did not parse")
  | .ok u =>
    if !schemes.contains u.scheme then .error (malformed "Redis URL did not parse")
    else if u.scheme == "redis" || u.scheme == "rediss" then ofServerUrl u
    else ofSocketUrl u

end Address

end Larder.Redis
