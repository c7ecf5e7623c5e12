import Larder.Url.Ipv6
import Larder.Url.Path

/-!
URLs with an authority, for schemes that have no rules of their own: the host is any text without
the characters that end or structure an authority, and only what cannot stand in a URL is escaped in
it.
-/

namespace Larder

/-- A URL by its parts, each as it is written, with its escapes. -/
structure Url where
  scheme : String
  username : List Char
  /-- Empty if there is none. -/
  password : List Char
  host : List Char
  port : Option Nat
  path : List Char
  query : Option (List Char)
  fragment : Option (List Char)
deriving DecidableEq

namespace Url

/-- Why a text is no URL. -/
inductive Malformed where
  | emptyHost
  | hostCharacter
  | ipv6
  | port
  /-- There is no scheme. -/
  | relative
deriving DecidableEq, Repr

def Malformed.message : Malformed → String
  | emptyHost => "empty host"
  | hostCharacter => "invalid domain character"
  | ipv6 => "invalid IPv6 address"
  | port => "invalid port number"
  | relative => "relative URL without a base"

/-! ## Reading -/

def endsAuthority (c : Char) : Bool := c == '/' || c == '?' || c == '#'

/-- User name and password, and what follows the last at sign of the authority. -/
def userinfo (cs : List Char) : Except Malformed (List Char × List Char × List Char) :=
  let authority := cs.takeWhile fun c => !endsAuthority c
  let rest := cs.drop authority.length
  if !authority.contains '@' then .ok ([], [], cs)
  else
    let host := (authority.reverse.takeWhile (· != '@')).reverse
    let info := authority.take (authority.length - host.length - 1)
    if info.isEmpty ∧ host.isEmpty ∧ !rest.isEmpty then .error .emptyHost
    else
      let name := info.takeWhile (· != ':')
      .ok (percentEncode inUserinfo name, percentEncode inUserinfo (info.drop (name.length + 1)),
        host ++ rest)

/-- The length of the host: up to a colon outside brackets or the end of the authority. -/
def hostLength : Bool → List Char → Nat
  | _, [] => 0
  | bracketed, c :: rest =>
    if endsAuthority c || (c == ':' && !bracketed) then 0
    else hostLength (if c = '[' then true else if c = ']' then false else bracketed) rest + 1

def isForbiddenInHost (c : Char) : Bool :=
  ['\x00', '\t', '\n', '\r', ' ', '#', '/', ':', '<', '>', '?', '@', '[', '\\', ']', '^',
    '|'].contains c

def hostOf (cs : List Char) : Except Malformed (List Char) :=
  if cs.head? = some '[' then
    if 2 ≤ cs.length ∧ cs.getLast? = some ']' then
      match Ipv6.read? (cs.tail.dropLast) with
      | some a => .ok ('[' :: a.text.toList ++ [']'])
      | none => .error .ipv6
    else .error .ipv6
  else if cs.any isForbiddenInHost then .error .hostCharacter
  else .ok (percentEncode isUnwritable cs)

/-- A port after its colon, and the rest; without a digit there is none. -/
def portOf (cs : List Char) : Except Malformed (Option Nat × List Char) :=
  let digits := cs.takeWhile Char.isDigit
  let rest := cs.drop digits.length
  let n := digits.foldl (fun n c => n * 10 + (c.toNat - 48)) 0
  if 65535 < n then .error .port
  else
    match rest with
    | [] => .ok (if digits.isEmpty then none else some n, rest)
    | c :: _ =>
      if endsAuthority c || c == '\\' then .ok (if digits.isEmpty then none else some n, rest)
      else .error .port

/-- Path, query and fragment. -/
def tailOf (cs : List Char) : List Char × Option (List Char) × Option (List Char) :=
  let path := cs.takeWhile fun c => c != '?' && c != '#'
  let rest := cs.drop path.length
  let query :=
    match rest with
    | '?' :: q => some (q.takeWhile (· != '#'))
    | _ => none
  let fragment := (rest.dropWhile (· != '#')).tail?
  (if path.isEmpty then [] else pathOf path, query.map (percentEncode inQuery),
    fragment.map (percentEncode inFragment))

def isDropped (c : Char) : Bool := c == '\t' || c == '\n' || c == '\r'

/-- The URL of a scheme from what follows the two slashes. -/
def ofAuthority (scheme : String) (text : String) : Except Malformed Url := do
  let cs := text.toList.filter fun c => !isDropped c
  let (username, password, rest) ← userinfo cs
  let length := hostLength false rest
  let host ← hostOf (rest.take length)
  let afterHost := rest.drop length
  if host.isEmpty ∧ (afterHost.head? = some ':' ∨ !username.isEmpty ∨ !password.isEmpty) then
    .error .emptyHost
  else
    let (port, afterPort) ← if afterHost.head? = some ':' then portOf afterHost.tail
      else .ok (none, afterHost)
    let (path, query, fragment) := tailOf afterPort
    return ⟨scheme, username, password, host, port, path, query, fragment⟩

/-- Control characters and blanks, which are left away around a URL. -/
def isAroundUrl (c : Char) : Bool := c.toNat ≤ 0x20

def isSchemeChar (c : Char) : Bool := c.isAlphanum || c == '+' || c == '-' || c == '.'

/-- A URL with its scheme.  Without the two slashes there is neither host nor port. -/
def read (text : String) : Except Malformed Url := do
  let trimmed := (text.toList.dropWhile isAroundUrl).reverse.dropWhile isAroundUrl
  let cs := trimmed.reverse.filter fun c => !isDropped c
  let scheme := cs.takeWhile isSchemeChar
  match scheme.head?.any Char.isAlpha, cs.drop scheme.length with
  | true, ':' :: '/' :: '/' :: rest =>
    ofAuthority (String.ofList (scheme.map Char.toLower)) (String.ofList rest)
  | true, ':' :: rest =>
    let (path, query, fragment) := tailOf rest
    return ⟨String.ofList (scheme.map Char.toLower), [], [], [], none, path, query, fragment⟩
  | _, _ => .error .relative

/-! ## Replacing parts -/

/-- The URL with another user name; without a host there is no place for one. -/
def withUsername? (u : Url) (name : String) : Option Url :=
  if u.host.isEmpty then none
  else some { u with username := percentEncode inUserinfo name.toList }

def withPassword? (u : Url) (password : String) : Option Url :=
  if u.host.isEmpty then none
  else some { u with password := percentEncode inUserinfo password.toList }

def withPath (u : Url) (path : String) : Url :=
  { u with path := pathOf (path.toList.filter fun c => !isDropped c) }

/-! ## Writing -/

def userinfoChars (u : Url) : List Char :=
  if u.username.isEmpty && u.password.isEmpty then []
  else u.username ++ (if u.password.isEmpty then [] else ':' :: u.password) ++ ['@']

def chars (u : Url) : List Char :=
  u.scheme.toList ++ "://".toList ++ u.userinfoChars ++ u.host
    ++ (match u.port with | some n => ':' :: Nat.toDigits 10 n | none => [])
    ++ u.path
    ++ (match u.query with | some q => '?' :: q | none => [])
    ++ (match u.fragment with | some f => '#' :: f | none => [])

def text (u : Url) : String := String.ofList u.chars

end Url

end Larder
