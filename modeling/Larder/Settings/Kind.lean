import Larder.Json.Shape
import Larder.Text.Classes
import Larder.Text.LowerCase

/-!
Which backends the settings ask for.  Reading is lenient: letters of either case, blanks around the
word, and any word that names no in-process backend means the external one.
-/

namespace Larder

/-- The word that a lenient reader compares. -/
def settingWord (s : String) : String := Text.lower (Text.trim s)

inductive CacheKind where
  /-- Nothing is kept. -/
  | noop
  | memory
  /-- A server shared with other processes. -/
  | redis
deriving DecidableEq, Repr

namespace CacheKind

def default : CacheKind := redis

def ofText (s : String) : CacheKind :=
  let word := settingWord s
  if ["noop", "no-op", "none", "disabled"].contains word then noop
  else if ["memory", "in-memory", "in-process", "local"].contains word then memory
  else redis

def name : CacheKind → String
  | noop => "noop"
  | memory => "memory"
  | redis => "redis"

def isExternal (k : CacheKind) : Bool := k == redis

def shape : Json.Shape CacheKind := fun v => (Json.Shape.string v).map ofText

end CacheKind

inductive StoreKind where
  /-- A database server. -/
  | document
  | memory
deriving DecidableEq, Repr

namespace StoreKind

def default : StoreKind := document

def ofText (s : String) : StoreKind :=
  if ["memory", "in-memory", "in-process"].contains (settingWord s) then memory else document

def name : StoreKind → String
  | document => "document"
  | memory => "memory"

def shape : Json.Shape StoreKind := fun v => (Json.Shape.string v).map ofText

end StoreKind

end Larder
