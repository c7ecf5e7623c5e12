import Larder.Criteria.Basic
import Larder.Text.Utf8

/-!
Keys of cached values: octets, derived from parts by putting them one behind the other without a
separator.  A reader of documents uses the collection followed by the description of the criteria.
-/

namespace Larder.Cache

structure Key where
  bytes : Bytes
deriving DecidableEq

namespace Key

instance : Ord Key := ⟨fun a b => compare a.bytes b.bytes⟩

instance : Std.LawfulEqOrd Key where
  compare_self := fun {a} => Std.ReflOrd.compare_self (a := a.bytes)
  eq_of_compare := fun {a b} h => by
    have h' : compare a.bytes b.bytes = .eq := h
    have := Std.LawfulEqOrd.eq_of_compare h'
    cases a; cases b; simp_all

def ofText (s : String) : Key := ⟨Utf8.encode s⟩

/-- The parts one behind the other. -/
def ofParts (parts : List String) : Key := ⟨parts.flatMap Utf8.encode⟩

/-- The key under which the answer to a query is cached. -/
def forRead (collection : String) (c : Criteria) : Key := ofParts [collection, c.describe]

/-- The name of the key on a server that several namespaces share. -/
def namespaced (k : Key) (ns : String) : Bytes :=
  Utf8.encode ns ++ 0x3a :: k.bytes

/-- The key as text in messages. -/
def text (k : Key) : String := Utf8.decodeLossy k.bytes

end Key

end Larder.Cache
