import Larder.Text.Hex

/-!
Universally unique identifiers.  Four written forms are read, in letters of either case; one is
written.
-/

namespace Larder

/-- An identifier of 128 bits. -/
structure Uuid where
  bits : Nat
deriving DecidableEq, Repr

namespace Uuid

/-- Sets the version in the high half and the variant in the low half. -/
def stamped (version bits : Nat) : Uuid :=
  let high := (bits >>> 64) % (1 <<< 64)
  let low := bits % (1 <<< 62)
  let versioned := ((high >>> 16) <<< 16) + (version <<< 12) + high % (1 <<< 12)
  ⟨(versioned <<< 64) + (1 <<< 63) + low⟩

/-- An identifier of random bits. -/
def random (bits : Nat) : Uuid := stamped 4 bits

/-- An identifier that begins with the milliseconds since 1970. -/
def timed (milliseconds bits : Nat) : Uuid :=
  stamped 7 (((milliseconds % (1 <<< 48)) <<< 80) + bits % (1 <<< 80))

def version (u : Uuid) : Nat := (u.bits >>> 76) % 16

def hexDigits (u : Uuid) : List Char :=
  (List.range 32).map fun i => Text.hexDigit ((u.bits >>> (4 * (31 - i))) % 16)

/-- Groups of 8, 4, 4, 4 and 12 digits with hyphens between. -/
def text (u : Uuid) : String :=
  let d := u.hexDigits
  String.ofList (d.take 8 ++ '-' :: (d.drop 8).take 4 ++ '-' :: (d.drop 12).take 4
    ++ '-' :: (d.drop 16).take 4 ++ '-' :: d.drop 20)

def ofDigits? (cs : List Char) : Option Uuid :=
  if cs.length = 32 then (Text.hexNumber? cs).map Uuid.mk else none

def ofHyphenated? (cs : List Char) : Option Uuid :=
  let at' (n : Nat) : Bool := cs[n]? == some '-'
  if cs.length = 36 ∧ at' 8 ∧ at' 13 ∧ at' 18 ∧ at' 23 then
    ofDigits? (cs.take 8 ++ (cs.drop 9).take 4 ++ (cs.drop 14).take 4 ++ (cs.drop 19).take 4
      ++ cs.drop 24)
  else none

/-- Digits alone, with hyphens, with hyphens in braces, or with hyphens after `urn:uuid:`. -/
def read? (s : String) : Option Uuid :=
  let cs := s.toList
  if cs.length = 32 then ofDigits? cs
  else if cs.length = 36 then ofHyphenated? cs
  else if cs.length = 38 ∧ cs.head? = some '\x7b' ∧ cs.getLast? = some '\x7d' then
    ofHyphenated? (cs.drop 1).dropLast
  else if cs.length = 45 ∧ cs.take 9 = "urn:uuid:".toList then ofHyphenated? (cs.drop 9)
  else none

end Uuid

end Larder
