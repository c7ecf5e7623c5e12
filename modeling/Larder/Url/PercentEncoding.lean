import Larder.Text.Hex
import Larder.Text.Utf8

/-!
Percent encoding.  Each part of a URL has its own set of characters that cannot stand in it; those
are written as the octets of their UTF-8 form, each as a percent sign and two upper-case digits.
The percent sign itself is in none of the sets.
-/

namespace Larder.Url

/-- Characters that stand nowhere: control characters and everything outside ASCII. -/
def isUnwritable (c : Char) : Bool := c.toNat < 0x20 || 0x7f ≤ c.toNat

def inFragment (c : Char) : Bool := isUnwritable c || [' ', '"', '<', '>', '\x60'].contains c

def inQuery (c : Char) : Bool := isUnwritable c || [' ', '"', '#', '<', '>'].contains c

def inPath (c : Char) : Bool := inFragment c || ['#', '?', '\x7b', '\x7d'].contains c

def inUserinfo (c : Char) : Bool :=
  inPath c || ['/', ':', ';', '=', '@', '[', '\\', ']', '^', '|'].contains c

def encodeOctet (b : UInt8) : List Char :=
  ['%', Text.upperHexDigit (b.toNat / 16), Text.upperHexDigit (b.toNat % 16)]

def encodeChar (reserved : Char → Bool) (c : Char) : List Char :=
  if reserved c then (Utf8.encode (String.singleton c)).flatMap encodeOctet else [c]

def percentEncode (reserved : Char → Bool) (cs : List Char) : List Char :=
  cs.flatMap (encodeChar reserved)

/-- The octets of an encoded text.  A percent sign without two digits behind it stands for
itself. -/
def percentDecode : List Char → Bytes
  | [] => []
  | '%' :: a :: b :: rest =>
    match Text.hexValue? a, Text.hexValue? b with
    | some high, some low => UInt8.ofNat (high * 16 + low) :: percentDecode rest
    | _, _ => 0x25 :: percentDecode (a :: b :: rest)
  | c :: rest => Utf8.encode (String.singleton c) ++ percentDecode rest

end Larder.Url
