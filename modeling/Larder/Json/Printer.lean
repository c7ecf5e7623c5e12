import Larder.Json.Value
import Larder.Text.Hex

/-!
Compact text of a value: no blanks, members in the order of the object, and only quotes, backslashes
and control characters escaped.
-/

namespace Larder.Json

def escapedChar (c : Char) : List Char :=
  if c = '"' then ['\\', '"']
  else if c = '\\' then ['\\', '\\']
  else if c.toNat = 0x8 then ['\\', 'b']
  else if c.toNat = 0xc then ['\\', 'f']
  else if c = '\n' then ['\\', 'n']
  else if c = '\r' then ['\\', 'r']
  else if c = '\t' then ['\\', 't']
  else if c.toNat < 0x20 then
    ['\\', 'u', '0', '0', Text.hexDigit (c.toNat / 16), Text.hexDigit (c.toNat % 16)]
  else [c]

def stringChars (s : String) : List Char :=
  '"' :: s.toList.flatMap escapedChar ++ ['"']

def integerChars (n : Int) : List Char :=
  if n < 0 then '-' :: Nat.toDigits 10 n.natAbs else Nat.toDigits 10 n.natAbs

def Number.chars : Number → List Char
  | .integer n => integerChars n
  | .float x => x.documentText

/-- The pieces with a comma between each two. -/
def commaSeparated : List (List Char) → List Char
  | [] => []
  | [piece] => piece
  | piece :: rest => piece ++ ',' :: commaSeparated rest

def braced (inner : List Char) : List Char := '\x7b' :: inner ++ ['\x7d']

def bracketed (inner : List Char) : List Char := '[' :: inner ++ [']']

namespace Value

mutual

def chars : Value → List Char
  | null => ['n', 'u', 'l', 'l']
  | bool true => ['t', 'r', 'u', 'e']
  | bool false => ['f', 'a', 'l', 's', 'e']
  | number n => n.chars
  | string s => stringChars s
  | array items => bracketed (commaSeparated (itemChars items))
  | object members => braced (commaSeparated (memberChars members))

def itemChars : List Value → List (List Char)
  | [] => []
  | v :: rest => chars v :: itemChars rest

def memberChars : List (String × Value) → List (List Char)
  | [] => []
  | (k, v) :: rest => (stringChars k ++ ':' :: chars v) :: memberChars rest

end

/-- Compact text. -/
def text (v : Value) : String := String.ofList v.chars

end Value

end Larder.Json
