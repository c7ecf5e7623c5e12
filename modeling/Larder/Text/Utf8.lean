/-!
UTF-8 as lists of octets: a text written out, and octets read back either strictly or with every
ill-formed stretch replaced.  Each stretch is as long as it can be while some character begins with
it.
-/

namespace Larder

abbrev Bytes := List UInt8

namespace Utf8

def encode (s : String) : Bytes :=
  s.toByteArray.data.toList

/-- What a leading octet calls for: how many octets follow it, and the bounds of the first of them.
The narrower bounds keep out overlong forms, surrogates and values past the last code point. -/
structure Lead where
  following : Nat
  low : UInt8
  high : UInt8
  payload : Nat

def lead? (b : UInt8) : Option Lead :=
  if b < 0xc2 then none
  else if b < 0xe0 then some ⟨1, 0x80, 0xbf, b.toNat - 0xc0⟩
  else if b = 0xe0 then some ⟨2, 0xa0, 0xbf, b.toNat - 0xe0⟩
  else if b = 0xed then some ⟨2, 0x80, 0x9f, b.toNat - 0xe0⟩
  else if b < 0xf0 then some ⟨2, 0x80, 0xbf, b.toNat - 0xe0⟩
  else if b = 0xf0 then some ⟨3, 0x90, 0xbf, b.toNat - 0xf0⟩
  else if b < 0xf4 then some ⟨3, 0x80, 0xbf, b.toNat - 0xf0⟩
  else if b = 0xf4 then some ⟨3, 0x80, 0x8f, b.toNat - 0xf0⟩
  else none

/-- Reads the octets that follow a lead: the code point if all are there, and what is left after the
ones that fit. -/
def follow : Nat → UInt8 → UInt8 → Nat → Bytes → Option Nat × Bytes
  | 0, _, _, acc, rest => (some acc, rest)
  | _ + 1, _, _, _, [] => (none, [])
  | n + 1, low, high, acc, b :: rest =>
    if low ≤ b ∧ b ≤ high then follow n 0x80 0xbf (acc * 64 + (b.toNat - 0x80)) rest
    else (none, b :: rest)

theorem length_follow_le (n : Nat) (low high : UInt8) (acc : Nat) (bytes : Bytes) :
    (follow n low high acc bytes).2.length ≤ bytes.length := by
  induction n generalizing low high acc bytes with
  | zero => simp [follow]
  | succ n ih =>
    cases bytes with
    | nil => simp [follow]
    | cons b rest =>
      unfold follow
      split
      · have := ih 0x80 0xbf (acc * 64 + (b.toNat - 0x80)) rest
        simp only [List.length_cons]
        omega
      · simp

/-- The characters in order, `none` for each ill-formed stretch. -/
def scan : Bytes → List (Option Char)
  | [] => []
  | b :: rest =>
    if b < 0x80 then some (Char.ofNat b.toNat) :: scan rest
    else
      match lead? b with
      | none => none :: scan rest
      | some l =>
        (follow l.following l.low l.high l.payload rest).1.map Char.ofNat
          :: scan (follow l.following l.low l.high l.payload rest).2
  termination_by bytes => bytes.length
  decreasing_by
    · simp
    · simp
    · have := length_follow_le l.following l.low l.high l.payload rest
      simp only [List.length_cons]
      omega

/-- The text, with one replacement character for each ill-formed stretch. -/
def decodeLossy (bytes : Bytes) : String :=
  String.ofList ((scan bytes).map (·.getD (Char.ofNat 0xfffd)))

/-- The text, if the octets are well formed throughout. -/
def decode? (bytes : Bytes) : Option String :=
  ((scan bytes).mapM id).map String.ofList

end Utf8

end Larder
