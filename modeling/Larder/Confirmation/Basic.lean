import Larder.Json.Shape
import Larder.Time.Rfc3339
import Larder.Uuid

/-!
Confirmation codes: one is issued to a recipient for a length of time, and stands as a value in the
payload of an event.
-/

namespace Larder

structure Confirmation where
  id : Uuid
  /-- An address to send the code to. -/
  recipient : String
  code : String
  active : Bool
  expiresAt : Instant
  issuedAt : Instant
deriving DecidableEq

namespace Confirmation

/-- The topic on which confirmations are published. -/
def topic : String := "confirmation.issued"

/-- An active confirmation from an instant on. -/
def issue (id : Uuid) (recipient code : String) (now : Instant) (ttl : Duration) : Confirmation :=
  ⟨id, recipient, code, true, now.expiry ttl, now⟩

def deactivated (c : Confirmation) : Confirmation := { c with active := false }

/-- What an event about the confirmation is about. -/
def aggregateId (c : Confirmation) : String := c.id.text

/-- When an event about the confirmation happened. -/
def timestamp (c : Confirmation) : Instant := c.issuedAt

/-! ## As a value -/

def idShape : Json.Shape Uuid
  | .string s =>
    match Uuid.read? s with
    | some u => .ok u
    | none => .error (.malformed "malformed identifier")
  | v => .error (.kind v "a formatted UUID string")

def instantShape : Json.Shape Instant
  | .string s =>
    match Instant.read? s with
    | some t => .ok t
    | none => .error (.malformed "malformed time")
  | v => .error (.kind v "an RFC 3339 formatted date and time string")

def fields : List Json.Field :=
  [.requiredOf "confirmation_id" idShape, .requiredOf "recipient" Json.Shape.string,
   .requiredOf "code" Json.Shape.string, .requiredOf "active" Json.Shape.bool,
   .requiredOf "expires_at" instantShape, .requiredOf "issued_at" instantShape]

def shape : Json.Shape Confirmation := fun v => do
  let members ← Json.record "struct ConfirmationIssued" fields v
  return {
    id := ← Json.member members "confirmation_id" idShape
    recipient := ← Json.member members "recipient" Json.Shape.string
    code := ← Json.member members "code" Json.Shape.string
    active := ← Json.member members "active" Json.Shape.bool
    expiresAt := ← Json.member members "expires_at" instantShape
    issuedAt := ← Json.member members "issued_at" instantShape }

def toValue (c : Confirmation) : Json.Value :=
  .object (Dict.ofList [("confirmation_id", .string c.id.text), ("recipient", .string c.recipient),
    ("code", .string c.code), ("active", .bool c.active), ("expires_at", .string c.expiresAt.text),
    ("issued_at", .string c.issuedAt.text)])

end Confirmation

end Larder
