import Larder.Criteria.Basic
import Larder.Json.Reader
import Larder.Json.Shape

/-!
Criteria read from values and from text.  Parts may be left out, unknown members are passed over,
and an array of the parts in order stands for the object; text is read strictly, so a part must not
occur twice.
-/

namespace Larder

open Json (Value Shape Mismatch)

namespace Filter

/-- A condition is an object whose one member names the kind of condition. -/
def shape : Shape Filter := fun v => do
  let (name, content) ← Json.Shape.tagged v
  if name = "eq" then
    match content with
    | some inner => return .eq inner
    | none => .error (.bareName "newtype variant")
  else if name = "in" then
    match content with
    | some inner => return .oneOf (← Json.Shape.list Json.Shape.value inner)
    | none => .error (.bareName "newtype variant")
  else .error (.unknownName name ["eq", "in"])

end Filter

namespace Direction

def shape : Shape Direction := Json.Shape.oneOf [("asc", asc), ("desc", desc)]

end Direction

namespace Criteria

def orderShape : Shape (List (String × Direction)) :=
  Json.Shape.list (Json.Shape.pair Json.Shape.string Direction.shape)

def boundShape : Shape (Option Nat) := Json.Shape.optional (Json.Shape.natural "u64" 64)

def parts : List Json.Field :=
  [.optionalOf "where" (Json.Shape.dict Filter.shape), .optionalOf "order" orderShape,
   .optionalOf "limit" boundShape, .optionalOf "offset" boundShape]

def shape : Shape Criteria := fun v => do
  let members ← Json.record "struct Criteria" parts v
  return {
    filters := ← Json.memberOr members "where" (Json.Shape.dict Filter.shape) []
    order := ← Json.memberOr members "order" orderShape []
    limit := ← Json.memberOr members "limit" boundShape none
    offset := ← Json.memberOr members "offset" boundShape none }

/-- The conditions of criteria that were read from text, with canonical values. -/
def canonical (c : Criteria) : Criteria :=
  { c with filters := Dict.mapValues (fun f =>
      match f with
      | .eq v => .eq v.canonical
      | .oneOf vs => .oneOf (vs.map Value.canonical)) c.filters }

/-- Criteria from the text of a value. -/
def read? (text : String) : Option Criteria := do
  let raw ← Json.readRaw? text
  match shape raw with
  | .ok c => some c.canonical
  | .error _ => none

end Criteria

end Larder
