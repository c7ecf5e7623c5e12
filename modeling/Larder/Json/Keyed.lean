import Larder.Error
import Larder.Json.Printer
import Larder.Number.Extended

/-!
Writing data for which a value has no place of its own: objects by keys that are not texts, and
numbers that are not finite.
-/

namespace Larder.Json

/-- A key that is a value as the name of a member. -/
def memberName? : Value → Option String
  | .string s => some s
  | .number n => some (Value.number n).text
  | .bool b => some (Value.bool b).text
  | _ => none

/-- An object from keys and values; of two equal keys the later one stays. -/
def ofKeyed (entries : List (Value × Value)) : Answer Value :=
  match entries.mapM fun (key, v) => (memberName? key).map (·, v) with
  | some members => .ok (.object (Dict.ofList members))
  | none => .error (.ofJson "key must be a string")

/-- A number that may not be finite; what is not finite is null. -/
def ofExtended : Extended → Value
  | .finite x => .number (.float x)
  | _ => .null

end Larder.Json
