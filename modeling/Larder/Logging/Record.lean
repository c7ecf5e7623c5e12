import Larder.Json.Printer
import Larder.Logging.Filter

/-!
Log records: a level, the part of the program that tells it, a message and further fields.
-/

namespace Larder.Logging

structure Record where
  level : Level
  target : String
  message : String
  fields : Json.Object

namespace Record

def isEnabled (r : Record) (f : Filter) : Bool := f.enabled r.target r.level

/-- All fields, the message among them. -/
def content (r : Record) : Json.Value :=
  .object (Dict.insert r.fields "message" (.string r.message))

/-- A field of a line that people read. -/
def fieldText (field : String × Json.Value) : String := " " ++ field.1 ++ "=" ++ field.2.text

/-- The record on a line of its own. -/
def line (format : Format) (r : Record) : String :=
  match format with
  | .json =>
    (Json.Value.object (Dict.ofList [("level", .string r.level.name), ("target", .string r.target),
      ("fields", r.content)])).text
  | .pretty =>
    r.level.name ++ " " ++ r.target ++ ": " ++ r.message ++ String.join (r.fields.map fieldText)

end Record

end Larder.Logging
