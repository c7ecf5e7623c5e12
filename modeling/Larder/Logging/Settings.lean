import Larder.Json.Shape
import Larder.Text.LowerCase

/-!
How much is logged, and in which form.
-/

namespace Larder.Logging

inductive Format where
  | pretty
  | json
deriving DecidableEq, Repr

namespace Format

def name : Format → String
  | pretty => "pretty"
  | json => "json"

/-- Only the word itself, in letters of either case, asks for the structured form. -/
def ofText (s : String) : Format :=
  if Text.lowerAscii s = "json" then json else pretty

def shape : Json.Shape Format := Json.Shape.oneOf [("pretty", pretty), ("json", json)]

end Format

structure Settings where
  level : String
  format : Format
deriving DecidableEq, Repr

namespace Settings

def default : Settings := ⟨"info", .pretty⟩

/-- The filter that the level stands for.  The two chatty levels also name the program's own
modules. -/
def directive (s : Settings) : String :=
  let level := Text.lower s.level
  if level = "debug" ∨ level = "trace" then level ++ ",keystone=" ++ level else level

def fields : List Json.Field :=
  [.requiredOf "level" Json.Shape.string, .requiredOf "format" Format.shape]

def shape : Json.Shape Settings := fun v => do
  let members ← Json.record "struct LoggingSettings" fields v
  return { level := ← Json.member members "level" Json.Shape.string,
           format := ← Json.member members "format" Format.shape }

def toValue (s : Settings) : Json.Value :=
  .object (Dict.ofList [("level", .string s.level), ("format", .string s.format.name)])

end Settings

end Larder.Logging
