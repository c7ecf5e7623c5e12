import Larder.Json.Printer

/-!
Documents: objects, with an identifier in the field `id`.  A document that is stored always has one;
its text is what identifies the document, whatever kind of value it is.
-/

namespace Larder

abbrev Document := Json.Object

namespace Document

def idField : String := "id"

/-- The text of an identifier: a string itself, any other value as it is printed. -/
def idText : Json.Value → String
  | .string s => s
  | v => v.text

/-- The document with an identifier, and the text of that.  One that lacks an identifier, or has
null for it, gets the fresh one. -/
def withId (d : Document) (fresh : String) : Document × String :=
  match Dict.get? d idField with
  | none => (Dict.insert d idField (.string fresh), fresh)
  | some .null => (Dict.insert d idField (.string fresh), fresh)
  | some v => (d, idText v)

/-- Whether a fresh identifier would be used. -/
def lacksId (d : Document) : Bool :=
  match Dict.get? d idField with
  | none => true
  | some v => v.isNull

/-- Looks a value up along a dotted path; each step but the last must lead to an object. -/
def lookupPath : Document → List (List Char) → Option Json.Value
  | _, [] => none
  | d, [segment] => Dict.get? d (String.ofList segment)
  | d, segment :: rest =>
    match Dict.get? d (String.ofList segment) with
    | some (.object inner) => lookupPath inner rest
    | _ => none

def lookup (d : Document) (path : String) : Option Json.Value :=
  lookupPath d (path.toList.splitOn '.')

def text (d : Document) : String := (Json.Value.object d).text

end Document

end Larder
