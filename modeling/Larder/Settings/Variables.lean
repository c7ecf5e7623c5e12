import Larder.Dict
import Larder.Settings.Tree

/-!
Settings from environment variables.  A variable counts if its name begins with the common prefix,
in letters of either case; the rest of the name is a path, and the value is read as a truth value or
a number where it is one.
-/

namespace Larder.Settings

/-- Environment variables by name. -/
abbrev Variables := Dict String String

namespace Variables

def commonPrefix : String := "keystone__"

/-- The variable that names the environment. -/
def environmentName : String := "KEYSTONE_ENVIRONMENT"

/-- Every other underscore pair becomes a dot. -/
def dotted : List Char → List Char
  | '_' :: '_' :: rest => '.' :: dotted rest
  | c :: rest => c :: dotted rest
  | [] => []

/-- The value of a variable: a truth value, an integer, a number, or else the text as it is. -/
def treeOf (value : String) : Tree :=
  let word := Text.lower value
  if word = "true" then .bool true
  else if word = "false" then .bool false
  else
    match Extended.signed64? value.toList with
    | some n => .integer n
    | none =>
      match Extended.read? value with
      | some x => .number x
      | none => .text value

/-- The path that a variable's name stands for, if it is a setting. -/
def path? (name : String) : Option String :=
  let lowered := (Text.lower name).toList
  let expected := commonPrefix.toList
  if expected.isPrefixOf lowered then some (String.ofList (dotted (lowered.drop expected.length)))
  else none

/-- The settings among the variables. -/
def settings (vars : Variables) : List (String × Tree) :=
  vars.filterMap fun (name, value) => (path? name).map (·, treeOf value)

end Variables

end Larder.Settings
