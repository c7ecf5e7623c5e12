import Larder.Document.Basic

/-!
Merge patches.  A null in the patch removes the member, an object is merged into the member, which
becomes an empty object first if it is none, and any other value takes the place of the member.  The
identifier of the document itself is out of reach of a patch; members named `id` further in are not.
-/

namespace Larder.Document

open Json (Value Object)

/-- The members that a patch goes on with inside a member. -/
def membersOrNone : Option Value → Object
  | some (.object members) => members
  | _ => []

mutual

def patchMember (target : Object) (name : String) : Value → Object
  | .null => Dict.erase target name
  | .object members =>
    Dict.insert target name (.object (patchMembers (membersOrNone (Dict.get? target name)) members))
  | v => Dict.insert target name v

def patchMembers (target : Object) : List (String × Value) → Object
  | [] => target
  | (name, v) :: rest => patchMembers (patchMember target name v) rest

end

/-- Applies the members of a patch one after the other, but for the identifier. -/
def mergePatch (target patch : Document) : Document :=
  patch.foldl (fun d m => if m.1 = idField then d else patchMember d m.1 m.2) target

/-- A patch without the identifier. -/
def stripId (patch : Object) : Object := Dict.erase patch idField

end Larder.Document
