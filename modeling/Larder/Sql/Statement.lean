/-!
Statements for a database server: a text with placeholders, and the values that stand in for them,
in order.  Statements are put together from pieces, and data goes into one only as a binding.
-/

namespace Larder.Sql

inductive Binding where
  | text (s : String)
  | number (n : Nat)
deriving DecidableEq, Repr

structure Statement where
  text : String
  bindings : List Binding
deriving DecidableEq, Repr

namespace Statement

/-- A piece of text without a placeholder. -/
def piece (s : String) : Statement := ⟨s, []⟩

/-- A placeholder, and what stands in for it. -/
def bound (b : Binding) : Statement := ⟨"?", [b]⟩

instance : Append Statement := ⟨fun a b => ⟨a.text ++ b.text, a.bindings ++ b.bindings⟩⟩

def concat (pieces : List Statement) : Statement := pieces.foldr (· ++ ·) ⟨"", []⟩

/-- Pieces with a text between each two. -/
def joined (between : String) : List Statement → Statement
  | [] => ⟨"", []⟩
  | [s] => s
  | s :: rest => s ++ piece between ++ joined between rest

end Statement

end Larder.Sql
