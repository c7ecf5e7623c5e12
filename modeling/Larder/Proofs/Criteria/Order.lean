import Larder.Criteria.Order

/-!
The order of documents is a total preorder.

Values are compared by kind, then by number, then by string, where a value of another kind counts as
zero and as the empty string.  So the comparison is lexicographic, and so is the one by the clauses
of criteria.
-/

namespace Larder

open Json (Value)

def numberKey : Value → Int
  | .bool b => b.toNat
  | .number n => n.toBinary64.totalKey
  | _ => 0

def stringKey : Value → String
  | .string s => s
  | _ => ""

theorem compareBool_eq (a b : Bool) : compareBool a b = compare (a.toNat : Int) b.toNat := by
  cases a <;> cases b <;> rfl

theorem compareValues_eq :
    compareValues = compareLex (compareOn kindRank)
      (compareLex (compareOn numberKey) (compareOn stringKey)) := by
  have hself : ∀ o : Ordering, o.then (compare "" "") = o := by
    intro o
    rw [Std.ReflOrd.compare_self, Ordering.then_eq]
  funext a b
  -- Only two values of one kind get past the ranks.
  cases a <;> cases b <;> try rfl
  · exact (compareBool_eq _ _).trans (hself _).symm
  · exact (hself _).symm

instance : Std.TransCmp compareValues := by
  rw [compareValues_eq]
  infer_instance

namespace Criteria

theorem compareBy_cons (field : String) (direction : Direction) (rest : List (String × Direction)) :
    compareBy ((field, direction) :: rest) = compareLex
      (fun a b => direction.apply (compareValues ((Document.lookup a field).getD .null)
        ((Document.lookup b field).getD .null))) (compareBy rest) := rfl

end Criteria

theorem transCmp_apply {α : Type} (f : α → α → Ordering) [Std.TransCmp f] (direction : Direction) :
    Std.TransCmp fun a b => direction.apply (f a b) := by
  cases direction with
  | asc => exact inferInstanceAs (Std.TransCmp f)
  | desc =>
    have hswap : (fun a b => Direction.desc.apply (f a b)) = fun a b => f b a := by
      funext a b
      exact Std.OrientedCmp.eq_swap.symm
    rw [hswap]
    exact Std.TransCmp.opposite

theorem transCmp_on {α β : Type} (f : β → β → Ordering) [h : Std.TransCmp f] (key : α → β) :
    Std.TransCmp fun a b => f (key a) (key b) where
  eq_swap := Std.OrientedCmp.eq_swap
  isLE_trans := h.isLE_trans

section NeGt

variable {α : Type} (f : α → α → Ordering)

theorem ne_gt_total [Std.OrientedCmp f] (a b : α) : (f a b != .gt || f b a != .gt) = true := by
  have hswap : f b a = (f a b).swap := Std.OrientedCmp.eq_swap
  rw [hswap]
  cases f a b <;> rfl

theorem ne_gt_trans [Std.TransCmp f] (a b c : α) (hab : (f a b != .gt) = true)
    (hbc : (f b c != .gt) = true) :
    (f a c != .gt) = true := by
  have hle : ∀ o : Ordering, (o != .gt) = o.isLE := by
    intro o
    cases o <;> rfl
  rw [hle] at hab hbc ⊢
  exact Std.TransCmp.isLE_trans hab hbc

end NeGt

instance Criteria.transCmp_compareBy (clauses : List (String × Direction)) :
    Std.TransCmp (compareBy clauses) := by
  induction clauses with
  | nil => exact { eq_swap := rfl, isLE_trans := fun _ _ => rfl }
  | cons clause rest ih =>
    obtain ⟨field, direction⟩ := clause
    have hfield :=
      transCmp_on compareValues fun d : Document => (Document.lookup d field).getD .null
    have happly := transCmp_apply (fun a b : Document =>
      compareValues ((Document.lookup a field).getD .null) ((Document.lookup b field).getD .null))
        direction
    rw [compareBy_cons]
    infer_instance

end Larder
