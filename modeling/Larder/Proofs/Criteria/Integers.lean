import Larder.Proofs.Number.Nearest
import Larder.Proofs.Store.Reading

/-!
Documents in the order of a field that has integers.

Numbers are compared as doubles.  Rounding keeps the order of integers but not all differences: from
`2 ^ 53` on one double stands for several, and these are not told apart
(`compareValues_eq_compare_iff`).  So documents come out in the order of the integers unless such
ones went in the wrong way round.
-/

namespace Larder

open Json (Value)
open Binary64 (SharesDouble)

/-! ## Comparing integers -/

theorem natAbs_lt_of_inRange {n : Int} (h : (Json.Number.integer n).InRange) :
    n.natAbs < 1 <<< 64 := by
  obtain ⟨hlow, hhigh⟩ := h
  have h63 : (1 <<< 63 : Nat) = 9223372036854775808 := by decide
  have h64 : (1 <<< 64 : Nat) = 18446744073709551616 := by decide
  omega

section Compare

variable {a b : Int} (ha : (Json.Number.integer a).InRange) (hb : (Json.Number.integer b).InRange)
include ha hb

theorem compareValues_of_shares (h : SharesDouble a b) :
    compareValues (.ofInt a) (.ofInt b) = .eq := by
  have hsame := (Binary64.sharesDouble_iff (natAbs_lt_of_inRange ha) (natAbs_lt_of_inRange hb)).1 h
  show compare (Binary64.ofInt a).totalKey (Binary64.ofInt b).totalKey = .eq
  rw [hsame]
  exact Std.ReflOrd.compare_self

theorem compareValues_of_not_shares (h : ¬ SharesDouble a b) :
    compareValues (.ofInt a) (.ofInt b) = compare a b :=
  Binary64.compare_totalKey_ofInt (natAbs_lt_of_inRange ha) (natAbs_lt_of_inRange hb) h

theorem compareValues_eq_compare_iff :
    compareValues (.ofInt a) (.ofInt b) = compare a b ↔ (SharesDouble a b → a = b) := by
  by_cases h : SharesDouble a b
  · rw [compareValues_of_shares ha hb h]
    exact ⟨fun heq _ => Std.compare_eq_iff_eq.1 heq.symm,
      fun heq => (Std.compare_eq_iff_eq.2 (heq h)).symm⟩
  · exact ⟨fun _ hshares => absurd hshares h, fun _ => compareValues_of_not_shares ha hb h⟩

end Compare

/-- Whether one integer may stand ahead of another. -/
def Direction.InOrder : Direction → Int → Int → Prop
  | asc, a, b => a ≤ b
  | desc, a, b => b ≤ a

theorem Direction.inOrder_iff {direction : Direction} {a b : Int} :
    direction.InOrder a b ↔ direction.apply (compare a b) ≠ .gt := by
  cases direction with
  | asc => exact Int.not_lt.symm.trans (not_congr Int.compare_eq_gt.symm)
  | desc =>
    show b ≤ a ↔ (compare a b).swap ≠ .gt
    rw [← Std.OrientedOrd.eq_swap]
    exact Int.not_lt.symm.trans (not_congr Int.compare_eq_gt.symm)

/-! ## Documents with an integer -/

/-- A field of a document is an integer. -/
structure HasInteger (field : String) (n : Int) (d : Document) : Prop where
  value : Document.lookup d field = some (.ofInt n)
  inRange : (Json.Number.integer n).InRange

section Documents

variable {c : Criteria} {field : String} {direction : Direction}
  (horder : c.order = [(field, direction)]) {d d' : Document} {m n : Int}
  (hd : HasInteger field m d) (hd' : HasInteger field n d')
include horder hd hd'

theorem compare_of_integers :
    c.compare d d' = direction.apply (compareValues (.ofInt m) (.ofInt n)) := by
  unfold Criteria.compare
  rw [horder]
  show (direction.apply (compareValues ((Document.lookup d field).getD .null)
    ((Document.lookup d' field).getD .null))).then .eq = _
  rw [hd.value, hd'.value, Ordering.then_eq]
  rfl

theorem compare_of_shares (h : SharesDouble m n) : c.compare d d' = .eq := by
  rw [compare_of_integers horder hd hd', compareValues_of_shares hd.inRange hd'.inRange h]
  cases direction <;> rfl

theorem inOrder_of_not_shares (h : ¬ SharesDouble m n) (hle : c.compare d d' ≠ .gt) :
    direction.InOrder m n := by
  rw [compare_of_integers horder hd hd', compareValues_of_not_shares hd.inRange hd'.inRange h]
    at hle
  exact Direction.inOrder_iff.2 hle

end Documents

namespace Store.Memory

theorem inOrder_iff_of_selects {c : Criteria} {field : String} {direction : Direction}
    (horder : c.order = [(field, direction)]) {docs : List Document} {n : Document → Int}
    (hints : ∀ d ∈ docs, HasInteger field (n d) d) {hits : List (Document × Nat)}
    (h : Selects c docs hits) :
    (hits.map Prod.fst).Pairwise (fun d d' => direction.InOrder (n d) (n d')) ↔
      ∀ x ∈ hits, ∀ y ∈ hits, x.2 < y.2 → SharesDouble (n x.1) (n y.1) →
      direction.InOrder (n x.1) (n y.1) := by
  obtain ⟨arranged, harranged, hpage⟩ := h.paged
  have hsublist : hits.Sublist arranged := hpage ▸ c.page_sublist arranged
  have hinteger : ∀ x ∈ hits, HasInteger field (n x.1) x.1 :=
    fun x hx => hints x.1 (List.mem_of_getElem? (h.placed x hx))
  have hdistinct := List.pairwise_map.1 h.distinct
  rw [List.pairwise_map]
  constructor
  · intro hordered
    let Kept (x y : Document × Nat) : Prop :=
      x.2 < y.2 → SharesDouble (n x.1) (n y.1) → direction.InOrder (n x.1) (n y.1)
    have hself : ∀ x ∈ hits, Kept x x := fun x _ hlt => absurd hlt (Nat.lt_irrefl _)
    have hforth : hits.Pairwise Kept := hordered.imp fun hin _ _ => hin
    -- Of two that share a double the one that was inserted first is ahead.
    have hback : hits.Pairwise (flip Kept) := by
      refine (harranged.stable.sublist hsublist).imp_of_mem fun {x y} hx hy hstable hlt hshares =>
        ?_
      have hequal := compare_of_shares horder (hinteger y hy) (hinteger x hx) hshares
      have hle := hstable (Std.OrientedCmp.eq_symm hequal)
      omega
    intro x hx y hy
    exact List.Pairwise.forall_of_forall_of_flip hself hforth hback hx hy
  · intro hshared
    refine ((harranged.sorted.and harranged.stable).sublist hsublist |>.and hdistinct).imp_of_mem ?_
    rintro x y hx hy ⟨⟨hle, hstable⟩, hne⟩
    by_cases hshares : SharesDouble (n x.1) (n y.1)
    · have hfirst := hstable (compare_of_shares horder (hinteger x hx) (hinteger y hy) hshares)
      exact hshared x hx y hy (Nat.lt_of_le_of_ne hfirst hne) hshares
    · exact inOrder_of_not_shares horder (hinteger x hx) (hinteger y hy) hshares hle

/-- Two integers compare as they are unless one double stands for both, which it does for none up to
`2 ^ 53`.  So documents come in the order of a field that has integers exactly if those that share a
double went in that way. -/
theorem sorted_by_integers_iff (s : State) (collection : String) {c : Criteria} {field : String}
    {direction : Direction} {n : Document → Int} (hvalid : c.validate = .ok ())
    (horder : c.order = [(field, direction)])
    (hints : ∀ d ∈ documents s collection, HasInteger field (n d) d) :
    (∀ a b, (Json.Number.integer a).InRange → (Json.Number.integer b).InRange →
        (compareValues (.ofInt a) (.ofInt b) = compare a b ↔ (SharesDouble a b → a = b))) ∧
      (∀ a b, a.natAbs ≤ 1 <<< 53 → b.natAbs ≤ 1 <<< 53 → SharesDouble a b → a = b) ∧
      ∃ hits, Selects c (documents s collection) hits ∧
      findAll s collection c = .ok (hits.map Prod.fst) ∧
        ((hits.map Prod.fst).Pairwise (fun d d' => direction.InOrder (n d) (n d')) ↔
          ∀ x ∈ hits, ∀ y ∈ hits, x.2 < y.2 → SharesDouble (n x.1) (n y.1) →
            direction.InOrder (n x.1) (n y.1)) :=
  ⟨fun _ _ => compareValues_eq_compare_iff, fun _ _ => Binary64.eq_of_sharesDouble,
    select (documents s collection) c, selects_select c _, findAll_of_valid hvalid s collection,
    inOrder_iff_of_selects horder hints (selects_select c _)⟩

/-! Integers at both ends of the range, and the first two that share a double. -/

def counted (id : String) (k : Int) : Document := [("id", .string id), ("n", .ofInt k)]

def count (d : Document) : Int :=
  match Document.lookup d "n" with
  | some (.number (.integer k)) => k
  | _ => 0

def least : Document := counted "L" (-9223372036854775808)

def greatest : Document := counted "G" 18446744073709551615

def even : Document := counted "E" 9007199254740992

def odd : Document := counted "O" 9007199254740993

theorem hasInteger_counted {k : Int} (id : String) (h : (Json.Number.integer k).InRange) :
    HasInteger "n" (count (counted id k)) (counted id k) := ⟨rfl, h⟩

theorem hasInteger_all : ∀ d ∈ [odd, even, greatest, least], HasInteger "n" (count d) d := by
  refine List.forall_mem_cons.2
    ⟨hasInteger_counted "O" ?_, List.forall_mem_cons.2 ⟨hasInteger_counted "E" ?_,
    List.forall_mem_cons.2
      ⟨hasInteger_counted "G" ?_, List.forall_mem_singleton.2 (hasInteger_counted "L" ?_)⟩⟩⟩
  all_goals exact ⟨by decide, by decide⟩

/-- The greater one of the two went in first, as a descending order has them. -/
theorem sorted_by_integers_extremes :
    let s := withDocuments .empty "counts" [odd, even, greatest, least]
    let c := Criteria.all.orderBy "n" .desc
    (∀ d ∈ documents s "counts", HasInteger "n" (count d) d) ∧
      findAll s "counts" c = .ok [greatest, odd, even, least] ∧
      [greatest, odd, even, least].Pairwise fun d d' => count d' ≤ count d := by
  intro s c
  have harranged :
      Arranges c (documents s "counts") [(greatest, 2), (odd, 0), (even, 1), (least, 3)] :=
    ⟨(@List.perm_middle _ (greatest, 2) [(odd, 0), (even, 1)] [(least, 3)]).symm, by decide,
      by decide⟩
  obtain ⟨-, -, hits, hselects, hfind, hiff⟩ :=
    sorted_by_integers_iff s "counts" (c := c) (n := count) rfl rfl hasInteger_all
  obtain ⟨arranged, hother, rfl⟩ := hselects.paged
  obtain rfl := harranged.unique hother
  refine ⟨hasInteger_all, hfind, hiff.2 fun x hx y hy hlt hshares => ?_⟩
  have hinteger : ∀ z ∈ c.page [(greatest, 2), (odd, 0), (even, 1), (least, 3)],
      HasInteger "n" (count z.1) z.1 :=
    fun z hz => hasInteger_all z.1 (List.mem_of_getElem? (hselects.placed z hz))
  have hsame := (Binary64.sharesDouble_iff (natAbs_lt_of_inRange (hinteger x hx).inRange)
    (natAbs_lt_of_inRange (hinteger y hy).inRange)).1 hshares
  have hall : ∀ x ∈ c.page [(greatest, 2), (odd, 0), (even, 1), (least, 3)],
      ∀ y ∈ c.page [(greatest, 2), (odd, 0), (even, 1), (least, 3)],
        x.2 < y.2 → Binary64.ofInt (count x.1) = Binary64.ofInt (count y.1) →
        count y.1 ≤ count x.1 := by
    decide
  exact hall x hx y hy hlt hsame

/-- The greater one of the two went in first, and an ascending order leaves it there. -/
theorem integers_can_be_out_of_order :
    ¬ ∀ (s : State) (collection : String) (c : Criteria) (field : String)
        (direction : Direction) (n : Document → Int),
        c.validate = .ok () → c.order = [(field, direction)] →
          (∀ d ∈ documents s collection, HasInteger field (n d) d) →
            ∃ found, findAll s collection c = .ok found ∧
              found.Pairwise fun d d' => direction.InOrder (n d) (n d') := by
  intro hsorted
  let s := withDocuments .empty "counts" [odd, even]
  let c := Criteria.all.orderBy "n" .asc
  have hints : ∀ d ∈ documents s "counts", HasInteger "n" (count d) d :=
    fun d hd => hasInteger_all d (List.mem_append_left [greatest, least] hd)
  have harranged : Arranges c (documents s "counts") [(odd, 0), (even, 1)] :=
    ⟨.refl _, by decide, by decide⟩
  obtain ⟨found, hfind, hpairwise⟩ := hsorted s "counts" c "n" .asc count rfl rfl hints
  have hfound : found = [odd, even] :=
    Except.ok.inj (hfind.symm.trans (findAll_of_arranges rfl harranged))
  subst hfound
  have hle : count odd ≤ count even :=
    List.rel_of_pairwise_cons hpairwise (List.mem_singleton_self _)
  exact absurd hle (by decide)

end Store.Memory

end Larder
