import Mathlib.Data.List.Nodup
import Larder.Proofs.Criteria.Order
import Larder.Store.Memory

/-!
The order of documents makes one sort.

Whatever is at the ordered fields, comparing is a total preorder (`transCmp_compareBy`).  So a list
has one arrangement in which it is sorted and what the criteria do not tell apart stays as it was,
and `Criteria.sort` finds it: no other stable sort by the same comparison could answer anything
else.
-/

namespace Larder

theorem zipIdxLE_iff {α : Type} {le : α → α → Bool} {a b : α × Nat} :
    List.zipIdxLE le a b = true ↔ le a.1 b.1 = true ∧ (le b.1 a.1 = true → a.2 ≤ b.2) := by
  unfold List.zipIdxLE
  by_cases hab : le a.1 b.1 = true
  · by_cases hba : le b.1 a.1 = true
    · simp [hab, hba]
    · simp [hab, hba]
  · simp [hab]

/-- Of two that are in order both ways round, neither comes first. -/
theorem eq_of_ne_gt {α : Type} (f : α → α → Ordering) [Std.OrientedCmp f] {a b : α}
    (h : f a b ≠ .gt) (h' : f b a ≠ .gt) : f a b = .eq := by
  have hswap : f b a = (f a b).swap := Std.OrientedCmp.eq_swap
  cases hab : f a b with
  | lt => rw [hswap, hab] at h'; exact absurd rfl h'
  | eq => rfl
  | gt => exact absurd hab h

namespace Criteria

instance transCmp_compare (c : Criteria) : Std.TransCmp c.compare := transCmp_compareBy c.order

theorem le_iff {c : Criteria} {a b : Document} : c.le a b = true ↔ c.compare a b ≠ .gt := bne_iff_ne

section Arrangement

variable {α : Type} (c : Criteria) (document : α → Document) (place : α → Nat)

/-- The order of the documents, and that of their places where the criteria do not tell the
documents apart. -/
def compareWithin (x y : α) : Ordering :=
  (c.compare (document x) (document y)).then (Ord.compare (place x) (place y))

instance transCmp_compareWithin : Std.TransCmp (c.compareWithin document place) := by
  have hdocuments := transCmp_on c.compare document
  have hlex : c.compareWithin document place
      = compareLex (fun x y => c.compare (document x) (document y)) (compareOn place) := rfl
  rw [hlex]
  infer_instance

variable {c document place}

theorem place_eq_of_compareWithin {x y : α} (h : c.compareWithin document place x y = .eq) :
    place x = place y :=
  Std.compare_eq_iff_eq.1 (Ordering.then_eq_eq.1 h).2

theorem place_le_of_getElem? {xs : List α} (h : xs.Pairwise fun x y => place x < place y)
    {i j : Nat} {x y : α} (hi : xs[i]? = some x) (hj : xs[j]? = some y) (hij : i ≤ j) :
    place x ≤ place y := by
  obtain ⟨hlt, rfl⟩ := List.getElem?_eq_some_iff.1 hi
  obtain ⟨hlt', rfl⟩ := List.getElem?_eq_some_iff.1 hj
  rcases Nat.lt_or_eq_of_le hij with hne | rfl
  · exact Nat.le_of_lt (List.pairwise_iff_getElem.1 h i j hlt hlt' hne)
  · exact Nat.le_refl _

theorem eq_of_place_eq {xs : List α} (h : xs.Pairwise fun x y => place x < place y) {x y : α}
    (hx : x ∈ xs) (hy : y ∈ xs) (heq : place x = place y) : x = y := by
  have hnodup : (xs.map place).Nodup := List.pairwise_map.2 (h.imp Nat.ne_of_lt)
  exact List.inj_on_of_nodup_map hnodup hx hy heq

/-- The sort is stable. -/
theorem sort_within {xs : List α} (h : xs.Pairwise fun x y => place x < place y) :
    (c.sort document xs).Pairwise fun x y => c.compareWithin document place x y ≠ .gt := by
  let le : α → α → Bool := fun x y => c.le (document x) (document y)
  have hsort : c.sort document xs = (xs.zipIdx.mergeSort (List.zipIdxLE le)).map Prod.fst :=
    List.mergeSort_zipIdx.symm
  have htrans : ∀ x y z, le x y = true → le y z = true → le x z = true :=
    fun x y z => ne_gt_trans c.compare (document x) (document y) (document z)
  have htotal : ∀ x y, (le x y || le y x) = true :=
    fun x y => ne_gt_total c.compare (document x) (document y)
  have hsorted :=
    List.pairwise_mergeSort (List.zipIdxLE_trans htrans) (List.zipIdxLE_total htotal) xs.zipIdx
  rw [hsort, List.pairwise_map]
  refine hsorted.imp_of_mem ?_
  rintro ⟨x, i⟩ ⟨y, j⟩ hx hy hle hgt
  have hi : xs[i]? = some x := List.mem_zipIdx_iff_getElem?.1 (List.mem_mergeSort.1 hx)
  have hj : xs[j]? = some y := List.mem_zipIdx_iff_getElem?.1 (List.mem_mergeSort.1 hy)
  obtain ⟨hfirst, htie⟩ := zipIdxLE_iff.1 hle
  rcases Ordering.then_eq_gt.1 hgt with hdocuments | ⟨hdocuments, hplace⟩
  · exact le_iff.1 hfirst hdocuments
  · -- A tie, so the sort by index has kept the two as they were.
    have hback : c.compare (document y) (document x) ≠ .gt := by
      rw [(transCmp_compare c).eq_swap, hdocuments]
      simp
    have hle := place_le_of_getElem? h hi hj (htie (le_iff.2 hback))
    have hlt : place y < place x := Nat.compare_eq_gt.1 hplace
    omega

/-- Nothing else is a stable sort of the same list. -/
theorem eq_sort_of_perm {xs ys : List α} (h : xs.Pairwise fun x y => place x < place y)
    (hperm : ys.Perm xs)
    (hsorted : ys.Pairwise fun x y => c.compareWithin document place x y ≠ .gt) :
    ys = c.sort document xs := by
  have hsort : (c.sort document xs).Perm xs := List.mergeSort_perm _ _
  refine List.Perm.eq_of_pairwise ?_ hsorted (sort_within h) (hperm.trans hsort.symm)
  intro x y hx hy hle hge
  have heq := eq_of_ne_gt (c.compareWithin document place) hle hge
  exact eq_of_place_eq h (hperm.subset hx) (hsort.subset hy) (place_eq_of_compareWithin heq)

end Arrangement

/-! ## Pages -/

section Page

variable {α β : Type}

theorem page_of_unpaged {c : Criteria} (hunpaged : c.limit = none ∧ c.offset = none) (xs : List α) :
    c.page xs = xs := by
  unfold page
  rw [hunpaged.1, hunpaged.2]
  rfl

theorem page_map (c : Criteria) (f : α → β) (xs : List α) :
    c.page (xs.map f) = (c.page xs).map f := by
  unfold page
  cases c.limit with
  | none => exact List.map_drop.symm
  | some n =>
    show ((xs.map f).drop _).take n = _
    rw [← List.map_drop, ← List.map_take]

theorem page_sublist (c : Criteria) (xs : List α) : (c.page xs).Sublist xs := by
  unfold page
  cases c.limit with
  | none => exact List.drop_sublist _ _
  | some n => exact (List.take_sublist _ _).trans (List.drop_sublist _ _)

end Page

end Criteria

/-! ## Collections -/

namespace Store.Memory

/-- The documents of a collection that the criteria accept, each with its position, as the criteria
order them; those that the criteria do not tell apart are in the order of insertion. -/
structure Arranges (c : Criteria) (docs : List Document)
    (arranged : List (Document × Nat)) : Prop where
  perm : arranged.Perm (docs.zipIdx.filter fun d => c.accepts d.1)
  sorted : arranged.Pairwise fun x y => c.compare x.1 y.1 ≠ .gt
  stable : arranged.Pairwise fun x y => c.compare x.1 y.1 = .eq → x.2 ≤ y.2

theorem arranges_iff_sort {c : Criteria} {docs : List Document} {arranged : List (Document × Nat)} :
    Arranges c docs arranged ↔
      arranged = c.sort Prod.fst (docs.zipIdx.filter fun d => c.accepts d.1) := by
  have hplaces : (docs.zipIdx.filter fun d => c.accepts d.1).Pairwise fun x y => x.2 < y.2 := by
    have hrange : (docs.zipIdx.map Prod.snd).Pairwise (· < ·) := by
      rw [List.zipIdx_map_snd]
      exact List.pairwise_lt_range'
    exact (List.pairwise_map.1 hrange).filter _
  have hwithin : ∀ x y : Document × Nat, c.compareWithin Prod.fst Prod.snd x y ≠ .gt ↔
      c.compare x.1 y.1 ≠ .gt ∧ (c.compare x.1 y.1 = .eq → x.2 ≤ y.2) := by
    intro x y
    show (c.compare x.1 y.1).then (compare x.2 y.2) ≠ .gt ↔ _
    cases c.compare x.1 y.1 with
    | lt => simp
    | eq => simp [Nat.compare_ne_gt]
    | gt => simp
  constructor
  · intro h
    refine Criteria.eq_sort_of_perm hplaces h.perm ?_
    exact (h.sorted.and h.stable).imp fun hboth => (hwithin _ _).2 hboth
  · rintro rfl
    have hsorted : (c.sort Prod.fst (docs.zipIdx.filter fun d => c.accepts d.1)).Pairwise fun x y =>
        c.compareWithin Prod.fst Prod.snd x y ≠ .gt := Criteria.sort_within hplaces
    exact ⟨List.mergeSort_perm _ _, hsorted.imp fun h => ((hwithin _ _).1 h).1,
      hsorted.imp fun h => ((hwithin _ _).1 h).2⟩

end Store.Memory

/-- Comparing documents by criteria is a total preorder, so there is one way to arrange those of a
collection, of which a selection is the page. -/
theorem Criteria.compare_total_preorder (c : Criteria) :
    (∀ a, c.compare a a = .eq) ∧
      (∀ a b, c.compare a b = (c.compare b a).swap) ∧
      (∀ a b d, c.compare a b ≠ .gt → c.compare b d ≠ .gt → c.compare a d ≠ .gt) ∧
      Equivalence (fun a b => c.compare a b = .eq) ∧
      ∀ docs, ∃ arranged, Store.Memory.select docs c = c.page arranged ∧
        ∀ other, Store.Memory.Arranges c docs other ↔ other = arranged := by
  have hself : ∀ a, c.compare a a = .eq := fun _ => Std.ReflCmp.compare_self
  have hswap : ∀ a b, c.compare a b = (c.compare b a).swap := fun _ _ => Std.OrientedCmp.eq_swap
  refine ⟨hself, hswap, fun a b d hab hbd => ?_,
    ⟨hself, fun {a b} hab => ?_, fun {a b d} hab hbd => ?_⟩, fun docs => ?_⟩
  · have htrans := ne_gt_trans c.compare a b d
    simp only [bne_iff_ne] at htrans
    exact htrans hab hbd
  · rw [hswap, hab]
    rfl
  · exact Std.TransCmp.eq_trans hab hbd
  · exact ⟨_, rfl, fun other => Store.Memory.arranges_iff_sort⟩

end Larder
