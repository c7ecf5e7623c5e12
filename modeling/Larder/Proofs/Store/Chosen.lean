import Larder.Proofs.Criteria.Sorting
import Larder.Proofs.Store.Conditions
import Larder.Proofs.Store.Identifiers

/-!
The rows that the statements of the relational driver are about.

There is one way to arrange the rows that the conditions hold for, since the keys end in `pk`, and
it is the stable sort that memory does.  So the rows of a statement and the positions in memory come
from the one list `placed`.
-/

namespace Larder

namespace Store.Relational

open Sql

/-! ## The order of rows -/

/-- Rows in the order of insertion. -/
def Ascending (rows : List Row) : Prop := rows.Pairwise fun r r' => r.pk < r'.pk

theorem Ascending.eq_of_pk_eq {rows : List Row} (h : Ascending rows) {r r' : Row} (hr : r ∈ rows)
    (hr' : r' ∈ rows) (hpk : r.pk = r'.pk) : r = r' := Criteria.eq_of_place_eq h hr hr' hpk

/-- Rows that the criteria do not tell apart stay in the order of insertion. -/
theorem sorted_sort {rows : List Row} (h : Ascending rows) (c : Criteria) :
    (c.sort Row.document rows).Pairwise fun r r' => compareRows c r r' ≠ .gt :=
  Criteria.sort_within h

/-! ## The one arrangement -/

def within (collection : String) (rows : List Row) : List Row :=
  rows.filter fun r => r.collection == collection

/-- The rows that keep documents which the criteria accept, as memory sorts these. -/
def arranged (c : Criteria) (rows : List Row) : List Row :=
  c.sort Row.document (rows.filter fun r => c.accepts r.document)

theorem mem_arranged {c : Criteria} {rows : List Row} {r : Row} :
    r ∈ arranged c rows ↔ r ∈ rows ∧ c.accepts r.document = true :=
  List.mem_mergeSort.trans List.mem_filter

section Arranged

variable {D : Dialect} (hD : D.Faithful) {c : Criteria}
  (hc : ∀ field ∈ c.fields, Criteria.isField field = true) (hvalues : c.Readable) {rows : List Row}
  (hrows : ∀ r ∈ rows, r.Proper) (hascending : Ascending rows)

include hD hc hvalues hrows

theorem defined_selection (collection : String) (page : Option Page) :
    (selection collection c page).Defined D rows := by
  intro r hr
  rw [holds?_selection hD hc hvalues (hrows r hr), keys?_selection hc (hrows r hr)]
  exact ⟨rfl, rfl⟩

theorem filter_holds (collection : String) (page : Option Page) :
    rows.filter (fun r => (selection collection c page).holds? D r == some true)
      = (within collection rows).filter fun r => c.accepts r.document := by
  rw [within, List.filter_filter]
  refine List.filter_congr fun r hr => ?_
  rw [holds?_selection hD hc hvalues (hrows r hr), Bool.and_comm]
  cases (c.accepts r.document && r.collection == collection) <;> rfl

include hascending in
theorem arranges_iff {collection : String} {page : Option Page} {l : List Row} :
    (selection collection c page).Arranges D rows l ↔ l = arranged c (within collection rows) := by
  let chosen := (within collection rows).filter fun r => c.accepts r.document
  have hchosen : chosen.Sublist rows := List.filter_sublist.trans List.filter_sublist
  have hperm : (arranged c (within collection rows)).Perm chosen := List.mergeSort_perm _ _
  have hsorted := sorted_sort (hascending.sublist hchosen) c
  have hcompare : ∀ l : List Row, l.Perm chosen → ∀ r ∈ l, ∀ r' ∈ l,
      (selection collection c page).compareRows D r r' = compareRows c r r' := by
    intro l hl r hr r' hr'
    exact compareRows_selection hc collection page (hrows r (hchosen.subset (hl.subset hr)))
      (hrows r' (hchosen.subset (hl.subset hr')))
  constructor
  · intro h
    have hl := h.perm
    rw [filter_holds hD hc hvalues hrows] at hl
    have hordered : l.Pairwise fun r r' => compareRows c r r' ≠ .gt := by
      refine h.sorted.imp_of_mem fun hr hr' hle => ?_
      rw [hcompare l hl _ hr _ hr'] at hle
      exact hle
    exact Criteria.eq_sort_of_perm (hascending.sublist hchosen) hl hordered
  · rintro rfl
    constructor
    · rw [filter_holds hD hc hvalues hrows]
      exact hperm
    · refine hsorted.imp_of_mem fun hr hr' hle => ?_
      rw [hcompare _ hperm _ hr _ hr']
      exact hle

include hascending in
theorem picks_iff {collection : String} {page : Option Page} {l : List Row} :
    (selection collection c page).Picks D rows l ↔
      l = Selection.cut page (arranged c (within collection rows)) := by
  constructor
  · rintro ⟨l', hl', rfl⟩
    rw [(arranges_iff hD hc hvalues hrows hascending).1 hl']
    rfl
  · rintro rfl
    exact ⟨_, (arranges_iff hD hc hvalues hrows hascending).2 rfl, rfl⟩

end Arranged

/-! ## Pages -/

theorem cut_one (c : Criteria) (rows : List Row) :
    Selection.cut (boundPage (some 1) c.offset) rows = (rows.drop (c.offset.getD 0)).take 1 := by
  cases hoffset : c.offset <;> rfl

theorem cut_boundPage {c : Criteria} {rows : List Row} (hlength : rows.length ≤ noLimit) :
    Selection.cut (boundPage c.limit c.offset) rows = c.page rows := by
  unfold Criteria.page
  cases c.limit with
  | some n => cases c.offset <;> rfl
  | none =>
    cases c.offset with
    | none => rfl
    | some o =>
      have hrest : (rows.drop o).length ≤ noLimit := by
        rw [List.length_drop]
        omega
      exact List.take_of_length_le hrest

/-! ## Where memory has them -/

/-- What `arranged` has, each with its position among the rows. -/
def placed (c : Criteria) (rows : List Row) : List (Row × Nat) :=
  c.sort (fun x => x.1.document) (rows.zipIdx.filter fun x => c.accepts x.1.document)

theorem map_fst_placed (c : Criteria) (rows : List Row) :
    (placed c rows).map Prod.fst = arranged c rows := by
  have hfilter : (rows.zipIdx.filter fun x => c.accepts x.1.document).map Prod.fst
      = rows.filter fun r => c.accepts r.document := by
    conv => rhs; rw [← List.zipIdx_map_fst 0 rows, List.filter_map]
    rfl
  rw [placed, arranged, ← hfilter]
  exact List.map_mergeSort fun _ _ _ _ => rfl

theorem getElem?_of_mem_placed {c : Criteria} {rows : List Row} {x : Row × Nat}
    (h : x ∈ placed c rows) :
    rows[x.2]? = some x.1 :=
  List.mem_zipIdx_iff_getElem?.1 (List.mem_filter.1 (List.mem_mergeSort.1 h)).1

/-- The page of a list, or the first of it. -/
def portion {α : Type} (c : Criteria) (single : Bool) (xs : List α) : List α :=
  if single then (c.page xs).take 1 else c.page xs

theorem portion_map {α β : Type} (c : Criteria) (single : Bool) (f : α → β) (xs : List α) :
    portion c single (xs.map f) = (portion c single xs).map f := by
  unfold portion
  rw [Criteria.page_map]
  cases single with
  | false => rfl
  | true => exact List.map_take.symm

theorem portion_sublist {α : Type} (c : Criteria) (single : Bool) (xs : List α) :
    (portion c single xs).Sublist xs := by
  have hpage := c.page_sublist xs
  unfold portion
  cases single with
  | false => exact hpage
  | true => exact (List.take_sublist _ _).trans hpage

end Store.Relational

/-! ## What memory is about -/

namespace Store.Memory

/-- The positions of the documents that an operation is about: the page of what is selected, or the
first of it. -/
def targets (docs : List Document) (c : Criteria) (single : Bool) : List Nat :=
  let positions := (select docs c).map Prod.snd
  if single then positions.take 1 else positions

section Targets

variable {c : Criteria} (h : c.validate = .ok ()) (s : State) (collection : String)
include h

theorem update_eq (patch : Document) (single : Bool) :
    let positions := targets (documents s collection) c single
    update s collection c patch single = (.ok positions.length,
      withDocuments s collection (patchAt positions patch (documents s collection))) := by
  unfold update
  rw [h]
  rfl

theorem deleteOne_eq : deleteOne s collection c = match targets (documents s collection) c true with
    | [] => (.ok 0, s)
    | position :: _ =>
      (.ok 1, withDocuments s collection ((documents s collection).eraseIdx position)) := by
  unfold deleteOne targets
  rw [h]
  dsimp only
  cases select (documents s collection) c <;> rfl

theorem findOne_eq :
    let positions := targets (documents s collection) c true
    findOne s collection c
      = .ok (positions.head?.bind fun position => (documents s collection)[position]?) := by
  have hfind : findOne s collection c
      = .ok ((select (documents s collection) c).head?.map Prod.fst) := by
    unfold findOne
    rw [h]
    rfl
  rw [hfind]
  unfold targets
  cases hselect : select (documents s collection) c with
  | nil => rfl
  | cons x rest =>
    have hmem : x ∈ select (documents s collection) c := hselect ▸ List.mem_cons_self
    have hsorted := (c.page_sublist _).subset hmem
    have hget := List.mem_zipIdx_iff_getElem?.1 (List.mem_filter.1 (List.mem_mergeSort.1 hsorted)).1
    exact congrArg Except.ok hget.symm

end Targets

end Store.Memory

namespace Store.Relational

open Sql

theorem select_documents (c : Criteria) (rows : List Row) : Memory.select (rows.map Row.document) c
    = (portion c false (placed c rows)).map (Prod.map Row.document id) := by
  have hfilter : (rows.map Row.document).zipIdx.filter (fun d => c.accepts d.1)
      = (rows.zipIdx.filter fun x => c.accepts x.1.document).map (Prod.map Row.document id) := by
    rw [List.zipIdx_map, List.filter_map]
    rfl
  rw [Memory.select, hfilter, ← portion_map]
  refine congrArg (portion c false) (Eq.symm ?_)
  exact List.map_mergeSort fun _ _ _ _ => rfl

theorem targets_documents (c : Criteria) (single : Bool) (rows : List Row) :
    Memory.targets (rows.map Row.document) c single
      = (portion c single (placed c rows)).map Prod.snd := by
  have hsnd : (Memory.select (rows.map Row.document) c).map Prod.snd
      = (c.page (placed c rows)).map Prod.snd := by
    rw [select_documents, List.map_map]
    rfl
  unfold Memory.targets portion
  rw [hsnd]
  cases single with
  | false => rfl
  | true => exact List.map_take.symm

/-- Memory and the arrangement of the rows have the same portion. -/
theorem rows_of_targets (c : Criteria) (single : Bool) (rows : List Row) :
    (Memory.targets (rows.map Row.document) c single).filterMap (fun position => rows[position]?)
      = portion c single (arranged c rows) := by
  have hplaced : ∀ x ∈ portion c single (placed c rows), rows[x.2]? = some x.1 :=
    fun x hx => getElem?_of_mem_placed ((portion_sublist c single _).subset hx)
  rw [targets_documents, ← map_fst_placed, portion_map, List.filterMap_map, ← List.filterMap_eq_map]
  exact List.filterMap_congr hplaced

/-! ## Rows for documents -/

/-- The rows keep the documents of each collection, in the order of insertion. -/
structure Keeps (rows : List Row) (docs : String → List Document) : Prop where
  proper : ∀ r ∈ rows, r.Proper
  ascending : Ascending rows
  documents : ∀ collection, (within collection rows).map Row.document = docs collection

end Store.Relational

end Larder
