import Larder.Proofs.Criteria.Sorting
import Larder.Proofs.Store.Requests

/-!
Reading a collection in memory, at once and in pages.

Limit and offset have no part in which documents the criteria accept, nor in how they compare them.
So all pages are cut from the one arrangement of the collection, and reading them one after the
other, until one is empty, reads all of it.
-/

namespace Larder.Store.Memory

/-! ## The arrangement that is read -/

theorem exists_arranges (c : Criteria) (docs : List Document) :
    ∃ arranged, Arranges c docs arranged ∧ select docs c = c.page arranged :=
  ⟨_, arranges_iff_sort.2 rfl, rfl⟩

namespace Arranges

variable {c : Criteria} {docs : List Document} {arranged : List (Document × Nat)}
  (h : Arranges c docs arranged)
include h

theorem unique {other : List (Document × Nat)} (h' : Arranges c docs other) : other = arranged :=
  (arranges_iff_sort.1 h').trans (arranges_iff_sort.1 h).symm

theorem length_eq : arranged.length = docs.countP c.accepts := by
  have hcount : docs.countP c.accepts = docs.zipIdx.countP fun d => c.accepts d.1 := by
    conv => lhs; rw [← List.zipIdx_map_fst 0 docs, List.countP_map]
    rfl
  rw [h.perm.length_eq, hcount, List.countP_eq_length_filter]

theorem getElem?_of_mem {x : Document × Nat} (hx : x ∈ arranged) : docs[x.2]? = some x.1 :=
  List.mem_zipIdx_iff_getElem?.1 (List.mem_filter.1 (h.perm.subset hx)).1

theorem nodup : (arranged.map Prod.snd).Nodup := by
  have hplaces : ((docs.zipIdx.filter fun d => c.accepts d.1).map Prod.snd).Nodup := by
    refine List.Nodup.sublist (List.filter_sublist.map Prod.snd) ?_
    rw [List.zipIdx_map_snd]
    exact List.nodup_range'
  exact (h.perm.map Prod.snd).nodup_iff.2 hplaces

theorem withPage (offset limit : Nat) :
    Arranges ((c.withOffset offset).withLimit limit) docs arranged :=
  ⟨h.perm, h.sorted, h.stable⟩

end Arranges

/-- The page of a collection that criteria select, each document with its position. -/
structure Selects (c : Criteria) (docs : List Document) (hits : List (Document × Nat)) : Prop where
  paged : ∃ arranged, Arranges c docs arranged ∧ hits = c.page arranged
  placed : ∀ x ∈ hits, docs[x.2]? = some x.1
  distinct : (hits.map Prod.snd).Nodup

theorem selects_select (c : Criteria) (docs : List Document) : Selects c docs (select docs c) := by
  obtain ⟨arranged, harranged, hselect⟩ := exists_arranges c docs
  have hsublist : (select docs c).Sublist arranged := hselect ▸ c.page_sublist arranged
  exact ⟨⟨arranged, harranged, hselect⟩, fun x hx => harranged.getElem?_of_mem (hsublist.subset hx),
    harranged.nodup.sublist (hsublist.map Prod.snd)⟩

theorem findAll_of_valid {c : Criteria} (h : c.validate = .ok ()) (s : State)
    (collection : String) :
    findAll s collection c = .ok ((select (documents s collection) c).map Prod.fst) := by
  unfold findAll
  rw [h]
  rfl

theorem findAll_of_arranges {c : Criteria} (hvalid : c.validate = .ok ()) {s : State}
    {collection : String} {arranged : List (Document × Nat)}
    (h : Arranges c (documents s collection) arranged) :
    findAll s collection c = .ok ((c.page arranged).map Prod.fst) := by
  obtain ⟨other, hother, hselect⟩ := exists_arranges c (documents s collection)
  rw [findAll_of_valid hvalid, hselect, h.unique hother]

/-! ## Pages one after the other -/

/-- What is read from an offset on, one page of a size after the other, until a page is empty. -/
inductive ReadInPages (s : State) (collection : String) (c : Criteria) (size : Nat) :
    Nat → List Document → Prop where
  | last {offset : Nat} (h : findAll s collection ((c.withOffset offset).withLimit size) = .ok []) :
    ReadInPages s collection c size offset []
  | next {offset : Nat} {page rest : List Document}
    (h : findAll s collection ((c.withOffset offset).withLimit size) = .ok page) (hne : page ≠ [])
    (hrest : ReadInPages s collection c size (offset + size) rest) :
    ReadInPages s collection c size offset (page ++ rest)

section Pages

variable {s : State} {collection : String} {c : Criteria} (hvalid : c.validate = .ok ())
  {arranged : List (Document × Nat)} (harranged : Arranges c (documents s collection) arranged)
include hvalid harranged

theorem findAll_page (offset limit : Nat) :
    findAll s collection ((c.withOffset offset).withLimit limit)
    = .ok (((arranged.map Prod.fst).drop offset).take limit) := by
  have hfind := findAll_of_arranges (c := (c.withOffset offset).withLimit limit) hvalid
    (harranged.withPage offset limit)
  rw [hfind, ← List.map_drop, ← List.map_take]
  rfl

theorem ReadInPages.eq_drop {size offset : Nat} {docs : List Document} (hsize : 0 < size)
    (h : ReadInPages s collection c size offset docs) :
    docs = (arranged.map Prod.fst).drop offset := by
  induction h with
  | last h =>
    rw [findAll_page hvalid harranged] at h
    have hempty := Except.ok.inj h
    rw [List.take_eq_nil_iff] at hempty
    exact (hempty.resolve_left (Nat.ne_of_gt hsize)).symm
  | next h hne hrest ih =>
    rw [findAll_page hvalid harranged] at h
    rw [← Except.ok.inj h, ih, ← List.drop_drop, List.take_append_drop]

theorem readInPages_drop {size : Nat} (hsize : 0 < size) (offset : Nat) :
    ReadInPages s collection c size offset ((arranged.map Prod.fst).drop offset) := by
  have hpage := findAll_page hvalid harranged offset size
  have hlength : (arranged.map Prod.fst).length = arranged.length := List.length_map ..
  by_cases hend : arranged.length ≤ offset
  · rw [List.drop_eq_nil_of_le (hlength.trans_le hend)] at hpage ⊢
    exact .last (hpage.trans (congrArg Except.ok List.take_nil))
  · have hrest := readInPages_drop hsize (offset + size)
    rw [← List.drop_drop] at hrest
    rw [← List.take_append_drop size ((arranged.map Prod.fst).drop offset)]
    refine .next hpage ?_ hrest
    rw [ne_eq, List.take_eq_nil_iff, List.drop_eq_nil_iff]
    omega
termination_by arranged.length - offset

end Pages

/-- Pages of any size put together are what is read without a page: the documents that the criteria
accept, each as often as it is stored, in the order of the criteria, and in that of insertion where
these do not tell them apart.  A page has as many documents as there are for it. -/
theorem pages_complete (s : State) (collection : String) {c : Criteria}
    (hvalid : c.validate = .ok ()) (hunpaged : c.limit = none ∧ c.offset = none) :
    ∃ arranged, Arranges c (documents s collection) arranged ∧
      findAll s collection c = .ok (arranged.map Prod.fst) ∧
      (∀ size, 0 < size → ∀ docs, ReadInPages s collection c size 0 docs ↔
        docs = arranged.map Prod.fst) ∧
      ∀ offset limit, ∃ page, findAll s collection ((c.withOffset offset).withLimit limit)
        = .ok page ∧ page = ((arranged.map Prod.fst).drop offset).take limit ∧
        page.length = min limit ((documents s collection).countP c.accepts - offset) := by
  obtain ⟨arranged, harranged, -⟩ := exists_arranges c (documents s collection)
  refine ⟨arranged, harranged, ?_, fun size hsize docs => ⟨fun h => ?_, ?_⟩, fun offset limit => ?_⟩
  · rw [findAll_of_arranges hvalid harranged, Criteria.page_of_unpaged hunpaged]
  · exact h.eq_drop hvalid harranged hsize
  · rintro rfl
    exact readInPages_drop hvalid harranged hsize 0
  · refine ⟨_, findAll_page hvalid harranged offset limit, rfl, ?_⟩
    rw [List.length_take, List.length_drop, List.length_map, harranged.length_eq]

/-! Two units on the floor above, and one below that was inserted between them. -/

def upper : Document := [("floor", .ofInt 2), ("id", .string "U1")]

def lower : Document := [("floor", .ofInt 1), ("id", .string "U2")]

def upperToo : Document := [("floor", .ofInt 2), ("id", .string "U3")]

def units : State := withDocuments .empty "units" [upper, lower, upperToo]

def highestFirst : Criteria := Criteria.all.orderBy "floor" .desc

theorem arranges_units :
    Arranges highestFirst (documents units "units") [(upper, 0), (upperToo, 2), (lower, 1)] where
  perm := (List.Perm.swap (lower, 1) (upperToo, 2) []).cons (upper, 0)
  sorted := by decide
  stable := by decide

/-- A page that is full, one that is not, and an empty one.  One unit is on no floor that is asked
for. -/
theorem pages_complete_units :
    let roof : Document := [("floor", .ofInt 7), ("id", .string "U4")]
    let s := withDocuments .empty "units" [upper, roof, lower, upperToo]
    let c := highestFirst.whereOneOf "floor" [.ofInt 1, .ofInt 2]
    c.validate = .ok () ∧ (c.limit = none ∧ c.offset = none) ∧
      ReadInPages s "units" c 2 0 [upper, upperToo, lower] ∧
      findAll s "units" ((c.withOffset 2).withLimit 18446744073709551615) = .ok [lower] := by
  intro roof s c
  have harranges : Arranges c (documents s "units") [(upper, 0), (upperToo, 3), (lower, 2)] :=
    ⟨(List.Perm.swap (lower, 2) (upperToo, 3) []).cons (upper, 0), by decide, by decide⟩
  obtain ⟨arranged, harranged, -, hpages, hpage⟩ := pages_complete s "units" (c := c) rfl ⟨rfl, rfl⟩
  obtain rfl := harranges.unique harranged
  obtain ⟨page, hfind, hslice, -⟩ := hpage 2 18446744073709551615
  exact ⟨rfl, ⟨rfl, rfl⟩, (hpages 2 Nat.two_pos _).2 rfl, hfind.trans (congrArg Except.ok hslice)⟩

end Larder.Store.Memory
