import Larder.Proofs.Sql.Server
import Larder.Proofs.Store.Chosen

/-!
Rows that keep the documents of memory go on doing so when both are changed alike: by an insert, by
patches, and when one is removed.
-/

namespace Larder.Store.Relational

open Sql
open Json (Value)

/-! ## Rows and their collections -/

theorem within_append (collection : String) (rows rows' : List Row) :
    within collection (rows ++ rows') = within collection rows ++ within collection rows' :=
  List.filter_append _ _

theorem mem_within {collection : String} {rows : List Row} {r : Row} :
    r ∈ within collection rows ↔ r ∈ rows ∧ r.collection = collection := by
  simp [within]

theorem Ascending.within {rows : List Row} (h : Ascending rows) (collection : String) :
    Ascending (within collection rows) := h.sublist List.filter_sublist

theorem within_map {f : Row → Row} (hf : ∀ r, (f r).collection = r.collection) (collection : String)
    (rows : List Row) :
    within collection (rows.map f) = (within collection rows).map f := by
  unfold Relational.within
  rw [List.filter_map]
  refine congrArg _ (List.filter_congr fun r _ => ?_)
  simp [hf]

/-- The rows keep the documents, and each has the identifier of its document, which is a string. -/
structure Tracks (rows : List Row) (docs : String → List Document) :
    Prop extends Keeps rows docs where
  identified : ∀ r ∈ rows, r.document.stringId? = some r.docId

/-! ## Inserts -/

theorem Tracks.insert {rows : List Row} {docs docs' : String → List Document} (h : Tracks rows docs)
    {pk : Nat} {collection id : String} {d : Document} (hpk : ∀ r ∈ rows, r.pk < pk)
    (hid : d.stringId? = some id)
    (hd : (Value.object d).Readable readableDepth)
    (hdocs : ∀ other, docs' other = if other = collection then docs collection ++ [d]
      else docs other) :
    Tracks (rows ++ [⟨pk, collection, id, .object d⟩]) docs' where
  proper := List.forall_mem_append.2 ⟨h.proper, List.forall_mem_singleton.2 ⟨rfl, hd⟩⟩
  identified := List.forall_mem_append.2 ⟨h.identified, List.forall_mem_singleton.2 hid⟩
  ascending := List.pairwise_append.2
    ⟨h.ascending, List.pairwise_singleton _ _,
      fun r hr r' hr' => List.mem_singleton.1 hr' ▸ hpk r hr⟩
  documents := by
    intro other
    rw [hdocs, within_append, List.map_append, h.documents]
    by_cases hother : other = collection
    · subst hother
      simp [within, Row.document, Value.membersOf]
    · simp [within, hother, Ne.symm hother]

/-! ## Rows that are picked -/

section Picked

variable {rows : List Row} {placed : List (Row × Nat)}
  (hplaced : ∀ x ∈ placed, rows[x.2]? = some x.1)

include hplaced in
theorem mem_of_isIn (h : Ascending rows) {r : Row} (hr : r ∈ rows)
    (hin : r.isIn (placed.map Prod.fst) = true) :
    r ∈ placed.map Prod.fst := by
  obtain ⟨p, hp, hpk⟩ := List.any_eq_true.1 hin
  obtain ⟨x, hx, rfl⟩ := List.mem_map.1 hp
  have hmem : x.1 ∈ rows := List.mem_of_getElem? (hplaced x hx)
  rw [← h.eq_of_pk_eq hmem hr (beq_iff_eq.1 hpk)]
  exact hp

theorem Ascending.eq_of_getElem? (h : Ascending rows) {i j : Nat} {r : Row} (hi : rows[i]? = some r)
    (hj : rows[j]? = some r) : i = j := by
  obtain ⟨hlt, heq⟩ := List.getElem?_eq_some_iff.1 hi
  obtain ⟨hlt', heq'⟩ := List.getElem?_eq_some_iff.1 hj
  rcases Nat.lt_trichotomy i j with hij | hij | hij
  · have hpk := List.pairwise_iff_getElem.1 h i j hlt hlt' hij
    rw [heq, heq'] at hpk
    omega
  · exact hij
  · have hpk := List.pairwise_iff_getElem.1 h j i hlt' hlt hij
    rw [heq, heq'] at hpk
    omega

include hplaced in
theorem isIn_eq_contains (h : Ascending rows) {i : Nat} {r : Row} (hi : rows[i]? = some r) :
    r.isIn (placed.map Prod.fst) = (placed.map Prod.snd).contains i := by
  rw [Bool.eq_iff_iff, List.contains_iff_mem]
  constructor
  · intro hin
    obtain ⟨x, hx, hfst⟩ := List.mem_map.1 (mem_of_isIn hplaced h (List.mem_of_getElem? hi) hin)
    have hget := hplaced x hx
    rw [hfst] at hget
    rw [h.eq_of_getElem? hi hget]
    exact List.mem_map_of_mem hx
  · intro hmem
    obtain ⟨x, hx, rfl⟩ := List.mem_map.1 hmem
    have hsame : x.1 = r := Option.some.inj ((hplaced x hx).symm.trans hi)
    exact List.any_eq_true.2 ⟨x.1, List.mem_map_of_mem hx, beq_iff_eq.2 (congrArg Row.pk hsame)⟩

end Picked

/-! ## Patches -/

theorem within_replaced (body : Row → Value) (picked : List Row) (collection : String)
    (rows : List Row) :
    within collection (replaced body picked rows)
      = replaced body picked (within collection rows) := by
  refine within_map (fun r => ?_) collection rows
  by_cases hin : r.isIn picked = true
  · rw [if_pos hin]
  · rw [if_neg hin]

theorem replaced_of_not_isIn {body : Row → Value} {picked rows : List Row}
    (h : ∀ r ∈ rows, r.isIn picked = false) :
    replaced body picked rows = rows := by
  have hid : ∀ r ∈ rows, (if r.isIn picked then { r with body := body r } else r) = r := by
    intro r hr
    simp [h r hr]
  rw [replaced, List.map_congr_left hid, List.map_id']

section Changed

variable {rows : List Row} {docs docs' : String → List Document} (h : Tracks rows docs)
  {collection : String} {placed : List (Row × Nat)}
  (hplaced : ∀ x ∈ placed, (within collection rows)[x.2]? = some x.1)

include h hplaced in
/-- The rows of other collections are not picked. -/
theorem not_isIn_of_ne {other : String} (hother : other ≠ collection) :
    ∀ r ∈ within other rows, r.isIn (placed.map Prod.fst) = false := by
  intro r hr
  rw [mem_within] at hr
  rw [Bool.eq_false_iff]
  intro hin
  obtain ⟨p, hp, hpk⟩ := List.any_eq_true.1 hin
  obtain ⟨x, hx, rfl⟩ := List.mem_map.1 hp
  have hmem := mem_within.1 (List.mem_of_getElem? (hplaced x hx))
  have hsame := h.ascending.eq_of_pk_eq hmem.1 hr.1 (beq_iff_eq.1 hpk)
  rw [hsame] at hmem
  exact hother (hr.2.symm.trans hmem.2)

/-- The body of a row that is patched. -/
def patchedBody (patch : Document) (r : Row) : Value :=
  .object (Document.mergePatch r.document patch)

/-- What the statement has for the body of a row, if the server takes the text of the patch for the
patch. -/
theorem eval_patched {D : Dialect} {patch : Document}
    (hparse : D.parse (Value.object (Document.stripId patch)).text
      = some (.object (Document.stripId patch))) {r : Row}
    (hbody : r.body = .object r.document) :
    (patched patch).eval D (some r) = some (.json (patchedBody patch r)) := by
  have hwritten : (writtenValue (.object (Document.stripId patch))).eval D (some r)
      = some (.json (.object (Document.stripId patch))) := by
    show (D.parse (Value.object (Document.stripId patch)).text).map Datum.json = _
    rw [hparse]
    rfl
  rw [patched, Scalar.eval, hwritten, patchedBody, Document.object_mergePatch, ← hbody]
  rfl

include h hplaced in
theorem Tracks.patch {patch : Document} (hpatch : (Value.object patch).Readable readableDepth)
    (hdocs : ∀ other, docs' other
      = if other = collection then Memory.patchAt (placed.map Prod.snd) patch (docs collection)
        else docs other) :
    Tracks (replaced (patchedBody patch) (placed.map Prod.fst) rows) docs' where
  proper := by
    intro r hr
    obtain ⟨r', hr', rfl⟩ := List.mem_map.1 hr
    have hproper := h.proper r' hr'
    by_cases hin : r'.isIn (placed.map Prod.fst) = true
    · have htarget : (Value.object r'.document).Readable readableDepth :=
        hproper.body ▸ hproper.readable
      rw [if_pos hin]
      exact ⟨rfl, Document.readable_mergePatch htarget hpatch⟩
    · rw [if_neg hin]
      exact hproper
  identified := by
    intro r hr
    obtain ⟨r', hr', rfl⟩ := List.mem_map.1 hr
    have hid := h.identified r' hr'
    by_cases hin : r'.isIn (placed.map Prod.fst) = true
    · rw [if_pos hin]
      exact (Document.stringId?_mergePatch r'.document patch).trans hid
    · rw [if_neg hin]
      exact hid
  ascending := by
    refine List.pairwise_map.2 (h.ascending.imp fun {r r'} hlt => ?_)
    have hpk : ∀ r : Row,
        (if r.isIn (placed.map Prod.fst) then { r with body := patchedBody patch r } else r).pk
          = r.pk := by
      intro r
      by_cases hin : r.isIn (placed.map Prod.fst) = true
      · rw [if_pos hin]
      · rw [if_neg hin]
    rw [hpk, hpk]
    exact hlt
  documents := by
    intro other
    rw [hdocs, within_replaced]
    by_cases hother : other = collection
    · subst hother
      rw [if_pos rfl, ← h.documents, Memory.patchAt, List.zipIdx_map, List.map_map, replaced,
        List.map_map]
      conv => lhs; rw [← List.zipIdx_map_fst 0 (within other rows), List.map_map]
      refine List.map_congr_left fun x hx => ?_
      have hin :=
        isIn_eq_contains hplaced (h.ascending.within other) (List.mem_zipIdx_iff_getElem?.1 hx)
      show Row.document
          (if x.1.isIn (placed.map Prod.fst) then { x.1 with body := patchedBody patch x.1 }
            else x.1)
        = if (placed.map Prod.snd).contains x.2 then Document.mergePatch x.1.document patch
          else x.1.document
      rw [hin]
      by_cases hcontains : (placed.map Prod.snd).contains x.2 = true
      · rw [if_pos hcontains, if_pos hcontains]
        rfl
      · rw [if_neg hcontains, if_neg hcontains]
    · rw [if_neg hother, replaced_of_not_isIn (not_isIn_of_ne h hplaced hother), h.documents]

/-! ## Removal -/

theorem without_eq_eraseIdx {rows : List Row} (h : Ascending rows) {i : Nat} {r : Row}
    (hi : rows[i]? = some r) :
    without [r] rows = rows.eraseIdx i := by
  have hin : ∀ b : Row, b.isIn [r] = (r.pk == b.pk) := by
    intro b
    simp [Row.isIn]
  induction rows generalizing i with
  | nil => rfl
  | cons a rest ih =>
    obtain ⟨hfirst, hrest⟩ := List.pairwise_cons.1 h
    unfold without
    cases i with
    | zero =>
      have har : a = r := by simpa using hi
      have hothers : ∀ b ∈ rest, (!b.isIn [r]) = true := by
        intro b hb
        have hlt := hfirst b hb
        rw [hin, ← har]
        simp
        omega
      rw [List.filter_cons_of_neg (by simp [hin, har]), List.filter_eq_self.2 hothers]
      rfl
    | succ i =>
      have hget : rest[i]? = some r := by simpa using hi
      have hlt := hfirst r (List.mem_of_getElem? hget)
      have hkept : (!a.isIn [r]) = true := by
        rw [hin]
        simp
        omega
      rw [List.filter_cons, if_pos hkept]
      exact congrArg (a :: ·) (ih hrest hget)

theorem within_without (picked : List Row) (collection : String) (rows : List Row) :
    within collection (without picked rows) = without picked (within collection rows) :=
  List.filter_comm _ _ _

include h hplaced in
theorem Tracks.remove {x : Row × Nat} (hx : x ∈ placed)
    (hdocs : ∀ other, docs' other = if other = collection then (docs collection).eraseIdx x.2
      else docs other) :
    Tracks (without [x.1] rows) docs' where
  proper := fun r hr => h.proper r (List.mem_filter.1 hr).1
  identified := fun r hr => h.identified r (List.mem_filter.1 hr).1
  ascending := h.ascending.sublist List.filter_sublist
  documents := by
    intro other
    rw [hdocs, within_without]
    by_cases hother : other = collection
    · subst hother
      rw [if_pos rfl, without_eq_eraseIdx (h.ascending.within other) (hplaced x hx),
        ← List.eraseIdx_map, h.documents]
    · have hone : ∀ y ∈ [x], (within collection rows)[y.2]? = some y.1 :=
        List.forall_mem_singleton.2 (hplaced x hx)
      have hothers : ∀ r ∈ within other rows, (!r.isIn [x.1]) = true := by
        intro r hr
        have hnot : r.isIn [x.1] = false := not_isIn_of_ne h hone hother r hr
        rw [hnot]
        rfl
      rw [if_neg hother, without, List.filter_eq_self.2 hothers, h.documents]

end Changed

end Larder.Store.Relational
