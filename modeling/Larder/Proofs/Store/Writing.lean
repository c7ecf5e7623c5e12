import Larder.Proofs.Store.Patched
import Larder.Proofs.Store.Reading

/-!
Writes in memory are about what reads show.

Reads, updates and deletes take the positions of one selection.  It is made in the order of the
criteria, and the collection stays in the order of insertion, so a position names the same document
to all of them.
-/

namespace Larder.Store.Memory

open Document (idField mergePatch)

/-! ## What is written -/

theorem targets_many (docs : List Document) (c : Criteria) :
    targets docs c false = (select docs c).map Prod.snd := rfl

theorem targets_one (docs : List Document) (c : Criteria) :
    targets docs c true = ((select docs c).take 1).map Prod.snd := List.map_take.symm

/-- The documents at positions of a collection are patched in their places, and nothing else is
touched. -/
structure PatchesAt (s after : State) (collection : String) (patch : Document)
    (positions : List Nat) : Prop where
  here : ∀ i, (documents after collection)[i]? = (documents s collection)[i]?.map fun d =>
    if i ∈ positions then mergePatch d patch else d
  length_eq : (documents after collection).length = (documents s collection).length
  identifiers : (documents after collection).map (Dict.get? · idField)
    = (documents s collection).map (Dict.get? · idField)
  elsewhere : ∀ other, other ≠ collection → documents after other = documents s other

/-- A document of a collection is gone, and the others are as they were. -/
structure RemovesAt (s after : State) (collection : String) (d : Document)
    (position : Nat) : Prop where
  here : ∃ before rest, documents s collection = before ++ d :: rest ∧ before.length = position ∧
    documents after collection = before ++ rest
  elsewhere : ∀ other, other ≠ collection → documents after other = documents s other

section Writes

variable {c : Criteria} (h : c.validate = .ok ()) (s : State) (collection : String)
include h

theorem patchesAt_update (patch : Document) (single : Bool) :
    PatchesAt s (update s collection c patch single).2 collection patch
      (targets (documents s collection) c single) := by
  have hhere : ∀ i, (documents (update s collection c patch single).2 collection)[i]?
      = (documents s collection)[i]?.map fun d =>
        if i ∈ targets (documents s collection) c single then mergePatch d patch else d := by
    intro i
    rw [getElem?_update h]
    simp only [List.contains_iff_mem]
  have hids : (documents (update s collection c patch single).2 collection).map
      (Dict.get? · idField)
      = (documents s collection).map (Dict.get? · idField) := by
    refine List.ext_getElem? fun i => ?_
    rw [List.getElem?_map, List.getElem?_map, hhere, Option.map_map]
    refine congrArg (fun f => (documents s collection)[i]?.map f) (funext fun d => ?_)
    by_cases hi : i ∈ targets (documents s collection) c single
    · simp only [Function.comp, if_pos hi, Document.get?_mergePatch_idField]
    · simp only [Function.comp, if_neg hi]
  refine ⟨hhere, ?_, hids, fun other hother => ?_⟩
  · simpa using congrArg List.length hids
  · rw [update_eq h, documents_withDocuments, if_neg hother]

theorem removesAt_deleteOne {d : Document} {position : Nat} {rest : List (Document × Nat)}
    (hselect : select (documents s collection) c = (d, position) :: rest) :
    ∃ after, deleteOne s collection c = (.ok 1, after) ∧
    RemovesAt s after collection d position := by
  have hplaced : (documents s collection)[position]? = some d :=
    (selects_select c (documents s collection)).placed (d, position) (hselect ▸ List.mem_cons_self)
  obtain ⟨hlt, hd⟩ := List.getElem?_eq_some_iff.1 hplaced
  refine ⟨withDocuments s collection ((documents s collection).eraseIdx position), ?_,
    ⟨(documents s collection).take position, (documents s collection).drop (position + 1), ?_,
      ?_, ?_⟩,
    fun other hother => ?_⟩
  · unfold deleteOne
    rw [h]
    dsimp only
    rw [hselect]
  · rw [← hd, List.getElem_cons_drop, List.take_append_drop]
  · rw [List.length_take]
    exact Nat.min_eq_left hlt.le
  · rw [documents_withDocuments, if_pos rfl, List.eraseIdx_eq_take_drop_succ]
  · rw [documents_withDocuments, if_neg hother]

end Writes

/-- Updates and deletes are about the documents that a read with the same criteria shows just
before, whatever order and page these ask for: many about all of them, and one about the first, if
there is one.  They tell how many that is. -/
theorem writes_hit_what_is_read (ids : Nat → String) (s : State) (collection : String)
    {c : Criteria} (hvalid : c.validate = .ok ()) (patch : Document) :
    let driver := memory ids Place.whole
    ∃ hits, Selects c (documents s collection) hits ∧
      driver.findAll collection c s = (.ok (hits.map Prod.fst), s) ∧
      driver.findOne collection c s = (.ok (hits.map Prod.fst).head?, s) ∧
      (∃ after, driver.updateMany collection c patch s = (.ok hits.length, after) ∧
        PatchesAt s after collection patch (hits.map Prod.snd)) ∧
      (∃ after, driver.updateOne collection c patch s = (.ok (hits.take 1).length, after) ∧
        PatchesAt s after collection patch ((hits.take 1).map Prod.snd)) ∧
      match hits with
      | [] => driver.deleteOne collection c s = (.ok 0, s)
      | (d, position) :: _ => ∃ after, driver.deleteOne collection c s = (.ok 1, after) ∧
        RemovesAt s after collection d position := by
  have hall := findAll_of_valid hvalid s collection
  have hone : findOne s collection c
      = .ok ((select (documents s collection) c).map Prod.fst).head? := by
    rw [findOne_eq_head, hall]
    rfl
  have hmany := patchesAt_update hvalid s collection patch false
  have hfirst := patchesAt_update hvalid s collection patch true
  have hcountMany : (update s collection c patch false).1
      = .ok (select (documents s collection) c).length := by
    rw [update_eq hvalid, targets_many, List.length_map]
  have hcountOne : (update s collection c patch true).1
      = .ok ((select (documents s collection) c).take 1).length := by
    rw [update_eq hvalid, targets_one, List.length_map]
  rw [targets_many] at hmany
  rw [targets_one] at hfirst
  refine ⟨select (documents s collection) c, selects_select c _, congrArg (·, s) hall,
    congrArg (·, s) hone,
    ⟨_, Prod.ext hcountMany rfl, hmany⟩, ⟨_, Prod.ext hcountOne rfl, hfirst⟩, ?_⟩
  split
  · next hnone =>
    show deleteOne s collection c = _
    unfold deleteOne
    rw [hvalid]
    dsimp only
    rw [hnone]
  · next d position rest hsome => exact removesAt_deleteOne hvalid s collection hsome

/-- The second of the units on the floor above, with a patch that names another identifier. -/
theorem writes_hit_what_is_read_units :
    let c := (highestFirst.withOffset 1).withLimit 1
    let driver := memory toString Place.whole
    c.validate = .ok () ∧
      driver.findAll "units" c units = (.ok [upperToo], units) ∧
      (∃ after, driver.updateMany "units" c [("floor", .ofInt 9), ("id", .string "X")] units
        = (.ok 1, after) ∧
        (documents after "units")[2]? = some [("floor", .ofInt 9), ("id", .string "U3")] ∧
        (documents after "units")[0]? = some upper) ∧
      ∃ after, driver.deleteOne "units" c units = (.ok 1, after) ∧
      documents after "units" = [upper, lower] := by
  intro c driver
  obtain ⟨hits, hselects, hall, -, hmany, -, hdelete⟩ :=
    writes_hit_what_is_read toString units "units" (c := c) rfl
    [("floor", .ofInt 9), ("id", .string "X")]
  obtain ⟨arranged, harranged, hpaged⟩ := hselects.paged
  obtain rfl := (arranges_units.withPage 1 1).unique harranged
  subst hpaged
  obtain ⟨after, hupdate, hpatched⟩ := hmany
  obtain ⟨removed, hremove, hgone⟩ := hdelete
  obtain ⟨before, rest, hsplit, hlength, hafter⟩ := hgone.here
  obtain ⟨rfl, hrest⟩ :=
    List.append_inj (show [upper, lower] ++ [upperToo] = before ++ upperToo :: rest from hsplit)
    hlength.symm
  obtain rfl := (List.cons.inj hrest).2
  exact ⟨rfl, hall, ⟨after, hupdate, hpatched.here 2, hpatched.here 0⟩, removed, hremove, hafter⟩

end Larder.Store.Memory
