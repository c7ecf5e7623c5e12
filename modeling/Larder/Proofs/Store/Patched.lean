import Larder.Proofs.Criteria.Fields
import Larder.Proofs.Document.Memberwise
import Larder.Proofs.Store.Kept

/-!
What an update makes of the documents that it is about.

In memory each of them is patched in its place.  In the database the statement has one expression
for the new body, and in every row its value is that patched document (`eval_patched`).  So what
holds of one patch holds of updates by either.
-/

namespace Larder.Store

open Sql
open Document (idField mergePatch stripId)
open Json (Value)
open Relational (patchedBody updateStatement)

/-! ## In memory -/

namespace Memory

theorem getElem?_patchAt (positions : List Nat) (patch : Document) (docs : List Document)
    (i : Nat) :
    (patchAt positions patch docs)[i]?
      = docs[i]?.map fun d => if positions.contains i then mergePatch d patch else d := by
  unfold patchAt
  rw [List.getElem?_map, List.getElem?_zipIdx]
  cases docs[i]? <;> simp

theorem patchAt_patchAt {patch : Document} (hpatch : (Value.object patch).WellFormed)
    {docs : List Document} (hdocs : ∀ d ∈ docs, (Value.object d).WellFormed)
    (positions : List Nat) :
    patchAt positions patch (patchAt positions patch docs) = patchAt positions patch docs := by
  refine List.ext_getElem? fun i => ?_
  rw [getElem?_patchAt, getElem?_patchAt]
  cases hd : docs[i]? with
  | none => rfl
  | some d =>
    by_cases hi : positions.contains i = true
    · simp only [hi, Option.map_some, if_true]
      rw [Document.mergePatch_mergePatch (hdocs d (List.mem_of_getElem? hd)) hpatch]
    · simp only [hi, Option.map_some, Bool.false_eq_true, if_false]

/-- The documents of a collection after an update. -/
theorem getElem?_update {c : Criteria} (h : c.validate = .ok ()) (s : State) (collection : String)
    (patch : Document) (single : Bool) (i : Nat) :
    (documents (update s collection c patch single).2 collection)[i]?
      = (documents s collection)[i]?.map fun d =>
      if (targets (documents s collection) c single).contains i then mergePatch d patch else d := by
  rw [update_eq h, documents_withDocuments, if_pos rfl, getElem?_patchAt]

end Memory

/-! ## In the database -/

theorem replaced_replaced {patch : Document} (hpatch : (Value.object patch).WellFormed)
    {rows : List Row} (hrows : ∀ r ∈ rows, r.body.WellFormed) (picked : List Row) :
    replaced (patchedBody patch) picked (replaced (patchedBody patch) picked rows)
      = replaced (patchedBody patch) picked rows := by
  unfold replaced
  rw [List.map_map]
  refine List.map_congr_left fun r hr => ?_
  by_cases hin : r.isIn picked = true
  · have htwice := Document.mergePatch_mergePatch (hrows r hr).object_membersOf hpatch
    -- The row is still found among the picked ones, by its `pk`.
    have hstill : Row.isIn picked { r with body := patchedBody patch r } = true := hin
    simp only [Function.comp, hin, hstill, if_true]
    exact congrArg (fun d => Row.mk r.pk r.collection r.docId (.object d)) htwice
  · simp [hin]

/-! ## A document and a patch

The patch names an identifier, has nulls for members that are there and that are not, and has
objects for a number and for nothing. -/

def flat : Document :=
  [("a", .object [("b", .ofInt 2), ("id", .ofInt 1)]), ("c", .ofInt 5), ("id", .string "U1")]

def flatPatch : Document :=
  [("a", .object [("id", .null), ("x", .object [("y", .null)])]), ("c", .object [("z", .null)]),
   ("d", .null),
    ("id", .string "X")]

def flatPatched : Document :=
  [("a", .object [("b", .ofInt 2), ("x", .object [])]), ("c", .object []), ("id", .string "U1")]

theorem wellFormed_flat : (Value.object flat).WellFormed := by
  simp [flat, Value.WellFormedMembers, Value.WellFormed, Dict.Sorted, Value.ofInt,
    Json.Number.InRange]
  decide

theorem readable_flatPatch : (Value.object flatPatch).Readable (Json.depthLimit - 1) where
  wellFormed := by
    simp [flatPatch, Value.WellFormedMembers, Value.WellFormed, Dict.Sorted]
    decide
  floats := by simp [flatPatch, Value.FloatsReadBackMembers, Value.FloatsReadBack]
  depth := by decide

/-! ## Patches -/

/-- A patch is merged as RFC 7396 has it, but for the identifier: whatever the patch has for that,
what is under `id` stays.  Every other member is merged by itself, and members within it are no
exception, whatever their names.  An update in memory and one in the database both make of a
document what the patch makes of it, the one at the positions that it is about and the other in the
rows, as long as the server takes the text of the patch that it is sent for that patch. -/
theorem patches_merge {patch : Document} (hpatch : Dict.Sorted patch) :
    (∀ d, Value.object (mergePatch d patch) = Value.merge (.object d) (.object (stripId patch))) ∧
      (∀ d, Dict.get? (mergePatch d patch) idField = Dict.get? d idField) ∧
      (∀ d name, name ≠ idField →
        Dict.get? (mergePatch d patch) name
          = Value.mergeMember (Dict.get? d name) (Dict.get? patch name)) ∧
      ∀ collection c single, c.validate = .ok () →
        (∀ s i, (Memory.documents (Memory.update s collection c patch single).2 collection)[i]?
          = (Memory.documents s collection)[i]?.map fun d =>
            if (Memory.targets (Memory.documents s collection) c single).contains i
              then mergePatch d patch else d) ∧
        ∃ body sel, (updateStatement collection c patch single).command? = some (.update body sel) ∧
          ∀ D : Dialect, D.parse (Value.object (stripId patch)).text
            = some (.object (stripId patch)) →
            ∀ r d, r.body = .object d →
            body.eval D (some r) = some (.json (.object (mergePatch d patch))) := by
  refine ⟨fun d => Document.object_mergePatch d patch,
    fun d => Document.get?_mergePatch_idField d patch,
    fun d name hname => Document.get?_mergePatch_of_ne hpatch d hname,
    fun collection c single hvalid => ⟨fun s i => ?_, ?_⟩⟩
  · exact Memory.getElem?_update hvalid s collection patch single i
  · have hfields := Criteria.checkFields_ok_iff.1 hvalid
    refine ⟨_, _, Relational.command?_updateStatement hfields collection patch single,
      fun D hparse r d hbody => ?_⟩
    have hdocument : r.document = d := congrArg Value.membersOf hbody
    rw [Relational.eval_patched hparse (hdocument ▸ hbody), patchedBody, hdocument]

/-- The member `id` of a member is removed, and that of the document stays. -/
theorem patches_merge_flat :
    Dict.Sorted flatPatch ∧
    Value.object flatPatched = Value.merge (.object flat) (.object (stripId flatPatch)) ∧
      Dict.get? flatPatched idField = Dict.get? flat idField ∧
      Dict.get? flatPatched "a" = Value.mergeMember (Dict.get? flat "a") (Dict.get? flatPatch "a") ∧
      ∃ body sel, (updateStatement "flats" Criteria.all flatPatch true).command?
        = some (.update body sel) ∧
        body.eval Dialect.plain (some ⟨1, "flats", "U1", .object flat⟩)
          = some (.json (.object flatPatched)) := by
  have hsorted : Dict.Sorted flatPatch := readable_flatPatch.wellFormed.1
  obtain ⟨hmerge, hid, hothers, hdrivers⟩ := patches_merge hsorted
  obtain ⟨-, body, sel, hcommand, heval⟩ := hdrivers "flats" Criteria.all true rfl
  have hparse := Dialect.faithful_plain.parse _ (Document.readable_stripId readable_flatPatch)
  exact ⟨hsorted, hmerge flat, hid flat, hothers flat "a" (by decide), body, sel, hcommand,
    heval Dialect.plain hparse _ flat rfl⟩

/-- Patching what is patched already changes nothing, and nor does it to patch the same documents
once more, whether they are picked by their positions or by their rows. -/
theorem patches_settle {patch : Document} (hpatch : (Value.object patch).WellFormed) :
    (∀ d, (Value.object d).WellFormed →
      mergePatch (mergePatch d patch) patch = mergePatch d patch) ∧
      (∀ docs positions, (∀ d ∈ docs, (Value.object d).WellFormed) →
        Memory.patchAt positions patch (Memory.patchAt positions patch docs)
          = Memory.patchAt positions patch docs) ∧
      ∀ rows picked, (∀ r ∈ rows, r.body.WellFormed) →
        replaced (patchedBody patch) picked (replaced (patchedBody patch) picked rows)
          = replaced (patchedBody patch) picked rows :=
  ⟨fun _ hd => Document.mergePatch_mergePatch hd hpatch,
    fun _ positions hdocs => Memory.patchAt_patchAt hpatch hdocs positions,
    fun _ picked hrows => replaced_replaced hpatch hrows picked⟩

theorem patches_settle_flat :
    (Value.object flatPatch).WellFormed ∧ (Value.object flat).WellFormed ∧
      mergePatch flatPatched flatPatch = flatPatched ∧
      Memory.patchAt [0] flatPatch (Memory.patchAt [0] flatPatch [flat]) = [flatPatched] := by
  have hpatch := readable_flatPatch.wellFormed
  obtain ⟨honce, hat, -⟩ := patches_settle hpatch
  exact ⟨hpatch, wellFormed_flat, honce flat wellFormed_flat,
    hat [flat] [0] (List.forall_mem_singleton.2 wellFormed_flat)⟩

end Larder.Store
