import Larder.Document.Patch
import Larder.Proofs.Json.RoundTrip

/-!
Merge patches as RFC 7396 has them, over values of any kind.

`Value.merge` follows the procedure of section 2 there: a patch that is no object takes the place of
the target, and one that is an object makes an object of the target first.  Patching a document is
that procedure on the patch without the identifier, so the identifier is what a patch cannot reach.
-/

namespace Larder

open Json (Value Object)

namespace Json.Value

def membersOf : Value → Object
  | .object members => members
  | _ => []

mutual

/-- The patched value; a target that is missing counts as null. -/
def merge (target : Value) : Value → Value
  | .object patch => .object (mergeMembers target.membersOf patch)
  | v => v

def mergeMembers (target : Object) : List (String × Value) → Object
  | [] => target
  | (name, v) :: rest =>
    mergeMembers
      (if v.isNull then Dict.erase target name
        else Dict.insert target name (merge ((Dict.get? target name).getD .null) v))
      rest

end

end Json.Value

namespace Document

theorem membersOrNone_eq (v : Option Value) : membersOrNone v = (v.getD .null).membersOf := by
  cases v with
  | none => rfl
  | some v => cases v <;> rfl

mutual

theorem patchMember_eq (target : Object) (name : String) (v : Value) :
    patchMember target name v
      = if v.isNull then Dict.erase target name
        else Dict.insert target name (Value.merge ((Dict.get? target name).getD .null) v) := by
  cases v with
  | object members =>
    show Dict.insert target name
        (.object (patchMembers (membersOrNone (Dict.get? target name)) members)) =
      Dict.insert target name (.object (Value.mergeMembers _ members))
    rw [patchMembers_eq, membersOrNone_eq]
  | _ => rfl

theorem patchMembers_eq (target : Object) (patch : List (String × Value)) :
    patchMembers target patch = Value.mergeMembers target patch := by
  cases patch with
  | nil => rfl
  | cons m rest =>
    obtain ⟨name, v⟩ := m
    show patchMembers (patchMember target name v) rest = Value.mergeMembers _ rest
    rw [patchMember_eq target name v, patchMembers_eq]

end

/-- Passing over the identifier comes to the same as taking it out of the patch first. -/
theorem mergePatch_eq (target patch : Document) :
    mergePatch target patch = patchMembers target (stripId patch) := by
  unfold mergePatch stripId Dict.erase
  induction patch generalizing target with
  | nil => rfl
  | cons m rest ih =>
    rw [List.foldl_cons, ih, List.filter_cons]
    by_cases hname : m.1 = idField
    · simp [hname]
    · simp [hname, patchMembers]

theorem object_mergePatch (target patch : Document) :
    Value.object (mergePatch target patch)
      = Value.merge (.object target) (.object (stripId patch)) := by
  rw [mergePatch_eq, patchMembers_eq]
  rfl

/-! ## Members that a patch does not name -/

theorem get?_patchMember_of_ne {key name : String} (hne : key ≠ name) (target : Object)
    (v : Value) :
    Dict.get? (patchMember target name v) key = Dict.get? target key := by
  rw [patchMember_eq]
  split
  · rw [Dict.get?_erase, if_neg hne]
  · rw [Dict.get?_insert, if_neg hne]

theorem get?_patchMembers_of_not_mem {key : String} {patch : List (String × Value)}
    (hpatch : ∀ m ∈ patch, m.1 ≠ key) (target : Object) :
    Dict.get? (patchMembers target patch) key = Dict.get? target key := by
  induction patch generalizing target with
  | nil => rfl
  | cons m rest ih =>
    obtain ⟨name, v⟩ := m
    rw [List.forall_mem_cons] at hpatch
    have hhead : key ≠ name := fun h => hpatch.1 h.symm
    show Dict.get? (patchMembers (patchMember target name v) rest) key = _
    rw [ih hpatch.2, get?_patchMember_of_ne hhead]

/-- A patch leaves the identifier as it is. -/
theorem get?_mergePatch_idField (d patch : Document) :
    Dict.get? (mergePatch d patch) idField = Dict.get? d idField := by
  rw [mergePatch_eq]
  refine get?_patchMembers_of_not_mem ?_ d
  intro m hm
  have hkept := (List.mem_filter.1 hm).2
  exact of_decide_eq_true hkept

/-! ## What can be written down still can be -/

/-- Members in order, each of which can be read back. -/
def ReadableMembers (n : Nat) (d : Object) : Prop := Dict.Sorted d ∧ ∀ m ∈ d, m.2.Readable n

section Readable

variable {n : Nat} {d : Object}

theorem readable_null (n : Nat) : Value.null.Readable n := ⟨trivial, trivial, Nat.zero_le n⟩

theorem readable_string (n : Nat) (s : String) : (Value.string s).Readable n :=
  ⟨trivial, trivial, Nat.zero_le n⟩

theorem readable_object (hn : 0 < n) : (Value.object d).Readable n ↔ ReadableMembers (n - 1) d := by
  rw [Json.Value.readable_object_iff]
  exact and_iff_right hn

theorem ReadableMembers.insert (hd : ReadableMembers n d) (name : String) {v : Value}
    (hv : v.Readable n) :
    ReadableMembers n (Dict.insert d name v) := by
  refine ⟨hd.1.insert name v, fun m hm => ?_⟩
  rcases Dict.mem_insert hm with rfl | hmem
  · exact hv
  · exact hd.2 m hmem

theorem ReadableMembers.erase (hd : ReadableMembers n d) (name : String) :
    ReadableMembers n (Dict.erase d name) :=
  ⟨hd.1.filter _, fun m hm => hd.2 m (List.mem_filter.1 hm).1⟩

theorem ReadableMembers.get? (hd : ReadableMembers n d) (name : String) :
    ((Dict.get? d name).getD .null).Readable n := by
  cases h : Dict.get? d name with
  | none => exact readable_null n
  | some v => exact hd.2 _ (Dict.mem_of_get? h)

theorem readableMembers_membersOf {v : Value} (hv : v.Readable n) :
    ReadableMembers (n - 1) v.membersOf := by
  cases v with
  | object members => exact (Json.Value.readable_object_iff.1 hv).2
  | _ => exact ⟨Dict.sorted_nil, List.forall_mem_nil _⟩

theorem readable_merge {target patch : Value} (htarget : target.Readable n)
    (hpatch : patch.Readable n) :
    (Value.merge target patch).Readable n := by
  induction patch using Json.Value.induction generalizing n target with
  | object members ih =>
    obtain ⟨hn, -, hmembers⟩ := Json.Value.readable_object_iff.1 hpatch
    have hmerge : ∀ d, ReadableMembers (n - 1) d →
        ReadableMembers (n - 1) (Value.mergeMembers d members) := by
      clear hpatch
      induction members with
      | nil => exact fun d hd => hd
      | cons m rest ihRest =>
        intro d hd
        obtain ⟨name, v⟩ := m
        rw [List.forall_mem_cons] at ih hmembers
        have hstep : ReadableMembers (n - 1) (if v.isNull then Dict.erase d name
            else Dict.insert d name (Value.merge ((Dict.get? d name).getD .null) v)) := by
          by_cases hnull : v.isNull = true
          · rw [if_pos hnull]
            exact hd.erase name
          · rw [if_neg hnull]
            exact hd.insert name (ih.1 (hd.get? name) hmembers.1)
        exact ihRest ih.2 hmembers.2 _ hstep
    exact (readable_object hn).2 (hmerge _ (readableMembers_membersOf htarget))
  | _ => exact hpatch

theorem readable_stripId {patch : Document} (hpatch : (Value.object patch).Readable n) :
    (Value.object (stripId patch)).Readable n := by
  obtain ⟨hn, hmembers⟩ := Json.Value.readable_object_iff.1 hpatch
  exact (readable_object hn).2 (ReadableMembers.erase hmembers idField)

theorem readable_mergePatch {target patch : Document} (htarget : (Value.object target).Readable n)
    (hpatch : (Value.object patch).Readable n) :
    (Value.object (mergePatch target patch)).Readable n := by
  rw [object_mergePatch]
  exact readable_merge htarget (readable_stripId hpatch)

end Readable

end Document

end Larder
