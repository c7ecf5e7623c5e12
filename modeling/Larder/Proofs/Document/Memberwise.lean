import Larder.Proofs.Document.Patch

/-!
What a patch makes of each member.

A patch has each name once, so of its members only one has a say in what is found under a name
afterwards (`get?_mergeMembers`).  Two sorted objects in which the same is found are the same, so
this is all there is to know of a patch; that a patch applied again changes nothing follows one
member at a time.
-/

namespace Larder

open Json (Value Object)

namespace Json.Value

/-- What is there after a patch, by what was there before and what the patch has for it. -/
def mergeMember (before : Option Value) : Option Value → Option Value
  | none => before
  | some v => if v.isNull then none else some (merge (before.getD .null) v)

theorem get?_mergeMembers {patch : Object} (h : Dict.Sorted patch) (target : Object)
    (name : String) :
    Dict.get? (mergeMembers target patch) name
      = mergeMember (Dict.get? target name) (Dict.get? patch name) := by
  induction patch generalizing target with
  | nil => rfl
  | cons m rest ih =>
    obtain ⟨key, v⟩ := m
    rw [mergeMembers, ih (List.pairwise_cons.1 h).2, Dict.get?]
    by_cases hname : name = key
    · -- No later member of the patch has this name.
      have hrest : Dict.get? rest key = none := h.get?_rest
      subst hname
      rw [if_pos rfl, hrest]
      by_cases hnull : v.isNull = true
      · simp [mergeMember, hnull, Dict.get?_erase]
      · simp [mergeMember, hnull, Dict.get?_insert]
    · rw [if_neg hname]
      by_cases hnull : v.isNull = true
      · simp [hnull, Dict.get?_erase, hname]
      · simp [hnull, Dict.get?_insert, hname]

theorem sorted_mergeMembers {target : Object} (h : Dict.Sorted target)
    (patch : List (String × Value)) :
    Dict.Sorted (mergeMembers target patch) := by
  induction patch generalizing target with
  | nil => exact h
  | cons m rest ih =>
    obtain ⟨key, v⟩ := m
    rw [mergeMembers]
    by_cases hnull : v.isNull = true
    · rw [if_pos hnull]
      exact ih (h.filter _)
    · rw [if_neg hnull]
      exact ih (h.insert key _)

/-! ## Once more -/

theorem WellFormed.object_membersOf {v : Value} (h : v.WellFormed) :
    (object v.membersOf).WellFormed := by
  cases v with
  | object members => exact h
  | _ => exact ⟨Dict.sorted_nil, trivial⟩

theorem WellFormed.get?_getD {members : Object} (h : (object members).WellFormed) (name : String) :
    ((Dict.get? members name).getD .null).WellFormed := by
  cases hget : Dict.get? members name with
  | none => trivial
  | some v => exact wellFormedMembers_iff.1 h.2 _ (Dict.mem_of_get? hget)

theorem merge_merge {target patch : Value} (htarget : target.WellFormed)
    (hpatch : patch.WellFormed) :
    merge (merge target patch) patch = merge target patch := by
  induction patch using Value.induction generalizing target with
  | object members ih =>
    obtain ⟨hsorted, hmembers⟩ := hpatch
    have hall := wellFormedMembers_iff.1 hmembers
    have htarget := htarget.object_membersOf
    have honce := sorted_mergeMembers htarget.1 members
    show object (mergeMembers (mergeMembers target.membersOf members) members)
        = object (mergeMembers _ members)
    refine congrArg object
      (Dict.Sorted.ext (sorted_mergeMembers honce members) honce fun name => ?_)
    rw [get?_mergeMembers hsorted, get?_mergeMembers hsorted]
    cases hget : Dict.get? members name with
    | none => rfl
    | some v =>
      have hmem := Dict.mem_of_get? hget
      by_cases hnull : v.isNull = true
      · simp [mergeMember, hnull]
      · simp [mergeMember, hnull, ih _ hmem (htarget.get?_getD name) (hall _ hmem)]
  | _ => rfl

end Json.Value

namespace Document

/-- All but the identifier is merged by itself. -/
theorem get?_mergePatch_of_ne {patch : Document} (h : Dict.Sorted patch) (target : Document)
    {name : String} (hname : name ≠ idField) :
    Dict.get? (mergePatch target patch) name
      = Value.mergeMember (Dict.get? target name) (Dict.get? patch name) := by
  have hsorted : Dict.Sorted (stripId patch) := h.filter _
  have hkept : Dict.get? (stripId patch) name = Dict.get? patch name := by
    rw [stripId, Dict.get?_erase, if_neg hname]
  rw [mergePatch_eq, patchMembers_eq, Value.get?_mergeMembers hsorted, hkept]

theorem wellFormed_stripId {patch : Document} (h : (Value.object patch).WellFormed) :
    (Value.object (stripId patch)).WellFormed :=
  ⟨h.1.filter _, Value.wellFormedMembers_iff.2 fun m hm =>
    Value.wellFormedMembers_iff.1 h.2 m (List.mem_filter.1 hm).1⟩

theorem mergePatch_mergePatch {target patch : Document} (htarget : (Value.object target).WellFormed)
    (hpatch : (Value.object patch).WellFormed) :
    mergePatch (mergePatch target patch) patch = mergePatch target patch := by
  have hmerge := Value.merge_merge htarget (wellFormed_stripId hpatch)
  rw [← object_mergePatch, ← object_mergePatch] at hmerge
  exact Value.object.inj hmerge

end Document

end Larder
