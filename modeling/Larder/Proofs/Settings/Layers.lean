import Larder.Settings.Tree

/-!
What laying values over one another changes.

A value that is put under a path is found there, and what is under other names stays
(`find?_assign`).  So two tables that differ in one scalar alone still differ in it alone once the
same values are laid over both, as long as none of these is put in the place of the scalar, into it
or in the place of the table that it is in (`Differ.layer`).
-/

namespace Larder.Settings.Tree

theorem find?_nil (n : String) : find? [] n = none := rfl

theorem find?_cons (name : String) (t : Tree) (es : List (String × Tree)) (n : String) :
    find? ((name, t) :: es) n = if name = n then some t else find? es n := by
  rw [find?, List.find?_cons]
  by_cases h : name = n
  · rw [if_pos h, beq_iff_eq.2 h]
    rfl
  · rw [if_neg h, beq_eq_false_iff_ne.2 h]
    rfl

theorem find?_append (es fs : List (String × Tree)) (n : String) :
    find? (es ++ fs) n = (find? es n).or (find? fs n) := by
  rw [find?, List.find?_append, Option.map_or]
  rfl

/-- What is put in the place of the entries of a name is found if there was one. -/
theorem find?_replace (es : List (String × Tree)) (name : String) (t : Tree) (n : String) :
    find? (es.map fun e => if e.1 == name then (name, t) else e) n =
      if n = name then (find? es n).map fun _ => t else find? es n := by
  induction es with
  | nil => rw [List.map_nil, find?_nil, Option.map_none, ite_self]
  | cons e es ih =>
    obtain ⟨k, u⟩ := e
    rw [List.map_cons, find?_cons]
    by_cases hk : k = name
    · rw [if_pos (beq_iff_eq.2 hk), find?_cons, ih, hk]
      by_cases hn : name = n
      · rw [if_pos hn, if_pos hn, if_pos hn.symm]
        rfl
      · rw [if_neg hn, if_neg hn]
    · rw [if_neg fun heq => hk (beq_iff_eq.1 heq), find?_cons, ih]
      by_cases hn : k = n
      · rw [if_pos hn, if_pos hn, if_neg fun heq => hk (hn.trans heq)]
      · rw [if_neg hn, if_neg hn]

theorem find?_eq_none_iff {es : List (String × Tree)} {n : String} :
    find? es n = none ↔ ¬ es.any (·.1 == n) = true := by
  rw [find?, Option.map_eq_none_iff, List.find?_eq_none, List.any_eq_true, not_exists]
  exact forall_congr' fun e => not_and.symm

theorem find?_put (es : List (String × Tree)) (name : String) (t : Tree) (n : String) :
    find? (put es name t) n = if n = name then some t else find? es n := by
  unfold put
  split
  · next hany =>
    rw [find?_replace]
    split
    · next hn =>
      subst hn
      cases hfound : find? es n with
      | none => exact absurd hany (find?_eq_none_iff.1 hfound)
      | some u => rfl
    · rfl
  · next hnone =>
    rw [find?_append, find?_cons, find?_nil]
    split
    · next hn =>
      subst hn
      rw [find?_eq_none_iff.2 hnone, if_pos rfl]
      rfl
    · next hn => rw [if_neg fun heq => hn heq.symm, Option.or_none]

/-- The entries of the table under a name, none if there is no table. -/
def under (es : List (String × Tree)) (name : String) : List (String × Tree) :=
  match find? es name with
  | some u => u.entries
  | none => []

/-- The value under the first name of a path, once a value was put under the path. -/
def joined (rest : List String) (t : Tree) (es : List (String × Tree)) (name : String) : Tree :=
  match rest with
  | [] => overlay t (find? es name)
  | rest => table (assign rest t (under es name))

theorem joined_congr {es es' : List (String × Tree)} {name : String}
    (h : find? es name = find? es' name) (rest : List String) (t : Tree) :
    joined rest t es name = joined rest t es' name := by
  unfold joined under
  rw [h]

theorem find?_assign (name : String) (rest : List String) (t : Tree) (es : List (String × Tree))
    (n : String) :
    find? (assign (name :: rest) t es) n =
      if n = Text.lower name then some (joined rest t es (Text.lower name)) else find? es n := by
  cases rest with
  | nil => exact find?_put es _ _ n
  | cons next rest => exact find?_put es _ _ n

/-! ## Tables that differ in one scalar -/

def IsScalar : Tree → Prop
  | list _ => False
  | table _ => False
  | _ => True

theorem overlay_scalar {t : Tree} (h : t.IsScalar) (lower : Option Tree) : overlay t lower = t := by
  have htable : ∀ es, t ≠ table es := by
    rintro es rfl
    exact h
  rw [overlay]
  · exact htable []
  · exact htable

variable {part field : String} {t t' u : Tree} {es es' : List (String × Tree)}

/-- Two tables have the one and the other value for a field of a part, and agree in everything
else. -/
structure Differ (part field : String) (t t' : Tree) (es es' : List (String × Tree)) : Prop where
  others : ∀ n, n ≠ part → find? es n = find? es' n
  inner : ∃ fs fs', find? es part = some (table fs) ∧ find? es' part = some (table fs') ∧
    find? fs field = some t ∧ find? fs' field = some t' ∧ ∀ n, n ≠ field → find? fs n = find? fs' n

/-- A path leads to a field of a part, into it or to the part as a whole. -/
def Touches (part field : String) (path : List String) : Prop :=
  path.map Text.lower = [part] ∨ [part, field] <+: path.map Text.lower

/-- Two scalars put in the same place. -/
theorem differ_assign (hpart : Text.lower part = part) (hfield : Text.lower field = field)
    (ht : t.IsScalar) (ht' : t'.IsScalar) (es : List (String × Tree)) :
    Differ part field t t' (assign [part, field] t es) (assign [part, field] t' es) where
  others := by
    intro n hn
    rw [← hpart] at hn
    rw [find?_assign, find?_assign, if_neg hn, if_neg hn]
  inner := by
    refine ⟨assign [field] t (under es part), assign [field] t' (under es part), ?_, ?_, ?_, ?_, ?_⟩
    · rw [find?_assign, if_pos hpart.symm, hpart]
      rfl
    · rw [find?_assign, if_pos hpart.symm, hpart]
      rfl
    · rw [find?_assign, if_pos hfield.symm, joined, overlay_scalar ht]
    · rw [find?_assign, if_pos hfield.symm, joined, overlay_scalar ht']
    · intro n hn
      rw [← hfield] at hn
      rw [find?_assign, find?_assign, if_neg hn, if_neg hn]

/-- A value that is put elsewhere leaves the difference as it is. -/
theorem Differ.assign (h : Differ part field t t' es es') {path : List String}
    (hpath : ¬ Touches part field path) (u : Tree) :
    Differ part field t t' (assign path u es) (assign path u es') := by
  cases path with
  | nil => exact h
  | cons name rest =>
    obtain ⟨fs, fs', hfs, hfs', ht, ht', hfields⟩ := h.inner
    by_cases hname : Text.lower name = part
    · cases rest with
      | nil => exact absurd (Or.inl (by rw [List.map_singleton, hname])) hpath
      | cons next rest =>
        have hnext : field ≠ Text.lower next := by
          intro heq
          refine hpath (Or.inr ⟨rest.map Text.lower, ?_⟩)
          rw [List.map_cons, List.map_cons, hname, ← heq]
          rfl
        constructor
        · intro n hn
          rw [← hname] at hn
          rw [find?_assign, find?_assign, if_neg hn, if_neg hn]
          exact h.others n (by rwa [hname] at hn)
        · have hunder : under es part = fs := by rw [under, hfs]; rfl
          have hunder' : under es' part = fs' := by rw [under, hfs']; rfl
          refine ⟨Tree.assign (next :: rest) u fs, Tree.assign (next :: rest) u fs', ?_, ?_,
            ?_, ?_, ?_⟩
          · rw [find?_assign, if_pos hname.symm, hname, joined, hunder]
            simp
          · rw [find?_assign, if_pos hname.symm, hname, joined, hunder']
            simp
          · rw [find?_assign, if_neg hnext, ht]
          · rw [find?_assign, if_neg hnext, ht']
          · intro n hn
            rw [find?_assign, find?_assign, hfields n hn, joined_congr (hfields _ hnext.symm)]
    · constructor
      · intro n hn
        rw [find?_assign, find?_assign, h.others n hn, joined_congr (h.others _ hname)]
      · refine ⟨fs, fs', ?_, ?_, ht, ht', hfields⟩
        · rw [find?_assign, if_neg (Ne.symm hname), hfs]
        · rw [find?_assign, if_neg (Ne.symm hname), hfs']

theorem Differ.layer (h : Differ part field t t' es es') {upper : List (String × Tree)}
    (hupper : ∀ e ∈ upper, ¬ Touches part field (pathOf e.1)) :
    Differ part field t t' (layer upper es) (layer upper es') := by
  induction upper generalizing es es' with
  | nil => exact h
  | cons e upper ih =>
    exact ih (h.assign (hupper e List.mem_cons_self) e.2) fun f hf =>
      hupper f (List.mem_cons_of_mem e hf)

end Larder.Settings.Tree
