import Larder.Proofs.Json.RoundTrip

/-!
Values that are nested too deep to be read back.

The reader opens an array or an object only if there is room for one more.  What stands before a
value that is too deep is read as it was written, so the reader gets to that value, and then it
reads nothing at all.
-/

namespace Larder.Json

namespace Value

theorem lt_depthItems_iff {items : List Value} {n : Nat} : n < depthItems items ↔
    ∃ v ∈ items, n < v.depth := by
  rw [← Nat.not_le, depthItems_le_iff]
  simp only [not_forall, Nat.not_le, exists_prop]

theorem lt_depthMembers_iff {members : List (String × Value)} {n : Nat} :
    n < depthMembers members ↔ ∃ m ∈ members, n < m.2.depth := by
  rw [← Nat.not_le, depthMembers_le_iff]
  simp only [not_forall, Nat.not_le, exists_prop]

/-- What can be read back with some room needs no more than its own depth. -/
theorem Readable.within {m n : Nat} {v : Value} (h : v.Readable m) (hdepth : ¬ n < v.depth) :
    v.Readable n :=
  ⟨h.wellFormed, h.floats, Nat.not_lt.1 hdepth⟩

end Value

/-- With less room than a value is deep, nothing is read of its text. -/
def Overflows (v : Value) : Prop :=
  ∀ (n m fuel : Nat) (rest : List Char), v.Readable m → n < v.depth → v.chars.length < fuel →
    Closes rest → value? fuel (n + 1) (v.chars ++ rest) = none

/-! ## Items and members -/

theorem items?_of_none {fuel n : Nat} {cs : List Char} (h : value? fuel n cs = none) :
    items? (fuel + 1) n cs = none := by
  rw [items?, h]
  rfl

theorem items?_eq_none {items : List Value} {v : Value} (hall : ∀ w ∈ v :: items, Overflows w)
    {m n : Nat} (hreadable : ∀ w ∈ v :: items, w.Readable m) (hdeep : ∃ w ∈ v :: items, n < w.depth)
    {fuel : Nat}
    (hfuel : (v.chars ++ following Value.chars items).length + 1 < fuel) (rest : List Char) :
    items? fuel (n + 1) (v.chars ++ (following Value.chars items ++ ']' :: rest)) = none := by
  induction items generalizing v fuel with
  | nil =>
    obtain _ | fuel := fuel
    · omega
    rw [List.length_append] at hfuel
    obtain ⟨w, hw, hdepth⟩ := hdeep
    obtain rfl := List.mem_singleton.1 hw
    exact items?_of_none (hall w hw n m fuel _ (hreadable w hw) hdepth (by omega)
      (closes_following Value.chars [] (Or.inl rfl) rest))
  | cons w items ih =>
    obtain _ | fuel := fuel
    · omega
    rw [List.length_append, length_following_cons] at hfuel
    have hcloses := closes_following Value.chars (w :: items) (Or.inl rfl) rest
    have hv := hreadable v List.mem_cons_self
    by_cases hdepth : n < v.depth
    · exact items?_of_none (hall v List.mem_cons_self n m fuel _ hv hdepth (by omega) hcloses)
    · -- The first item is read, so it is a later one that is too deep.
      have hread := recovers v n fuel _ (hv.within hdepth) (by omega) hcloses
      have hlater : ∃ u ∈ w :: items, n < u.depth :=
        ((List.exists_mem_cons_iff _ _ _).1 hdeep).resolve_left hdepth
      have hothers : items? fuel (n + 1) (w.chars ++ (following Value.chars items ++ ']' :: rest))
          = none :=
        ih (fun u hu => hall u (List.mem_cons_of_mem v hu))
          (fun u hu => hreadable u (List.mem_cons_of_mem v hu)) hlater
          (by omega)
      rw [items?, hread, following_cons_append]
      show (items? fuel (n + 1) (w.chars ++ (following Value.chars items ++ ']' :: rest))).bind _
          = _
      rw [hothers]
      rfl

theorem members?_eq_none {members : List (String × Value)} {e : String × Value}
    (hall : ∀ e' ∈ e :: members, Overflows e'.2) {m n : Nat}
    (hreadable : ∀ e' ∈ e :: members, e'.2.Readable m) (hdeep : ∃ e' ∈ e :: members, n < e'.2.depth)
    {fuel : Nat}
    (hfuel : (Value.memberText e ++ following Value.memberText members).length + 1 < fuel)
    (rest : List Char) :
    members? fuel (n + 1)
      (Value.memberText e ++ (following Value.memberText members ++ '\x7d' :: rest)) = none := by
  induction members generalizing e fuel with
  | nil =>
    obtain _ | fuel := fuel
    · omega
    have hvalue := length_chars_lt_memberText e
    rw [List.length_append] at hfuel
    obtain ⟨e', he', hdepth⟩ := hdeep
    obtain rfl := List.mem_singleton.1 he'
    rw [members?_memberText, hall e' he' n m fuel _ (hreadable e' he') hdepth (by omega)
      (closes_following Value.memberText [] (Or.inr rfl) rest)]
    rfl
  | cons w members ih =>
    obtain _ | fuel := fuel
    · omega
    have hvalue := length_chars_lt_memberText e
    rw [List.length_append, length_following_cons] at hfuel
    have hcloses := closes_following Value.memberText (w :: members) (Or.inr rfl) rest
    have he := hreadable e List.mem_cons_self
    by_cases hdepth : n < e.2.depth
    · rw [members?_memberText, hall e List.mem_cons_self n m fuel _ he hdepth (by omega) hcloses]
      rfl
    · have hread := recovers e.2 n fuel _ (he.within hdepth) (by omega) hcloses
      have hlater : ∃ u ∈ w :: members, n < u.2.depth :=
        ((List.exists_mem_cons_iff _ _ _).1 hdeep).resolve_left hdepth
      have hothers : members? fuel (n + 1)
          (Value.memberText w ++ (following Value.memberText members ++ '\x7d' :: rest)) = none :=
        ih (fun u hu => hall u (List.mem_cons_of_mem e hu))
          (fun u hu => hreadable u (List.mem_cons_of_mem e hu)) hlater
          (by omega)
      rw [members?_memberText, hread, following_cons_append]
      show (members? fuel (n + 1) _).bind _ = _
      rw [hothers]
      rfl

/-! ## Arrays and objects -/

theorem overflows_array {items : List Value} (hall : ∀ v ∈ items, Overflows v) :
    Overflows (.array items) := by
  intro n m fuel rest hreadable hdepth hfuel hrest
  obtain ⟨hpos, hitems⟩ := Value.readable_array_iff.1 hreadable
  have hdeep : n < Value.depthItems items + 1 := hdepth
  obtain _ | fuel := fuel
  · omega
  obtain _ | n := n
  · rfl
  cases items with
  | nil => exact absurd hdeep (by simp [Value.depthItems])
  | cons v items =>
    rw [length_chars_array_cons] at hfuel
    have hread : items? fuel (n + 1) (v.chars ++ (following Value.chars items ++ ']' :: rest))
        = none :=
      items?_eq_none hall hitems (Value.lt_depthItems_iff.1 (by omega)) (by omega) rest
    rw [value?_array_cons, hread]
    rfl

theorem overflows_object {members : List (String × Value)} (hall : ∀ m ∈ members, Overflows m.2) :
    Overflows (.object members) := by
  intro n m fuel rest hreadable hdepth hfuel hrest
  obtain ⟨hpos, -, hmembers⟩ := Value.readable_object_iff.1 hreadable
  have hdeep : n < Value.depthMembers members + 1 := hdepth
  obtain _ | fuel := fuel
  · omega
  obtain _ | n := n
  · rfl
  cases members with
  | nil => exact absurd hdeep (by simp [Value.depthMembers])
  | cons e members =>
    rw [length_chars_object_cons] at hfuel
    have hread : members? fuel (n + 1)
        (Value.memberText e ++ (following Value.memberText members ++ '\x7d' :: rest)) = none :=
      members?_eq_none hall hmembers (Value.lt_depthMembers_iff.1 (by omega)) (by omega) rest
    rw [value?_object_cons, hread]
    rfl

theorem overflows (v : Value) : Overflows v := by
  induction v using Value.induction with
  | array items ih => exact overflows_array ih
  | object members ih => exact overflows_object ih
  | _ => exact fun n m fuel rest _ hdepth => absurd hdepth (Nat.not_lt_zero n)

/-! ## Whole texts -/

theorem read?_text_of_deep {m : Nat} {v : Value} (h : v.Readable m)
    (hdepth : depthLimit ≤ v.depth) :
    read? v.text = none := by
  rw [read?_text_eq_bind,
    overflows v (depthLimit - 1) m _ [] h hdepth (Nat.lt_succ_self _) closes_nil]
  rfl

/-- The depth of a value decides whether it is read back from its text. -/
theorem read?_text_eq {v : Value} (hformed : v.WellFormed) (hfloats : v.FloatsReadBack) :
    read? v.text = if v.depth < depthLimit then some v else none := by
  by_cases hdepth : v.depth < depthLimit
  · rw [if_pos hdepth]
    exact read?_text ⟨hformed, hfloats, Nat.le_sub_one_of_lt hdepth⟩
  · rw [if_neg hdepth]
    exact read?_text_of_deep ⟨hformed, hfloats, Nat.le_refl _⟩ (Nat.not_lt.1 hdepth)

/-- The members of an object are read back as they are written, in whatever order. -/
theorem readRaw?_object_text {members : List (String × Value)}
    (hformed : ∀ m ∈ members, m.2.WellFormed) (hfloats : ∀ m ∈ members, m.2.FloatsReadBack) :
    readRaw? (Value.object members).text
      = if (Value.object members).depth < depthLimit then some (.object members) else none := by
  rw [readRaw?_text_eq_bind]
  cases members with
  | nil => rfl
  | cons m rest =>
    have hlength := length_chars_object_cons m rest
    have hlimit : depthLimit - 1 + 1 = 126 + 2 := rfl
    have hshallow : (Value.object (m :: rest)).depth < depthLimit ↔
        Value.depthMembers (m :: rest) ≤ 126 := by
      show Value.depthMembers (m :: rest) + 1 < 128 ↔ _
      omega
    rw [hlimit, value?_object_cons]
    by_cases hdepth : Value.depthMembers (m :: rest) ≤ 126
    · have hreadable : ∀ e ∈ m :: rest, e.2.Readable 126 :=
        fun e he => ⟨hformed e he, hfloats e he, Value.depthMembers_le_iff.1 hdepth e he⟩
      rw [members?_chars (fun e _ => recovers e.2) hreadable (by omega), if_pos (hshallow.2 hdepth)]
      rfl
    · have hreadable : ∀ e ∈ m :: rest, e.2.Readable (Value.depthMembers (m :: rest)) :=
        fun e he => ⟨hformed e he, hfloats e he, Value.depthMembers_le_iff.1 (Nat.le_refl _) e he⟩
      have hdeep := Value.lt_depthMembers_iff.1 (Nat.not_le.1 hdepth)
      rw [members?_eq_none (fun e _ => overflows e.2) hreadable hdeep (by omega),
        if_neg fun h => hdepth (hshallow.1 h)]
      rfl

/-! ## A value of each depth -/

namespace Value

/-- A value in so many arrays. -/
def nested : Nat → Value
  | 0 => null
  | n + 1 => array [nested n]

theorem depth_nested (n : Nat) : (nested n).depth = n := by
  induction n with
  | zero => rfl
  | succ n ih =>
    show max (nested n).depth 0 + 1 = n + 1
    rw [ih, Nat.max_zero]

theorem readable_nested (n : Nat) : (nested n).Readable n := by
  induction n with
  | zero => exact readable_null
  | succ n ih => exact readable_array_iff.2 ⟨Nat.succ_pos n, List.forall_mem_singleton.2 ih⟩

end Value

end Larder.Json
