import Mathlib.Data.Set.Card
import Larder.Dict

/-!
Sorted maps: what keeps them sorted, and what is found in them then.
-/

namespace Larder.Dict

variable {α β : Type} [Ord α]

theorem nodup_of_ascending [Std.ReflOrd α] {keys : List α}
    (h : keys.Pairwise fun s t => compare s t = .lt) :
    keys.Nodup := by
  refine h.imp fun {s t} hlt heq => ?_
  have hself : compare t t = .eq := Std.ReflOrd.compare_self
  rw [heq, hself] at hlt
  cases hlt

theorem sorted_nil : Sorted ([] : Dict α β) := List.Pairwise.nil

theorem Sorted.filter {d : Dict α β} (h : Sorted d) (p : α × β → Bool) : Sorted (d.filter p) :=
  List.Pairwise.filter p h

section Insert

theorem mem_insert {d : Dict α β} {key : α} {value : β} {entry : α × β}
    (h : entry ∈ d.insert key value) :
    entry = (key, value) ∨ entry ∈ d := by
  induction d with
  | nil => exact Or.inl (List.mem_singleton.1 h)
  | cons head rest ih =>
    unfold insert at h
    split at h
    · exact List.mem_cons.1 h
    · exact (List.mem_cons.1 h).imp_right (List.mem_cons_of_mem _)
    · rcases List.mem_cons.1 h with rfl | h
      · exact Or.inr List.mem_cons_self
      · exact (ih h).imp_right (List.mem_cons_of_mem _)

variable [Std.TransOrd α] [Std.LawfulEqOrd α]

theorem Sorted.insert {d : Dict α β} (h : Sorted d) (key : α) (value : β) :
    Sorted (d.insert key value) := by
  induction d with
  | nil => exact List.pairwise_singleton _ _
  | cons head rest ih =>
    obtain ⟨k, v⟩ := head
    obtain ⟨hhead, hrest⟩ := List.pairwise_cons.1 h
    unfold Dict.insert
    split
    · next hlt =>
      refine List.pairwise_cons.2 ⟨?_, h⟩
      refine List.forall_mem_cons.2 ⟨hlt, fun entry hentry => ?_⟩
      exact Std.TransCmp.lt_trans hlt (hhead entry hentry)
    · next heq =>
      have hkey : key = k := Std.LawfulEqOrd.eq_of_compare heq
      subst hkey
      exact List.pairwise_cons.2 ⟨hhead, hrest⟩
    · next hgt =>
      refine List.pairwise_cons.2 ⟨fun entry hentry => ?_, ih hrest⟩
      rcases mem_insert hentry with rfl | hentry
      · exact Std.OrientedCmp.lt_of_gt hgt
      · exact hhead entry hentry

end Insert

theorem mem_ofList {entries : List (α × β)} {entry : α × β} (h : entry ∈ ofList entries) :
    entry ∈ entries := by
  have hfold : ∀ (rest : List (α × β)) (front : Dict α β),
      entry ∈ rest.foldl (fun d e => d.insert e.1 e.2) front → entry ∈ front ∨ entry ∈ rest := by
    intro rest
    induction rest with
    | nil => exact fun _ h => Or.inl h
    | cons first rest ih =>
      intro front h
      rcases ih _ h with h | h
      · exact (mem_insert h).elim (fun h => Or.inr (h ▸ List.mem_cons_self)) Or.inl
      · exact Or.inr (List.mem_cons_of_mem _ h)
  exact (hfold entries [] h).resolve_left List.not_mem_nil

theorem sorted_ofList [Std.TransOrd α] [Std.LawfulEqOrd α] (entries : List (α × β)) :
    Sorted (ofList entries) := by
  have hfold : ∀ (rest : List (α × β)) (front : Dict α β), Sorted front →
      Sorted (rest.foldl (fun d e => d.insert e.1 e.2) front) := by
    intro rest
    induction rest with
    | nil => exact fun _ h => h
    | cons first rest ih => exact fun front h => ih _ (h.insert first.1 first.2)
  exact hfold entries [] sorted_nil

section InOrder

variable [Std.OrientedOrd α]

theorem insert_last {d : Dict α β} {key : α} (h : ∀ entry ∈ d, compare entry.1 key = .lt)
    (value : β) : d.insert key value = d ++ [(key, value)] := by
  induction d with
  | nil => rfl
  | cons head rest ih =>
    rw [List.forall_mem_cons] at h
    have hgt : compare key head.1 = .gt := Std.OrientedCmp.gt_of_lt h.1
    unfold Dict.insert
    rw [hgt]
    dsimp only
    rw [ih h.2, List.cons_append]

/-- Pairs that are in order are a map as they stand. -/
theorem Sorted.ofList_eq {d : Dict α β} (h : Sorted d) : ofList d = d := by
  have hfold : ∀ rest front : Dict α β, Sorted (front ++ rest) →
      rest.foldl (fun d entry => d.insert entry.1 entry.2) front = front ++ rest := by
    intro rest
    induction rest with
    | nil => intro front _; rw [List.append_nil]; rfl
    | cons entry rest ih =>
      intro front hsorted
      have hsplit : front ++ entry :: rest = front ++ [entry] ++ rest := by
        rw [List.append_assoc]; rfl
      have hbefore : ∀ a ∈ front, compare a.1 entry.1 = .lt :=
        fun a ha => (List.pairwise_append.1 hsorted).2.2 a ha entry List.mem_cons_self
      rw [List.foldl_cons, insert_last hbefore, hsplit]
      rw [hsplit] at hsorted
      exact ih _ hsorted
  exact hfold d [] h

end InOrder

omit [Ord α] in
theorem mapValues_eq_self {f : β → β} {d : Dict α β} (h : ∀ entry ∈ d, f entry.2 = entry.2) :
    mapValues f d = d := by
  induction d with
  | nil => rfl
  | cons head rest ih =>
    rw [List.forall_mem_cons] at h
    have hrest : rest.map (fun entry => (entry.1, f entry.2)) = rest := ih h.2
    rw [mapValues, List.map_cons, h.1, hrest]

variable [DecidableEq α]

omit [Ord α] in
theorem mem_of_get? {d : Dict α β} {key : α} {value : β} (h : d.get? key = some value) :
    (key, value) ∈ d := by
  induction d with
  | nil => cases h
  | cons head rest ih =>
    obtain ⟨k, v⟩ := head
    unfold get? at h
    split at h
    · next hkey =>
      rw [hkey, Option.some.inj h]
      exact List.mem_cons_self
    · exact List.mem_cons_of_mem _ (ih h)

omit [Ord α] in
/-- What is filtered by the key is found under the keys that are kept. -/
theorem get?_filter_key (d : Dict α β) (p : α → Bool) (key : α) :
    Dict.get? (d.filter fun entry => p entry.1) key = if p key then d.get? key else none := by
  induction d with
  | nil => exact (ite_self none).symm
  | cons head rest ih =>
    rw [List.filter_cons]
    by_cases hkey : key = head.1
    · subst hkey
      split
      · next hp => simp only [get?, if_pos]
      · next hp => rw [ih, if_neg hp]
    · split
      · simp only [get?, if_neg hkey, ih]
      · simp only [get?, if_neg hkey, ih]

omit [Ord α] in
theorem contains_iff {d : Dict α β} {key : α} : d.contains key = true ↔
    ∃ value, d.get? key = some value :=
  Option.isSome_iff_exists

omit [Ord α] in
/-- With each key once, every entry is found. -/
theorem get?_of_mem {d : Dict α β} (hnodup : (d.map Prod.fst).Nodup) {entry : α × β}
    (hmem : entry ∈ d) :
    d.get? entry.1 = some entry.2 := by
  induction d with
  | nil => cases hmem
  | cons head rest ih =>
    obtain ⟨hhead, hrest⟩ := List.nodup_cons.1 hnodup
    unfold get?
    rcases List.mem_cons.1 hmem with rfl | htail
    · exact if_pos rfl
    · rw [if_neg fun hkey => hhead (List.mem_map.2 ⟨entry, htail, hkey⟩)]
      exact ih hrest htail

theorem get?_ofList_of_mem [Std.LawfulEqOrd α] {entries : List (α × β)}
    (hnodup : (entries.map Prod.fst).Nodup) {entry : α × β} (hmem : entry ∈ entries) :
    get? (ofList entries) entry.1 = some entry.2 := by
  induction entries using List.reverseRecOn with
  | nil => cases hmem
  | append_singleton front last ih =>
    rw [List.map_append, List.nodup_append] at hnodup
    obtain ⟨hfront, -, hdistinct⟩ := hnodup
    have hsplit : ofList (front ++ [last]) = (ofList front).insert last.1 last.2 :=
      List.foldl_append
    rw [hsplit, get?_insert]
    rcases List.mem_append.1 hmem with hmem | hmem
    · rw [if_neg (hdistinct entry.1 (List.mem_map_of_mem hmem) last.1 (List.mem_singleton.2 rfl)),
        ih hfront hmem]
    · rw [List.mem_singleton.1 hmem, if_pos rfl]

section Lookup

variable [Std.OrientedOrd α]

theorem Sorted.get?_of_mem {d : Dict α β} (h : Sorted d) {key : α} {value : β}
    (hmem : (key, value) ∈ d) :
    d.get? key = some value :=
  Dict.get?_of_mem (nodup_of_ascending (List.pairwise_map.2 h)) hmem

/-- The first key does not come again. -/
theorem Sorted.get?_rest {entry : α × β} {rest : Dict α β} (h : Sorted (entry :: rest)) :
    Dict.get? rest entry.1 = none := by
  rw [← Option.not_isSome_iff_eq_none]
  intro hfound
  obtain ⟨value, hget⟩ := contains_iff.1 hfound
  have hlt := (List.pairwise_cons.1 h).1 _ (mem_of_get? hget)
  rw [Std.ReflOrd.compare_self] at hlt
  cases hlt

/-- Sorted maps in which the same is found under every key are the same. -/
theorem Sorted.ext {d d' : Dict α β} (h : Sorted d) (h' : Sorted d')
    (hget : ∀ key, d.get? key = d'.get? key) :
    d = d' := by
  have hnodup : ∀ {e : Dict α β}, Sorted e → List.Nodup e :=
    fun he => List.Nodup.of_map Prod.fst (nodup_of_ascending (List.pairwise_map.2 he))
  have hmem : ∀ entry, entry ∈ d ↔ entry ∈ d' := by
    rintro ⟨key, value⟩
    exact ⟨fun hd => mem_of_get? ((hget key).symm.trans (h.get?_of_mem hd)),
      fun hd => mem_of_get? ((hget key).trans (h'.get?_of_mem hd))⟩
  refine List.Perm.eq_of_pairwise ?_ h h'
    ((List.perm_ext_iff_of_nodup (hnodup h) (hnodup h')).2 hmem)
  intro a b _ _ hab hba
  exact absurd hba (Std.OrientedCmp.not_lt_of_lt hab)

theorem Sorted.get?_filter {d : Dict α β} (h : Sorted d) (p : α × β → Bool) {key : α} {value : β} :
    Dict.get? (d.filter p) key = some value ↔ d.get? key = some value ∧ p (key, value) = true := by
  constructor
  · intro hget
    obtain ⟨hmem, hp⟩ := List.mem_filter.1 (mem_of_get? hget)
    exact ⟨h.get?_of_mem hmem, hp⟩
  · rintro ⟨hget, hp⟩
    exact (h.filter p).get?_of_mem (List.mem_filter.2 ⟨mem_of_get? hget, hp⟩)

/-- A sorted map has as many entries as there are keys that something is found under. -/
theorem Sorted.length_eq {d : Dict α β} (h : Sorted d) :
    d.length = {key | ∃ value, d.get? key = some value}.ncard := by
  have hnodup : d.keys.Nodup := nodup_of_ascending (List.pairwise_map.2 h)
  have hset : {key | ∃ value, d.get? key = some value} = ↑d.keys.toFinset := by
    ext key
    rw [List.coe_toFinset]
    constructor
    · rintro ⟨value, hget⟩
      exact List.mem_map.2 ⟨_, mem_of_get? hget, rfl⟩
    · intro hkey
      obtain ⟨⟨k, v⟩, hmem, rfl⟩ := List.mem_map.1 hkey
      exact ⟨v, h.get?_of_mem hmem⟩
  rw [hset, Set.ncard_coe_finset, List.toFinset_card_of_nodup hnodup, keys, List.length_map]

end Lookup

/-- Putting in what is there already changes nothing. -/
theorem Sorted.insert_of_get? [Std.TransOrd α] [Std.LawfulEqOrd α] {d : Dict α β} (h : Sorted d)
    {key : α} {value : β} (hget : d.get? key = some value) : d.insert key value = d := by
  induction d with
  | nil => cases hget
  | cons head rest ih =>
    obtain ⟨k, v⟩ := head
    obtain ⟨hhead, hrest⟩ := List.pairwise_cons.1 h
    unfold get? at hget
    unfold Dict.insert
    split at hget
    · next hkey =>
      subst hkey
      rw [Std.ReflOrd.compare_self, Option.some.inj hget]
    · have hgt : compare key k = .gt := by
        have := hhead _ (mem_of_get? hget)
        exact Std.OrientedCmp.gt_of_lt this
      rw [hgt]
      dsimp only
      rw [ih hrest hget]

/-- Another value for a key that is there takes the place of the old one. -/
theorem Sorted.insert_split [Std.TransOrd α] [Std.LawfulEqOrd α] {d : Dict α β} (h : Sorted d)
    {key : α} {value : β} (hget : d.get? key = some value) (value' : β) :
    ∃ before after, d = before ++ (key, value) :: after ∧
      d.insert key value' = before ++ (key, value') :: after ∧
      ∀ entry ∈ before ++ after, entry.1 ≠ key := by
  induction d with
  | nil => cases hget
  | cons head rest ih =>
    obtain ⟨k, v⟩ := head
    obtain ⟨hhead, hrest⟩ := List.pairwise_cons.1 h
    unfold get? at hget
    unfold Dict.insert
    split at hget
    · next hkey =>
      subst hkey
      refine ⟨[], rest, by rw [Option.some.inj hget]; rfl, by rw [Std.ReflOrd.compare_self]; rfl,
        fun entry hmem => ?_⟩
      have hlt := hhead entry hmem
      rintro rfl
      rw [Std.ReflOrd.compare_self] at hlt
      cases hlt
    · next hne =>
      have hgt : compare key k = .gt := by
        have := hhead _ (mem_of_get? hget)
        exact Std.OrientedCmp.gt_of_lt this
      obtain ⟨before, after, hd, hinsert, hkeys⟩ := ih hrest hget
      refine ⟨(k, v) :: before, after, by rw [hd]; rfl, by rw [hgt, hinsert]; rfl,
        fun entry hmem => ?_⟩
      rcases List.mem_cons.1 hmem with rfl | hmem
      · exact fun heq => hne heq.symm
      · exact hkeys entry hmem

end Larder.Dict
