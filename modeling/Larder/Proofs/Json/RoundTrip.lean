import Larder.Proofs.Dict
import Larder.Proofs.Json.Numbers

/-!
Reading back the text of a value.

A value whose integers are in range and whose floats are read back from their own texts is read back
as it was, if it is not nested too deep.  The reader is followed with anything behind the text that
may stand behind a value.
-/

namespace Larder.Json

/-- A float is read back from its own text; integers are, if they are in range. -/
def Number.ReadsBack : Number → Prop
  | .integer _ => True
  | .float x => number? x.documentText = some (.float x, [])

namespace Value

mutual

def FloatsReadBack : Value → Prop
  | number n => n.ReadsBack
  | array items => FloatsReadBackItems items
  | object members => FloatsReadBackMembers members
  | _ => True

def FloatsReadBackItems : List Value → Prop
  | [] => True
  | v :: rest => FloatsReadBack v ∧ FloatsReadBackItems rest

def FloatsReadBackMembers : List (String × Value) → Prop
  | [] => True
  | (_, v) :: rest => FloatsReadBack v ∧ FloatsReadBackMembers rest

end

theorem floatsReadBackItems_iff {items : List Value} : FloatsReadBackItems items ↔
    ∀ v ∈ items, v.FloatsReadBack := by
  induction items with
  | nil => simp [FloatsReadBackItems]
  | cons v rest ih => rw [FloatsReadBackItems, ih, List.forall_mem_cons]

theorem floatsReadBackMembers_iff {members : List (String × Value)} :
    FloatsReadBackMembers members ↔ ∀ m ∈ members, m.2.FloatsReadBack := by
  induction members with
  | nil => simp [FloatsReadBackMembers]
  | cons m rest ih => rw [FloatsReadBackMembers, ih, List.forall_mem_cons]

theorem wellFormedItems_iff {items : List Value} : WellFormedItems items ↔
    ∀ v ∈ items, v.WellFormed := by
  induction items with
  | nil => simp [WellFormedItems]
  | cons v rest ih => rw [WellFormedItems, ih, List.forall_mem_cons]

theorem wellFormedMembers_iff {members : List (String × Value)} :
    WellFormedMembers members ↔ ∀ m ∈ members, m.2.WellFormed := by
  induction members with
  | nil => simp [WellFormedMembers]
  | cons m rest ih => rw [WellFormedMembers, ih, List.forall_mem_cons]

theorem depthItems_le_iff {items : List Value} {n : Nat} : depthItems items ≤ n ↔
    ∀ v ∈ items, v.depth ≤ n := by
  induction items with
  | nil => simp [depthItems]
  | cons v rest ih => rw [depthItems, Nat.max_le, ih, List.forall_mem_cons]

theorem depthMembers_le_iff {members : List (String × Value)} {n : Nat} :
    depthMembers members ≤ n ↔ ∀ m ∈ members, m.2.depth ≤ n := by
  induction members with
  | nil => simp [depthMembers]
  | cons m rest ih => rw [depthMembers, Nat.max_le, ih, List.forall_mem_cons]

/-- The value can be written down and read back, nested at most so deep. -/
structure Readable (n : Nat) (v : Value) : Prop where
  wellFormed : v.WellFormed
  floats : v.FloatsReadBack
  depth : v.depth ≤ n

theorem readable_null {n : Nat} : null.Readable n := ⟨trivial, trivial, Nat.zero_le n⟩

theorem Readable.mono {m n : Nat} {v : Value} (h : v.Readable m) (hle : m ≤ n) : v.Readable n :=
  ⟨h.wellFormed, h.floats, Nat.le_trans h.depth hle⟩

theorem readable_array_iff {n : Nat} {items : List Value} :
    (array items).Readable n ↔ 0 < n ∧ ∀ v ∈ items, v.Readable (n - 1) := by
  constructor
  · rintro ⟨hformed, hfloats, hdepth⟩
    have hitems : depthItems items + 1 ≤ n := hdepth
    have hall := depthItems_le_iff.1 (show depthItems items ≤ n - 1 by omega)
    exact ⟨by omega, fun v hv =>
      ⟨wellFormedItems_iff.1 hformed v hv, floatsReadBackItems_iff.1 hfloats v hv, hall v hv⟩⟩
  · rintro ⟨hpos, hall⟩
    have hdepth := depthItems_le_iff.2 fun v hv => (hall v hv).depth
    exact ⟨wellFormedItems_iff.2 fun v hv => (hall v hv).wellFormed,
      floatsReadBackItems_iff.2 fun v hv => (hall v hv).floats,
        show depthItems items + 1 ≤ n by omega⟩

theorem readable_object_iff {n : Nat} {members : List (String × Value)} :
    (object members).Readable n ↔ 0 < n ∧ Dict.Sorted members ∧ ∀ m ∈ members,
    m.2.Readable (n - 1) := by
  constructor
  · rintro ⟨⟨hsorted, hformed⟩, hfloats, hdepth⟩
    have hmembers : depthMembers members + 1 ≤ n := hdepth
    have hall := depthMembers_le_iff.1 (show depthMembers members ≤ n - 1 by omega)
    exact ⟨by omega, hsorted,
      fun m hm =>
        ⟨wellFormedMembers_iff.1 hformed m hm, floatsReadBackMembers_iff.1 hfloats m hm, hall m hm⟩⟩
  · rintro ⟨hpos, hsorted, hall⟩
    have hdepth := depthMembers_le_iff.2 fun m hm => (hall m hm).depth
    exact ⟨⟨hsorted, wellFormedMembers_iff.2 fun m hm => (hall m hm).wellFormed⟩,
      floatsReadBackMembers_iff.2 fun m hm => (hall m hm).floats,
        show depthMembers members + 1 ≤ n by omega⟩

end Value

/-! ## The reader on printed text -/

theorem skipSpace_chars (v : Value) (rest : List Char) :
    skipSpace (v.chars ++ rest) = v.chars ++ rest := by
  obtain ⟨c, cs, hchars, hkind⟩ := v.chars_head
  have hspace : isSpace c = false := by
    by_contra h
    have hblank : ∀ c, isSpace c = true → Value.kindAt c = "" := by
      intro c hc
      simp only [isSpace, Bool.or_eq_true, beq_iff_eq] at hc
      rcases hc with ((rfl | rfl) | rfl) | rfl <;> decide
    rw [hblank c (Bool.not_eq_false _ ▸ h)] at hkind
    exact v.kind_ne_empty hkind.symm
  rw [hchars, List.cons_append, skipSpace, List.dropWhile_cons, hspace]
  rfl

theorem string?_escaped (s : String) (rest : List Char) :
    string? (s.toList.flatMap escapedChar ++ '"' :: rest) = some (s, rest) := by
  have hlength : s.toList.length ≤ (s.toList.flatMap escapedChar).length := by
    induction s.toList with
    | nil => exact Nat.le_refl _
    | cons c cs ih =>
      have hchar : 0 < (escapedChar c).length := by
        unfold escapedChar
        repeat' split
        all_goals exact Nat.zero_lt_succ _
      rw [List.flatMap_cons, List.length_append, List.length_cons]
      omega
  have hfuel : s.toList.length < (s.toList.flatMap escapedChar ++ '"' :: rest).length + 1 := by
    rw [List.length_append]
    omega
  rw [string?, stringBody?_escaped hfuel]
  exact congrArg (fun t => some (t, rest)) String.ofList_toList

theorem number?_chars {n : Number} (hrange : n.InRange) (hback : n.ReadsBack) {rest : List Char}
    (hrest : Closes rest) :
    number? (n.chars ++ rest) = some (n, rest) := by
  have hself : number? n.chars = some (n, []) := by
    cases n with
    | integer n => exact number?_integerChars hrange
    | float x => exact hback
  rw [number?_append hrest, hself]
  rfl

/-- Text of a value is read back as the value, with fuel for its length and room for its depth. -/
def Recovers (v : Value) : Prop :=
  ∀ (n fuel : Nat) (rest : List Char), v.Readable n → v.chars.length < fuel → Closes rest →
    value? fuel (n + 1) (v.chars ++ rest) = some (v, rest)

theorem value?_number {n : Number} {m fuel : Nat} (hn : (Value.number n).Readable m)
    {rest : List Char} (hrest : Closes rest) :
    value? (fuel + 1) (m + 1) (n.chars ++ rest) = some (.number n, rest) := by
  have hread := number?_chars hn.wellFormed hn.floats hrest
  have hskip := skipSpace_chars (.number n) rest
  obtain ⟨c, cs, hchars, hkind⟩ := (Value.number n).chars_head
  have hcons : n.chars = c :: cs := hchars
  have hne : ∀ d, Value.kindAt d ≠ "number" → c ≠ d := fun d hd heq => hd (heq ▸ hkind)
  have htext : n.chars ++ rest = c :: (cs ++ rest) := by rw [hcons]; rfl
  have hskip' : skipSpace (n.chars ++ rest) = n.chars ++ rest := hskip
  unfold value?
  rw [hskip']
  split
  · next h => exact absurd (List.cons.inj (htext.symm.trans h)).1 (hne 'n' (by decide))
  · next h => exact absurd (List.cons.inj (htext.symm.trans h)).1 (hne 't' (by decide))
  · next h => exact absurd (List.cons.inj (htext.symm.trans h)).1 (hne 'f' (by decide))
  · next h => exact absurd (List.cons.inj (htext.symm.trans h)).1 (hne '"' (by decide))
  · next h => exact absurd (List.cons.inj (htext.symm.trans h)).1 (hne '[' (by decide))
  · next h => exact absurd (List.cons.inj (htext.symm.trans h)).1 (hne '\x7b' (by decide))
  · rw [hread]
    rfl

theorem closes_following {α : Type} (f : α → List Char) (as : List α) {close : Char}
    (hclose : close = ']' ∨ close = '\x7d') (rest : List Char) :
    Closes (following f as ++ close :: rest) := by
  intro c hc
  cases as with
  | nil => rw [← Option.some.inj hc]; exact Or.inr hclose
  | cons a as => rw [← Option.some.inj hc]; exact Or.inl rfl

theorem following_cons_append {α : Type} (f : α → List Char) (a : α) (as : List α) (close : Char)
    (rest : List Char) :
    following f (a :: as) ++ close :: rest = ',' :: (f a ++ (following f as ++ close :: rest)) := by
  simp [following]

theorem length_following_cons {α : Type} (f : α → List Char) (a : α) (as : List α) :
    (following f (a :: as)).length = (f a ++ following f as).length + 1 := by
  simp [following]

theorem items?_chars {items : List Value} {v : Value} (hall : ∀ w ∈ v :: items, Recovers w)
    {n : Nat} (hreadable : ∀ w ∈ v :: items, w.Readable n) {fuel : Nat}
    (hfuel : (v.chars ++ following Value.chars items).length + 1 < fuel) (rest : List Char) :
    items? fuel (n + 1) (v.chars ++ (following Value.chars items ++ ']' :: rest))
      = some (v :: items, rest) := by
  induction items generalizing v fuel with
  | nil =>
    obtain _ | fuel := fuel
    · omega
    rw [List.length_append] at hfuel
    have hv :=
      hall v List.mem_cons_self n fuel (']' :: rest) (hreadable v List.mem_cons_self) (by omega)
      (closes_following Value.chars [] (Or.inl rfl) rest)
    show items? (fuel + 1) (n + 1) (v.chars ++ ']' :: rest) = _
    rw [items?, hv]
    rfl
  | cons w items ih =>
    obtain _ | fuel := fuel
    · omega
    rw [List.length_append, length_following_cons] at hfuel
    have hv := hall v List.mem_cons_self n fuel
        (',' :: (w.chars ++ (following Value.chars items ++ ']' :: rest)))
      (hreadable v List.mem_cons_self) (by omega) fun c hc => Or.inl (Option.some.inj hc).symm
    have hothers : items? fuel (n + 1) (w.chars ++ (following Value.chars items ++ ']' :: rest))
        = some (w :: items, rest) :=
      ih (fun u hu => hall u (List.mem_cons_of_mem v hu))
        (fun u hu => hreadable u (List.mem_cons_of_mem v hu)) (by omega)
    rw [following_cons_append, items?, hv]
    show (items? fuel (n + 1) (w.chars ++ (following Value.chars items ++ ']' :: rest))).bind _ = _
    rw [hothers]
    rfl

theorem memberText_append (m : String × Value) (more : List Char) :
    Value.memberText m ++ more
      = '"' :: (m.1.toList.flatMap escapedChar ++ '"' :: ':' :: (m.2.chars ++ more)) := by
  rw [Value.memberText, List.append_assoc, stringChars_append]
  rfl

theorem length_chars_lt_memberText (m : String × Value) :
    m.2.chars.length < (Value.memberText m).length := by
  rw [Value.memberText, List.length_append, List.length_cons]
  omega

/-- A member is read as far as its value. -/
theorem members?_memberText (fuel n : Nat) (m : String × Value) (more : List Char) :
    members? (fuel + 1) n (Value.memberText m ++ more)
      = (value? fuel n (m.2.chars ++ more)).bind fun x =>
      match skipSpace x.2 with
      | ',' :: rest => (members? fuel n rest).bind fun y => some ((m.1, x.1) :: y.1, y.2)
      | '\x7d' :: rest => some ([(m.1, x.1)], rest)
      | _ => none := by
  rw [memberText_append, members?]
  show (string? _).bind _ = _
  rw [string?_escaped]
  rfl

theorem members?_chars {members : List (String × Value)} {m : String × Value}
    (hall : ∀ e ∈ m :: members, Recovers e.2) {n : Nat}
    (hreadable : ∀ e ∈ m :: members, e.2.Readable n) {fuel : Nat}
    (hfuel : (Value.memberText m ++ following Value.memberText members).length + 1 < fuel)
    (rest : List Char) :
    members? fuel (n + 1)
      (Value.memberText m ++ (following Value.memberText members ++ '\x7d' :: rest))
      = some (m :: members, rest) := by
  induction members generalizing m fuel with
  | nil =>
    obtain _ | fuel := fuel
    · omega
    have hvalue := length_chars_lt_memberText m
    rw [List.length_append] at hfuel
    have hv :=
      hall m List.mem_cons_self n fuel ('\x7d' :: rest) (hreadable m List.mem_cons_self) (by omega)
      (closes_following Value.chars [] (Or.inr rfl) rest)
    show members? (fuel + 1) (n + 1) (Value.memberText m ++ '\x7d' :: rest) = _
    rw [members?_memberText, hv]
    rfl
  | cons w members ih =>
    obtain _ | fuel := fuel
    · omega
    have hvalue := length_chars_lt_memberText m
    rw [List.length_append, length_following_cons] at hfuel
    have hv := hall m List.mem_cons_self n fuel
      (',' :: (Value.memberText w ++ (following Value.memberText members ++ '\x7d' :: rest)))
      (hreadable m List.mem_cons_self) (by omega) fun c hc => Or.inl (Option.some.inj hc).symm
    have hothers : members? fuel (n + 1)
        (Value.memberText w ++ (following Value.memberText members ++ '\x7d' :: rest))
          = some (w :: members, rest) :=
      ih (fun e he => hall e (List.mem_cons_of_mem m he))
        (fun e he => hreadable e (List.mem_cons_of_mem m he)) (by omega)
    rw [following_cons_append, members?_memberText, hv]
    show (members? fuel (n + 1) _).bind _ = _
    rw [hothers]
    rfl

/-! ### Arrays and objects -/

theorem chars_array_cons_append (v : Value) (items : List Value) (rest : List Char) :
    (Value.array (v :: items)).chars ++ rest
      = '[' :: (v.chars ++ (following Value.chars items ++ ']' :: rest)) := by
  show bracketed (commaSeparated (Value.itemChars (v :: items))) ++ rest = _
  rw [Value.itemChars_eq_map, commaSeparated_cons, bracketed]
  simp

theorem chars_object_cons_append (m : String × Value) (members : List (String × Value))
    (rest : List Char) :
    (Value.object (m :: members)).chars ++ rest
      = '\x7b' ::
      (Value.memberText m ++ (following Value.memberText members ++ '\x7d' :: rest)) := by
  show braced (commaSeparated (Value.memberChars (m :: members))) ++ rest = _
  rw [Value.memberChars_eq_map, commaSeparated_cons, braced]
  simp

theorem length_chars_array_cons (v : Value) (items : List Value) :
    (Value.array (v :: items)).chars.length
      = (v.chars ++ following Value.chars items).length + 2 := by
  rw [← List.append_nil (Value.array (v :: items)).chars, chars_array_cons_append]
  simp only [List.length_cons, List.length_append, List.length_nil]
  omega

theorem length_chars_object_cons (m : String × Value) (members : List (String × Value)) :
    (Value.object (m :: members)).chars.length
      = (Value.memberText m ++ following Value.memberText members).length + 2 := by
  rw [← List.append_nil (Value.object (m :: members)).chars, chars_object_cons_append]
  simp only [List.length_cons, List.length_append, List.length_nil]
  omega

/-- An array that is not empty is opened if there is room for what is in it. -/
theorem value?_array_cons (fuel n : Nat) (v : Value) (items : List Value) (rest : List Char) :
    value? (fuel + 1) (n + 2) ((Value.array (v :: items)).chars ++ rest)
      = (items? fuel (n + 1) (v.chars ++ (following Value.chars items ++ ']' :: rest))).map fun x =>
        (.array x.1, x.2) := by
  have hclosed : Value.kindAt ']' = "" := rfl
  have hopen := Value.chars_append_ne_cons hclosed v (following Value.chars items ++ ']' :: rest)
  have hspace := skipSpace_chars v (following Value.chars items ++ ']' :: rest)
  rw [chars_array_cons_append, value?]
  show (if n + 2 ≤ 1 then none else _) = _
  rw [if_neg (by omega), hspace]
  split
  · next h => exact absurd h (hopen _)
  · rfl

theorem value?_object_cons (fuel n : Nat) (m : String × Value) (members : List (String × Value))
    (rest : List Char) :
    value? (fuel + 1) (n + 2) ((Value.object (m :: members)).chars ++ rest)
      = (members? fuel (n + 1)
        (Value.memberText m ++ (following Value.memberText members ++ '\x7d' :: rest))).map
          fun x => (.object x.1, x.2) := by
  rw [chars_object_cons_append, value?]
  show (if n + 2 ≤ 1 then none else _) = _
  rw [if_neg (by omega)]
  -- A member begins with a quote, so there is one.
  rfl

theorem recovers_array {items : List Value} (hall : ∀ v ∈ items, Recovers v) :
    Recovers (.array items) := by
  intro n fuel rest hreadable hfuel hrest
  obtain ⟨hpos, hitems⟩ := Value.readable_array_iff.1 hreadable
  obtain _ | fuel := fuel
  · omega
  obtain ⟨m, rfl⟩ : ∃ m, n = m + 1 := ⟨n - 1, by omega⟩
  cases items with
  | nil => rfl
  | cons v items =>
    rw [length_chars_array_cons] at hfuel
    have hread : items? fuel (m + 1) (v.chars ++ (following Value.chars items ++ ']' :: rest))
        = _ :=
      items?_chars hall hitems (by omega) rest
    rw [value?_array_cons, hread]
    rfl

theorem recovers_object {members : List (String × Value)} (hall : ∀ m ∈ members, Recovers m.2) :
    Recovers (.object members) := by
  intro n fuel rest hreadable hfuel hrest
  obtain ⟨hpos, -, hmembers⟩ := Value.readable_object_iff.1 hreadable
  obtain _ | fuel := fuel
  · omega
  obtain ⟨k, rfl⟩ : ∃ k, n = k + 1 := ⟨n - 1, by omega⟩
  cases members with
  | nil => rfl
  | cons m members =>
    rw [length_chars_object_cons] at hfuel
    have hread : members? fuel (k + 1)
        (Value.memberText m ++ (following Value.memberText members ++ '\x7d' :: rest)) = _ :=
      members?_chars hall hmembers (by omega) rest
    rw [value?_object_cons, hread]
    rfl

/-- The text of any value is read back, with what may stand behind it. -/
theorem recovers (v : Value) : Recovers v := by
  induction v using Value.induction with
  | null =>
    intro n fuel rest _ hfuel _
    obtain _ | fuel := fuel
    · omega
    rfl
  | bool b =>
    intro n fuel rest _ hfuel _
    obtain _ | fuel := fuel
    · omega
    cases b <;> rfl
  | number n =>
    intro m fuel rest hreadable hfuel hrest
    obtain _ | fuel := fuel
    · omega
    exact value?_number hreadable hrest
  | string s =>
    intro n fuel rest _ hfuel _
    obtain _ | fuel := fuel
    · omega
    show value? (fuel + 1) (n + 1) (stringChars s ++ rest) = _
    rw [stringChars_append, value?]
    show (string? _).map _ = _
    rw [string?_escaped]
    rfl
  | array items ih => exact recovers_array ih
  | object members ih => exact recovers_object ih

/-! ## Canonical values -/

theorem canonicalItems_eq {items : List Value} (h : ∀ v ∈ items, v.canonical = v) :
    Value.canonicalItems items = items := by
  induction items with
  | nil => rfl
  | cons v rest ih =>
    rw [List.forall_mem_cons] at h
    rw [Value.canonicalItems, h.1, ih h.2]

theorem canonicalMembers_eq {members : List (String × Value)}
    (h : ∀ m ∈ members, m.2.canonical = m.2) :
    Value.canonicalMembers members = members := by
  induction members with
  | nil => rfl
  | cons m rest ih =>
    rw [List.forall_mem_cons] at h
    rw [Value.canonicalMembers, h.1, ih h.2]

theorem canonical_of_wellFormed {v : Value} (h : v.WellFormed) : v.canonical = v := by
  induction v using Value.induction with
  | array items ih =>
    have hitems := Value.wellFormedItems_iff.1 h
    rw [Value.canonical, canonicalItems_eq fun v hv => ih v hv (hitems v hv)]
  | object members ih =>
    obtain ⟨hsorted, hmembers⟩ := h
    have hall := Value.wellFormedMembers_iff.1 hmembers
    rw [Value.canonical, canonicalMembers_eq fun m hm => ih m hm (hall m hm), hsorted.ofList_eq]
  | _ => rfl

theorem closes_nil : Closes [] := fun c hc => by cases hc

/-- The text of a value is read with fuel for its length and with nothing behind it. -/
theorem readRaw?_text_eq_bind (v : Value) :
    readRaw? v.text = (value? (v.chars.length + 1) (depthLimit - 1 + 1) (v.chars ++ [])).bind
      fun x =>
      if (skipSpace x.2).isEmpty then some x.1 else none := by
  have hchars : v.text.toList = v.chars := String.toList_ofList
  have hlimit : depthLimit - 1 + 1 = depthLimit := rfl
  rw [List.append_nil, hlimit]
  unfold readRaw? readWithin?
  rw [hchars]
  dsimp only
  cases value? (v.chars.length + 1) depthLimit v.chars <;> rfl

theorem read?_text_eq_bind (v : Value) :
    read? v.text = (value? (v.chars.length + 1) (depthLimit - 1 + 1) (v.chars ++ [])).bind fun x =>
      if (skipSpace x.2).isEmpty then some x.1.canonical else none := by
  rw [read?, readRaw?_text_eq_bind, Option.map_bind]
  congr 1
  funext x
  exact apply_ite (Option.map Value.canonical) _ _ _

/-- A value that is not nested too deep is read back from its text. -/
theorem read?_text {v : Value} (h : v.Readable (depthLimit - 1)) : read? v.text = some v := by
  rw [read?_text_eq_bind, recovers v (depthLimit - 1) _ [] h (Nat.lt_succ_self _) closes_nil,
    Option.bind_some]
  show some v.canonical = some v
  rw [canonical_of_wellFormed h.wellFormed]

end Larder.Json
