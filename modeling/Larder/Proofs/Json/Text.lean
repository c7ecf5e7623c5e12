import Larder.Json.Printer
import Larder.Json.Reader
import Larder.Proofs.Number.DocumentText

/-!
The text of a value determines it, and where it ends.

The main fact, `chars_append_inj`, is about a value's text with something behind it that does not go
on with a number, which is what stands behind the items of an array and the members of an object.
-/

namespace Larder.Json

/-! ## Induction -/

/-- Induction over values, with the hypothesis for every item and every member. -/
theorem Value.induction {P : Value → Prop} (null : P .null) (bool : ∀ b, P (.bool b))
    (number : ∀ n, P (.number n)) (string : ∀ s, P (.string s))
    (array : ∀ items : List Value, (∀ v ∈ items, P v) → P (.array items))
    (object : ∀ members : List (String × Value), (∀ m ∈ members, P m.2) → P (.object members))
    (v : Value) : P v := by
  refine Value.rec (motive_1 := P) (motive_2 := fun items => ∀ v ∈ items, P v)
    (motive_3 := fun members => ∀ m ∈ members, P m.2) (motive_4 := fun m => P m.2)
    null bool number string array object (List.forall_mem_nil _) ?_ (List.forall_mem_nil _) ?_ ?_ v
  · intro head tail hhead htail
    exact List.forall_mem_cons.2 ⟨hhead, htail⟩
  · intro head tail hhead htail
    exact List.forall_mem_cons.2 ⟨hhead, htail⟩
  · intro _ _ hmember
    exact hmember

/-! ## Strings -/

theorem hexNumber?_control {n : Nat} (hn : n < 0x20) :
    Text.hexNumber? ['0', '0', Text.hexDigit (n / 16), Text.hexDigit (n % 16)] = some n := by
  have h : ∀ n < 0x20, Text.hexNumber? ['0', '0', Text.hexDigit (n / 16), Text.hexDigit (n % 16)]
      = some n := by
    decide
  exact h n hn

/-- The reader takes the escape of a character for that character. -/
theorem stringBody?_escapedChar (c : Char) (fuel : Nat) (rest : List Char) :
    stringBody? (fuel + 1) (escapedChar c ++ rest)
      = (stringBody? fuel rest).map fun (body, rest') => (c :: body, rest') := by
  -- What the escapes have in common: a backslash and what the reader takes for the character.
  have escaped : ∀ cs, escape? cs = some (c, rest) → stringBody? (fuel + 1) ('\\' :: cs)
      = (stringBody? fuel rest).map fun (body, rest') => (c :: body, rest') := by
    intro cs hcs
    rw [stringBody?, if_neg (by decide), if_pos rfl, hcs, Option.bind_eq_bind, Option.bind_some]
    dsimp only
    cases stringBody? fuel rest <;> rfl
  unfold escapedChar
  split
  · next hc => exact escaped _ (by rw [hc]; rfl)
  split
  · next hc => exact escaped _ (by rw [hc]; rfl)
  split
  · next hc => exact escaped _ (by rw [Char.toNat_inj.1 (hc.trans (rfl : _ = '\x08'.toNat))]; rfl)
  split
  · next hc => exact escaped _ (by rw [Char.toNat_inj.1 (hc.trans (rfl : _ = '\x0c'.toNat))]; rfl)
  split
  · next hc => exact escaped _ (by rw [hc]; rfl)
  split
  · next hc => exact escaped _ (by rw [hc]; rfl)
  split
  · next hc => exact escaped _ (by rw [hc]; rfl)
  split
  · next hc =>
    refine escaped _ ?_
    have hquad : unicodeEscape?
        ('0' :: '0' :: Text.hexDigit (c.toNat / 16) :: Text.hexDigit (c.toNat % 16) :: rest)
        = some (c, rest) := by
      rw [unicodeEscape?, hexQuad?, hexNumber?_control hc, Option.map_some, Option.bind_eq_bind,
        Option.bind_some]
      dsimp only
      rw [if_neg (by omega), if_neg (by omega), Char.ofNat_toNat]
    exact hquad
  · next hquote hback _ _ _ _ _ hcontrol =>
    rw [List.singleton_append, stringBody?, if_neg hquote, if_neg hback, if_neg hcontrol]
    cases stringBody? fuel rest <;> rfl

theorem stringBody?_escaped {cs : List Char} {fuel : Nat} (hfuel : cs.length < fuel)
    (rest : List Char) :
    stringBody? fuel (cs.flatMap escapedChar ++ '"' :: rest) = some (cs, rest) := by
  induction cs generalizing fuel with
  | nil =>
    obtain ⟨n, rfl⟩ := Nat.exists_eq_add_of_lt hfuel
    rfl
  | cons c cs ih =>
    obtain ⟨n, rfl⟩ := Nat.exists_eq_add_of_lt hfuel
    rw [List.flatMap_cons, List.append_assoc, stringBody?_escapedChar,
      ih (by rw [List.length_cons]; omega)]
    rfl

theorem stringChars_append (s : String) (rest : List Char) :
    stringChars s ++ rest = '"' :: (s.toList.flatMap escapedChar ++ '"' :: rest) := by
  unfold stringChars
  rw [List.cons_append, List.cons_append, List.append_assoc, List.singleton_append]

/-- A string ends at the first quote that is not escaped. -/
theorem stringChars_append_inj {s t : String} {r u : List Char}
    (h : stringChars s ++ r = stringChars t ++ u) :
    s = t ∧ r = u := by
  obtain ⟨fuel, hfuel⟩ : ∃ fuel, s.toList.length + t.toList.length < fuel := ⟨_, Nat.lt_succ_self _⟩
  have hs := @stringBody?_escaped s.toList fuel (by omega) r
  have ht := @stringBody?_escaped t.toList fuel (by omega) u
  rw [stringChars_append, stringChars_append] at h
  rw [(List.cons.inj h).2, ht] at hs
  obtain ⟨hbody, hrest⟩ := Prod.mk.inj (Option.some.inj hs)
  exact ⟨String.toList_inj.1 hbody.symm, hrest.symm⟩

/-! ## Numbers -/

/-- What stands behind a value does not go on with a number. -/
def Ends (rest : List Char) : Prop := ∀ c ∈ rest.head?, Binary64.isNumeral c = false

/-- Where all characters of two texts pass a test, and those behind them do not, the texts end
together. -/
theorem append_inj_of_all {p : Char → Bool} {a b r s : List Char} (ha : ∀ c ∈ a, p c = true)
    (hb : ∀ c ∈ b, p c = true) (hr : ∀ c ∈ r.head?, p c = false) (hs : ∀ c ∈ s.head?, p c = false)
    (h : a ++ r = b ++ s) : a = b ∧ r = s := by
  have htake : ∀ {l t : List Char}, (∀ c ∈ l, p c = true) → (∀ c ∈ t.head?, p c = false) →
      (l ++ t).takeWhile p = l := by
    intro l t hl ht
    rw [List.takeWhile_append_of_pos hl]
    cases t with
    | nil => simp
    | cons c t => simp [ht c rfl]
  have hab : a = b := by
    rw [← htake ha hr, h, htake hb hs]
  rw [hab] at h
  exact ⟨hab, List.append_cancel_left h⟩

theorem integerChars_isDigit_or_sign (n : Int) :
    ∀ c ∈ integerChars n, c.isDigit = true ∨ c = '-' := by
  have hd : ∀ c ∈ Nat.toDigits 10 n.natAbs, c.isDigit = true ∨ c = '-' :=
    fun c hc => Or.inl (Nat.isDigit_of_mem_toDigits (by omega) (by omega) hc)
  unfold integerChars
  split
  · exact List.forall_mem_cons.2 ⟨Or.inr rfl, hd⟩
  · exact hd

theorem integerChars_injective {m n : Int} (h : integerChars m = integerChars n) : m = n := by
  have hdigits : ∀ {a b : Nat}, Nat.toDigits 10 a = Nat.toDigits 10 b → a = b := by
    intro a b hab
    rw [← @Nat.ofDigitChars_ten_toDigits a, hab, Nat.ofDigitChars_ten_toDigits]
  have hsign : ∀ {a : Nat} {l : List Char}, Nat.toDigits 10 a ≠ '-' :: l := by
    intro a l hal
    have hc : ('-' : Char).isDigit = true :=
      Nat.isDigit_of_mem_toDigits (b := 10) (n := a) (by omega) (by omega)
        (by rw [hal]; exact List.mem_cons_self)
    exact absurd hc (by decide)
  unfold integerChars at h
  by_cases hm : m < 0
  · by_cases hn : n < 0
    · rw [if_pos hm, if_pos hn] at h
      have := hdigits (List.cons.inj h).2
      omega
    · rw [if_pos hm, if_neg hn] at h
      exact absurd h.symm hsign
  · by_cases hn : n < 0
    · rw [if_neg hm, if_pos hn] at h
      exact absurd h hsign
    · rw [if_neg hm, if_neg hn] at h
      have := hdigits h
      omega

theorem documentText_shape (x : Binary64) :
    (∀ c ∈ x.documentText, Binary64.isNumeral c = true) ∧
    ('.' ∈ x.documentText ∨ 'e' ∈ x.documentText) := by
  obtain ⟨-, hall, hmark⟩ := x.magnitudeText_shape
  rw [Binary64.documentText_eq, Binary64.withSign]
  split
  · exact ⟨List.forall_mem_cons.2 ⟨rfl, hall⟩,
      hmark.imp (List.mem_cons_of_mem _) (List.mem_cons_of_mem _)⟩
  · exact ⟨hall, hmark⟩

namespace Number

theorem chars_isNumeral (n : Number) : ∀ c ∈ n.chars, Binary64.isNumeral c = true := by
  cases n with
  | integer n =>
    intro c hc
    rcases integerChars_isDigit_or_sign n c hc with h | rfl
    · exact Binary64.isNumeral_of_isDigit h
    · rfl
  | float x => exact (documentText_shape x).1

theorem chars_ne_nil (n : Number) : n.chars ≠ [] := by
  cases n with
  | integer n =>
    rw [chars, integerChars]
    split
    · exact List.cons_ne_nil _ _
    · exact Nat.toDigits_ne_nil
  | float x =>
    intro h
    rcases (documentText_shape x).2 with hmem | hmem <;> exact List.ne_nil_of_mem hmem h

/-- Only the text of a float has a point or a power. -/
theorem integerChars_ne_documentText (n : Int) (x : Binary64) :
    integerChars n ≠ x.documentText := by
  intro h
  have hneither : ∀ c, c = '.' ∨ c = 'e' → c ∉ x.documentText := by
    intro c hc hmem
    rw [← h] at hmem
    rcases hc with rfl | rfl <;> rcases integerChars_isDigit_or_sign n _ hmem with h' | h' <;>
      exact absurd h' (by decide)
  rcases (documentText_shape x).2 with hmem | hmem
  · exact hneither _ (Or.inl rfl) hmem
  · exact hneither _ (Or.inr rfl) hmem

theorem chars_injective {m n : Number} (h : m.chars = n.chars) : m = n := by
  cases m with
  | integer a =>
    cases n with
    | integer b => rw [integerChars_injective h]
    | float y => exact absurd h (integerChars_ne_documentText a y)
  | float x =>
    cases n with
    | integer b => exact absurd h.symm (integerChars_ne_documentText b x)
    | float y => rw [Binary64.documentText_injective h]

theorem chars_append_inj {m n : Number} {r s : List Char} (hr : Ends r) (hs : Ends s)
    (h : m.chars ++ r = n.chars ++ s) : m = n ∧ r = s := by
  obtain ⟨hchars, hrest⟩ := append_inj_of_all m.chars_isNumeral n.chars_isNumeral hr hs h
  exact ⟨chars_injective hchars, hrest⟩

end Number

/-! ## Items and members -/

/-- Whether a text in front of others is found in one way. -/
def Splits {α : Type} (f : α → List Char) (a : α) : Prop :=
  ∀ b r s, Ends r → Ends s → f a ++ r = f b ++ s → a = b ∧ r = s

section Separated

variable {α : Type} {f : α → List Char} {close : Char}

/-- The pieces behind the first one, each with the comma in front of it. -/
def following (f : α → List Char) (as : List α) : List Char := as.flatMap fun a => ',' :: f a

theorem commaSeparated_cons (f : α → List Char) (a : α) (as : List α) :
    commaSeparated ((a :: as).map f) = f a ++ following f as := by
  induction as generalizing a with
  | nil => exact (List.append_nil _).symm
  | cons b as ih =>
    rw [List.map_cons, List.map_cons, commaSeparated, ← List.map_cons, ih]
    · rfl
    · intro h
      cases h

theorem ends_following (hclose : Binary64.isNumeral close = false) (as : List α) (r : List Char) :
    Ends (following f as ++ close :: r) := by
  intro c hc
  cases as with
  | nil =>
    obtain rfl : close = c := Option.some.inj hc
    exact hclose
  | cons a as =>
    obtain rfl : ',' = c := Option.some.inj hc
    rfl

theorem following_append_inj (hclose : Binary64.isNumeral close = false) (hcomma : close ≠ ',')
    {as bs : List α} (hsplit : ∀ a ∈ as, Splits f a) {r s : List Char}
    (h : following f as ++ close :: r = following f bs ++ close :: s) : as = bs ∧ r = s := by
  induction as generalizing bs with
  | nil =>
    cases bs with
    | nil => exact ⟨rfl, (List.cons.inj h).2⟩
    | cons b bs => exact absurd (List.cons.inj h).1 hcomma
  | cons a as ih =>
    cases bs with
    | nil => exact absurd (List.cons.inj h).1.symm hcomma
    | cons b bs =>
      rw [List.forall_mem_cons] at hsplit
      have hpiece : f a ++ (following f as ++ close :: r)
          = f b ++ (following f bs ++ close :: s) := by
        rw [← List.append_assoc, ← List.append_assoc]
        exact (List.cons.inj h).2
      obtain ⟨rfl, hrest⟩ :=
        hsplit.1 b _ _ (ends_following hclose as r) (ends_following hclose bs s) hpiece
      obtain ⟨rfl, hr⟩ := ih hsplit.2 hrest
      exact ⟨rfl, hr⟩

/-- Pieces with commas between them and a closing character behind them determine the list, where no
piece begins with the closing character. -/
theorem commaSeparated_append_inj (hclose : Binary64.isNumeral close = false) (hcomma : close ≠ ',')
    (hhead : ∀ a r s, f a ++ r ≠ close :: s) {as bs : List α} (hsplit : ∀ a ∈ as, Splits f a)
    {r s : List Char}
    (h : commaSeparated (as.map f) ++ close :: r = commaSeparated (bs.map f) ++ close :: s) :
    as = bs ∧ r = s := by
  cases as with
  | nil =>
    cases bs with
    | nil => exact ⟨rfl, (List.cons.inj h).2⟩
    | cons b bs =>
      rw [commaSeparated_cons, List.append_assoc] at h
      exact absurd h.symm (hhead b _ _)
  | cons a as =>
    cases bs with
    | nil =>
      rw [commaSeparated_cons, List.append_assoc] at h
      exact absurd h (hhead a _ _)
    | cons b bs =>
      rw [commaSeparated_cons, commaSeparated_cons, List.append_assoc, List.append_assoc] at h
      rw [List.forall_mem_cons] at hsplit
      obtain ⟨rfl, hrest⟩ :=
        hsplit.1 b _ _ (ends_following hclose as r) (ends_following hclose bs s) h
      obtain ⟨rfl, hr⟩ := following_append_inj hclose hcomma hsplit.2 hrest
      exact ⟨rfl, hr⟩

end Separated

/-! ## Values -/

namespace Value

theorem itemChars_eq_map (items : List Value) : itemChars items = items.map chars := by
  induction items with
  | nil => rfl
  | cons v rest ih => rw [itemChars, ih, List.map_cons]

def memberText (m : String × Value) : List Char := stringChars m.1 ++ ':' :: m.2.chars

theorem memberChars_eq_map (members : List (String × Value)) :
    memberChars members = members.map memberText := by
  induction members with
  | nil => rfl
  | cons m rest ih =>
    obtain ⟨k, v⟩ := m
    rw [memberChars, ih, List.map_cons, memberText]

/-- The kind of the value whose text begins with a character; no value begins with any other
character. -/
def kindAt (c : Char) : String :=
  if Binary64.isNumeral c then "number"
  else if c = 'n' then "null"
  else if c = 't' ∨ c = 'f' then "boolean"
  else if c = '"' then "string"
  else if c = '[' then "array"
  else if c = '\x7b' then "object"
  else ""

theorem kind_ne_empty (v : Value) : v.kind ≠ "" := by
  cases v <;> simp only [kind] <;> decide

theorem chars_head (v : Value) : ∃ c rest, v.chars = c :: rest ∧ kindAt c = v.kind := by
  cases v with
  | null => exact ⟨_, _, rfl, rfl⟩
  | bool b => cases b <;> exact ⟨_, _, rfl, rfl⟩
  | number n =>
    have hne : n.chars ≠ [] := n.chars_ne_nil
    obtain ⟨c, rest, hc⟩ := List.exists_cons_of_ne_nil hne
    refine ⟨c, rest, hc, ?_⟩
    have hnum := n.chars_isNumeral c (by rw [hc]; exact List.mem_cons_self)
    rw [kindAt, if_pos hnum]
    rfl
  | string s => exact ⟨_, _, rfl, rfl⟩
  | array items => exact ⟨_, _, rfl, rfl⟩
  | object members => exact ⟨_, _, rfl, rfl⟩

theorem kind_eq_of_chars {v w : Value} {r s : List Char} (h : v.chars ++ r = w.chars ++ s) :
    v.kind = w.kind := by
  obtain ⟨c, rest, hv, hc⟩ := v.chars_head
  obtain ⟨d, rest', hw, hd⟩ := w.chars_head
  rw [hv, hw] at h
  rw [← hc, ← hd, (List.cons.inj h).1]

/-- No value begins with a closing bracket. -/
theorem chars_append_ne_cons {close : Char} (hclose : kindAt close = "") (v : Value)
    (r s : List Char) :
    v.chars ++ r ≠ close :: s := by
  intro h
  obtain ⟨c, rest, hv, hc⟩ := v.chars_head
  rw [hv] at h
  rw [(List.cons.inj h).1, hclose] at hc
  exact v.kind_ne_empty hc.symm

theorem splits_memberText {m : String × Value} (hm : Splits chars m.2) : Splits memberText m := by
  intro m' r s hr hs h
  obtain ⟨k, v⟩ := m
  obtain ⟨k', v'⟩ := m'
  rw [memberText, memberText, List.append_assoc, List.append_assoc] at h
  obtain ⟨rfl, hv⟩ := stringChars_append_inj h
  obtain ⟨rfl, hrest⟩ := hm v' r s hr hs (List.cons.inj hv).2
  exact ⟨rfl, hrest⟩

/-- A value is read off the front of a text in one way. -/
theorem chars_append_inj (v : Value) : Splits chars v := by
  induction v using Value.induction with
  | null =>
    intro w r s _ _ h
    cases w with
    | null => exact ⟨rfl, List.append_cancel_left h⟩
    | _ => exact absurd (kind_eq_of_chars h) (by simp only [kind]; decide)
  | bool b =>
    intro w r s _ _ h
    cases w with
    | bool b' =>
      cases b <;> cases b'
      · exact ⟨rfl, List.append_cancel_left h⟩
      · exact absurd (List.cons.inj h).1 (by decide)
      · exact absurd (List.cons.inj h).1 (by decide)
      · exact ⟨rfl, List.append_cancel_left h⟩
    | _ => exact absurd (kind_eq_of_chars h) (by simp only [kind]; decide)
  | number n =>
    intro w r s hr hs h
    cases w with
    | number n' =>
      obtain ⟨rfl, hrest⟩ := Number.chars_append_inj hr hs h
      exact ⟨rfl, hrest⟩
    | _ => exact absurd (kind_eq_of_chars h) (by simp only [kind]; decide)
  | string t =>
    intro w r s _ _ h
    cases w with
    | string t' =>
      obtain ⟨rfl, hrest⟩ := stringChars_append_inj h
      exact ⟨rfl, hrest⟩
    | _ => exact absurd (kind_eq_of_chars h) (by simp only [kind]; decide)
  | array items ih =>
    intro w r s _ _ h
    cases w with
    | array items' =>
      rw [chars, chars, bracketed, bracketed, List.append_assoc, List.append_assoc,
        itemChars_eq_map, itemChars_eq_map] at h
      obtain ⟨rfl, hrest⟩ :=
        commaSeparated_append_inj rfl (by decide) (chars_append_ne_cons rfl) ih (List.cons.inj h).2
      exact ⟨rfl, hrest⟩
    | _ => exact absurd (kind_eq_of_chars h) (by simp only [kind]; decide)
  | object members ih =>
    intro w r s _ _ h
    cases w with
    | object members' =>
      rw [chars, chars, braced, braced, List.append_assoc, List.append_assoc, memberChars_eq_map,
        memberChars_eq_map] at h
      obtain ⟨rfl, hrest⟩ := commaSeparated_append_inj rfl (by decide)
        (fun m r s h => absurd (List.cons.inj h).1 (by decide))
          (fun m hm => splits_memberText (ih m hm))
        (List.cons.inj h).2
      exact ⟨rfl, hrest⟩
    | _ => exact absurd (kind_eq_of_chars h) (by simp only [kind]; decide)

theorem chars_injective {v w : Value} (h : v.chars = w.chars) : v = w := by
  have hends : Ends [] := fun c hc => by cases hc
  exact (chars_append_inj v w [] [] hends hends (by rw [h])).1

theorem text_injective {v w : Value} (h : v.text = w.text) : v = w :=
  chars_injective (String.ofList_inj.1 h)

end Value

end Larder.Json
