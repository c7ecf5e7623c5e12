import Larder.Proofs.Json.Text

/-!
Reading a text from left to right only for its brackets and quotes.

A value leaves the reader as deep as it found it, so the text of an object closes its first bracket
at its very end.  Where the first name of the object begins with a letter, a reader that is
somewhere in another text cannot reach the end of that text by reading the object: in a string, the
second quote ends the string and the letter is out of place (`scan_object_ne_done`).
-/

namespace Larder.Json

/-- Where in a text a reader is: between the tokens inside so many brackets more than one, in a
string there, behind a backslash in it, right behind its end, behind the last bracket, or at a
character that no text has there. -/
inductive Spot where
  | plain (depth : Nat)
  | quoted (depth : Nat)
  | escaped (depth : Nat)
  | closed (depth : Nat)
  | done
  | broken
deriving DecidableEq

namespace Spot

def leave : Nat → Spot
  | 0 => done
  | depth + 1 => plain depth

def step : Spot → Char → Spot
  | plain depth, c =>
    if c = '"' then quoted depth
    else if c = '[' ∨ c = '\x7b' then plain (depth + 1)
    else if c = ']' ∨ c = '\x7d' then leave depth
    else plain depth
  | quoted depth, c =>
    if c = '"' then closed depth else if c = '\\' then escaped depth else quoted depth
  | escaped depth, c =>
    if c ∈ ['"', '\\', 'b', 'f', 'n', 'r', 't', 'u'] then quoted depth else broken
  | closed depth, c =>
    if c = ',' ∨ c = ':' then plain depth
    else if c = ']' ∨ c = '\x7d' then leave depth
    else broken
  | done, _ => broken
  | broken, _ => broken

def scan (q : Spot) (cs : List Char) : Spot := cs.foldl step q

theorem scan_append (q : Spot) (a b : List Char) : q.scan (a ++ b) = (q.scan a).scan b :=
  List.foldl_append

theorem scan_cons (q : Spot) (c : Char) (cs : List Char) : q.scan (c :: cs) = (q.step c).scan cs :=
  rfl

theorem scan_broken (cs : List Char) : broken.scan cs = broken := by
  induction cs with
  | nil => rfl
  | cons c cs ih => rw [scan_cons, step, ih]

theorem scan_of_step_eq {q : Spot} {cs : List Char} (h : ∀ c ∈ cs, q.step c = q) :
    q.scan cs = q := by
  induction cs with
  | nil => rfl
  | cons c cs ih =>
    rw [List.forall_mem_cons] at h
    rw [scan_cons, h.1, ih h.2]

/-! ## Tokens -/

theorem step_plain_of_isNumeral {c : Char} (hc : Binary64.isNumeral c = true) (depth : Nat) :
    (plain depth).step c = plain depth := by
  have hne : ∀ d, Binary64.isNumeral d = false → c ≠ d := fun _ => Binary64.ne_of_test hc
  rw [step, if_neg (hne _ rfl), if_neg (not_or.2 ⟨hne _ rfl, hne _ rfl⟩),
    if_neg (not_or.2 ⟨hne _ rfl, hne _ rfl⟩)]

theorem hexDigit_ne_special {n : Nat} (hn : n < 16) :
    Text.hexDigit n ≠ '"' ∧ Text.hexDigit n ≠ '\\' := by
  have h : ∀ n < 16, Text.hexDigit n ≠ '"' ∧ Text.hexDigit n ≠ '\\' := by decide
  exact h n hn

theorem step_quoted {c : Char} (hquote : c ≠ '"') (hback : c ≠ '\\') (depth : Nat) :
    (quoted depth).step c = quoted depth := by
  rw [step, if_neg hquote, if_neg hback]

theorem scan_escapedChar (c : Char) (depth : Nat) :
    (quoted depth).scan (escapedChar c) = quoted depth := by
  unfold escapedChar
  split
  · rfl
  split
  · rfl
  split
  · rfl
  split
  · rfl
  split
  · rfl
  split
  · rfl
  split
  · rfl
  split
  · next hc =>
    have hhigh := hexDigit_ne_special (n := c.toNat / 16) (by omega)
    have hlow := hexDigit_ne_special (n := c.toNat % 16) (by omega)
    show ((quoted depth).step (Text.hexDigit (c.toNat / 16))).step (Text.hexDigit (c.toNat % 16))
        = quoted depth
    rw [step_quoted hhigh.1 hhigh.2, step_quoted hlow.1 hlow.2]
  · next hquote hback _ _ _ _ _ _ => exact step_quoted hquote hback depth

theorem scan_stringChars (s : String) (depth : Nat) :
    (plain depth).scan (stringChars s) = closed depth := by
  have hbody : ∀ cs : List Char, (quoted depth).scan (cs.flatMap escapedChar) = quoted depth := by
    intro cs
    induction cs with
    | nil => rfl
    | cons c cs ih => rw [List.flatMap_cons, scan_append, scan_escapedChar, ih]
  have hopen : (plain depth).step '"' = quoted depth := rfl
  rw [stringChars, List.cons_append, scan_cons, hopen, scan_append, hbody]
  rfl

/-! ## Values -/

/-- Behind a value: a string leaves the reader behind its quote. -/
def Behind (depth : Nat) (q : Spot) : Prop := q = plain depth ∨ q = closed depth

theorem Behind.step_comma {depth : Nat} {q : Spot} (h : Behind depth q) :
    q.step ',' = plain depth := by
  rcases h with rfl | rfl <;> rfl

theorem Behind.step_bracket {depth : Nat} {q : Spot} (h : Behind depth q) :
    q.step ']' = leave depth := by
  rcases h with rfl | rfl <;> rfl

theorem Behind.step_brace {depth : Nat} {q : Spot} (h : Behind depth q) :
    q.step '\x7d' = leave depth := by
  rcases h with rfl | rfl <;> rfl

theorem scan_commaSeparated {α : Type} {f : α → List Char} {depth : Nat} {as : List α}
    (h : ∀ a ∈ as, Behind depth ((plain depth).scan (f a))) :
    Behind depth ((plain depth).scan (commaSeparated (as.map f))) := by
  have hfollowing : ∀ (bs : List α) (q : Spot),
      (∀ a ∈ bs, Behind depth ((plain depth).scan (f a))) →
      Behind depth q → Behind depth (q.scan (following f bs)) := by
    intro bs
    induction bs with
    | nil => exact fun q _ hq => hq
    | cons b bs ih =>
      intro q hbs hq
      rw [List.forall_mem_cons] at hbs
      rw [following, List.flatMap_cons, scan_append, scan_cons, hq.step_comma]
      exact ih _ hbs.2 hbs.1
  cases as with
  | nil => exact Or.inl rfl
  | cons a as =>
    rw [List.forall_mem_cons] at h
    rw [commaSeparated_cons, scan_append]
    exact hfollowing as _ h.2 h.1

/-- The members of an object and its closing brace, where each value leaves the reader as deep as it
was. -/
theorem scan_members {members : List (String × Value)} {depth : Nat}
    (h : ∀ m ∈ members, Behind depth ((plain depth).scan m.2.chars)) :
    (plain depth).scan (commaSeparated (Value.memberChars members) ++ ['\x7d']) = leave depth := by
  have hmember : ∀ m ∈ members, Behind depth ((plain depth).scan (Value.memberText m)) := by
    intro m hm
    rw [Value.memberText, scan_append, scan_stringChars, scan_cons]
    exact h m hm
  have hinner := scan_commaSeparated hmember
  rw [← Value.memberChars_eq_map] at hinner
  rw [scan_append]
  exact hinner.step_brace

/-- A value leaves the reader inside the brackets it was in. -/
theorem scan_chars (v : Value) (depth : Nat) : Behind depth ((plain depth).scan v.chars) := by
  induction v using Value.induction generalizing depth with
  | null => exact Or.inl rfl
  | bool b => cases b <;> exact Or.inl rfl
  | number n =>
    exact Or.inl (scan_of_step_eq fun c hc =>
      step_plain_of_isNumeral (n.chars_isNumeral c hc) depth)
  | string s => exact Or.inr (scan_stringChars s depth)
  | array items ih =>
    have hinner := scan_commaSeparated fun v hv => ih v hv (depth + 1)
    rw [← Value.itemChars_eq_map] at hinner
    refine Or.inl ?_
    rw [Value.chars, bracketed, List.cons_append, scan_cons, scan_append]
    exact hinner.step_bracket
  | object members ih =>
    refine Or.inl ?_
    rw [Value.chars, braced, List.cons_append, scan_cons]
    exact scan_members fun m hm => ih m hm (depth + 1)

/-! ## Objects within texts -/

theorem escapedChar_of_isAlpha {c : Char} (hc : c.isAlpha = true) : escapedChar c = [c] := by
  have hne : ∀ d, d.isAlpha = false → c ≠ d := fun _ => Binary64.ne_of_test hc
  have hcontrol : ∀ n < 0x20, c.toNat ≠ n := by
    intro n hn h
    have hnone : ∀ n < 0x20, (Char.ofNat n).isAlpha = false := by decide
    refine hne _ (hnone n hn) ?_
    rw [← h, Char.ofNat_toNat]
  unfold escapedChar
  rw [if_neg (hne _ rfl), if_neg (hne _ rfl), if_neg (hcontrol _ (by omega)),
    if_neg (hcontrol _ (by omega)),
    if_neg (hne _ rfl), if_neg (hne _ rfl), if_neg (hne _ rfl), if_neg fun h => hcontrol _ h rfl]

theorem step_closed_of_isAlpha {c : Char} (hc : c.isAlpha = true) (depth : Nat) :
    (closed depth).step c = broken := by
  have hne : ∀ d, d.isAlpha = false → c ≠ d := fun _ => Binary64.ne_of_test hc
  rw [step, if_neg (not_or.2 ⟨hne _ rfl, hne _ rfl⟩), if_neg (not_or.2 ⟨hne _ rfl, hne _ rfl⟩)]

/-- Whether the first name of an object, if there is one, begins with a letter. -/
def LetterFirst (members : List (String × Value)) : Prop :=
  ∀ m ∈ members.head?, ∃ c cs, m.1.toList = c :: cs ∧ c.isAlpha = true

/-- No text ends with an object that begins inside it. -/
theorem scan_object_ne_done {members : List (String × Value)} (hfirst : LetterFirst members)
    (q : Spot) :
    q.scan (Value.object members).chars ≠ done := by
  cases q with
  | plain depth =>
    rcases scan_chars (.object members) depth with h | h <;> rw [h] <;> exact Spot.noConfusion
  | quoted depth =>
    cases members with
    | nil => exact Spot.noConfusion
    | cons m members =>
      obtain ⟨c, cs, hname, hc⟩ := hfirst m rfl
      -- In a string the first quote ends it, and no letter comes behind that.
      have htext : ∃ rest, (Value.object (m :: members)).chars = '\x7b' :: '"' :: c :: rest := by
        rw [Value.chars, Value.memberChars_eq_map, commaSeparated_cons, Value.memberText,
          stringChars, hname, List.flatMap_cons, escapedChar_of_isAlpha hc]
        exact ⟨_, rfl⟩
      obtain ⟨rest, htext⟩ := htext
      rw [htext, scan_cons, scan_cons, scan_cons]
      show (((closed depth).step c).scan rest) ≠ done
      rw [step_closed_of_isAlpha hc, scan_broken]
      exact Spot.noConfusion
  | _ =>
    rw [Value.chars, braced, List.cons_append, scan_cons]
    show broken.scan _ ≠ done
    rw [scan_broken]
    exact Spot.noConfusion

/-- An object's text is no proper suffix of another one's. -/
theorem object_not_proper_suffix {members members' : List (String × Value)}
    (hfirst : LetterFirst members) {front : List Char}
    (h : (Value.object members').chars = front ++ (Value.object members).chars) : front = [] := by
  cases front with
  | nil => rfl
  | cons c front =>
    exfalso
    have hwhole : (plain 0).scan (commaSeparated (Value.memberChars members') ++ ['\x7d']) = done :=
      scan_members fun m _ => scan_chars m.2 0
    have hrest : commaSeparated (Value.memberChars members') ++ ['\x7d']
        = front ++ (Value.object members).chars :=
      (List.cons.inj h).2
    rw [hrest, scan_append] at hwhole
    exact scan_object_ne_done hfirst _ hwhole

end Spot

end Larder.Json
