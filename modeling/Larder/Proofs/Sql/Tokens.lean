import Larder.Sql.Statement

/-!
The text of a statement as a server takes it apart: words, quoted texts and signs.

A placeholder is taken together with what is bound to it, the first one with the first binding, and
none may be left over on either side.  There are no escapes within quotes: a text with a backslash
there, or with a quote right behind the closing one, is not taken apart at all.

Statements are put together from pieces.  `Settles` and `Scans` say of a piece which tokens it adds
to those in front of it; the difference is whether another word could go on where it ends.
-/

namespace Larder.Sql

inductive Token where
  | word (s : String)
  | quoted (s : String)
  | sign (c : Char)
  | value (b : Binding)
deriving DecidableEq, Repr

/-- Where a scanner stands; the characters read so far come last first. -/
inductive Mode where
  | between
  | word (cs : List Char)
  | quoted (cs : List Char)
  | closed (cs : List Char)
  | broken

/-- The tokens found so far come last first. -/
structure Scanner where
  mode : Mode
  tokens : List Token
  bindings : List Binding

def quote : Char := '\x27'

def isWordChar (c : Char) : Bool := c.isAlphanum || c == '_'

namespace Scanner

/-- Ends the word or the quoted text that the scanner stands behind. -/
def flush : Scanner → Scanner
  | ⟨.word cs, ts, bs⟩ => ⟨.between, .word (String.ofList cs.reverse) :: ts, bs⟩
  | ⟨.closed cs, ts, bs⟩ => ⟨.between, .quoted (String.ofList cs.reverse) :: ts, bs⟩
  | s => s

def start (ts : List Token) (bs : List Binding) (c : Char) : Scanner :=
  if c = quote then ⟨.quoted [], ts, bs⟩
  else if c = '?' then
    match bs with
    | [] => ⟨.broken, ts, bs⟩
    | b :: rest => ⟨.between, .value b :: ts, rest⟩
  else if isWordChar c then ⟨.word [c], ts, bs⟩
  else if c = ' ' then ⟨.between, ts, bs⟩
  else ⟨.between, .sign c :: ts, bs⟩

def step : Scanner → Char → Scanner
  | ⟨.between, ts, bs⟩, c => start ts bs c
  | ⟨.word cs, ts, bs⟩, c =>
    if isWordChar c then ⟨.word (c :: cs), ts, bs⟩
      else start (.word (String.ofList cs.reverse) :: ts) bs c
  | ⟨.quoted cs, ts, bs⟩, c =>
    if c = quote then ⟨.closed cs, ts, bs⟩
    else if c = '\\' then ⟨.broken, ts, bs⟩
    else ⟨.quoted (c :: cs), ts, bs⟩
  | ⟨.closed cs, ts, bs⟩, c =>
    if c = quote then ⟨.broken, ts, bs⟩ else start (.quoted (String.ofList cs.reverse) :: ts) bs c
  | ⟨.broken, ts, bs⟩, _ => ⟨.broken, ts, bs⟩

def scan (s : Scanner) (cs : List Char) : Scanner := cs.foldl step s

theorem scan_append (s : Scanner) (cs ds : List Char) : s.scan (cs ++ ds) = (s.scan cs).scan ds :=
  List.foldl_append

theorem scan_cons (s : Scanner) (c : Char) (cs : List Char) :
    s.scan (c :: cs) = (s.step c).scan cs := rfl

/-- A character that goes on with nothing ends what stands in front of it. -/
theorem step_flush {c : Char} (hword : isWordChar c = false) (hquote : c ≠ quote) (s : Scanner) :
    s.flush.step c = s.step c := by
  obtain ⟨mode, ts, bs⟩ := s
  cases mode with
  | word cs =>
    show start _ bs c = if isWordChar c = true then _ else start _ bs c
    rw [hword, if_neg Bool.false_ne_true]
  | closed cs =>
    show start _ bs c = if c = quote then _ else start _ bs c
    rw [if_neg hquote]
  | _ => rfl

/-- Between quotes everything but a quote and a backslash is taken as it is. -/
theorem scan_quoted {cs : List Char} (h : ∀ c ∈ cs, c ≠ quote ∧ c ≠ '\\') (before : List Char)
    (ts : List Token) (bs : List Binding) :
    (Scanner.mk (.quoted before) ts bs).scan cs = ⟨.quoted (cs.reverse ++ before), ts, bs⟩ := by
  induction cs generalizing before with
  | nil => rfl
  | cons c cs ih =>
    rw [List.forall_mem_cons] at h
    have hstep : (Scanner.mk (.quoted before) ts bs).step c = ⟨.quoted (c :: before), ts, bs⟩ := by
      rw [step, if_neg h.1.1, if_neg h.1.2]
    rw [scan_cons, hstep, ih h.2, List.reverse_cons, List.append_assoc, List.singleton_append]

end Scanner

namespace Statement

/-- The tokens of a statement, if its text can be taken apart and has a placeholder for each
binding. -/
def tokens? (st : Statement) : Option (List Token) :=
  match ((Scanner.mk .between [] st.bindings).scan st.text.toList).flush with
  | ⟨.between, ts, []⟩ => some ts.reverse
  | _ => none

/-! ## Pieces -/

/-- The piece adds tokens, and nothing goes on behind it. -/
def Settles (st : Statement) (ts : List Token) : Prop :=
  ∀ done rest, (Scanner.mk .between done (st.bindings ++ rest)).scan st.text.toList
    = ⟨.between, ts.reverse ++ done, rest⟩

/-- The piece adds tokens, of which the last may go on. -/
def Scans (st : Statement) (ts : List Token) : Prop :=
  ∀ done rest, ((Scanner.mk .between done (st.bindings ++ rest)).scan st.text.toList).flush
    = ⟨.between, ts.reverse ++ done, rest⟩

/-- The piece goes on with nothing in front of it. -/
def Opens (st : Statement) : Prop :=
  ∃ c cs, st.text.toList = c :: cs ∧ isWordChar c = false ∧ c ≠ quote

theorem text_append (a b : Statement) : (a ++ b).text.toList = a.text.toList ++ b.text.toList :=
  String.toList_append

theorem bindings_append (a b : Statement) : (a ++ b).bindings = a.bindings ++ b.bindings := rfl

theorem append_assoc (a b c : Statement) : a ++ b ++ c = a ++ (b ++ c) := by
  show Statement.mk (a.text ++ b.text ++ c.text) (a.bindings ++ b.bindings ++ c.bindings) = _
  rw [String.append_assoc, List.append_assoc]
  rfl

theorem append_empty (a : Statement) : a ++ concat [] = a := by
  show Statement.mk _ _ = a
  rw [show (concat []).text = "" from rfl, String.append_empty,
    show (concat []).bindings = [] from rfl, List.append_nil]

section Pieces

variable {a b : Statement} {s t : List Token}

theorem Settles.scans (h : a.Settles s) : a.Scans s := by
  intro done rest
  rw [h]
  rfl

theorem Settles.append (ha : a.Settles s) (hb : b.Settles t) : (a ++ b).Settles (s ++ t) := by
  intro done rest
  rw [text_append, bindings_append, List.append_assoc, Scanner.scan_append, ha, hb,
    List.reverse_append, List.append_assoc]

theorem Settles.append_scans (ha : a.Settles s) (hb : b.Scans t) : (a ++ b).Scans (s ++ t) := by
  intro done rest
  rw [text_append, bindings_append, List.append_assoc, Scanner.scan_append, ha, hb,
    List.reverse_append, List.append_assoc]

theorem Scans.append (ha : a.Scans s) (hopen : b.Opens) (hb : b.Scans t) :
    (a ++ b).Scans (s ++ t) := by
  intro done rest
  obtain ⟨c, cs, htext, hword, hquote⟩ := hopen
  have hfirst := ha done (b.bindings ++ rest)
  have hsecond := hb (s.reverse ++ done) rest
  rw [htext, Scanner.scan_cons, ← hfirst, Scanner.step_flush hword hquote] at hsecond
  rw [text_append, bindings_append, List.append_assoc, Scanner.scan_append, htext,
    Scanner.scan_cons, hsecond, List.reverse_append, List.append_assoc]

theorem Opens.append (h : a.Opens) (b : Statement) : (a ++ b).Opens := by
  obtain ⟨c, cs, htext, hc⟩ := h
  exact ⟨c, cs ++ b.text.toList, by rw [text_append, htext, List.cons_append], hc⟩

theorem Scans.tokens?_eq (h : a.Scans s) : a.tokens? = some s := by
  have hall := h [] []
  rw [List.append_nil, List.append_nil] at hall
  rw [tokens?, hall]
  exact congrArg some (List.reverse_reverse s)

end Pieces

theorem settles_piece {s : String} {ts : List Token}
    (h : ∀ done rest, (Scanner.mk .between done rest).scan s.toList
      = ⟨.between, ts.reverse ++ done, rest⟩) :
    (piece s).Settles ts := h

theorem scans_piece {s : String} {ts : List Token}
    (h : ∀ done rest, ((Scanner.mk .between done rest).scan s.toList).flush
      = ⟨.between, ts.reverse ++ done, rest⟩) :
    (piece s).Scans ts := h

theorem settles_bound (b : Binding) : (bound b).Settles [.value b] := by
  intro done rest
  show (Scanner.mk .between done (b :: rest)).scan "?".toList = _
  rfl

theorem settles_empty : (piece "").Settles [] := settles_piece fun _ _ => rfl

theorem settles_concat {α : Type} {f : α → Statement} {ts : α → List Token} {xs : List α}
    (h : ∀ x ∈ xs, (f x).Settles (ts x)) : (concat (xs.map f)).Settles (xs.flatMap ts) := by
  induction xs with
  | nil => exact settles_empty
  | cons x xs ih =>
    rw [List.forall_mem_cons] at h
    exact h.1.append (ih h.2)

/-- Pieces of which each goes on with nothing, behind one that may go on. -/
theorem Scans.append_concat {α : Type} {a : Statement} {s : List Token} {f : α → Statement}
    {ts : α → List Token} {xs : List α} (ha : a.Scans s)
    (h : ∀ x ∈ xs, (f x).Opens ∧ (f x).Scans (ts x)) :
    (a ++ concat (xs.map f)).Scans (s ++ xs.flatMap ts) := by
  induction xs generalizing a s with
  | nil =>
    rw [List.map_nil, append_empty, List.flatMap_nil, List.append_nil]
    exact ha
  | cons x xs ih =>
    rw [List.forall_mem_cons] at h
    have hall := ih (ha.append h.1.1 h.1.2) h.2
    have hassoc : a ++ f x ++ concat (xs.map f) = a ++ concat ((x :: xs).map f) :=
      append_assoc _ _ _
    rw [hassoc, List.append_assoc] at hall
    exact hall

theorem settles_joined {α : Type} {between : String} {sep : List Token} {f : α → Statement}
    {ts : α → List Token} (hbetween : (piece between).Settles sep) {xs : List α}
    (h : ∀ x ∈ xs, (f x).Settles (ts x)) :
    (joined between (xs.map f)).Settles (List.intercalate sep (xs.map ts)) := by
  induction xs with
  | nil => exact settles_empty
  | cons x xs ih =>
    rw [List.forall_mem_cons] at h
    cases xs with
    | nil => simpa [joined] using h.1
    | cons y ys =>
      have hrest := (h.1.append hbetween).append (ih h.2)
      simpa [joined, List.intercalate, List.append_assoc] using hrest

/-! ## Placeholders -/

/-- As many placeholders as bindings. -/
def Balanced (st : Statement) : Prop := st.text.toList.count '?' = st.bindings.length

theorem Balanced.append {a b : Statement} (ha : a.Balanced) (hb : b.Balanced) :
    (a ++ b).Balanced := by
  unfold Balanced at *
  rw [text_append, bindings_append, List.count_append, List.length_append, ha, hb]

theorem balanced_bound (b : Binding) : (bound b).Balanced := by
  show "?".toList.count '?' = 1
  decide

theorem balanced_piece {s : String} (h : '?' ∉ s.toList) : (piece s).Balanced :=
  List.count_eq_zero.2 h

theorem balanced_concat {α : Type} {f : α → Statement} {xs : List α}
    (h : ∀ x ∈ xs, (f x).Balanced) :
    (concat (xs.map f)).Balanced := by
  induction xs with
  | nil => exact balanced_piece List.not_mem_nil
  | cons x xs ih =>
    rw [List.forall_mem_cons] at h
    exact h.1.append (ih h.2)

theorem balanced_joined {α : Type} {between : String} {f : α → Statement}
    (hbetween : (piece between).Balanced) {xs : List α} (h : ∀ x ∈ xs, (f x).Balanced) :
    (joined between (xs.map f)).Balanced := by
  induction xs with
  | nil => exact balanced_piece List.not_mem_nil
  | cons x xs ih =>
    rw [List.forall_mem_cons] at h
    cases xs with
    | nil => exact h.1
    | cons y ys => exact (h.1.append hbetween).append (ih h.2)

end Statement

end Larder.Sql
