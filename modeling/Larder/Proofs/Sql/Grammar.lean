import Mathlib.Data.List.Basic
import Larder.Criteria.Basic
import Larder.Proofs.Sql.Tokens

/-!
The statements about the table of documents, as a server parses them.

`tokens` writes each part of a statement down and `read?` parses it; what is parsed is what was
written.
-/

namespace Larder.Sql

inductive Column where
  | pk
  | collection
  | docId
  | body
deriving DecidableEq, Repr

namespace Column

def name : Column → String
  | pk => "pk"
  | collection => "collection"
  | docId => "doc_id"
  | body => "body"

def named? (w : String) : Option Column := [pk, collection, docId, body].find? fun c => c.name == w

theorem named?_name (c : Column) : named? c.name = some c := by cases c <;> decide

end Column

/-- Functions of two arguments. -/
inductive Function where
  | extract
  | coalesce
  | mergePatch
deriving DecidableEq, Repr

namespace Function

def name : Function → String
  | extract => "JSON_EXTRACT"
  | coalesce => "COALESCE"
  | mergePatch => "JSON_MERGE_PATCH"

def named? (w : String) : Option Function :=
  [extract, coalesce, mergePatch].find? fun f => f.name == w

theorem named?_name (f : Function) : named? f.name = some f := by cases f <;> decide

end Function

/-! ## Expressions -/

inductive Scalar where
  | column (c : Column)
  | literal (s : String)
  | bound (b : Binding)
  | call (f : Function) (a b : Scalar)
  | castJson (a : Scalar)
deriving DecidableEq, Repr

namespace Scalar

def tokens : Scalar → List Token
  | column c => [.word c.name]
  | literal s => [.quoted s]
  | bound b => [.value b]
  | call f a b => [.word f.name, .sign '('] ++ a.tokens ++ [.sign ','] ++ b.tokens ++ [.sign ')']
  | castJson a => [.word "CAST", .sign '('] ++ a.tokens ++ [.word "AS", .word "JSON", .sign ')']

/-- An expression, and what follows it; the first argument bounds how deep it is nested. -/
def read? : Nat → List Token → Option (Scalar × List Token)
  | 0, _ => none
  | _ + 1, .quoted s :: ts => some (literal s, ts)
  | _ + 1, .value b :: ts => some (bound b, ts)
  | n + 1, .word w :: ts =>
    match Column.named? w with
    | some c => some (column c, ts)
    | none => do
      let ts ← ts.dropPrefix? [.sign '(']
      let (a, ts) ← read? n ts
      match Function.named? w with
      | some f => do
        let ts ← ts.dropPrefix? [.sign ',']
        let (b, ts) ← read? n ts
        return (call f a b, ← ts.dropPrefix? [.sign ')'])
      | none => if w = "CAST" then
          return (castJson a, ← ts.dropPrefix? [.word "AS", .word "JSON", .sign ')']) else none
  | _ + 1, _ => none

def height : Scalar → Nat
  | call _ a b => max a.height b.height + 1
  | castJson a => a.height + 1
  | _ => 0

theorem height_lt (e : Scalar) : e.height < e.tokens.length := by
  induction e with
  | call f a b iha ihb =>
    simp only [height, tokens, List.length_append, List.length_cons, List.length_nil]
    omega
  | castJson a ih =>
    simp only [height, tokens, List.length_append, List.length_cons, List.length_nil]
    omega
  | _ => simp [height, tokens]

theorem read?_tokens {n : Nat} (e : Scalar) (h : e.height < n) (rest : List Token) :
    read? n (e.tokens ++ rest) = some (e, rest) := by
  induction n generalizing e rest with
  | zero => omega
  | succ n ih =>
    cases e with
    | column c => simp [tokens, read?, Column.named?_name]
    | literal s => rfl
    | bound b => rfl
    | call f a b =>
      have ha : a.height < n := by simp only [height] at h; omega
      have hb : b.height < n := by simp only [height] at h; omega
      have hname : Column.named? f.name = none := by cases f <;> decide
      simp [tokens, read?, hname, Function.named?_name, List.dropPrefix?, ih a ha, ih b hb]
    | castJson a =>
      have ha : a.height < n := by simp only [height] at h; omega
      have hcolumn : Column.named? "CAST" = none := by decide
      have hfunction : Function.named? "CAST" = none := by decide
      simp [tokens, read?, hcolumn, hfunction, List.dropPrefix?, ih a ha]

end Scalar

/-! ## Lists -/

/-- Reads items with a token between each two. -/
def separated? {α : Type} (item? : List Token → Option (α × List Token)) (sep : Token) :
    Nat → List Token → Option (List α × List Token)
  | 0, _ => none
  | n + 1, ts => do
    let (a, ts) ← item? ts
    match ts.dropPrefix? [sep] with
    | some ts => do
      let (as, ts) ← separated? item? sep n ts
      return (a :: as, ts)
    | none => return ([a], ts)

theorem separated?_intercalate {α : Type} {item? : List Token → Option (α × List Token)}
    {sep : Token} {tokens : α → List Token} {as : List α} (hne : as ≠ [])
    (hitem : ∀ a ∈ as, ∀ rest, item? (tokens a ++ rest) = some (a, rest)) {n : Nat}
    (hn : as.length ≤ n) {rest : List Token} (hrest : rest.dropPrefix? [sep] = none) :
    separated? item? sep n (List.intercalate [sep] (as.map tokens) ++ rest) = some (as, rest) := by
  induction as generalizing n with
  | nil => exact absurd rfl hne
  | cons a as ih =>
    rw [List.forall_mem_cons] at hitem
    obtain _ | n := n
    · simp at hn
    cases as with
    | nil => simp [separated?, List.intercalate, hitem.1, hrest]
    | cons b bs =>
      have hothers := ih (List.cons_ne_nil b bs) hitem.2 (by simpa using hn)
      have hsplit : List.intercalate [sep] ((a :: b :: bs).map tokens) ++ rest
          = tokens a ++ (sep :: (List.intercalate [sep] ((b :: bs).map tokens) ++ rest)) := by
        simp [List.intercalate]
      rw [List.map_cons] at hothers
      rw [hsplit, separated?, hitem.1]
      simp [List.dropPrefix?, hothers]

theorem length_intercalate_cons {α : Type} (sep : Token) (tokens : α → List Token) (a : α)
    (as : List α) :
    (tokens a).length + (List.intercalate [sep] (as.map tokens)).length + min as.length 1
      = (List.intercalate [sep] ((a :: as).map tokens)).length := by
  cases as with
  | nil => simp
  | cons b bs =>
    simp only [List.map_cons, List.intercalate_cons_cons, List.length_append, List.length_cons,
      List.length_nil]
    omega

theorem length_le_length_intercalate {α : Type} (sep : Token) {tokens : α → List Token}
    (hpos : ∀ a, 0 < (tokens a).length) (as : List α) :
    as.length ≤ (List.intercalate [sep] (as.map tokens)).length := by
  induction as with
  | nil => exact Nat.zero_le _
  | cons a as ih =>
    have ha := hpos a
    have hcons := length_intercalate_cons sep tokens a as
    rw [List.length_cons]
    omega

theorem length_le_intercalate {α : Type} (sep : Token) (tokens : α → List Token) {as : List α}
    {a : α} (h : a ∈ as) :
    (tokens a).length ≤ (List.intercalate [sep] (as.map tokens)).length := by
  induction as with
  | nil => cases h
  | cons b bs ih =>
    have hcons := length_intercalate_cons sep tokens b bs
    rcases List.mem_cons.1 h with rfl | hmem
    · omega
    · have hle := ih hmem
      omega

/-! ## Conditions -/

structure Equality where
  left : Scalar
  right : Scalar
deriving DecidableEq, Repr

namespace Equality

def tokens (e : Equality) : List Token := e.left.tokens ++ [.sign '='] ++ e.right.tokens

def read? (n : Nat) (ts : List Token) : Option (Equality × List Token) := do
  let (left, ts) ← Scalar.read? n ts
  let ts ← ts.dropPrefix? [.sign '=']
  let (right, ts) ← Scalar.read? n ts
  return (⟨left, right⟩, ts)

theorem read?_tokens {n : Nat} (e : Equality) (hn : e.tokens.length ≤ n) (rest : List Token) :
    read? n (e.tokens ++ rest) = some (e, rest) := by
  obtain ⟨left, right⟩ := e
  have hlength : left.tokens.length + right.tokens.length < n := by
    simp only [tokens, List.length_append, List.length_cons, List.length_nil] at hn
    omega
  have hleft := left.height_lt
  have hright := right.height_lt
  have hreadLeft := Scalar.read?_tokens (n := n) left (by omega)
  have hreadRight := Scalar.read?_tokens (n := n) right (by omega)
  simp [tokens, read?, List.dropPrefix?, hreadLeft, hreadRight]

theorem tokens_pos (e : Equality) : 0 < e.tokens.length := by
  simp only [tokens, List.length_append, List.length_cons, List.length_nil]
  omega

end Equality

/-- One of the conditions that must all hold. -/
inductive Conjunct where
  | never
  | equal (e : Equality)
  /-- At least one of the equalities, of which there is one. -/
  | anyOf (es : List Equality)
deriving DecidableEq, Repr

namespace Conjunct

def tokens : Conjunct → List Token
  | never => [.word "FALSE"]
  | equal e => e.tokens
  | anyOf es => [.sign '('] ++ List.intercalate [.word "OR"] (es.map Equality.tokens) ++ [.sign ')']

def read? (n : Nat) (ts : List Token) : Option (Conjunct × List Token) :=
  match ts with
  | .word "FALSE" :: ts => some (never, ts)
  | .sign '(' :: ts => do
    let (es, ts) ← separated? (Equality.read? n) (.word "OR") n ts
    return (anyOf es, ← ts.dropPrefix? [.sign ')'])
  | ts => (Equality.read? n ts).map fun (e, ts) => (equal e, ts)

/-- An alternative at least. -/
def Proper : Conjunct → Prop
  | anyOf es => es ≠ []
  | _ => True

theorem tokens_pos (c : Conjunct) : 0 < c.tokens.length := by
  cases c with
  | equal e => exact e.tokens_pos
  | _ => simp [tokens]

theorem read?_tokens {n : Nat} {c : Conjunct} (hc : c.Proper) (hn : c.tokens.length ≤ n)
    (rest : List Token) :
    read? n (c.tokens ++ rest) = some (c, rest) := by
  cases c with
  | never => rfl
  | equal e =>
    have hread := Equality.read?_tokens e hn rest
    -- An expression begins with neither of the other two first tokens.
    have hfirst : ∃ t ts, e.tokens ++ rest = t :: ts ∧ t ≠ .word "FALSE" ∧ t ≠ .sign '(' := by
      obtain ⟨left, right⟩ := e
      cases left with
      | column c => exact ⟨.word c.name, _, rfl, by cases c <;> decide, by simp⟩
      | call f a b => exact ⟨.word f.name, _, rfl, by cases f <;> decide, by simp⟩
      | _ => exact ⟨_, _, rfl, by simp, by simp⟩
    obtain ⟨t, ts, hcons, hfalse, hopen⟩ := hfirst
    show read? n (e.tokens ++ rest) = _
    rw [hcons] at hread ⊢
    unfold read?
    split
    · next heq => exact absurd (List.cons.inj heq).1 hfalse
    · next heq => exact absurd (List.cons.inj heq).1 hopen
    · rw [hread]; rfl
  | anyOf es =>
    have hlength : (List.intercalate [.word "OR"] (es.map Equality.tokens)).length + 2 ≤ n := by
      simp only [tokens, List.length_append, List.length_cons, List.length_nil] at hn
      omega
    have hitem : ∀ e ∈ es, ∀ rest, Equality.read? n (e.tokens ++ rest) = some (e, rest) := by
      intro e he rest
      have hle := length_le_intercalate (.word "OR") Equality.tokens he
      exact Equality.read?_tokens e (by omega) rest
    have hcount := length_le_length_intercalate (.word "OR") Equality.tokens_pos es
    have hclose : (Token.sign ')' :: rest).dropPrefix? [.word "OR"] = none := rfl
    have hread := separated?_intercalate hc hitem (n := n) (by omega) hclose
    simp [tokens, read?, hread, List.dropPrefix?]

end Conjunct

/-! ## What a statement is about -/

/-- A key of the order, and its direction. -/
structure SortKey where
  scalar : Scalar
  direction : Direction
deriving DecidableEq, Repr

namespace SortKey

def tokens (k : SortKey) : List Token := k.scalar.tokens ++ [.word k.direction.keyword]

def read? (n : Nat) (ts : List Token) : Option (SortKey × List Token) := do
  let (scalar, ts) ← Scalar.read? n ts
  match ts with
  | .word "ASC" :: ts => return (⟨scalar, .asc⟩, ts)
  | .word "DESC" :: ts => return (⟨scalar, .desc⟩, ts)
  | _ => none

theorem read?_tokens {n : Nat} (k : SortKey) (hn : k.tokens.length ≤ n) (rest : List Token) :
    read? n (k.tokens ++ rest) = some (k, rest) := by
  obtain ⟨scalar, direction⟩ := k
  have hheight := scalar.height_lt
  have hlength : scalar.tokens.length < n := by
    simp only [tokens, List.length_append, List.length_cons, List.length_nil] at hn
    omega
  have hread := Scalar.read?_tokens (n := n) scalar (by omega)
  cases direction <;> simp [tokens, read?, hread, Direction.keyword]

theorem tokens_pos (k : SortKey) : 0 < k.tokens.length := by
  simp only [tokens, List.length_append, List.length_cons, List.length_nil]
  omega

end SortKey

inductive Count where
  | one
  | bound (n : Nat)
deriving DecidableEq, Repr

namespace Count

def value : Count → Nat
  | one => 1
  | bound n => n

def token : Count → Token
  | one => .word "1"
  | bound n => .value (.number n)

def read? : List Token → Option (Count × List Token)
  | .word "1" :: ts => some (one, ts)
  | .value (.number n) :: ts => some (bound n, ts)
  | _ => none

theorem read?_token (c : Count) (rest : List Token) : read? (c.token :: rest) = some (c, rest) := by
  cases c <;> rfl

end Count

/-- How many rows are taken, behind those that are left out. -/
structure Page where
  limit : Count
  offset : Option Count
deriving DecidableEq, Repr

namespace Page

def tokens (p : Page) : List Token :=
  [.word "LIMIT", p.limit.token] ++ match p.offset with
    | some offset => [.word "OFFSET", offset.token]
    | none => []

/-- The page at the end of a statement, if it has one. -/
def read? : List Token → Option (Option Page)
  | [] => some none
  | .word "LIMIT" :: ts => do
    let (limit, ts) ← Count.read? ts
    match ts with
    | [] => return some ⟨limit, none⟩
    | .word "OFFSET" :: ts =>
      match ← Count.read? ts with
      | (offset, []) => return some ⟨limit, some offset⟩
      | _ => none
    | _ => none
  | _ => none

theorem read?_tokens (p : Page) : read? p.tokens = some (some p) := by
  obtain ⟨limit, _ | offset⟩ := p
  · simp [tokens, read?, Count.read?_token]
  · simp [tokens, read?, Count.read?_token]

end Page

/-- The rows that satisfy all conditions, in the order of the keys, and of these a page. -/
structure Selection where
  conditions : List Conjunct
  order : List SortKey
  page : Option Page
deriving DecidableEq, Repr

namespace Selection

def pageTokens : Option Page → List Token
  | some p => p.tokens
  | none => []

def tokens (s : Selection) : List Token :=
  [.word "WHERE"] ++ List.intercalate [.word "AND"] (s.conditions.map Conjunct.tokens)
    ++ [.word "ORDER", .word "BY"] ++ List.intercalate [.sign ','] (s.order.map SortKey.tokens) ++
      pageTokens s.page

def read? (n : Nat) (ts : List Token) : Option Selection := do
  let ts ← ts.dropPrefix? [.word "WHERE"]
  let (conditions, ts) ← separated? (Conjunct.read? n) (.word "AND") n ts
  let ts ← ts.dropPrefix? [.word "ORDER", .word "BY"]
  let (order, ts) ← separated? (SortKey.read? n) (.sign ',') n ts
  return ⟨conditions, order, ← Page.read? ts⟩

/-- Conditions and keys at least one each. -/
structure Proper (s : Selection) : Prop where
  conditions : s.conditions ≠ []
  alternatives : ∀ c ∈ s.conditions, c.Proper
  order : s.order ≠ []

theorem read?_tokens {n : Nat} {s : Selection} (hs : s.Proper) (hn : s.tokens.length ≤ n) :
    read? n s.tokens = some s := by
  obtain ⟨conditions, order, page⟩ := s
  have hlength : (List.intercalate [.word "AND"] (conditions.map Conjunct.tokens)).length
      + (List.intercalate [.sign ','] (order.map SortKey.tokens)).length ≤ n := by
    simp only [tokens, List.length_append, List.length_cons, List.length_nil] at hn
    omega
  have hconditions : ∀ c ∈ conditions, ∀ rest,
      Conjunct.read? n (c.tokens ++ rest) = some (c, rest) := by
    intro c hc rest
    have hle := length_le_intercalate (.word "AND") Conjunct.tokens hc
    exact Conjunct.read?_tokens (hs.alternatives c hc) (by omega) rest
  have horder : ∀ k ∈ order, ∀ rest, SortKey.read? n (k.tokens ++ rest) = some (k, rest) := by
    intro k hk rest
    have hle := length_le_intercalate (.sign ',') SortKey.tokens hk
    exact SortKey.read?_tokens k (by omega) rest
  have hcounts := length_le_length_intercalate (.word "AND") Conjunct.tokens_pos conditions
  have hkeys := length_le_length_intercalate (.sign ',') SortKey.tokens_pos order
  have hpage : (pageTokens page).dropPrefix? [.sign ','] = none := by cases page <;> rfl
  have hlast : Page.read? (pageTokens page) = some page := by
    cases page with
    | none => rfl
    | some p => exact p.read?_tokens
  have hfirst : (Token.word "ORDER" :: .word "BY" ::
      (List.intercalate [.sign ','] (order.map SortKey.tokens)
      ++ pageTokens page)).dropPrefix? [.word "AND"] = none := rfl
  have hreadConditions :=
    separated?_intercalate hs.conditions hconditions (n := n) (by dsimp only; omega) hfirst
  have hreadOrder := separated?_intercalate hs.order horder (n := n) (by dsimp only; omega) hpage
  simp [tokens, read?, List.dropPrefix?, hreadConditions, hreadOrder, hlast]

end Selection

/-! ## Statements -/

inductive Command where
  | select (s : Selection)
  | update (body : Scalar) (s : Selection)
  | delete (s : Selection)
  | insert (collection docId body : Scalar)
deriving DecidableEq, Repr

namespace Command

/-- The rows that a command is about, if it is about some that are there. -/
def selection? : Command → Option Selection
  | select s => some s
  | update _ s => some s
  | delete s => some s
  | insert _ _ _ => none

def selectHead : List Token := [.word "SELECT", .word "body", .word "FROM", .word "documents"]

def updateHead : List Token :=
  [.word "UPDATE", .word "documents", .word "SET", .word "body", .sign '=']

def deleteHead : List Token := [.word "DELETE", .word "FROM", .word "documents"]

def insertHead : List Token :=
  [.word "INSERT", .word "INTO", .word "documents", .sign '(', .word "collection", .sign ',',
    .word "doc_id", .sign ',', .word "body", .sign ')', .word "VALUES", .sign '(']

def tokens : Command → List Token
  | select s => selectHead ++ s.tokens
  | update body s => updateHead ++ body.tokens ++ s.tokens
  | delete s => deleteHead ++ s.tokens
  | insert collection docId body =>
    insertHead ++ collection.tokens ++ [.sign ','] ++ docId.tokens ++ [.sign ','] ++ body.tokens ++
      [.sign ')']

def readInsert? (n : Nat) (ts : List Token) : Option Command := do
  let (collection, ts) ← Scalar.read? n ts
  let (docId, ts) ← Scalar.read? n (← ts.dropPrefix? [.sign ','])
  let (body, ts) ← Scalar.read? n (← ts.dropPrefix? [.sign ','])
  if ts = [.sign ')'] then return insert collection docId body else none

def readUpdate? (n : Nat) (ts : List Token) : Option Command := do
  let (body, ts) ← Scalar.read? n ts
  return update body (← Selection.read? n ts)

def read? (n : Nat) (ts : List Token) : Option Command :=
  match ts with
  | .word "SELECT" :: _ =>
    (ts.dropPrefix? selectHead).bind fun ts => (Selection.read? n ts).map select
  | .word "UPDATE" :: _ => (ts.dropPrefix? updateHead).bind (readUpdate? n)
  | .word "DELETE" :: _ =>
    (ts.dropPrefix? deleteHead).bind fun ts => (Selection.read? n ts).map delete
  | .word "INSERT" :: _ => (ts.dropPrefix? insertHead).bind (readInsert? n)
  | _ => none

def Proper : Command → Prop
  | select s => s.Proper
  | update _ s => s.Proper
  | delete s => s.Proper
  | insert _ _ _ => True

theorem read?_tokens {n : Nat} {c : Command} (hc : c.Proper) (hn : c.tokens.length ≤ n) :
    read? n c.tokens = some c := by
  cases c with
  | select s =>
    simp only [tokens, List.length_append] at hn
    have hread := Selection.read?_tokens (n := n) hc (by omega)
    simp [tokens, read?, selectHead, List.dropPrefix?, hread]
  | update body s =>
    have hheight := body.height_lt
    simp only [tokens, List.length_append] at hn
    have hbody := Scalar.read?_tokens (n := n) body (by omega)
    have hread := Selection.read?_tokens (n := n) hc (by omega)
    simp [tokens, read?, readUpdate?, updateHead, List.dropPrefix?, hbody, hread]
  | delete s =>
    simp only [tokens, List.length_append] at hn
    have hread := Selection.read?_tokens (n := n) hc (by omega)
    simp [tokens, read?, deleteHead, List.dropPrefix?, hread]
  | insert collection docId body =>
    have hcollectionHeight := collection.height_lt
    have hdocIdHeight := docId.height_lt
    have hbodyHeight := body.height_lt
    simp only [tokens, List.length_append] at hn
    have hcollection := Scalar.read?_tokens (n := n) collection (by omega)
    have hdocId := Scalar.read?_tokens (n := n) docId (by omega)
    have hbody := Scalar.read?_tokens (n := n) body (by omega)
    simp [tokens, read?, readInsert?, insertHead, List.dropPrefix?, hcollection, hdocId, hbody]

end Command

/-- The command that a server takes a statement for. -/
def Statement.command? (st : Statement) : Option Command :=
  st.tokens?.bind fun ts => Command.read? ts.length ts

theorem Statement.command?_eq {st : Statement} {c : Command} (hc : c.Proper)
    (h : st.Scans c.tokens) :
    st.command? = some c := by
  rw [command?, h.tokens?_eq]
  exact Command.read?_tokens hc (Nat.le_refl _)

end Larder.Sql
