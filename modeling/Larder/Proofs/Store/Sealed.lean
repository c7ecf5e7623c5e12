import Larder.Proofs.Store.Emitted

/-!
What the text of a statement depends on, and where fields stand in it.

`blank` takes away from criteria what must not get into a text: the values and the numbers of the
page.  A field stands in a text between quotes only, and there are as many placeholders as bound
values.
-/

namespace Larder

open Sql

/-! ## Criteria without the data -/

/-- The kind of a condition and the number of its candidates. -/
def Filter.blank : Filter → Filter
  | eq _ => eq .null
  | oneOf candidates => oneOf (candidates.map fun _ => .null)

/-- The fields with the kinds of their conditions, the order, and whether there is a limit and an
offset. -/
def Criteria.blank (c : Criteria) : Criteria where
  filters := c.filters.map fun x => (x.1, x.2.blank)
  order := c.order
  limit := c.limit.map fun _ => 0
  offset := c.offset.map fun _ => 0

namespace Store.Relational

open Sql.Statement

theorem text_concat {α : Type} {f g : α → Statement} {xs : List α}
    (h : ∀ x ∈ xs, (f x).text = (g x).text) :
    (concat (xs.map f)).text = (concat (xs.map g)).text := by
  induction xs with
  | nil => rfl
  | cons x xs ih =>
    rw [List.forall_mem_cons] at h
    exact congrArg₂ (· ++ ·) h.1 (ih h.2)

theorem text_joined {α : Type} {between : String} {f g : α → Statement} {xs : List α}
    (h : ∀ x ∈ xs, (f x).text = (g x).text) :
    (joined between (xs.map f)).text = (joined between (xs.map g)).text := by
  induction xs with
  | nil => rfl
  | cons x xs ih =>
    rw [List.forall_mem_cons] at h
    cases xs with
    | nil => exact h.1
    | cons y ys => exact congrArg₂ (· ++ ·) (congrArg (· ++ between) h.1) (ih h.2)

theorem text_condition (field : String) (f : Filter) :
    (condition field f).text = (condition field f.blank).text := by
  cases f with
  | eq v => rfl
  | oneOf candidates =>
    cases candidates with
    | nil => rfl
    | cons v vs =>
      have hblank : ((v :: vs).map fun _ => Json.Value.null).map (equals field)
          = (v :: vs).map fun _ => equals field .null := by
        rw [List.map_map]
        rfl
      show "(" ++ (joined " OR " ((v :: vs).map (equals field))).text ++ ")"
        = "(" ++ (joined " OR " (((v :: vs).map fun _ => .null).map (equals field))).text ++ ")"
      have hall : (joined " OR " ((v :: vs).map (equals field))).text
          = (joined " OR " ((v :: vs).map fun _ => equals field .null)).text :=
        text_joined fun _ _ => rfl
      rw [hblank, hall]

theorem text_whereClause (collection : String) (c : Criteria) :
    (whereClause collection c).text = (whereClause "" c.blank).text := by
  have hconditions : (concat (c.filters.map fun x => piece " AND " ++ condition x.1 x.2)).text
      = (concat (c.filters.map fun x => piece " AND " ++ condition x.1 x.2.blank)).text :=
    text_concat fun x _ => congrArg (" AND " ++ ·) (text_condition x.1 x.2)
  have hblank : c.blank.filters.map (fun x => piece " AND " ++ condition x.1 x.2)
      = c.filters.map fun x => piece " AND " ++ condition x.1 x.2.blank := List.map_map
  show " WHERE collection = " ++ "?" ++
      (concat (c.filters.map fun x => piece " AND " ++ condition x.1 x.2)).text
    = " WHERE collection = " ++ "?" ++
    (concat (c.blank.filters.map fun x => piece " AND " ++ condition x.1 x.2)).text
  rw [hblank, hconditions]

theorem text_pageClause {limit limit' : Option Nat} (h : limit.isSome = limit'.isSome)
    (offset : Option Nat) :
    (pageClause limit offset).text = (pageClause limit' (offset.map fun _ => 0)).text := by
  cases limit <;> cases limit' <;> cases offset <;> first | rfl | cases h

theorem text_selection (collection : String) (c : Criteria) (front : String) (st st' : Statement)
    (h : st.text = st'.text) : (piece front ++ whereClause collection c ++ orderClause c ++ st).text
      = (piece front ++ whereClause "" c.blank ++ orderClause c.blank ++ st').text := by
  show front ++ (whereClause collection c).text ++ (orderClause c).text ++ st.text
    = front ++ (whereClause "" c.blank).text ++ (orderClause c).text ++ st'.text
  rw [text_whereClause, h]

theorem text_selectStatement (collection : String) (c : Criteria) {limit limit' : Option Nat}
    (h : limit.isSome = limit'.isSome) :
    (selectStatement collection c limit).text = (selectStatement "" c.blank limit').text :=
  text_selection collection c _ _ _ (text_pageClause h c.offset)

theorem text_updateStatement (collection : String) (c : Criteria) (patch : Document)
    (single : Bool) :
    (updateStatement collection c patch single).text
      = (updateStatement "" c.blank [] single).text :=
  text_selection collection c
    ("UPDATE documents SET body = JSON_MERGE_PATCH(body, " ++ "CAST(" ++ "?" ++ " AS JSON)" ++ ")")
    _ _ rfl

theorem text_deleteStatement (collection : String) (c : Criteria) :
    (deleteStatement collection c).text = (deleteStatement "" c.blank).text :=
  text_selection collection c _ _ _ rfl

theorem text_insertStatement (collection id : String) (d : Document) :
    (insertStatement collection id d).text = (insertStatement "" "" []).text := rfl

/-! ## Where fields stand -/

def vocabulary : List String :=
  ["SELECT", "UPDATE", "DELETE", "INSERT", "INTO", "FROM", "SET", "VALUES", "documents", "pk",
    "collection", "doc_id",
    "body", "WHERE", "AND", "OR", "FALSE", "ORDER", "BY", "ASC", "DESC", "LIMIT", "OFFSET", "1",
    "COALESCE", "JSON_EXTRACT", "JSON_MERGE_PATCH", "CAST", "AS", "JSON", "BEGIN", "COMMIT"]

/-- Tokens that do not depend on anything, and placeholders. -/
def isFixed : Token → Bool
  | .word w => vocabulary.contains w
  | .quoted s => s == "null"
  | .sign c => "(),=".toList.contains c
  | .value _ => true

/-- A path in quotes: a dollar, and the segments of the field with a dot before each and double
quotes around it. -/
def IsPath (field : String) (t : Token) : Prop :=
  ∃ s, t = .quoted s ∧ s.toList = '$' :: (segments field).flatMap segmentText ∧
    ∀ segment ∈ segments field, ∀ c ∈ segment, Criteria.isFieldChar c = true

def Allowed (fields : List String) (t : Token) : Prop :=
  isFixed t = true ∨ ∃ field ∈ fields, IsPath field t

/-- As many placeholders as bound values, and nothing but fixed tokens and paths of the fields. -/
structure Sealed (fields : List String) (st : Statement) : Prop where
  balanced : st.text.toList.count '?' = st.bindings.length
  tokens : ∃ ts, st.tokens? = some ts ∧ ∀ t ∈ ts, Allowed fields t

section Allowed

variable {fields : List String}

theorem allowed_fixed {ts : List Token} (h : ts.all isFixed = true) : ∀ t ∈ ts, Allowed fields t :=
  fun t ht => Or.inl (List.all_eq_true.1 h t ht)

theorem allowed_append {ts us : List Token} (hts : ∀ t ∈ ts, Allowed fields t)
    (hus : ∀ t ∈ us, Allowed fields t) :
    ∀ t ∈ ts ++ us, Allowed fields t := List.forall_mem_append.2 ⟨hts, hus⟩

theorem allowed_intercalate {α : Type} {sep : Token} {tokens : α → List Token}
    (hsep : isFixed sep = true) {as : List α} (h : ∀ a ∈ as, ∀ t ∈ tokens a, Allowed fields t) :
    ∀ t ∈ List.intercalate [sep] (as.map tokens), Allowed fields t := by
  induction as with
  | nil => exact List.forall_mem_nil _
  | cons a as ih =>
    rw [List.forall_mem_cons] at h
    rw [List.map_cons, intercalate_cons, List.flatMap_map]
    refine allowed_append h.1 fun t ht => ?_
    obtain ⟨b, hb, ht⟩ := List.mem_flatMap.1 ht
    rcases List.mem_append.1 ht with hmem | hmem
    · exact Or.inl (List.mem_singleton.1 hmem ▸ hsep)
    · exact h.2 b hb t hmem

def literals : Scalar → List String
  | .column _ => []
  | .literal s => [s]
  | .bound _ => []
  | .call _ a b => literals a ++ literals b
  | .castJson a => literals a

/-- The tokens of an expression are fixed up to its literals. -/
theorem allowed_scalar {e : Scalar} (h : ∀ s ∈ literals e, Allowed fields (.quoted s)) :
    ∀ t ∈ e.tokens, Allowed fields t := by
  induction e with
  | column c => exact allowed_fixed (by cases c <;> decide)
  | literal s => exact List.forall_mem_singleton.2 (h s (List.mem_singleton_self s))
  | bound b => exact allowed_fixed rfl
  | call f a b iha ihb =>
    have hargs := List.forall_mem_append.1 h
    have hname : ∀ t ∈ [Token.word f.name, .sign '('], Allowed fields t :=
      allowed_fixed (by cases f <;> decide)
    have hcomma : ∀ t ∈ [Token.sign ','], Allowed fields t := allowed_fixed (by decide)
    have hclose : ∀ t ∈ [Token.sign ')'], Allowed fields t := allowed_fixed (by decide)
    exact allowed_append (allowed_append
      (allowed_append (allowed_append hname (iha hargs.1)) hcomma) (ihb hargs.2)) hclose
  | castJson a ih =>
    have hname : ∀ t ∈ [Token.word "CAST", .sign '('], Allowed fields t := allowed_fixed (by decide)
    have hclose : ∀ t ∈ [Token.word "AS", .word "JSON", .sign ')'], Allowed fields t :=
      allowed_fixed (by decide)
    exact allowed_append (allowed_append hname (ih h)) hclose

section Field

variable {field : String} (hfield : Criteria.isField field = true) (hmem : field ∈ fields)
include hfield hmem

theorem allowed_path : Allowed fields (.quoted (path field)) :=
  Or.inr ⟨field, hmem, path field, rfl, path_toList field, isFieldChar_of_isField hfield⟩

theorem allowed_equality (v : Json.Value) : ∀ t ∈ (equality field v).tokens, Allowed fields t := by
  have hnull : Allowed fields (.quoted "null") := Or.inl (by decide)
  have hliterals : ∀ s ∈ [path field, "null"], Allowed fields (.quoted s) := by
    simp [allowed_path hfield hmem, hnull]
  have hleft : ∀ t ∈ (fieldValue field).tokens, Allowed fields t := allowed_scalar hliterals
  have hright : ∀ t ∈ (writtenValue v).tokens, Allowed fields t :=
    allowed_scalar (List.forall_mem_nil _)
  have hsign : ∀ t ∈ [Token.sign '='], Allowed fields t := allowed_fixed (by decide)
  exact allowed_append (allowed_append hleft hsign) hright

theorem allowed_conjunct (f : Filter) : ∀ t ∈ (conjunct field f).tokens, Allowed fields t := by
  cases f with
  | eq v => exact allowed_equality hfield hmem v
  | oneOf candidates =>
    cases candidates with
    | nil => exact allowed_fixed rfl
    | cons v vs =>
      have hopen : ∀ t ∈ [Token.sign '('], Allowed fields t := allowed_fixed (by decide)
      have hclose : ∀ t ∈ [Token.sign ')'], Allowed fields t := allowed_fixed (by decide)
      have hall : ∀ e ∈ (v :: vs).map (equality field), ∀ t ∈ e.tokens, Allowed fields t := by
        intro e he
        obtain ⟨w, -, rfl⟩ := List.mem_map.1 he
        exact allowed_equality hfield hmem w
      exact allowed_append (allowed_append hopen (allowed_intercalate (by decide) hall)) hclose

theorem allowed_sortKey (d : Direction) : ∀ t ∈ (sortKey (field, d)).tokens, Allowed fields t := by
  have hliterals : ∀ s ∈ [path field], Allowed fields (.quoted s) :=
    List.forall_mem_singleton.2 (allowed_path hfield hmem)
  have hkey : ∀ t ∈ (extracted field).tokens, Allowed fields t := allowed_scalar hliterals
  have hdirection : ∀ t ∈ [Token.word d.keyword], Allowed fields t :=
    allowed_fixed (by cases d <;> decide)
  exact allowed_append hkey hdirection

end Field

section Criteria

variable {c : Criteria} (hc : ∀ field ∈ c.fields, Criteria.isField field = true)
include hc

theorem allowed_selection (collection : String) {page : Option Page}
    (hpage : (Selection.pageTokens page).all isFixed = true) :
    ∀ t ∈ (selection collection c page).tokens, Allowed c.fields t := by
  have hwhere : ∀ t ∈ [Token.word "WHERE"], Allowed c.fields t := allowed_fixed (by decide)
  have horder : ∀ t ∈ [Token.word "ORDER", .word "BY"], Allowed c.fields t :=
    allowed_fixed (by decide)
  have hconditions : ∀ a ∈ conditions collection c, ∀ t ∈ a.tokens, Allowed c.fields t := by
    intro a ha
    rcases List.mem_cons.1 ha with rfl | hmem
    · exact allowed_fixed rfl
    · obtain ⟨x, hx, rfl⟩ := List.mem_map.1 hmem
      have hfield : x.1 ∈ c.fields := List.mem_append_left _ (List.mem_map_of_mem hx)
      exact allowed_conjunct (hc x.1 hfield) hfield x.2
  have hkeys : ∀ k ∈ c.order.map sortKey ++ [byInsertion], ∀ t ∈ k.tokens, Allowed c.fields t := by
    refine List.forall_mem_append.2
      ⟨fun k hk => ?_, List.forall_mem_singleton.2 (allowed_fixed (by decide))⟩
    obtain ⟨x, hx, rfl⟩ := List.mem_map.1 hk
    have hfield : x.1 ∈ c.fields := List.mem_append_right _ (List.mem_map_of_mem hx)
    exact allowed_sortKey (hc x.1 hfield) hfield x.2
  exact allowed_append (allowed_append (allowed_append (allowed_append hwhere
    (allowed_intercalate (by decide) hconditions)) horder) (allowed_intercalate (by decide) hkeys))
    (allowed_fixed hpage)

omit hc in
theorem fixed_boundPage (limit offset : Option Nat) :
    (Selection.pageTokens (boundPage limit offset)).all isFixed = true := by
  cases limit <;> cases offset <;> rfl

end Criteria

end Allowed

/-! ## Placeholders -/

theorem not_mem_append {a b : String} (ha : '?' ∉ a.toList) (hb : '?' ∉ b.toList) :
    '?' ∉ (a ++ b).toList := by
  rw [String.toList_append, List.mem_append]
  exact not_or.2 ⟨ha, hb⟩

theorem balanced_boundJson (v : Json.Value) : (boundJson v).Balanced :=
  ((balanced_piece (by decide)).append (balanced_bound _)).append (balanced_piece (by decide))

section Balanced

variable {field : String} (hfield : Criteria.isField field = true)
include hfield

theorem mark_not_mem_path : '?' ∉ (path field).toList := fun h => (ne_of_mem_path hfield h).2.2 rfl

theorem balanced_equals (v : Json.Value) : (equals field v).Balanced := by
  have hvalue : '?' ∉ (valueAt field).toList :=
    not_mem_append (not_mem_append (by decide) (mark_not_mem_path hfield)) (by decide)
  exact (balanced_piece (not_mem_append hvalue (by decide))).append (balanced_boundJson v)

theorem balanced_condition (f : Filter) : (condition field f).Balanced := by
  cases f with
  | eq v => exact balanced_equals hfield v
  | oneOf candidates =>
    cases candidates with
    | nil => exact balanced_piece (by decide)
    | cons v vs =>
      have hall :=
        balanced_joined (balanced_piece (s := " OR ") (by decide)) fun w (_ : w ∈ v :: vs) =>
        balanced_equals hfield w
      exact ((balanced_piece (by decide)).append hall).append (balanced_piece (by decide))

end Balanced

theorem balanced_selection {c : Criteria} (hc : ∀ field ∈ c.fields, Criteria.isField field = true)
    {st : Statement} (hst : st.Balanced) (collection : String) :
    (st ++ whereClause collection c ++ orderClause c).Balanced := by
  have hconditions := balanced_concat fun x (hx : x ∈ c.filters) =>
    (balanced_piece (s := " AND ") (by decide)).append
      (balanced_condition (hc x.1 (List.mem_append_left _ (List.mem_map_of_mem hx))) x.2)
  have hkeys : ∀ x ∈ c.order,
      (piece ("JSON_EXTRACT(body, '" ++ path x.1 ++ "') " ++ x.2.keyword ++ ", ")).Balanced := by
    intro x hx
    have hpath := mark_not_mem_path (hc x.1 (List.mem_append_right _ (List.mem_map_of_mem hx)))
    have hkeyword : '?' ∉ x.2.keyword.toList := by cases x.2 <;> decide
    exact balanced_piece (not_mem_append
      (not_mem_append (not_mem_append (not_mem_append (by decide) hpath) (by decide))
      hkeyword) (by decide))
  have hwhere : (whereClause collection c).Balanced :=
    ((balanced_piece (by decide)).append (balanced_bound _)).append hconditions
  have horder : (orderClause c).Balanced :=
    ((balanced_piece (by decide)).append (balanced_concat hkeys)).append
      (balanced_piece (by decide))
  exact (hst.append hwhere).append horder

theorem balanced_pageClause (limit offset : Option Nat) : (pageClause limit offset).Balanced := by
  have hlimit : ∀ n, (piece " LIMIT " ++ bound (.number n)).Balanced :=
    fun n => (balanced_piece (by decide)).append (balanced_bound _)
  have hoffset : ∀ n, (piece " OFFSET ").Balanced ∧ (bound (.number n)).Balanced :=
    fun n => ⟨balanced_piece (by decide), balanced_bound _⟩
  cases limit <;> cases offset
  · exact balanced_piece (by decide)
  · exact ((hlimit _).append (hoffset 0).1).append (hoffset _).2
  · exact hlimit _
  · exact ((hlimit _).append (hoffset 0).1).append (hoffset _).2

theorem balanced_firstOnly (single : Bool) : (firstOnly single).Balanced := by
  cases single <;> exact balanced_piece (by decide)

/-! ## Sealed statements -/

section Sealed

variable {c : Criteria} (hc : ∀ field ∈ c.fields, Criteria.isField field = true)
include hc

theorem sealed_selectStatement (collection : String) (limit : Option Nat) :
    Sealed c.fields (selectStatement collection c limit) where
  balanced :=
    (balanced_selection hc (balanced_piece (by decide)) collection).append
      (balanced_pageClause limit c.offset)
  tokens := ⟨_, (scans_selectStatement hc collection limit).tokens?_eq,
    allowed_append (allowed_fixed (by decide))
      (allowed_selection hc collection (fixed_boundPage limit c.offset))⟩

theorem sealed_updateStatement (collection : String) (patch : Document) (single : Bool) :
    Sealed c.fields (updateStatement collection c patch single) where
  balanced := by
    have hhead :=
      ((balanced_piece (s := "UPDATE documents SET body = JSON_MERGE_PATCH(body, ")
        (by decide)).append
      (balanced_boundJson (.object (Document.stripId patch)))).append
        (balanced_piece (s := ")") (by decide))
    exact (balanced_selection hc hhead collection).append (balanced_firstOnly single)
  tokens := by
    have hbody : ∀ t ∈ (patched patch).tokens, Allowed c.fields t :=
      allowed_scalar (List.forall_mem_nil _)
    refine ⟨_, (scans_updateStatement hc collection patch single).tokens?_eq,
      allowed_append (allowed_append (allowed_fixed (by decide)) hbody)
        (allowed_selection hc collection ?_)⟩
    cases single <;> rfl

theorem sealed_deleteStatement (collection : String) :
    Sealed c.fields (deleteStatement collection c) where
  balanced :=
    (balanced_selection hc (balanced_piece (by decide)) collection).append (balanced_firstOnly true)
  tokens := ⟨_, (scans_deleteStatement hc collection).tokens?_eq,
    allowed_append (allowed_fixed (by decide)) (allowed_selection hc collection rfl)⟩

omit hc in
theorem sealed_insertStatement (fields : List String) (collection id : String) (d : Document) :
    Sealed fields (insertStatement collection id d) where
  balanced := by
    show "INSERT INTO documents (collection, doc_id, body) VALUES (?, ?, ?)".toList.count '?' = 3
    decide
  tokens := ⟨_, (scans_insertStatement collection id d).tokens?_eq, allowed_fixed rfl⟩

omit hc in
theorem sealed_piece (fields : List String) {s : String} (ts : List Token) (hs : '?' ∉ s.toList)
    (hts : (piece s).Scans ts) (hfixed : ts.all isFixed = true) : Sealed fields (piece s) where
  balanced := balanced_piece hs
  tokens := ⟨ts, hts.tokens?_eq, allowed_fixed hfixed⟩

omit hc in
theorem sealed_ping (fields : List String) : Sealed fields (piece pingText) :=
  sealed_piece fields [.word "SELECT", .word "1"] (by decide) (scans_piece fun _ _ => rfl)
    (by decide)

omit hc in
theorem sealed_begin (fields : List String) : Sealed fields (piece "BEGIN") :=
  sealed_piece fields [.word "BEGIN"] (by decide) (scans_piece fun _ _ => rfl) (by decide)

omit hc in
theorem sealed_commit (fields : List String) : Sealed fields (piece "COMMIT") :=
  sealed_piece fields [.word "COMMIT"] (by decide) (scans_piece fun _ _ => rfl) (by decide)

end Sealed

end Store.Relational

end Larder
