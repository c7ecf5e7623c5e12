import Larder.Proofs.Sql.Grammar
import Larder.Store.Relational

/-!
What a server takes the statements of the relational driver for.

Each statement is parsed as the command of the same name here, as long as the criteria name proper
fields: only then does a path stay within its quotes.
-/

namespace Larder.Store.Relational

open Sql
open Sql.Statement

/-! ## Paths -/

def segments (field : String) : List (List Char) := field.toList.splitOn '.'

def segmentText (segment : List Char) : List Char := '.' :: '"' :: segment ++ ['"']

theorem intercalate_dot (segments : List (List Char)) (h : segments ≠ []) :
    '.' :: List.intercalate ['.'] (segments.map fun s => '"' :: s ++ ['"'])
      = segments.flatMap segmentText := by
  induction segments with
  | nil => exact absurd rfl h
  | cons s rest ih =>
    cases rest with
    | nil => simp [segmentText]
    | cons t rest =>
      have hrest := ih (List.cons_ne_nil t rest)
      rw [List.flatMap_cons, ← hrest, List.map_cons, List.map_cons, List.intercalate_cons_cons]
      simp [segmentText]

theorem path_toList (field : String) :
    (path field).toList = '$' :: (segments field).flatMap segmentText := by
  have hparts :
      ((segments field).map fun segment => "\"" ++ String.ofList segment ++ "\"").map String.toList
        = (segments field).map fun s => '"' :: s ++ ['"'] := by
    simp
  have hne : segments field ≠ [] := List.splitOn_ne_nil _ _
  rw [← intercalate_dot _ hne, ← hparts]
  show ("$." ++ ".".intercalate _).toList = _
  rw [String.toList_append, String.toList_intercalate]
  rfl

theorem isFieldChar_of_isField {field : String} (h : Criteria.isField field = true) :
    ∀ segment ∈ segments field, ∀ c ∈ segment, Criteria.isFieldChar c = true := by
  intro segment hsegment c hc
  have hall := List.all_eq_true.1 h segment hsegment
  simp only [Bool.and_eq_true, List.all_eq_true] at hall
  exact hall.2 c hc

theorem forall_mem_path {field : String} (h : Criteria.isField field = true) :
    ∀ c ∈ (path field).toList, Criteria.isFieldChar c = true ∨ c ∈ ['$', '.', '"'] := by
  intro c hc
  rw [path_toList, List.mem_cons, List.mem_flatMap] at hc
  rcases hc with rfl | ⟨segment, hsegment, hmem⟩
  · simp
  · simp only [segmentText, List.cons_append, List.mem_cons, List.mem_append, List.not_mem_nil,
      or_false] at hmem
    rcases hmem with rfl | rfl | hmem | rfl
    · simp
    · simp
    · exact Or.inl (isFieldChar_of_isField h segment hsegment c hmem)
    · simp

theorem ne_of_mem_path {field : String} (h : Criteria.isField field = true) {c : Char}
    (hc : c ∈ (path field).toList) :
    c ≠ quote ∧ c ≠ '\\' ∧ c ≠ '?' := by
  have hpath := forall_mem_path h c hc
  refine ⟨?_, ?_, ?_⟩ <;> rintro rfl <;> revert hpath <;> decide

/-! ## Quoted paths -/

theorem settles_quoting {before p after : String} {s t : List Token}
    (hp : ∀ c ∈ p.toList, c ≠ quote ∧ c ≠ '\\')
    (hbefore : ∀ done rest, (Scanner.mk .between done rest).scan before.toList
      = ⟨.quoted [], s.reverse ++ done, rest⟩)
    (hafter : ∀ cs done rest, (Scanner.mk (.quoted cs) done rest).scan after.toList
      = ⟨.between, t.reverse ++ .quoted (String.ofList cs.reverse) :: done, rest⟩) :
    (piece (before ++ p ++ after)).Settles (s ++ .quoted p :: t) := by
  refine settles_piece fun done rest => ?_
  rw [String.toList_append, String.toList_append, Scanner.scan_append, Scanner.scan_append, hbefore,
    Scanner.scan_quoted hp, hafter, List.append_nil, List.reverse_reverse, String.ofList_toList]
  simp

/-! ## Commands -/

def extracted (field : String) : Scalar := .call .extract (.column .body) (.literal (path field))

def fieldValue (field : String) : Scalar :=
  .call .coalesce (extracted field) (.castJson (.literal "null"))

def writtenValue (v : Json.Value) : Scalar := .castJson (.bound (.text v.text))

def equality (field : String) (v : Json.Value) : Equality := ⟨fieldValue field, writtenValue v⟩

def conjunct (field : String) : Filter → Conjunct
  | .eq v => .equal (equality field v)
  | .oneOf [] => .never
  | .oneOf candidates => .anyOf (candidates.map (equality field))

def withinCollection (collection : String) : Conjunct :=
  .equal ⟨.column .collection, .bound (.text collection)⟩

def conditions (collection : String) (c : Criteria) : List Conjunct :=
  withinCollection collection :: c.filters.map fun x => conjunct x.1 x.2

def sortKey (clause : String × Direction) : SortKey := ⟨extracted clause.1, clause.2⟩

def byInsertion : SortKey := ⟨.column .pk, .asc⟩

def selection (collection : String) (c : Criteria) (page : Option Page) : Selection where
  conditions := conditions collection c
  order := c.order.map sortKey ++ [byInsertion]
  page := page

def boundPage : Option Nat → Option Nat → Option Page
  | none, none => none
  | limit, offset => some ⟨.bound (limit.getD noLimit), offset.map .bound⟩

def firstPage (single : Bool) : Option Page := if single then some ⟨.one, none⟩ else none

def selectCommand (collection : String) (c : Criteria) (limit : Option Nat) : Command :=
  .select (selection collection c (boundPage limit c.offset))

def patched (patch : Document) : Scalar :=
  .call .mergePatch (.column .body) (writtenValue (.object (Document.stripId patch)))

def updateCommand (collection : String) (c : Criteria) (patch : Document)
    (single : Bool) : Command :=
  .update (patched patch) (selection collection c (firstPage single))

def deleteCommand (collection : String) (c : Criteria) : Command :=
  .delete (selection collection c (firstPage true))

def insertCommand (collection id : String) (d : Document) : Command :=
  .insert (.bound (.text collection)) (.bound (.text id)) (.bound (.text (Document.text d)))

theorem proper_selection (collection : String) (c : Criteria) (page : Option Page) :
    (selection collection c page).Proper where
  conditions := List.cons_ne_nil _ _
  alternatives := by
    intro a ha
    rcases List.mem_cons.1 ha with rfl | hmem
    · trivial
    · obtain ⟨⟨field, f⟩, -, rfl⟩ := List.mem_map.1 hmem
      cases f with
      | eq v => trivial
      | oneOf candidates =>
        cases candidates with
        | nil => trivial
        | cons v vs => exact List.cons_ne_nil _ _
  order := by simp [selection]

/-! ## Pieces of a statement -/

section Pieces

variable {field : String} (hfield : Criteria.isField field = true)
include hfield

theorem path_quotable : ∀ c ∈ (path field).toList, c ≠ quote ∧ c ≠ '\\' :=
  fun _ hc => ⟨(ne_of_mem_path hfield hc).1, (ne_of_mem_path hfield hc).2.1⟩

theorem settles_fieldValue :
    (piece (valueAt field ++ " = ")).Settles ((fieldValue field).tokens ++ [.sign '=']) := by
  have hjoin : valueAt field ++ " = "
      = "COALESCE(JSON_EXTRACT(body, '" ++ path field ++ ("'), CAST('null' AS JSON))" ++ " = ") :=
    String.append_assoc
  rw [hjoin]
  exact settles_quoting
    (s := [.word "COALESCE", .sign '(', .word "JSON_EXTRACT", .sign '(', .word "body", .sign ','])
    (t := [.sign ')', .sign ',', .word "CAST", .sign '(', .quoted "null", .word "AS", .word "JSON",
      .sign ')', .sign ')', .sign '=']) (path_quotable hfield) (fun _ _ => rfl) (fun _ _ _ => rfl)

omit hfield in
theorem settles_boundJson (v : Json.Value) : (boundJson v).Settles (writtenValue v).tokens := by
  have hopen : (piece "CAST(").Settles [.word "CAST", .sign '('] := settles_piece fun _ _ => rfl
  have hclose : (piece " AS JSON)").Settles [.word "AS", .word "JSON", .sign ')'] :=
    settles_piece fun _ _ => rfl
  exact (hopen.append (settles_bound _)).append hclose

theorem settles_equals (v : Json.Value) : (equals field v).Settles (equality field v).tokens :=
  (settles_fieldValue hfield).append (settles_boundJson v)

theorem settles_sortKey (d : Direction) :
    (piece ("JSON_EXTRACT(body, '" ++ path field ++ "') " ++ d.keyword ++ ", ")).Settles
      ((sortKey (field, d)).tokens ++ [.sign ',']) := by
  have hjoin : "JSON_EXTRACT(body, '" ++ path field ++ "') " ++ d.keyword ++ ", "
      = "JSON_EXTRACT(body, '" ++ path field ++ ("') " ++ d.keyword ++ ", ") := by
    simp only [String.append_assoc]
  rw [hjoin]
  cases d with
  | asc =>
    exact settles_quoting (s := [.word "JSON_EXTRACT", .sign '(', .word "body", .sign ','])
      (t := [.sign ')', .word "ASC", .sign ',']) (path_quotable hfield) (fun _ _ => rfl)
        (fun _ _ _ => rfl)
  | desc =>
    exact settles_quoting (s := [.word "JSON_EXTRACT", .sign '(', .word "body", .sign ','])
      (t := [.sign ')', .word "DESC", .sign ',']) (path_quotable hfield) (fun _ _ => rfl)
        (fun _ _ _ => rfl)

theorem scans_condition (f : Filter) : (condition field f).Scans (conjunct field f).tokens := by
  cases f with
  | eq v => exact (settles_equals hfield v).scans
  | oneOf candidates =>
    cases candidates with
    | nil => exact scans_piece fun _ _ => rfl
    | cons v vs =>
      have hopen : (piece "(").Settles [.sign '('] := settles_piece fun _ _ => rfl
      have hor : (piece " OR ").Settles [.word "OR"] := settles_piece fun _ _ => rfl
      have hclose : (piece ")").Settles [.sign ')'] := settles_piece fun _ _ => rfl
      have hall := settles_joined hor fun w (_ : w ∈ v :: vs) => settles_equals hfield w
      have hcondition := ((hopen.append hall).append hclose).scans
      rw [conjunct, Conjunct.tokens, List.map_map]
      · exact hcondition
      · exact List.cons_ne_nil v vs

end Pieces

theorem intercalate_cons {sep : Token} (ts : List Token) (tss : List (List Token)) :
    List.intercalate [sep] (ts :: tss) = ts ++ tss.flatMap fun us => [sep] ++ us := by
  induction tss generalizing ts with
  | nil => simp
  | cons us tss ih =>
    rw [List.intercalate_cons_cons, ih, List.flatMap_cons, List.append_assoc]
    simp only [List.append_assoc]

theorem intercalate_concat {sep : Token} (tss : List (List Token)) (ts : List Token) :
    List.intercalate [sep] (tss ++ [ts]) = (tss.flatMap fun us => us ++ [sep]) ++ ts := by
  induction tss with
  | nil => simp [List.intercalate]
  | cons us tss ih =>
    rw [List.cons_append, List.intercalate_cons_of_ne_nil (by simp), ih, List.flatMap_cons]
    simp

theorem append_nothing (st : Statement) : st ++ piece "" = st := append_empty st

/-! ## Statements -/

section Statements

variable {c : Criteria} (hc : ∀ field ∈ c.fields, Criteria.isField field = true)
include hc

theorem scans_whereClause (collection : String) : (whereClause collection c).Scans
    ([.word "WHERE"] ++ List.intercalate [.word "AND"]
      ((conditions collection c).map Conjunct.tokens)) := by
  have hcollection : (piece " WHERE collection = " ++ bound (.text collection)).Settles
      ([.word "WHERE", .word "collection", .sign '='] ++ [.value (.text collection)]) :=
    (settles_piece fun _ _ => rfl).append (settles_bound _)
  have hcondition : ∀ x ∈ c.filters, (piece " AND " ++ condition x.1 x.2).Opens ∧
      (piece " AND " ++ condition x.1 x.2).Scans ([.word "AND"] ++ (conjunct x.1 x.2).tokens) := by
    intro x hx
    have hfield := hc x.1 (List.mem_append_left _ (List.mem_map_of_mem hx))
    have hand : (piece " AND ").Settles [.word "AND"] := settles_piece fun _ _ => rfl
    have hopens : (piece " AND ").Opens := ⟨' ', _, rfl, by decide, by decide⟩
    exact ⟨hopens.append _, hand.append_scans (scans_condition hfield x.2)⟩
  have hall := hcollection.scans.append_concat hcondition
  rw [conditions, List.map_cons, intercalate_cons, List.map_map, List.flatMap_map]
  exact hall

omit hc in
theorem opens_whereClause (collection : String) : (whereClause collection c).Opens := by
  have hopens : (piece " WHERE collection = ").Opens := ⟨' ', _, rfl, by decide, by decide⟩
  exact (hopens.append _).append _

theorem scans_orderClause :
    (orderClause c).Scans ([.word "ORDER", .word "BY"] ++ List.intercalate [.sign ',']
    ((c.order.map sortKey ++ [byInsertion]).map SortKey.tokens)) := by
  have horder : (piece " ORDER BY ").Settles [.word "ORDER", .word "BY"] :=
    settles_piece fun _ _ => rfl
  have hkeys := settles_concat fun x (hx : x ∈ c.order) =>
    settles_sortKey (hc x.1 (List.mem_append_right _ (List.mem_map_of_mem hx))) x.2
  have hpk : (piece "pk ASC").Scans [.word "pk", .word "ASC"] := scans_piece fun _ _ => rfl
  have hall := (horder.append hkeys).append_scans hpk
  rw [List.map_append, List.map_singleton, intercalate_concat, List.map_map, List.flatMap_map,
    ← List.append_assoc]
  exact hall

omit hc in
theorem opens_orderClause : (orderClause c).Opens := by
  have hopens : (piece " ORDER BY ").Opens := ⟨' ', _, rfl, by decide, by decide⟩
  exact (hopens.append _).append _

theorem scans_selection {st : Statement} {ts : List Token} (hst : st.Scans ts)
    (collection : String) :
    (st ++ whereClause collection c ++ orderClause c).Scans
      (ts ++ (selection collection c none).tokens) := by
  have hwhere :=
    hst.append (opens_whereClause (c := c) collection) (scans_whereClause hc collection)
  have hall := hwhere.append opens_orderClause (scans_orderClause hc)
  simpa only [Selection.tokens, Selection.pageTokens, selection, List.append_assoc, List.append_nil]
    using hall

omit hc in
theorem scans_page {st : Statement} {ts : List Token} (hst : st.Scans ts)
    (limit offset : Option Nat) :
    (st ++ pageClause limit offset).Scans
      (ts ++ Selection.pageTokens (boundPage limit offset)) := by
  have hlimit : ∀ n, (piece " LIMIT " ++ bound (.number n)).Opens ∧
      (piece " LIMIT " ++ bound (.number n)).Settles [.word "LIMIT", .value (.number n)] := by
    intro n
    have hopens : (piece " LIMIT ").Opens := ⟨' ', _, rfl, by decide, by decide⟩
    have hword : (piece " LIMIT ").Settles [.word "LIMIT"] := settles_piece fun _ _ => rfl
    exact ⟨hopens.append _, hword.append (settles_bound _)⟩
  have hoffset : ∀ n,
      (piece " OFFSET " ++ bound (.number n)).Settles [.word "OFFSET", .value (.number n)] := by
    intro n
    have hword : (piece " OFFSET ").Settles [.word "OFFSET"] := settles_piece fun _ _ => rfl
    exact hword.append (settles_bound _)
  have hboth : ∀ n m,
      (st ++ (piece " LIMIT " ++ bound (.number n) ++ piece " OFFSET " ++ bound (.number m))).Scans
      (ts ++ ([.word "LIMIT", .value (.number n)] ++ [.word "OFFSET", .value (.number m)])) := by
    intro n m
    rw [Statement.append_assoc (piece " LIMIT " ++ bound (.number n))]
    exact hst.append ((hlimit n).1.append _) ((hlimit n).2.append (hoffset m)).scans
  cases limit <;> cases offset
  · show (st ++ piece "").Scans (ts ++ [])
    rw [append_nothing, List.append_nil]
    exact hst
  · exact hboth _ _
  · exact hst.append (hlimit _).1 (hlimit _).2.scans
  · exact hboth _ _

omit hc in
theorem scans_firstOnly {st : Statement} {ts : List Token} (hst : st.Scans ts) (single : Bool) :
    (st ++ firstOnly single).Scans (ts ++ Selection.pageTokens (firstPage single)) := by
  cases single with
  | true =>
    have hopens : (piece " LIMIT 1").Opens := ⟨' ', _, rfl, by decide, by decide⟩
    exact hst.append hopens (scans_piece fun _ _ => rfl)
  | false =>
    show (st ++ piece "").Scans (ts ++ [])
    rw [append_nothing, List.append_nil]
    exact hst

omit hc in
theorem selection_tokens (collection : String) (c : Criteria) (page : Option Page)
    (ts : List Token) :
    ts ++ (selection collection c none).tokens ++ Selection.pageTokens page
      = ts ++ (selection collection c page).tokens := by
  simp [Selection.tokens, Selection.pageTokens, selection]

theorem scans_selectStatement (collection : String) (limit : Option Nat) :
    (selectStatement collection c limit).Scans (selectCommand collection c limit).tokens := by
  have hhead : (piece "SELECT body FROM documents").Scans Command.selectHead :=
    scans_piece fun _ _ => rfl
  have hall := scans_page (scans_selection hc hhead collection) limit c.offset
  rw [selection_tokens] at hall
  exact hall

theorem scans_updateStatement (collection : String) (patch : Document) (single : Bool) :
    (updateStatement collection c patch single).Scans
      (updateCommand collection c patch single).tokens := by
  have hhead : (piece "UPDATE documents SET body = JSON_MERGE_PATCH(body, ").Settles
      (Command.updateHead ++ [.word "JSON_MERGE_PATCH", .sign '(', .word "body", .sign ',']) :=
    settles_piece fun _ _ => rfl
  have hclose : (piece ")").Settles [.sign ')'] := settles_piece fun _ _ => rfl
  have hbody := (hhead.append (settles_boundJson (.object (Document.stripId patch)))).append hclose
  have hall := scans_firstOnly (scans_selection hc hbody.scans collection) single
  rw [selection_tokens] at hall
  simpa only [updateStatement, Command.tokens, updateCommand, patched, Scalar.tokens, Function.name,
    Column.name, List.append_assoc, List.cons_append, List.nil_append] using hall

theorem scans_deleteStatement (collection : String) :
    (deleteStatement collection c).Scans (deleteCommand collection c).tokens := by
  have hhead : (piece "DELETE FROM documents").Scans Command.deleteHead :=
    scans_piece fun _ _ => rfl
  have hall := scans_firstOnly (scans_selection hc hhead collection) true
  rw [selection_tokens] at hall
  exact hall

omit hc in
theorem scans_insertStatement (collection id : String) (d : Document) :
    (insertStatement collection id d).Scans (insertCommand collection id d).tokens := by
  have hhead :
      (piece "INSERT INTO documents (collection, doc_id, body) VALUES (").Settles
        Command.insertHead :=
    settles_piece fun _ _ => rfl
  have hcomma : (piece ", ").Settles [.sign ','] := settles_piece fun _ _ => rfl
  have hclose : (piece ")").Settles [.sign ')'] := settles_piece fun _ _ => rfl
  have hall := (((((hhead.append (settles_bound (.text collection))).append hcomma).append
    (settles_bound (.text id))).append hcomma).append
      (settles_bound (.text (Document.text d)))).append hclose
  exact hall.scans

theorem command?_selectStatement (collection : String) (limit : Option Nat) :
    (selectStatement collection c limit).command? = some (selectCommand collection c limit) :=
  Statement.command?_eq (c := selectCommand collection c limit) (proper_selection _ _ _)
    (scans_selectStatement hc collection limit)

theorem command?_updateStatement (collection : String) (patch : Document) (single : Bool) :
    (updateStatement collection c patch single).command?
      = some (updateCommand collection c patch single) :=
  Statement.command?_eq (c := updateCommand collection c patch single) (proper_selection _ _ _)
    (scans_updateStatement hc collection patch single)

theorem command?_deleteStatement (collection : String) :
    (deleteStatement collection c).command? = some (deleteCommand collection c) :=
  Statement.command?_eq (c := deleteCommand collection c) (proper_selection _ _ _)
    (scans_deleteStatement hc collection)

omit hc in
theorem command?_insertStatement (collection id : String) (d : Document) :
    (insertStatement collection id d).command? = some (insertCommand collection id d) :=
  Statement.command?_eq (c := insertCommand collection id d) trivial
    (scans_insertStatement collection id d)

end Statements

end Larder.Store.Relational
