import Larder.Proofs.Criteria.Order
import Larder.Proofs.Sql.Meaning
import Larder.Proofs.Store.Emitted

/-!
Rows as the statements of the relational driver see them.

In a row that keeps a document the conditions say whether the criteria accept it, and the keys order
the rows as the criteria order the documents, those that come out equal by `pk`.
-/

namespace Larder

open Json (Value)

/-! ## Equality of values -/

namespace Json

theorem Number.same_comm (a b : Number) : a.same b = b.same a := by
  cases a with
  | integer n =>
    cases b with
    | integer m => exact Bool.beq_comm
    | float y => rfl
  | float x =>
    cases b with
    | integer m => rfl
    | float y =>
      show Binary64.same x y = Binary64.same y x
      unfold Binary64.same
      by_cases h : x.rank = y.rank
      · rw [h, Bool.beq_comm (a := x.negative)]
      · have hxy : (x.rank == y.rank) = false := beq_false_of_ne h
        have hyx : (y.rank == x.rank) = false := beq_false_of_ne (Ne.symm h)
        rw [hxy, hyx]
        rfl

namespace Value

theorem sameItems_comm {as : List Value} (h : ∀ a ∈ as, ∀ b, a.same b = b.same a)
    (bs : List Value) :
    sameItems as bs = sameItems bs as := by
  induction as generalizing bs with
  | nil => cases bs <;> rfl
  | cons a as ih =>
    rw [List.forall_mem_cons] at h
    cases bs with
    | nil => rfl
    | cons b bs => rw [sameItems, sameItems, h.1 b, ih h.2 bs]

theorem sameMembers_comm {as : List (String × Value)} (h : ∀ a ∈ as, ∀ b, a.2.same b = b.same a.2)
    (bs : List (String × Value)) : sameMembers as bs = sameMembers bs as := by
  induction as generalizing bs with
  | nil => cases bs <;> rfl
  | cons a as ih =>
    rw [List.forall_mem_cons] at h
    cases bs with
    | nil => rfl
    | cons b bs => rw [sameMembers, sameMembers, h.1 b.2, ih h.2 bs, Bool.beq_comm]

theorem same_comm (a b : Value) : a.same b = b.same a := by
  induction a using Value.induction generalizing b with
  | null => cases b <;> rfl
  | bool x => cases b <;> first | rfl | exact Bool.beq_comm
  | number x => cases b <;> first | rfl | exact Number.same_comm _ _
  | string x => cases b <;> first | rfl | exact Bool.beq_comm
  | array items ih => cases b <;> first | rfl | exact sameItems_comm ih _
  | object members ih => cases b <;> first | rfl | exact sameMembers_comm ih _

end Value

end Json

/-! ## Rows that keep documents -/

/-- Values are read from text as long as they are nested no deeper than this. -/
def readableDepth : Nat := Json.depthLimit - 1

def Filter.values : Filter → List Value
  | eq v => [v]
  | oneOf candidates => candidates

def Criteria.Readable (c : Criteria) : Prop :=
  ∀ x ∈ c.filters, ∀ v ∈ x.2.values, v.Readable readableDepth

namespace Sql

def Row.document (r : Row) : Document := r.body.membersOf

/-- The body is an object that can be read back. -/
structure Row.Proper (r : Row) : Prop where
  body : r.body = .object r.document
  readable : r.body.Readable readableDepth

end Sql

namespace Store.Relational

open Sql

/-! ## Paths -/

theorem pathSegments?_segment {segment : List Char} (h : ∀ c ∈ segment, c ≠ '"' ∧ c ≠ '\\')
    (before rest : List Char) :
    pathSegments? (some before) (segment ++ '"' :: rest)
      = (pathSegments? none rest).map ((before.reverse ++ segment) :: ·) := by
  induction segment generalizing before with
  | nil => simp [pathSegments?]
  | cons c cs ih =>
    rw [List.forall_mem_cons] at h
    have hstep : pathSegments? (some before) (c :: (cs ++ '"' :: rest))
        = pathSegments? (some (c :: before)) (cs ++ '"' :: rest) := by
      rw [pathSegments?, if_neg h.1.1, if_neg h.1.2]
    rw [List.cons_append, hstep, ih h.2]
    simp

theorem pathSegments?_segments {segments : List (List Char)}
    (h : ∀ s ∈ segments, ∀ c ∈ s, c ≠ '"' ∧ c ≠ '\\') :
    pathSegments? none (segments.flatMap segmentText) = some segments := by
  induction segments with
  | nil => rfl
  | cons s rest ih =>
    rw [List.forall_mem_cons] at h
    have hhead : (s :: rest).flatMap segmentText
        = '.' :: '"' :: (s ++ '"' :: rest.flatMap segmentText) := by
      simp [segmentText]
    rw [hhead, pathSegments?, pathSegments?_segment h.1, ih h.2]
    rfl

theorem path?_path {field : String} (hfield : Criteria.isField field = true) :
    path? (path field) = some (segments field) := by
  have hchars : ∀ s ∈ segments field, ∀ c ∈ s, c ≠ '"' ∧ c ≠ '\\' := by
    intro s hs c hc
    have hchar := isFieldChar_of_isField hfield s hs c hc
    refine ⟨?_, ?_⟩ <;> rintro rfl <;> revert hchar <;> decide
  rw [path?, path_toList]
  exact pathSegments?_segments hchars

theorem valueAlong_object (d : Document) {segments : List (List Char)} (h : segments ≠ []) :
    valueAlong (.object d) segments = Document.lookupPath d segments := by
  induction segments generalizing d with
  | nil => exact absurd rfl h
  | cons s rest ih =>
    cases rest with
    | nil =>
      unfold valueAlong Document.lookupPath
      cases Dict.get? d (String.ofList s) <;> rfl
    | cons t rest =>
      unfold valueAlong Document.lookupPath
      cases hget : Dict.get? d (String.ofList s) with
      | none => rfl
      | some v =>
        cases v with
        | object members => exact ih members (List.cons_ne_nil t rest)
        | _ => rfl

/-! ## Expressions in a row -/

section Row

variable {D : Dialect} (hD : D.Faithful) {r : Row} (hr : r.Proper) {field : String}

/-- What a path leads to in a row. -/
def datumAt (r : Row) (field : String) : Datum :=
  ((Document.lookup r.document field).map Datum.json).getD .null

theorem asJson_datumAt (r : Row) (field : String) :
    (datumAt r field).asJson = (Document.lookup r.document field).getD .null := by
  unfold datumAt
  cases Document.lookup r.document field <;> rfl

theorem asNumber_datumAt (r : Row) (field : String) : (datumAt r field).asNumber = 0 := by
  unfold datumAt
  cases Document.lookup r.document field <;> rfl

include hr in
theorem eval_extracted (hfield : Criteria.isField field = true) :
    (extracted field).eval D (some r) = some (datumAt r field) := by
  have hbody := hr.body
  have hvalue : valueAlong r.body (segments field) = Document.lookup r.document field := by
    rw [hbody]
    exact valueAlong_object _ (List.splitOn_ne_nil _ _)
  show (path? (path field)).map _ = _
  rw [path?_path hfield, datumAt, ← hvalue]
  rfl

include hD in
theorem eval_writtenValue {v : Value} (hv : v.Readable readableDepth) (row : Option Row) :
    (writtenValue v).eval D row = some (.json v) := by
  show (D.parse v.text).map Datum.json = _
  rw [hD.parse v hv]
  rfl

include hD hr in
theorem eval_fieldValue (hfield : Criteria.isField field = true) :
    (fieldValue field).eval D (some r)
      = some (.json ((Document.lookup r.document field).getD .null)) := by
  have hnull : (Scalar.castJson (.literal "null")).eval D (some r) = some (.json .null) :=
    congrArg (Option.map Datum.json) (hD.parse .null (Document.readable_null _))
  have hextracted := eval_extracted hr hfield (D := D)
  rw [fieldValue, Scalar.eval, hextracted, hnull]
  unfold datumAt
  cases Document.lookup r.document field <;> rfl

/-! ## Conditions -/

include hD hr in
theorem holds?_equality (hfield : Criteria.isField field = true) {v : Value}
    (hv : v.Readable readableDepth) :
    (equality field v).holds? D r
      = some (((Document.lookup r.document field).getD .null).same v) := by
  rw [equality, Equality.holds?, eval_fieldValue hD hr hfield, eval_writtenValue hD hv]
  rfl

theorem mapM_eq_pure {m : Type → Type} [Monad m] [LawfulMonad m] {α β : Type} {f : α → m β}
    {g : α → β} {as : List α} (h : ∀ a ∈ as, f a = pure (g a)) : as.mapM f = pure (as.map g) := by
  induction as with
  | nil => rfl
  | cons a as ih =>
    rw [List.forall_mem_cons] at h
    rw [List.mapM_cons, h.1, ih h.2]
    simp

include hD hr in
theorem holds?_conjunct (hfield : Criteria.isField field = true) {f : Filter}
    (hf : ∀ v ∈ f.values, v.Readable readableDepth) :
    (conjunct field f).holds? D r = some (f.accepts (Document.lookup r.document field)) := by
  cases f with
  | eq v => exact holds?_equality hD hr hfield (hf v (List.mem_singleton_self v))
  | oneOf candidates =>
    cases candidates with
    | nil => rfl
    | cons v vs =>
      have hall : ((v :: vs).map (equality field)).mapM (fun e : Equality => e.holds? D r)
          = some ((v :: vs).map fun w =>
            ((Document.lookup r.document field).getD .null).same w) := by
        rw [List.mapM_map]
        exact mapM_eq_pure fun w hw => holds?_equality hD hr hfield (hf w hw)
      show (((v :: vs).map (equality field)).mapM fun e : Equality => e.holds? D r).map
          (fun bs => bs.any id) = _
      rw [hall, Option.map_some, List.any_map]
      simp only [Filter.accepts, Value.same_comm, Function.comp_def, id]

end Row

/-! ## Selections -/

/-- The order of rows that statements ask for. -/
def compareRows (c : Criteria) (r r' : Row) : Ordering :=
  (Criteria.compareBy c.order r.document r'.document).then (compare r.pk r'.pk)

section Selection

variable {D : Dialect} (hD : D.Faithful) {c : Criteria}
  (hc : ∀ field ∈ c.fields, Criteria.isField field = true) (hvalues : c.Readable) {r : Row}
  (hr : r.Proper)

include hD hc hvalues hr in
theorem holds?_selection (collection : String) (page : Option Page) :
    (selection collection c page).holds? D r
      = some (r.collection == collection && c.accepts r.document) := by
  have hfilters : (c.filters.map fun x => conjunct x.1 x.2).mapM (fun a : Conjunct => a.holds? D r)
      = some (c.filters.map fun x => x.2.accepts (Document.lookup r.document x.1)) := by
    rw [List.mapM_map]
    exact mapM_eq_pure fun x hx =>
      holds?_conjunct hD hr (hc x.1 (List.mem_append_left _ (List.mem_map_of_mem hx)))
        (hvalues x hx)
  have hcollection : (withinCollection collection).holds? D r = some (r.collection == collection) :=
    rfl
  show ((withinCollection collection :: c.filters.map fun x => conjunct x.1 x.2).mapM
    fun a : Conjunct => a.holds? D r).map (fun bs => bs.all id) = _
  rw [List.mapM_cons, hcollection, hfilters]
  show some (_ && (c.filters.map fun x => x.2.accepts (Document.lookup r.document x.1)).all id) = _
  rw [List.all_map]
  rfl

/-- The keys of a row. -/
def keys (clauses : List (String × Direction)) (r : Row) : List Datum :=
  clauses.map (fun x => datumAt r x.1) ++ [.number r.pk]

include hc hr in
theorem keys?_selection (collection : String) (page : Option Page) :
    (selection collection c page).keys? D r = some (keys c.order r) := by
  have horder : (c.order.map sortKey).mapM (fun k : SortKey => k.scalar.eval D (some r))
      = some (c.order.map fun x => datumAt r x.1) := by
    rw [List.mapM_map]
    exact mapM_eq_pure fun x hx =>
      eval_extracted hr (hc x.1 (List.mem_append_right _ (List.mem_map_of_mem hx)))
  show (c.order.map sortKey ++ [byInsertion]).mapM (fun k : SortKey => k.scalar.eval D (some r)) = _
  rw [List.mapM_append, horder]
  rfl

theorem compareKeys_keys (clauses : List (String × Direction)) (r r' : Row) :
    Selection.compareKeys (clauses.map Prod.snd ++ [.asc]) (keys clauses r) (keys clauses r')
      = (Criteria.compareBy clauses r.document r'.document).then (compare r.pk r'.pk) := by
  induction clauses with
  | nil =>
    show ((compare r.pk r'.pk).then .eq).then .eq = _
    rw [Ordering.then_eq, Ordering.then_eq]
    rfl
  | cons clause rest ih =>
    obtain ⟨field, direction⟩ := clause
    have hdatum : (datumAt r field).compare (datumAt r' field)
        = compareValues ((Document.lookup r.document field).getD .null)
            ((Document.lookup r'.document field).getD .null) := by
      rw [Datum.compare, asNumber_datumAt, asNumber_datumAt, asJson_datumAt, asJson_datumAt]
      rfl
    show (direction.apply ((datumAt r field).compare (datumAt r' field))).then _ = _
    rw [hdatum, Criteria.compareBy, Ordering.then_assoc]
    exact congrArg _ ih

include hc in
theorem compareRows_selection (collection : String) (page : Option Page) {r r' : Row}
    (hr : r.Proper) (hr' : r'.Proper) :
    (selection collection c page).compareRows D r r' = compareRows c r r' := by
  have hdirections : (c.order.map sortKey ++ [byInsertion]).map SortKey.direction
      = c.order.map Prod.snd ++ [.asc] := by
    rw [List.map_append, List.map_map]
    rfl
  rw [Selection.compareRows, keys?_selection hc hr, keys?_selection hc hr']
  show Selection.compareKeys ((c.order.map sortKey ++ [byInsertion]).map SortKey.direction) _ _ = _
  rw [hdirections]
  exact compareKeys_keys c.order r r'

end Selection

end Store.Relational

end Larder
