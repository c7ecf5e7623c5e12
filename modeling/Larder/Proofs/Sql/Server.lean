import Larder.Proofs.Criteria.Order
import Larder.Proofs.Sql.Meaning
import Larder.Sql.Demand

/-!
What is taken for granted of a database server.

A conforming server does with its table what the commands mean, and refuses nothing but an insert of
an identifier that its collection has already.  `reference` is such a server, so there are some.
-/

namespace Larder.Sql

open Json (Value)

/-- The rows that are kept, and those that the transaction would leave which is open, if one is. -/
structure Table where
  kept : List Row
  pending : Option (List Row)

namespace Table

def empty : Table := ⟨[], none⟩

/-- The rows that a statement works on. -/
def rows (t : Table) : List Row := t.pending.getD t.kept

def withRows (t : Table) (rows : List Row) : Table :=
  match t.pending with
  | none => { t with kept := rows }
  | some _ => { t with pending := some rows }

end Table

namespace Row

def isIn (picked : List Row) (r : Row) : Bool := picked.any fun p => p.pk == r.pk

/-- Whether a row stands in the way of another one. -/
def Takes (collection docId : String) (r : Row) : Prop :=
  r.collection = collection ∧ r.docId = docId

instance (collection docId : String) (r : Row) : Decidable (r.Takes collection docId) :=
  inferInstanceAs (Decidable (_ ∧ _))

end Row

/-- The rows with another body where one is picked. -/
def replaced (body : Row → Value) (picked rows : List Row) : List Row :=
  rows.map fun r => if r.isIn picked then { r with body := body r } else r

def without (picked rows : List Row) : List Row := rows.filter fun r => !r.isIn picked

/-- A database server, as seen over one connection. -/
structure Server (σ : Type) where
  answer : (d : Demand) → StateM σ d.Response
  /-- Takes the connection back, and with it a transaction that was not committed. -/
  release : σ → σ
  table : σ → Table

namespace Server

variable {σ : Type} (srv : Server σ)

/-- A demand is answered like this and leaves such a table behind. -/
def Does (d : Demand) (s : σ) (a : d.Response) (t : Table) : Prop :=
  (srv.answer d s).1 = a ∧ srv.table (srv.answer d s).2 = t

/-- The server does what the commands mean, for as long as it is reached at all.

Texts are compared exactly, a row that comes in is behind all others, and an insert that is refused
leaves the rows as they are, within a transaction too.  Nothing is said of a statement that is no
command, or has no meaning. -/
structure Conforms (D : Dialect) : Prop where
  select : ∀ {st : Statement} {sel : Selection} (s : σ), st.command? = some (.select sel) →
    sel.Defined D (srv.table s).rows →
    ∃ picked, sel.Picks D (srv.table s).rows picked ∧
      srv.Does (.query st) s (.ok (picked.map fun r => some (D.print r.body))) (srv.table s)
  /-- The rows that are found are counted, whether or not they change. -/
  update : ∀ {st : Statement} {body : Scalar} {sel : Selection} {new : Row → Value} (s : σ),
    st.command? = some (.update body sel) → sel.Defined D (srv.table s).rows →
    (∀ r ∈ (srv.table s).rows, body.eval D (some r) = some (.json (new r))) →
    ∃ picked, sel.Picks D (srv.table s).rows picked ∧
      srv.Does (.execute st) s (.ok picked.length)
        ((srv.table s).withRows (replaced new picked (srv.table s).rows))
  delete : ∀ {st : Statement} {sel : Selection} (s : σ), st.command? = some (.delete sel) →
    sel.Defined D (srv.table s).rows →
    ∃ picked, sel.Picks D (srv.table s).rows picked ∧
      srv.Does (.execute st) s (.ok picked.length)
        ((srv.table s).withRows (without picked (srv.table s).rows))
  insert : ∀ {st : Statement} {c i b : Scalar} {collection docId : String} {v : Value} (s : σ),
    st.command? = some (.insert c i b) → c.eval D none = some (.text collection) →
    i.eval D none = some (.text docId) → (b.eval D none).bind (Datum.toJson? D) = some (.json v) →
    (∀ r ∈ (srv.table s).rows, ¬ r.Takes collection docId) →
    ∃ pk, (∀ r ∈ (srv.table s).rows, r.pk < pk) ∧
      srv.Does (.execute st) s (.ok 1)
        ((srv.table s).withRows ((srv.table s).rows ++ [⟨pk, collection, docId, v⟩]))
  duplicate : ∀ {st : Statement} {c i b : Scalar} {collection docId : String} {v : Value} (s : σ),
    st.command? = some (.insert c i b) → c.eval D none = some (.text collection) →
    i.eval D none = some (.text docId) → (b.eval D none).bind (Datum.toJson? D) = some (.json v) →
    (∃ r ∈ (srv.table s).rows, r.Takes collection docId) →
    ∃ f, srv.Does (.execute st) s (.error f) (srv.table s)
  begin : ∀ s, (srv.table s).pending = none →
    srv.Does .startTransaction s (.ok ()) ⟨(srv.table s).kept, some (srv.table s).kept⟩
  commit : ∀ s rows, (srv.table s).pending = some rows → srv.Does .commit s (.ok ()) ⟨rows, none⟩
  release : ∀ s, srv.table (srv.release s) = ⟨(srv.table s).kept, none⟩

end Server

/-! ## A server -/

namespace Datum

instance : Std.TransCmp Datum.compare := by
  have hnumber := transCmp_on (fun a b : Nat => Ord.compare a b) Datum.asNumber
  have hjson := transCmp_on compareValues Datum.asJson
  have hlex : Datum.compare = compareLex (fun a b : Datum => Ord.compare a.asNumber b.asNumber)
      (fun a b : Datum => compareValues a.asJson b.asJson) := rfl
  rw [hlex]
  infer_instance

end Datum

namespace Selection

instance transCmp_compareKeys (directions : List Direction) :
    Std.TransCmp (compareKeys directions) := by
  induction directions with
  | nil => exact { eq_swap := rfl, isLE_trans := fun _ _ => rfl }
  | cons d ds ih =>
    have happly := transCmp_apply Datum.compare d
    have hhead :=
      transCmp_on (fun a b : Datum => d.apply (a.compare b)) fun as : List Datum => as.headD .null
    have htail := transCmp_on (compareKeys ds) fun as : List Datum => as.tail
    have hlex : compareKeys (d :: ds) = compareLex
        (fun as bs : List Datum => d.apply ((as.headD .null).compare (bs.headD .null)))
        (fun as bs : List Datum => compareKeys ds as.tail bs.tail) := rfl
    rw [hlex]
    infer_instance

variable (s : Selection) (D : Dialect)

instance transCmp_compareRows : Std.TransCmp (s.compareRows D) :=
  transCmp_on (compareKeys (s.order.map SortKey.direction)) fun r : Row => (s.keys? D r).getD []

/-- The rows that satisfy the conditions, sorted. -/
def arrange (rows : List Row) : List Row :=
  (rows.filter fun r => s.holds? D r == some true).mergeSort fun r r' => s.compareRows D r r' != .gt

theorem arranges_arrange (rows : List Row) : s.Arranges D rows (s.arrange D rows) where
  perm := List.mergeSort_perm _ _
  sorted := by
    have hsorted :=
      List.pairwise_mergeSort (ne_gt_trans (s.compareRows D)) (ne_gt_total (s.compareRows D))
      (rows.filter fun r => s.holds? D r == some true)
    exact hsorted.imp fun hle => bne_iff_ne.1 hle

theorem picks_arrange (rows : List Row) : s.Picks D rows (cut s.page (s.arrange D rows)) :=
  ⟨_, s.arranges_arrange D rows, rfl⟩

end Selection

namespace Table

def refused : Failure := .server 1064 "42000" "You have an error in your SQL syntax"

def taken : Failure := .server 1062 "23000" "Duplicate entry"

variable (D : Dialect)

def query (st : Statement) : StateM Table (Except Failure Rows) := fun t =>
  match st.command? with
  | some (.select sel) =>
    (.ok ((Selection.cut sel.page (sel.arrange D t.rows)).map fun r => some (D.print r.body)), t)
  | _ => (.error refused, t)

/-- The body that an expression gives a row; one without a value leaves it as it is. -/
def newBody (body : Scalar) (r : Row) : Value :=
  match body.eval D (some r) with
  | some (.json v) => v
  | _ => r.body

def nextKey (rows : List Row) : Nat := (rows.map Row.pk).foldr max 0 + 1

def insert (collection docId : String) (v : Value) : StateM Table (Except Failure Nat) := fun t =>
  if t.rows.any fun r => decide (r.Takes collection docId) then (.error taken, t)
  else (.ok 1, t.withRows (t.rows ++ [⟨nextKey t.rows, collection, docId, v⟩]))

def execute (st : Statement) : StateM Table (Except Failure Nat) := fun t =>
  match st.command? with
  | some (.update body sel) =>
    let picked := Selection.cut sel.page (sel.arrange D t.rows)
    (.ok picked.length, t.withRows (replaced (newBody D body) picked t.rows))
  | some (.delete sel) =>
    let picked := Selection.cut sel.page (sel.arrange D t.rows)
    (.ok picked.length, t.withRows (without picked t.rows))
  | some (.insert c i b) =>
    match c.eval D none, i.eval D none, (b.eval D none).bind (Datum.toJson? D) with
    | some (.text collection), some (.text docId), some (.json v) => insert collection docId v t
    | _, _, _ => (.error refused, t)
  | _ => (.error refused, t)

end Table

/-- A server that is nothing but its table. -/
def reference (D : Dialect) : Server Table where
  answer
    | .connect _ => return .ok ()
    | .migrate _ => return .ok ()
    | .query st => Table.query D st
    | .execute st => Table.execute D st
    | .startTransaction => fun t => (.ok (), ⟨t.kept, some t.kept⟩)
    | .commit => fun t => (.ok (), ⟨t.rows, none⟩)
    | .close => return ()
    | .identifier => return ""
  release t := ⟨t.kept, none⟩
  table := id

theorem pk_lt_nextKey {rows : List Row} {r : Row} (hr : r ∈ rows) : r.pk < Table.nextKey rows := by
  have hle : ∀ {pks : List Nat}, r.pk ∈ pks → r.pk ≤ pks.foldr max 0 := by
    intro pks hpk
    induction pks with
    | nil => cases hpk
    | cons pk pks ih =>
      rcases List.mem_cons.1 hpk with hhead | htail
      · rw [hhead]
        exact Nat.le_max_left _ _
      · exact Nat.le_trans (ih htail) (Nat.le_max_right _ _)
  exact Nat.lt_succ_of_le (hle (List.mem_map_of_mem hr))

theorem conforms_reference (D : Dialect) : (reference D).Conforms D where
  select := by
    intro st sel t hst _
    refine ⟨_, sel.picks_arrange D t.rows, ?_⟩
    show (Table.query D st t).1 = _ ∧ (Table.query D st t).2 = t
    rw [Table.query, hst]
    exact ⟨rfl, rfl⟩
  update := by
    intro st body sel new t hst _ hnew
    refine ⟨_, sel.picks_arrange D t.rows, ?_⟩
    have hbody : ∀ picked,
        replaced (Table.newBody D body) picked t.rows = replaced new picked t.rows := by
      intro picked
      refine List.map_congr_left fun r hr => ?_
      rw [Table.newBody, hnew r hr]
    show (Table.execute D st t).1 = _ ∧ (Table.execute D st t).2 = _
    rw [Table.execute, hst]
    exact ⟨rfl, congrArg t.withRows (hbody _)⟩
  delete := by
    intro st sel t hst _
    refine ⟨_, sel.picks_arrange D t.rows, ?_⟩
    show (Table.execute D st t).1 = _ ∧ (Table.execute D st t).2 = _
    rw [Table.execute, hst]
    exact ⟨rfl, rfl⟩
  insert := by
    intro st c i b collection docId v t hst hc hi hb hfree
    refine ⟨Table.nextKey t.rows, fun r hr => pk_lt_nextKey hr, ?_⟩
    have hany : (t.rows.any fun r => decide (r.Takes collection docId)) = false := by
      have hrows : ∀ r ∈ t.rows, ¬ r.Takes collection docId := hfree
      simpa using hrows
    show (Table.execute D st t).1 = _ ∧ (Table.execute D st t).2 = _
    rw [Table.execute, hst]
    simp only [hc, hi, hb, Table.insert, hany]
    exact ⟨rfl, rfl⟩
  duplicate := by
    intro st c i b collection docId v t hst hc hi hb htaken
    have hany : (t.rows.any fun r => decide (r.Takes collection docId)) = true := by
      have hrows : ∃ r ∈ t.rows, r.Takes collection docId := htaken
      simpa using hrows
    refine ⟨Table.taken, ?_⟩
    show (Table.execute D st t).1 = _ ∧ (Table.execute D st t).2 = t
    rw [Table.execute, hst]
    simp only [hc, hi, hb, Table.insert, hany]
    exact ⟨rfl, rfl⟩
  begin := fun _ _ => ⟨rfl, rfl⟩
  commit := by
    intro t rows hrows
    have hall : Table.rows t = rows := congrArg (Option.getD · t.kept) hrows
    exact ⟨rfl, congrArg (Table.mk · none) hall⟩
  release := fun _ => rfl

end Larder.Sql
