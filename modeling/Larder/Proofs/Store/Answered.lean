import Larder.Proofs.Criteria.Fields
import Larder.Proofs.Sql.Server
import Larder.Proofs.Store.Chosen
import Larder.Proofs.Store.Kept
import Larder.Proofs.Store.Requests

/-!
What the conversations of the relational driver come to with a conforming server, whose rows keep
documents.
-/

namespace Larder

open Json (Value)

namespace Document

/-- The document can be read back, and its identifier is a string if it has one. -/
structure Storable (d : Document) : Prop where
  readable : (Value.object d).Readable readableDepth
  identifier : ∀ v, Dict.get? d idField = some v → v = .null ∨ ∃ id, v = .string id

theorem readable_withId {d : Document} (h : d.Storable) (fresh : String) :
    (Value.object (withId d fresh).1).Readable readableDepth := by
  obtain ⟨hn, hmembers⟩ := Json.Value.readable_object_iff.1 h.readable
  have hinserted : (Value.object (Dict.insert d idField (.string fresh))).Readable readableDepth :=
    (readable_object hn).2 (ReadableMembers.insert hmembers idField (readable_string _ fresh))
  unfold withId
  split
  · exact hinserted
  · exact hinserted
  · exact h.readable

theorem withId_of_not_lacksId {d : Document} (h : ¬ lacksId d = true) (fresh fresh' : String) :
    withId d fresh = withId d fresh' := by
  unfold lacksId at h
  unfold withId
  cases hget : Dict.get? d idField with
  | none =>
    rw [hget] at h
    exact absurd rfl h
  | some v =>
    cases v with
    | null =>
      rw [hget] at h
      exact absurd rfl h
    | _ => rfl

end Document

namespace Store.Relational

open Sql

/-- Hands out identifiers in a row, and passes all else on. -/
def identifying {σ : Type} (ids : Nat → String) (answer : (d : Demand) → StateM σ d.Response) :
    (d : Demand) → StateM (σ × Nat) d.Response
  | .identifier => fun s => (ids s.2, s.1, s.2 + 1)
  | d => fun s => ((answer d s.1).1, (answer d s.1).2, s.2)

section Answered

variable {σ : Type} {D : Dialect} (hD : D.Faithful) {srv : Server σ} (hsrv : srv.Conforms D)
  (ids : Nat → String) {s : σ} (n : Nat) {docs : String → List Document}
  (htracks : Tracks (srv.table s).rows docs) (collection : String)

/-- A conversation ends with this answer and leaves such a table behind. -/
def ComesTo (srv : Server σ) (ids : Nat → String) (s : σ) (n : Nat) {α : Type} (t : Talk α) (a : α)
    (table : Table) :
    Prop :=
  (t.hold (identifying ids srv.answer) (s, n)).1 = a ∧
    srv.table (t.hold (identifying ids srv.answer) (s, n)).2.1 = table

theorem ComesTo.map {ids : Nat → String} {n : Nat} {α β : Type} {t : Talk α} {a : α} {table : Table}
    (h : ComesTo srv ids s n t a table) (f : α → β) :
    ComesTo srv ids s n (do return f (← t)) (f a) table := by
  unfold ComesTo
  rw [Conversation.hold_bind]
  exact ⟨congrArg f h.1, h.2⟩

theorem comesTo_execute {st : Statement} {a : Except Failure Nat} {table : Table}
    (h : srv.Does (.execute st) s a table) :
    ComesTo srv ids s n (execute st) (a.mapError Failure.toError) table :=
  ⟨congrArg (Except.mapError Failure.toError) h.1, h.2⟩

/-! ## Selections -/

include hD in
theorem documentsOfRows_printed {rows : List Row} (hrows : ∀ r ∈ rows, r.Proper) :
    documentsOfRows (rows.map fun r => some (D.print r.body)) = .ok (rows.map Row.document) := by
  have hvalues : (rows.map fun r => some (D.print r.body)).mapM valueOfRow
      = .ok (rows.map Row.body) := by
    rw [List.mapM_map]
    refine mapM_eq_pure fun r hr => ?_
    show valueOfRow (some (D.print r.body)) = .ok r.body
    rw [valueOfRow, hD.print r.body (hrows r hr).readable]
  have hdocuments : (rows.map Row.body).mapM documentOfValue = .ok (rows.map Row.document) := by
    rw [List.mapM_map]
    refine mapM_eq_pure fun r hr => ?_
    show documentOfValue r.body = .ok r.document
    rw [(hrows r hr).body]
    rfl
  rw [documentsOfRows, hvalues]
  exact hdocuments

section Criteria

variable {c : Criteria} (hvalid : c.validate = .ok ()) (hvalues : c.Readable)
include hD hsrv htracks hvalid hvalues

theorem comesTo_select (limit : Option Nat) :
    let picked :=
  Selection.cut (boundPage limit c.offset) (arranged c (within collection (srv.table s).rows))
    ComesTo srv ids s n (select collection c limit) (.ok (picked.map Row.document))
      (srv.table s) := by
  have hfields := Criteria.checkFields_ok_iff.1 hvalid
  have hdefined :=
    defined_selection hD hfields hvalues htracks.proper collection (boundPage limit c.offset)
  obtain ⟨picked, hpicked, hanswer, htable⟩ :=
    hsrv.select s (command?_selectStatement hfields collection limit) hdefined
  obtain rfl := (picks_iff hD hfields hvalues htracks.proper htracks.ascending).1 hpicked
  have hproper :
      ∀ r ∈ Selection.cut (boundPage limit c.offset)
          (arranged c (within collection (srv.table s).rows)),
      r.Proper := by
    intro r hr
    have hmem := mem_arranged.1 ((Selection.cut_sublist _ _).subset hr)
    exact htracks.proper r (mem_within.1 hmem.1).1
  refine ⟨?_, ?_⟩
  · rw [select_eq hvalid]
    show answerOfRows (srv.answer (.query _) s).1 = _
    rw [hanswer]
    exact documentsOfRows_printed hD hproper
  · rw [select_eq hvalid]
    exact htable

theorem comesTo_update {patch : Document} (hpatch : (Value.object patch).Readable readableDepth)
    (single : Bool) :
    ∃ picked, picked = Selection.cut (firstPage single)
      (arranged c (within collection (srv.table s).rows)) ∧
      ComesTo srv ids s n (update collection c patch single) (.ok picked.length)
        ((srv.table s).withRows (replaced (patchedBody patch) picked (srv.table s).rows)) := by
  have hfields := Criteria.checkFields_ok_iff.1 hvalid
  have hdefined := defined_selection hD hfields hvalues htracks.proper collection (firstPage single)
  have hbody : ∀ r ∈ (srv.table s).rows,
      (patched patch).eval D (some r) = some (.json (patchedBody patch r)) :=
    fun r hr => eval_patched (hD.parse _ (Document.readable_stripId hpatch))
      (htracks.proper r hr).body
  obtain ⟨picked, hpicked, hdoes⟩ :=
    hsrv.update s (command?_updateStatement hfields collection patch single) hdefined hbody
  refine ⟨picked, (picks_iff hD hfields hvalues htracks.proper htracks.ascending).1 hpicked, ?_⟩
  rw [update, ifValid_of_ok hvalid]
  exact comesTo_execute ids n hdoes

theorem comesTo_deleteOne :
    ∃ picked, picked = Selection.cut (firstPage true)
      (arranged c (within collection (srv.table s).rows)) ∧
      ComesTo srv ids s n (deleteOne collection c) (.ok picked.length)
        ((srv.table s).withRows (without picked (srv.table s).rows)) := by
  have hfields := Criteria.checkFields_ok_iff.1 hvalid
  have hdefined := defined_selection hD hfields hvalues htracks.proper collection (firstPage true)
  obtain ⟨picked, hpicked, hdoes⟩ :=
    hsrv.delete s (command?_deleteStatement hfields collection) hdefined
  refine ⟨picked, (picks_iff hD hfields hvalues htracks.proper htracks.ascending).1 hpicked, ?_⟩
  rw [deleteOne, ifValid_of_ok hvalid]
  exact comesTo_execute ids n hdoes

end Criteria

/-! ## Inserts -/

/-- The documents of each collection with some more at the end of one. -/
def added (docs : String → List Document) (collection : String) (more : List Document) :
    String → List Document :=
  fun other => if other = collection then docs collection ++ more else docs other

theorem added_nil (docs : String → List Document) (collection : String) :
    added docs collection [] = docs := by
  funext other
  by_cases h : other = collection
  · simp [added, h]
  · simp [added, h]

theorem added_added (docs : String → List Document) (collection : String)
    (more rest : List Document) :
    added (added docs collection more) collection rest = added docs collection (more ++ rest) := by
  funext other
  by_cases h : other = collection
  · simp [added, h]
  · simp [added, h]

include htracks in
theorem taken_iff {id : String} :
    (∃ r ∈ (srv.table s).rows, r.Takes collection id) ↔
      ∃ a ∈ docs collection, a.stringId? = some id := by
  rw [← htracks.documents]
  constructor
  · rintro ⟨r, hr, hcollection, hid⟩
    exact ⟨r.document, List.mem_map_of_mem (mem_within.2 ⟨hr, hcollection⟩),
      hid ▸ htracks.identified r hr⟩
  · rintro ⟨a, ha, hid⟩
    obtain ⟨r, hr, rfl⟩ := List.mem_map.1 ha
    obtain ⟨hmem, hcollection⟩ := mem_within.1 hr
    exact ⟨r, hmem, hcollection, Option.some.inj ((htracks.identified r hmem).symm.trans hid)⟩

theorem hold_insertOne (d : Document) :
    let x := Document.withId d (ids n)
    let response := srv.answer (.execute (insertStatement collection x.2 x.1)) s
    (insertOne collection d).hold (identifying ids srv.answer) (s, n)
      = ((response.1.mapError Failure.toError).map fun _ => x.1, response.2,
          if Document.lacksId d then n + 1 else n) := by
  intro x response
  unfold insertOne identify
  by_cases h : Document.lacksId d = true
  · rw [if_pos h, if_pos h]
    rfl
  · have hfresh : Document.withId d "" = Document.withId d (ids n) :=
      Document.withId_of_not_lacksId h _ _
    rw [if_neg h, if_neg h, hfresh]
    rfl

section Inserts

variable {d : Document} (hd : d.Storable)
include hD hsrv htracks hd

/-- Either the name is taken, and the insert is refused, or the row is there afterwards. -/
theorem insertOne_cases : ∃ a s', (insertOne collection d).hold (identifying ids srv.answer) (s, n)
      = (a, s', if Document.lacksId d then n + 1 else n) ∧
    ((∃ e, a = .error e) ∧ srv.table s' = srv.table s ∧
        (∃ b ∈ docs collection, b.stringId? = some (Document.withId d (ids n)).2) ∨
      a = .ok (Document.withId d (ids n)).1 ∧
        (∀ b ∈ docs collection, b.stringId? ≠ some (Document.withId d (ids n)).2) ∧
        ∃ rows, srv.table s' = (srv.table s).withRows rows ∧
        rows.length = (srv.table s).rows.length + 1 ∧
          Tracks rows (added docs collection [(Document.withId d (ids n)).1])) := by
  refine ⟨_, _, hold_insertOne ids n collection d, ?_⟩
  generalize hx : Document.withId d (ids n) = x
  have hstring : x.1.stringId? = some x.2 := hx ▸ Document.stringId?_withId hd.identifier (ids n)
  have hreadable : (Value.object x.1).Readable readableDepth :=
    hx ▸ Document.readable_withId hd (ids n)
  have hcommand := command?_insertStatement collection x.2 x.1
  have hbody : ((Scalar.bound (.text (Document.text x.1))).eval D none).bind (Datum.toJson? D)
      = some (.json (.object x.1)) := congrArg (Option.map Datum.json) (hD.parse _ hreadable)
  by_cases htaken : ∃ r ∈ (srv.table s).rows, r.Takes collection x.2
  · obtain ⟨f, hanswer, htable⟩ := hsrv.duplicate s hcommand rfl rfl hbody htaken
    refine Or.inl ⟨?_, htable, (taken_iff htracks collection).1 htaken⟩
    rw [hanswer]
    exact ⟨f.toError, rfl⟩
  · have hfree : ∀ r ∈ (srv.table s).rows, ¬ r.Takes collection x.2 := fun r hr h =>
        htaken ⟨r, hr, h⟩
    obtain ⟨pk, hpk, hanswer, htable⟩ := hsrv.insert s hcommand rfl rfl hbody hfree
    refine Or.inr ⟨?_, fun b hb hid => htaken ((taken_iff htracks collection).2 ⟨b, hb, hid⟩), _,
      htable, ?_, ?_⟩
    · rw [hanswer]
      rfl
    · rw [List.length_append]
      rfl
    · exact htracks.insert hpk hstring hreadable fun other => rfl

end Inserts

section Batches

variable {batch : List Document} (hbatch : ∀ d ∈ batch, d.Storable)
include hD hsrv hbatch

/-- Within a transaction either a name is taken in the course of the inserts, or all rows are there
afterwards. -/
theorem insertEach_cases {kept rows : List Row} (htable : srv.table s = ⟨kept, some rows⟩)
    (hrows : Tracks rows docs) :
    ∃ a s' n', (insertEach collection batch).hold (identifying ids srv.answer) (s, n)
      = (a, s', n') ∧ ((∃ e, a = .error e) ∧ (srv.table s').kept = kept ∧
          ¬ Memory.Insertable (docs collection) ((Memory.identify ids n batch).1.map Prod.snd) ∨
        a = .ok ((Memory.identify ids n batch).1.map Prod.fst) ∧
          Memory.Insertable (docs collection) ((Memory.identify ids n batch).1.map Prod.snd) ∧
          ∃ rows', srv.table s' = ⟨kept, some rows'⟩ ∧ rows'.length = rows.length + batch.length ∧
            Tracks rows'
              (added docs collection ((Memory.identify ids n batch).1.map Prod.fst))) := by
  induction batch generalizing s n docs rows with
  | nil =>
    refine ⟨_, _, _, rfl,
      Or.inr ⟨rfl, ⟨List.nodup_nil, List.forall_mem_nil _⟩, rows, htable, rfl, ?_⟩⟩
    show Tracks rows (added docs collection [])
    rw [added_nil]
    exact hrows
  | cons d rest ih =>
    obtain ⟨hd, hrest⟩ := List.forall_mem_cons.1 hbatch
    have hvisible : (srv.table s).rows = rows := congrArg Table.rows htable
    have hstring := Document.stringId?_withId hd.identifier (ids n)
    obtain ⟨a, s₁, hhold, hcases⟩ :=
      insertOne_cases hD hsrv ids n (hvisible.symm ▸ hrows) collection hd
    have hidentified : (Memory.identify ids n (d :: rest)).1 = Document.withId d (ids n)
        :: (Memory.identify ids (if Document.lacksId d then n + 1 else n) rest).1 := rfl
    rw [hidentified, List.map_cons, List.map_cons, Memory.insertable_cons hstring]
    unfold insertEach
    rw [Conversation.hold_bind, hhold]
    rcases hcases with ⟨⟨e, rfl⟩, hsame, b, hb, hid⟩ | ⟨rfl, hfree, rows₁, htable₁,
      hlength₁, hrows₁⟩
    · exact ⟨_, _, _, rfl, Or.inl ⟨⟨e, rfl⟩, by rw [hsame, htable], fun h => h.1 b hb hid⟩⟩
    · have hopen : srv.table s₁ = ⟨kept, some rows₁⟩ := by
        rw [htable₁, htable]
        rfl
      obtain ⟨a, s₂, n₂, heach, hcases⟩ :=
        ih (if Document.lacksId d then n + 1 else n) hrest hopen hrows₁
      have hmore : added docs collection [(Document.withId d (ids n)).1] collection
          = docs collection ++ [(Document.withId d (ids n)).1] := if_pos rfl
      rw [hmore] at hcases
      dsimp only
      rw [Conversation.hold_bind, heach]
      rcases hcases with ⟨⟨e, rfl⟩, hkept, hnot⟩ | ⟨rfl, hnew, rows₂, htable₂, hlength₂, hrows₂⟩
      · exact ⟨_, _, _, rfl, Or.inl ⟨⟨e, rfl⟩, hkept, fun h => hnot h.2⟩⟩
      · refine ⟨_, _, _, rfl, Or.inr ⟨rfl, ⟨hfree, hnew⟩, rows₂, htable₂, ?_, ?_⟩⟩
        · rw [hlength₂, hlength₁, hvisible, List.length_cons]
          omega
        · rw [added_added] at hrows₂
          exact hrows₂

include htracks in
/-- The whole batch is kept once the transaction is committed, or nothing is. -/
theorem insertMany_cases (hsettled : (srv.table s).pending = none) :
    ∃ a s' n', (insertMany collection batch).hold (identifying ids srv.answer) (s, n)
      = (a, s', n') ∧ ((∃ e, a = .error e) ∧ (srv.table s').kept = (srv.table s).kept ∧
          ¬ Memory.Insertable (docs collection) ((Memory.identify ids n batch).1.map Prod.snd) ∨
        a = .ok ((Memory.identify ids n batch).1.map Prod.fst) ∧
          Memory.Insertable (docs collection) ((Memory.identify ids n batch).1.map Prod.snd) ∧
          (srv.table s').kept.length = (srv.table s).kept.length + batch.length ∧
            Tracks (srv.table s').kept
              (added docs collection ((Memory.identify ids n batch).1.map Prod.fst))) := by
  have hkept : (srv.table s).rows = (srv.table s).kept :=
    congrArg (Option.getD · (srv.table s).kept) hsettled
  obtain ⟨hbegin, hopen⟩ := hsrv.begin s hsettled
  obtain ⟨a, s₂, n₂, heach, hcases⟩ :=
    insertEach_cases hD hsrv ids n collection hbatch hopen (hkept ▸ htracks)
  have hstart : Talk.startTransaction.hold (identifying ids srv.answer) (s, n)
      = (.ok (), (srv.answer .startTransaction s).2, n) := congrArg (·, _, n) hbegin
  unfold insertMany
  rw [Conversation.hold_bind, hstart]
  dsimp only
  rw [Conversation.hold_bind, heach]
  rcases hcases with ⟨⟨e, rfl⟩, hsame, hnot⟩ | ⟨rfl, hnew, rows, hpending, hlength, hrows⟩
  · exact ⟨_, _, _, rfl, Or.inl ⟨⟨e, rfl⟩, hsame, hnot⟩⟩
  · obtain ⟨hcommit, hdone⟩ := hsrv.commit s₂ rows (congrArg Table.pending hpending)
    have hend : Talk.commit.hold (identifying ids srv.answer) (s₂, n₂)
        = (.ok (), (srv.answer .commit s₂).2, n₂) :=
      congrArg (·, _, n₂) hcommit
    dsimp only
    rw [Conversation.hold_bind, hend]
    refine ⟨_, _, _, rfl, Or.inr ⟨rfl, hnew, ?_, ?_⟩⟩
    · rw [hdone]
      exact hlength
    · rw [hdone]
      exact hrows

end Batches

end Answered

end Store.Relational

end Larder
