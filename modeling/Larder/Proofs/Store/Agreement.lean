import Larder.Proofs.Store.Answered

/-!
The two drivers answer alike, call after call, whatever is asked of both.

Mirroring is the invariant: no transaction is open, and the rows of the server keep the documents in
memory.  A call leaves that as it is and is answered by the same result, or by an error of either.
Identifiers that a call draws come from a sequence of its own, since a batch that fails stops
drawing earlier on the server.
-/

namespace Larder.Store

open Sql
open Json (Value)

/-! ## Calls -/

/-- A request, and the identifiers that can be handed out for it. -/
structure Call where
  request : Request
  ids : Nat → String

namespace Call

def onMemory (call : Call) : StateM Memory.State call.request.Given := fun m =>
  call.request.ask (memory call.ids Place.whole) { m with drawn := 0 }

def onServer {σ : Type} (srv : Server σ) (call : Call) : StateM σ call.request.Given := fun s =>
  let (a, t) := call.request.ask (relational (Relational.identifying call.ids srv.answer)) (s, 0)
  (a, srv.release t.1)

end Call

/-- The same result, or two errors. -/
def Concur {α : Type} : Answer α → Answer α → Prop
  | .ok a, .ok b => a = b
  | .error _, .error _ => True
  | _, _ => False

theorem concur_of_eq {α : Type} {a b : Answer α} (h : a = b) : Concur a b := by
  subst h
  cases a with
  | ok a => rfl
  | error e => trivial

theorem Concur.map {α β : Type} {a b : Answer α} (h : Concur a b) (f : α → β) :
    Concur (a.map f) (b.map f) := by
  cases a with
  | ok x =>
    cases b with
    | ok y => exact congrArg f h
    | error e => exact h
  | error e =>
    cases b with
    | ok y => exact h
    | error e' => trivial

namespace Request

def Concur : (r : Request) → r.Given → r.Given → Prop
  | find _ _ _ => Store.Concur
  | insertOne _ _ => Store.Concur
  | insertMany _ _ => Store.Concur
  | updateOne _ _ _ => Store.Concur
  | updateMany _ _ _ => Store.Concur
  | deleteOne _ _ => Store.Concur

/-- What both drivers take alike: no page but where everything is read, and data that can be read
back. -/
def Shared : Request → Prop
  | find _ c .all => c.Readable
  | find _ c .one => c.Readable ∧ c.limit = none ∧ c.offset = none
  | insertOne _ d => d.Storable
  | insertMany _ batch => ∀ d ∈ batch, d.Storable
  | updateOne _ c patch =>
    c.Readable ∧ (c.limit = none ∧ c.offset = none) ∧ (Value.object patch).Readable readableDepth
  | updateMany _ c patch =>
    c.Readable ∧ (c.limit = none ∧ c.offset = none) ∧ (Value.object patch).Readable readableDepth
  | deleteOne _ c => c.Readable ∧ c.limit = none ∧ c.offset = none

/-- How many documents a request may add. -/
def additions : Request → Nat
  | insertOne _ _ => 1
  | insertMany _ batch => batch.length
  | _ => 0

end Request

/-- Every one of these calls is answered alike. -/
def AgreeThroughout {σ : Type} (srv : Server σ) : List Call → Memory.State → σ → Prop
  | [], _, _ => True
  | call :: rest, m, s =>
    call.request.Concur (call.onMemory m).1 (call.onServer srv s).1 ∧
      AgreeThroughout srv rest (call.onMemory m).2 (call.onServer srv s).2

/-! ## Mirroring -/

namespace Relational

/-- The server has no transaction open and keeps what memory keeps, no more than so many
documents. -/
structure Mirrors {σ : Type} (srv : Server σ) (m : Memory.State) (s : σ) (count : Nat) : Prop where
  settled : (srv.table s).pending = none
  tracks : Tracks (srv.table s).kept (Memory.documents m)
  length_le : (srv.table s).kept.length ≤ count

section Steps

variable {σ : Type} {D : Dialect} (hD : D.Faithful) {srv : Server σ} (hsrv : srv.Conforms D)
  {m : Memory.State} {s : σ} {count : Nat} (h : Mirrors srv m s count) (ids : Nat → String)

include h in
theorem Mirrors.rows_eq : (srv.table s).rows = (srv.table s).kept :=
  congrArg (Option.getD · (srv.table s).kept) h.settled

include h in
theorem Mirrors.mono {count' : Nat} (hle : count ≤ count') : Mirrors srv m s count' :=
  ⟨h.settled, h.tracks, Nat.le_trans h.length_le hle⟩

include h in
theorem Mirrors.cleared : Mirrors srv { m with drawn := 0 } s count :=
  ⟨h.settled, h.tracks, h.length_le⟩

include hsrv in
theorem mirrors_release {m' : Memory.State} {s' : σ} {count' : Nat}
    (htracks : Tracks (srv.table s').kept (Memory.documents m'))
    (hlength : (srv.table s').kept.length ≤ count') :
    Mirrors srv m' (srv.release s') count' := by
  have htable := hsrv.release s'
  constructor
  · rw [htable]
  · rw [htable]
    exact htracks
  · rw [htable]
    exact hlength

include hsrv h in
theorem mirrors_unchanged {m' : Memory.State} {s' : σ}
    (hdocuments : Memory.documents m' = Memory.documents m)
    (hkept : (srv.table s').kept = (srv.table s).kept) : Mirrors srv m' (srv.release s') count := by
  refine mirrors_release hsrv ?_ ?_
  · rw [hkept, hdocuments]
    exact h.tracks
  · rw [hkept]
    exact h.length_le

/-! ## Reads -/

theorem findAll_eq {rows : List Row} (hkeeps : Keeps rows (Memory.documents m)) {c : Criteria}
    (hvalid : c.validate = .ok ()) (collection : String) : Memory.findAll m collection c
      = .ok ((c.page (arranged c (within collection rows))).map Row.document) := by
  have hselected : (Memory.select ((within collection rows).map Row.document) c).map Prod.fst
      = ((portion c false (placed c (within collection rows))).map Prod.fst).map Row.document := by
    rw [select_documents, List.map_map, List.map_map]
    rfl
  rw [← portion_map, map_fst_placed] at hselected
  unfold Memory.findAll
  rw [hvalid, ← hkeeps.documents]
  exact congrArg Except.ok hselected

theorem length_arranged_le (c : Criteria) (collection : String) (rows : List Row) :
    (arranged c (within collection rows)).length ≤ rows.length := by
  have hperm : (arranged c (within collection rows)).Perm _ := List.mergeSort_perm _ _
  rw [hperm.length_eq]
  exact (List.filter_sublist.trans List.filter_sublist).length_le

include hsrv h in
/-- What both refuse before anything is looked up leaves both as they are. -/
theorem step_refused {α : Type} {t : Talk (Answer α)} {e : Error} (ht : t = .done (.error e))
    {onMemory : Answer α × Memory.State} (hmemory : onMemory = (.error e, m)) :
    let onServer := t.hold (identifying ids srv.answer) (s, 0)
    Concur onMemory.1 onServer.1 ∧ Mirrors srv onMemory.2 (srv.release onServer.2.1) count := by
  rw [ht, hmemory]
  exact ⟨trivial, mirrors_unchanged hsrv h rfl rfl⟩

include hD hsrv h in
theorem step_find {collection : String} {c : Criteria} {method : Method}
    (hr : (Request.find collection c method).Shared) (hcount : count ≤ noLimit) :
    let call : Call := ⟨.find collection c method, ids⟩
    call.request.Concur (call.onMemory m).1 (call.onServer srv s).1 ∧
      Mirrors srv (call.onMemory m).2 (call.onServer srv s).2 count := by
  have htracks : Tracks (srv.table s).rows (Memory.documents m) := h.rows_eq ▸ h.tracks
  have hvalues : c.Readable := by
    cases method with
    | one => exact hr.1
    | all => exact hr
  rcases Criteria.validate_eq c with ⟨hvalid, -⟩ | ⟨reason, herror⟩
  · have hselect := fun limit =>
        comesTo_select hD hsrv ids 0 htracks collection hvalid hvalues limit
    have hmemory := findAll_eq htracks.toKeeps hvalid collection
    have hlength := length_arranged_le c collection (srv.table s).rows
    generalize arranged c (within collection (srv.table s).rows) = rows at hselect hmemory hlength
    cases method with
    | one =>
      have hfind := (hselect (some 1)).map (·.map List.getLast?)
      have hfirst : (rows.map Row.document).head? = ((rows.take 1).map Row.document).getLast? := by
        cases rows <;> rfl
      refine ⟨concur_of_eq ?_, mirrors_unchanged hsrv h rfl (congrArg Table.kept hfind.2)⟩
      show Memory.findOne m collection c = _
      rw [Memory.findOne_eq_head, hmemory, Criteria.page_of_unpaged hr.2]
      rw [cut_one, hr.2.2] at hfind
      exact (congrArg Except.ok hfirst).trans hfind.1.symm
    | all =>
      have hroom : rows.length ≤ noLimit := by
        rw [h.rows_eq] at hlength
        have hkept := h.length_le
        omega
      have hall : Memory.findAll m collection c
          = ((select collection c c.limit).hold (identifying ids srv.answer) (s, 0)).1 := by
        rw [hmemory, (hselect c.limit).1, cut_boundPage hroom]
      exact ⟨(concur_of_eq hall).map some,
        mirrors_unchanged hsrv h rfl (congrArg Table.kept (hselect c.limit).2)⟩
  · have hselect : ∀ limit, select collection c limit = .done (.error (.invalidCriteria reason)) :=
      fun limit => ifValid_of_error herror _
    have hmemory : Memory.findAll m collection c = .error (.invalidCriteria reason) :=
      Memory.findAll_of_error herror m collection
    cases method with
    | one =>
      have hfind : findOne collection c = .done (.error (.invalidCriteria reason)) :=
        congrArg (fun t : Talk (Answer (List Document)) => do return (← t).map List.getLast?)
          (hselect (some 1))
      have hfirst : Memory.findOne m collection c = .error (.invalidCriteria reason) :=
        Memory.findOne_of_error herror m collection
      exact step_refused hsrv h.cleared ids hfind (Prod.ext hfirst rfl)
    | all =>
      obtain ⟨hconcur, hmirrors⟩ :=
        step_refused hsrv h.cleared ids (hselect c.limit)
          (congrArg (·, { m with drawn := 0 }) hmemory)
      exact ⟨hconcur.map some, hmirrors⟩

/-! ## Writes -/

theorem kept_withRows {t : Table} (ht : t.pending = none) (rows : List Row) :
    (t.withRows rows).kept = rows := by
  unfold Table.withRows
  rw [ht]

include hD hsrv h in
theorem step_update {collection : String} {c : Criteria} {patch : Document} (single : Bool)
    (hvalues : c.Readable) (hunpaged : c.limit = none ∧ c.offset = none)
    (hpatch : (Value.object patch).Readable readableDepth) :
    let onMemory := Memory.update m collection c patch single
    let onServer := (update collection c patch single).hold (identifying ids srv.answer) (s, 0)
    Concur onMemory.1 onServer.1 ∧ Mirrors srv onMemory.2 (srv.release onServer.2.1) count := by
  have htracks : Tracks (srv.table s).rows (Memory.documents m) := h.rows_eq ▸ h.tracks
  rcases Criteria.validate_eq c with ⟨hvalid, -⟩ | ⟨reason, herror⟩
  · obtain ⟨picked, hpicked, hanswer, htable⟩ :=
      comesTo_update hD hsrv ids 0 htracks collection hvalid hvalues hpatch single
    let chosen := portion c single (placed c (within collection (srv.table s).rows))
    have hchosen : ∀ x ∈ chosen, (within collection (srv.table s).rows)[x.2]? = some x.1 :=
      fun x hx => getElem?_of_mem_placed ((portion_sublist c single _).subset hx)
    have hfst : picked = chosen.map Prod.fst := by
      rw [hpicked, ← portion_map, map_fst_placed]
      unfold portion
      rw [Criteria.page_of_unpaged hunpaged]
      cases single <;> rfl
    have htargets : Memory.targets (Memory.documents m collection) c single
        = chosen.map Prod.snd := by
      rw [← htracks.documents, targets_documents]
    rw [Memory.update_eq hvalid]
    refine ⟨?_, mirrors_release hsrv ?_ ?_⟩
    · rw [hanswer, htargets, hfst]
      refine concur_of_eq ?_
      simp
    · rw [htable, kept_withRows h.settled, hfst]
      refine htracks.patch hchosen hpatch fun other => ?_
      rw [Memory.documents_withDocuments, htargets]
    · rw [htable, kept_withRows h.settled, replaced, List.length_map, h.rows_eq]
      exact h.length_le
  · exact step_refused hsrv h ids (ifValid_of_error herror _)
      (Memory.update_of_error herror m collection patch single)

include hD hsrv h in
theorem step_deleteOne {collection : String} {c : Criteria} (hvalues : c.Readable)
    (hunpaged : c.limit = none ∧ c.offset = none) :
    let onMemory := Memory.deleteOne m collection c
    let onServer := (deleteOne collection c).hold (identifying ids srv.answer) (s, 0)
    Concur onMemory.1 onServer.1 ∧ Mirrors srv onMemory.2 (srv.release onServer.2.1) count := by
  have htracks : Tracks (srv.table s).rows (Memory.documents m) := h.rows_eq ▸ h.tracks
  rcases Criteria.validate_eq c with ⟨hvalid, -⟩ | ⟨reason, herror⟩
  · obtain ⟨picked, hpicked, hanswer, htable⟩ :=
      comesTo_deleteOne hD hsrv ids 0 htracks collection hvalid hvalues
    have hplaced : ∀ x ∈ placed c (within collection (srv.table s).rows),
        (within collection (srv.table s).rows)[x.2]? = some x.1 := fun x hx =>
          getElem?_of_mem_placed hx
    have hfst : picked
        = ((placed c (within collection (srv.table s).rows)).take 1).map Prod.fst := by
      rw [hpicked, List.map_take, map_fst_placed]
      rfl
    have htargets : Memory.targets (Memory.documents m collection) c true
        = ((placed c (within collection (srv.table s).rows)).take 1).map Prod.snd := by
      rw [← htracks.documents, targets_documents]
      unfold portion
      rw [Criteria.page_of_unpaged hunpaged]
      rfl
    generalize placed c (within collection (srv.table s).rows) = all at hplaced hfst htargets
    rw [Memory.deleteOne_eq hvalid, htargets]
    rw [hfst] at hanswer htable
    cases all with
    | nil =>
      have hsame : without [] (srv.table s).rows = (srv.table s).rows :=
        List.filter_eq_self.2 fun _ _ => rfl
      refine ⟨concur_of_eq hanswer.symm, mirrors_unchanged hsrv h rfl ?_⟩
      rw [htable, kept_withRows h.settled]
      exact hsame.trans h.rows_eq
    | cons x rest =>
      refine ⟨concur_of_eq hanswer.symm, mirrors_release hsrv ?_ ?_⟩
      · rw [htable, kept_withRows h.settled]
        exact htracks.remove hplaced List.mem_cons_self fun other =>
          Memory.documents_withDocuments m collection other _
      · have hle :=
          (List.filter_sublist (p := fun r : Row => !r.isIn [x.1])
            (l := (srv.table s).rows)).length_le
        rw [htable, kept_withRows h.settled]
        exact hle.trans (h.rows_eq ▸ h.length_le)
  · exact step_refused hsrv h ids (ifValid_of_error herror _)
      (Memory.deleteOne_of_error herror m collection)

/-! ## Inserts -/

theorem insertable_singleton {existing : List Document} {name : String} :
    Memory.Insertable existing [name] ↔ ∀ b ∈ existing, b.stringId? ≠ some name := by
  simp [Memory.Insertable]

include hD hsrv h in
theorem step_insertOne {collection : String} {d : Document} (hd : d.Storable) :
    let onMemory := Memory.insertOne ids { m with drawn := 0 } collection d
    let onServer := (insertOne collection d).hold (identifying ids srv.answer) (s, 0)
    Concur onMemory.1 onServer.1 ∧
      Mirrors srv onMemory.2 (srv.release onServer.2.1) (count + 1) := by
  have htracks : Tracks (srv.table s).rows (Memory.documents m) := h.rows_eq ▸ h.tracks
  obtain ⟨a, s', hhold, hcases⟩ := insertOne_cases hD hsrv ids 0 htracks collection hd
  have hmemory := Memory.insertOne_eq ids { m with drawn := 0 } collection d
  dsimp only
  rw [insertable_singleton] at hmemory
  rw [hhold]
  rcases hcases with ⟨⟨e, rfl⟩, htable, b, hb, hid⟩ | ⟨rfl, hfree, rows, htable, hlength, hrows⟩
  · rcases hmemory with ⟨herror, -⟩ | ⟨-, hfree, -⟩
    · rw [herror]
      exact ⟨trivial, (mirrors_unchanged hsrv h.cleared rfl (congrArg Table.kept htable)).mono
        (by omega)⟩
    · exact absurd hid (hfree b hb)
  · rcases hmemory with ⟨-, htaken⟩ | ⟨hok, -, hdocuments⟩
    · exact absurd hfree htaken
    · refine ⟨concur_of_eq hok, mirrors_release hsrv ?_ ?_⟩
      · have hadded : Memory.documents (Memory.insertOne ids { m with drawn := 0 } collection d).2
            = added (Memory.documents m) collection [(Document.withId d (ids 0)).1] :=
              funext hdocuments
        rw [htable, kept_withRows h.settled, hadded]
        exact hrows
      · rw [htable, kept_withRows h.settled, hlength, h.rows_eq]
        exact Nat.succ_le_succ h.length_le

include hD hsrv h in
theorem step_insertMany {collection : String} {batch : List Document}
    (hbatch : ∀ d ∈ batch, d.Storable) :
    let onMemory := Memory.insertMany ids { m with drawn := 0 } collection batch
    let onServer := (insertMany collection batch).hold (identifying ids srv.answer) (s, 0)
    Concur onMemory.1 onServer.1 ∧
      Mirrors srv onMemory.2 (srv.release onServer.2.1) (count + batch.length) := by
  have htracks : Tracks (srv.table s).rows (Memory.documents m) := h.rows_eq ▸ h.tracks
  obtain ⟨a, s', n', hhold, hcases⟩ :=
    insertMany_cases hD hsrv ids 0 htracks collection hbatch h.settled
  have hmemory := Memory.insertMany_eq ids { m with drawn := 0 } collection batch
  dsimp only
  rw [hhold]
  rcases hcases with ⟨⟨e, rfl⟩, hkept, hnot⟩ | ⟨rfl, hnew, hlength, hrows⟩
  · rcases hmemory with ⟨⟨e', herror⟩, -⟩ | ⟨-, hnew, -⟩
    · rw [herror]
      exact ⟨trivial, (mirrors_unchanged hsrv h.cleared rfl hkept).mono (by omega)⟩
    · exact absurd hnew hnot
  · rcases hmemory with ⟨-, hnot⟩ | ⟨hok, -, hdocuments⟩
    · exact absurd hnew hnot
    · refine ⟨concur_of_eq hok, mirrors_release hsrv ?_ ?_⟩
      · have hadded : Memory.documents (Memory.insertMany ids { m with
            drawn := 0 } collection batch).2
            = added (Memory.documents m) collection
              ((Memory.identify ids 0 batch).1.map Prod.fst) := funext hdocuments
        rw [hadded]
        exact hrows
      · rw [hlength]
        exact Nat.add_le_add_right h.length_le _

/-! ## Runs -/

include hD hsrv h in
theorem step {call : Call} (hcall : call.request.Shared) (hcount : count ≤ noLimit) :
    call.request.Concur (call.onMemory m).1 (call.onServer srv s).1 ∧
      Mirrors srv (call.onMemory m).2 (call.onServer srv s).2 (count + call.request.additions) := by
  obtain ⟨r, ids⟩ := call
  cases r with
  | find collection c method => exact step_find hD hsrv h ids hcall hcount
  | insertOne collection d => exact step_insertOne hD hsrv h ids hcall
  | insertMany collection batch => exact step_insertMany hD hsrv h ids hcall
  | updateOne collection c patch =>
    exact step_update hD hsrv h.cleared ids true hcall.1 hcall.2.1 hcall.2.2
  | updateMany collection c patch =>
    exact step_update hD hsrv h.cleared ids false hcall.1 hcall.2.1 hcall.2.2
  | deleteOne collection c => exact step_deleteOne hD hsrv h.cleared ids hcall.1 hcall.2

end Steps

/-- From a mirrored state on all calls are answered alike, as long as the table has room. -/
theorem agree_of_mirrors {σ : Type} {D : Dialect} (hD : D.Faithful) {srv : Server σ}
    (hsrv : srv.Conforms D) (calls : List Call) (hcalls : ∀ call ∈ calls, call.request.Shared)
    {m : Memory.State} {s : σ} {count : Nat}
    (hroom : count + (calls.map fun call => call.request.additions).sum ≤ noLimit)
    (h : Mirrors srv m s count) :
    AgreeThroughout srv calls m s := by
  induction calls generalizing m s count with
  | nil => trivial
  | cons call rest ih =>
    obtain ⟨hcall, hrest⟩ := List.forall_mem_cons.1 hcalls
    rw [List.map_cons, List.sum_cons] at hroom
    obtain ⟨hconcur, hmirrors⟩ := step hD hsrv h hcall (by omega)
    exact ⟨hconcur, ih hrest (by omega) hmirrors⟩

theorem mirrors_empty {σ : Type} {srv : Server σ} {s : σ} (h : srv.table s = .empty) :
    Mirrors srv .empty s 0 := by
  constructor
  · rw [h]
    rfl
  · rw [h]
    exact ⟨⟨List.forall_mem_nil _, List.Pairwise.nil, fun _ => rfl⟩, List.forall_mem_nil _⟩
  · rw [h]
    exact Nat.le_refl 0

/-- From no documents on, memory and a conforming server answer all calls alike.  A page is left to
reads of everything, identifiers are strings, values can be read back, and no more documents come in
than a limit of 64 bits can count. -/
theorem agree_from_empty {σ : Type} {D : Dialect} (hD : D.Faithful) {srv : Server σ}
    (hsrv : srv.Conforms D) {s : σ} (hempty : srv.table s = .empty) (calls : List Call)
    (hcalls : ∀ call ∈ calls, call.request.Shared)
    (hroom : (calls.map fun call => call.request.additions).sum ≤ noLimit) :
    AgreeThroughout srv calls .empty s := by
  have hstart : 0 + (calls.map fun call => call.request.additions).sum ≤ noLimit := by omega
  exact agree_of_mirrors hD hsrv calls hcalls hstart (mirrors_empty hempty)

/-! A few calls: one batch is refused on both sides, and one document is given an identifier. -/

def loft : Document := [("floor", .string "third"), ("id", .string "U1")]

def moved : Document := [("floor", .string "first")]

def someCalls : List Call :=
  [⟨.insertOne "units" loft, toString⟩, ⟨.insertMany "units" [[], loft], toString⟩,
    ⟨.insertOne "units" moved, toString⟩,
    ⟨.updateMany "units" (Criteria.all.orderBy "floor" .desc) moved, toString⟩,
    ⟨.find "units" ((Criteria.all.orderBy "floor" .desc).withOffset 1) .all, toString⟩,
    ⟨.deleteOne "units" (Criteria.byId (.string "U1")), toString⟩,
      ⟨.find "units" Criteria.all .one, toString⟩]

theorem readable_texts {d : Document} (hsorted : Dict.Sorted d)
    (htexts : ∀ x ∈ d, ∃ text, x.2 = .string text) :
    (Value.object d).Readable readableDepth := by
  refine (Document.readable_object (by decide)).2 ⟨hsorted, fun x hx => ?_⟩
  obtain ⟨text, htext⟩ := htexts x hx
  rw [htext]
  exact Document.readable_string _ text

theorem agree_someCalls : AgreeThroughout (reference .plain) someCalls .empty .empty := by
  have hloft : loft.Storable := by
    refine ⟨readable_texts ?_ ?_, ?_⟩
    · exact List.Pairwise.cons (List.forall_mem_singleton.2 (by decide))
        (List.pairwise_singleton _ _)
    · simp [loft]
    · intro v hv
      exact Or.inr ⟨"U1", (Option.some.inj hv).symm⟩
  have hmoved : moved.Storable := by
    refine ⟨readable_texts (List.pairwise_singleton _ _) ?_, ?_⟩
    · simp [moved]
    · intro v hv
      cases hv
  have hnothing : Document.Storable [] := by
    refine ⟨readable_texts List.Pairwise.nil (List.forall_mem_nil _), ?_⟩
    intro v hv
    cases hv
  have hid : (Criteria.byId (.string "U1")).Readable :=
    List.forall_mem_singleton.2 (List.forall_mem_singleton.2 (Document.readable_string _ "U1"))
  refine agree_from_empty Dialect.faithful_plain (conforms_reference .plain) rfl someCalls ?_
    (by decide)
  simp only [someCalls, List.forall_mem_cons]
  exact ⟨hloft, List.forall_mem_cons.2 ⟨hnothing, List.forall_mem_singleton.2 hloft⟩, hmoved,
    ⟨List.forall_mem_nil _, ⟨rfl, rfl⟩, hmoved.readable⟩, List.forall_mem_nil _, ⟨hid, rfl, rfl⟩,
    ⟨List.forall_mem_nil _, rfl, rfl⟩, List.forall_mem_nil _⟩

end Relational

end Larder.Store
