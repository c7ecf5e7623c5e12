import Larder.Proofs.Criteria.Fields
import Larder.Proofs.Store.Requests
import Larder.Proofs.Store.Sealed

/-!
The statements that each operation of the relational driver sends.

`blank` takes away from an operation what must not get into a text: collections, values, patches,
documents and the numbers of a page.  The texts that are sent are those of the blank operation.
-/

namespace Larder

open Sql

namespace Store

/-! ## Operations -/

inductive Operation where
  | request (r : Request)
  | ping
  | close

def Request.criteria? : Request → Option Criteria
  | find _ c _ => some c
  | insertOne _ _ => none
  | insertMany _ _ => none
  | updateOne _ c _ => some c
  | updateMany _ c _ => some c
  | deleteOne _ c => some c

def failure? {α : Type} : Answer α → Option Error
  | .ok _ => none
  | .error e => some e

def Request.failure? : (r : Request) → r.Given → Option Error
  | find _ _ _, a => Store.failure? a
  | insertOne _ _, a => Store.failure? a
  | insertMany _ _, a => Store.failure? a
  | updateOne _ _ _, a => Store.failure? a
  | updateMany _ _ _, a => Store.failure? a
  | deleteOne _ _, a => Store.failure? a

namespace Operation

def criteria? : Operation → Option Criteria
  | request r => r.criteria?
  | _ => none

def check (o : Operation) : Answer Unit :=
  match o.criteria? with
  | some c => c.validate
  | none => .ok ()

/-- The fields that the criteria name. -/
def fields (o : Operation) : List String := (o.criteria?.map Criteria.fields).getD []

/-- The error that an operation fails with, if it does. -/
def run {σ : Type} (d : Driver σ) : Operation → StateM σ (Option Error)
  | request r => do return r.failure? (← r.ask d)
  | ping => do return failure? (← d.ping)
  | close => do
    d.close
    return none

end Operation

/-! ## Without the data -/

namespace Operation

/-- The operation without what must not get into a text. -/
def blank : Operation → Operation
  | request (.find _ c m) => request (.find "" c.blank m)
  | request (.insertOne _ _) => request (.insertOne "" [])
  | request (.insertMany _ _) => request (.insertMany "" [])
  | request (.updateOne _ c _) => request (.updateOne "" c.blank [])
  | request (.updateMany _ c _) => request (.updateMany "" c.blank [])
  | request (.deleteOne _ c) => request (.deleteOne "" c.blank)
  | ping => ping
  | close => close

/-- The texts that an operation sends.  Of a batch so many inserts are sent before it ends, and then
it is committed or not. -/
def script (inserts : Nat) (commits : Bool) : Operation → List String
  | request (.find collection c .one) => [(Relational.selectStatement collection c (some 1)).text]
  | request (.find collection c .all) => [(Relational.selectStatement collection c c.limit).text]
  | request (.insertOne collection d) => [(Relational.insertStatement collection "" d).text]
  | request (.insertMany collection _) =>
    ["BEGIN"] ++ List.replicate inserts (Relational.insertStatement collection "" []).text
      ++ if commits then ["COMMIT"] else []
  | request (.updateOne collection c patch) =>
    [(Relational.updateStatement collection c patch true).text]
  | request (.updateMany collection c patch) =>
    [(Relational.updateStatement collection c patch false).text]
  | request (.deleteOne collection c) => [(Relational.deleteStatement collection c).text]
  | ping => [Relational.pingText]
  | close => []

end Operation

/-! ## What is sent -/

def statement? : Demand → Option Statement
  | .query st => some st
  | .execute st => some st
  | .startTransaction => some (.piece "BEGIN")
  | .commit => some (.piece "COMMIT")
  | _ => none

section Sent

variable {σ : Type}

/-- Who answers, with a log of the statements. -/
def logged (answer : (d : Demand) → StateM σ d.Response) (d : Demand) :
    StateM (σ × List Statement) d.Response :=
  fun s => ((answer d s.1).1, (answer d s.1).2, s.2 ++ (statement? d).toList)

variable (answer : (d : Demand) → StateM σ d.Response)

def ended (o : Operation) (s : σ) : Option Error × σ × List Statement :=
  o.run (relational (logged answer)) (s, [])

def sent (o : Operation) (s : σ) : List Statement := (ended answer o s).2.2

def outcome (o : Operation) (s : σ) : Option Error := (ended answer o s).1

variable {answer} {α β : Type}

/-- A conversation sends these statements, however it is answered. -/
def Sends (answer : (d : Demand) → StateM σ d.Response) (t : Talk α)
    (sts : List Statement) : Prop :=
  ∀ s, (t.hold (logged answer) s).2.2 = s.2 ++ sts

theorem Sends.map {t : Talk α} {sts : List Statement} (h : Sends answer t sts) (f : α → β) :
    Sends answer (do return f (← t)) sts := by
  intro s
  rw [Conversation.hold_bind]
  exact h s

theorem sends_query (st : Statement) : Sends answer (Talk.query st) [st] := fun _ => rfl

theorem sends_execute (st : Statement) : Sends answer (Relational.execute st) [st] := fun _ => rfl

theorem sends_select {c : Criteria} (h : c.validate = .ok ()) (collection : String)
    (limit : Option Nat) :
    Sends answer (Relational.select collection c limit)
    [Relational.selectStatement collection c limit] := by
  rw [Relational.select_eq h]
  exact (sends_query _).map _

theorem sends_update {c : Criteria} (h : c.validate = .ok ()) (collection : String)
    (patch : Document) (single : Bool) :
    Sends answer (Relational.update collection c patch single)
      [Relational.updateStatement collection c patch single] := by
  rw [Relational.update, Relational.ifValid_of_ok h]
  exact sends_execute _

theorem sends_deleteOne {c : Criteria} (h : c.validate = .ok ()) (collection : String) :
    Sends answer (Relational.deleteOne collection c) [Relational.deleteStatement collection c] := by
  rw [Relational.deleteOne, Relational.ifValid_of_ok h]
  exact sends_execute _

/-- Inserts of some documents into a collection. -/
def Inserts (collection : String) (sts : List Statement) : Prop :=
  ∀ st ∈ sts, ∃ id d, st = Relational.insertStatement collection id d

variable (answer)

theorem sent_insertOne (collection : String) (d : Document) (s : σ × List Statement) :
    ∃ st, ((Relational.insertOne collection d).hold (logged answer) s).2.2 = s.2 ++ [st] ∧
    Inserts collection [st] := by
  have hinserts : ∀ x : Document × String,
      Inserts collection [Relational.insertStatement collection x.2 x.1] :=
    fun x => List.forall_mem_singleton.2 ⟨x.2, x.1, rfl⟩
  unfold Relational.insertOne Relational.identify
  by_cases h : Document.lacksId d = true
  · rw [if_pos h]
    let stored := Document.withId d (answer .identifier s.1).1
    refine ⟨_, ?_, hinserts stored⟩
    show s.2 ++ [] ++ [Relational.insertStatement collection stored.2 stored.1] = _
    rw [List.append_nil]
  · rw [if_neg h]
    exact ⟨_, rfl, hinserts (Document.withId d "")⟩

theorem sent_insertEach (collection : String) (batch : List Document) (s : σ × List Statement) :
    ∃ sts, ((Relational.insertEach collection batch).hold (logged answer) s).2.2 = s.2 ++ sts ∧
      Inserts collection sts := by
  induction batch generalizing s with
  | nil => exact ⟨[], (List.append_nil s.2).symm, List.forall_mem_nil _⟩
  | cons d rest ih =>
    obtain ⟨st, hone, hst⟩ := sent_insertOne answer collection d s
    unfold Relational.insertEach
    rw [Conversation.hold_bind]
    generalize (Relational.insertOne collection d).hold (logged answer) s = r at hone
    obtain ⟨a, s₁⟩ := r
    cases a with
    | error e => exact ⟨[st], hone, hst⟩
    | ok stored =>
      obtain ⟨sts, hrest, hsts⟩ := ih s₁
      refine ⟨st :: sts, ?_, List.forall_mem_cons.2 ⟨hst st (List.mem_singleton_self st), hsts⟩⟩
      rw [hone, List.append_assoc] at hrest
      dsimp only
      rw [Conversation.hold_bind]
      exact hrest

def begin : Statement := .piece "BEGIN"

def committed : Statement := .piece "COMMIT"

theorem sent_insertMany (collection : String) (batch : List Document) (s : σ × List Statement) :
    ∃ sts, ∃ done : Bool, ((Relational.insertMany collection batch).hold (logged answer) s).2.2
        = s.2 ++ ([begin] ++ sts ++ if done then [committed] else []) ∧ Inserts collection sts := by
  unfold Relational.insertMany
  rw [Conversation.hold_bind]
  have hbegin : (Talk.startTransaction.hold (logged answer) s).2.2 = s.2 ++ [begin] := rfl
  generalize Talk.startTransaction.hold (logged answer) s = r at hbegin
  obtain ⟨a, s₁⟩ := r
  cases a with
  | error f => exact ⟨[], false, hbegin, List.forall_mem_nil _⟩
  | ok u =>
    obtain ⟨sts, heach, hsts⟩ := sent_insertEach answer collection batch s₁
    dsimp only
    rw [Conversation.hold_bind]
    generalize (Relational.insertEach collection batch).hold (logged answer) s₁ = r at heach
    obtain ⟨a, s₂⟩ := r
    rw [hbegin] at heach
    cases a with
    | error e =>
      refine ⟨sts, false, ?_, hsts⟩
      show s₂.2 = _
      rw [heach]
      simp
    | ok stored =>
      have hcommit : (Talk.commit.hold (logged answer) s₂).2.2 = s₂.2 ++ [committed] := rfl
      dsimp only at heach ⊢
      rw [Conversation.hold_bind]
      generalize Talk.commit.hold (logged answer) s₂ = r at hcommit
      obtain ⟨a, s₃⟩ := r
      have hlog : s₃.2 = s.2 ++ ([begin] ++ sts ++ [committed]) := by
        rw [hcommit, heach]
        simp
      refine ⟨sts, true, ?_, hsts⟩
      cases a <;> exact hlog

/-! ## All operations -/

variable {answer}

theorem refused_of_eq {e : Error} {s : σ} {act : StateM (σ × List Statement) (Answer α)}
    (h : act (s, []) = (.error e, (s, []))) : failure? (act (s, [])).1 = some e ∧
    (act (s, [])).2.2 = [] := by
  rw [h]
  exact ⟨rfl, rfl⟩

/-- An operation whose criteria are refused fails for that and sends nothing. -/
theorem refused {o : Operation} {e : Error} (h : o.check = .error e) (s : σ) :
    outcome answer o s = some e ∧ sent answer o s = [] := by
  cases o with
  | ping => cases h
  | close => cases h
  | request r =>
    have hrefuses : ∀ c, c.validate = .error e → (relational (logged answer)).Refuses c e :=
      fun c hc => relational_refuses hc (logged answer)
    cases r with
    | find collection c m => exact refused_of_eq ((hrefuses c h).fetch collection m (s, []))
    | insertOne collection d => cases h
    | insertMany collection batch => cases h
    | updateOne collection c patch =>
      exact refused_of_eq ((hrefuses c h).updateOne collection patch (s, []))
    | updateMany collection c patch =>
      exact refused_of_eq ((hrefuses c h).updateMany collection patch (s, []))
    | deleteOne collection c => exact refused_of_eq ((hrefuses c h).deleteOne collection (s, []))

theorem sends_findOne {c : Criteria} (h : c.validate = .ok ()) (collection : String) :
    Sends answer (Relational.findOne collection c)
    [Relational.selectStatement collection c (some 1)] :=
  (sends_select h collection (some 1)).map _

theorem sends_ping : Sends answer Relational.ping [.piece Relational.pingText] := fun _ => rfl

theorem accepted_of_sends {o : Operation} {s : σ} {t : Talk α} {st : Statement}
    (hsent : sent answer o s = (t.hold (logged answer) (s, [])).2.2) (ht : Sends answer t [st])
    (htext : o.blank.script 0 false = [st.text]) (hst : Relational.Sealed o.fields st) :
    (∃ inserts commits, (sent answer o s).map Statement.text = o.blank.script inserts commits) ∧
      ∀ st ∈ sent answer o s, Relational.Sealed o.fields st := by
  have hall : sent answer o s = [st] := hsent.trans (ht (s, []))
  rw [hall]
  exact ⟨⟨0, false, htext.symm⟩, List.forall_mem_singleton.2 hst⟩

/-- An operation whose criteria are not refused sends the texts of the blank one. -/
theorem accepted {o : Operation} (h : o.check = .ok ()) (s : σ) :
    (∃ inserts commits, (sent answer o s).map Statement.text = o.blank.script inserts commits) ∧
      ∀ st ∈ sent answer o s, Relational.Sealed o.fields st := by
  have hvalid : ∀ c : Criteria, c.validate = .ok () → ∀ field ∈ c.fields,
      Criteria.isField field = true :=
    fun c hc => Criteria.checkFields_ok_iff.1 hc
  cases o with
  | ping => exact accepted_of_sends rfl sends_ping rfl (Relational.sealed_ping [])
  | close => exact ⟨⟨0, false, rfl⟩, List.forall_mem_nil _⟩
  | request r =>
    cases r with
    | find collection c m =>
      cases m with
      | one =>
        exact accepted_of_sends rfl (sends_findOne h collection)
          (congrArg (fun text => [text]) (Relational.text_selectStatement collection c rfl).symm)
          (Relational.sealed_selectStatement (hvalid c h) collection (some 1))
      | all =>
        exact accepted_of_sends rfl (sends_select h collection c.limit)
          (congrArg (fun text => [text])
            (Relational.text_selectStatement collection c Option.isSome_map.symm).symm)
          (Relational.sealed_selectStatement (hvalid c h) collection c.limit)
    | insertOne collection d =>
      obtain ⟨st, hsent, hinsert⟩ := sent_insertOne answer collection d (s, [])
      obtain ⟨id, d', rfl⟩ := hinsert _ (List.mem_singleton_self st)
      have hall : sent answer (.request (.insertOne collection d)) s
          = [Relational.insertStatement collection id d'] := hsent
      rw [hall]
      exact ⟨⟨0, false, rfl⟩,
        List.forall_mem_singleton.2 (Relational.sealed_insertStatement _ collection id d')⟩
    | insertMany collection batch =>
      obtain ⟨sts, commits, hsent, hinserts⟩ := sent_insertMany answer collection batch (s, [])
      have hall : sent answer (.request (.insertMany collection batch)) s
          = [begin] ++ sts ++ if commits then [committed] else [] := hsent
      have htexts : sts.map Statement.text
          = List.replicate sts.length (Relational.insertStatement "" "" []).text := by
        refine List.eq_replicate_iff.2 ⟨List.length_map _, fun text htext => ?_⟩
        obtain ⟨st, hst, rfl⟩ := List.mem_map.1 htext
        obtain ⟨id, d, rfl⟩ := hinserts st hst
        exact Relational.text_insertStatement collection id d
      rw [hall]
      refine ⟨⟨sts.length, commits, ?_⟩, fun st hst => ?_⟩
      · rw [List.map_append, List.map_append, htexts]
        cases commits <;> rfl
      · rcases List.mem_append.1 hst with hst | hst
        · rcases List.mem_append.1 hst with hst | hst
          · rw [List.mem_singleton.1 hst]
            exact Relational.sealed_begin _
          · obtain ⟨id, d, rfl⟩ := hinserts st hst
            exact Relational.sealed_insertStatement _ collection id d
        · cases commits with
          | true =>
            rw [List.mem_singleton.1 hst]
            exact Relational.sealed_commit _
          | false => cases hst
    | updateOne collection c patch =>
      exact accepted_of_sends rfl (sends_update h collection patch true)
        (congrArg (fun text => [text])
          (Relational.text_updateStatement collection c patch true).symm)
        (Relational.sealed_updateStatement (hvalid c h) collection patch true)
    | updateMany collection c patch =>
      exact accepted_of_sends rfl (sends_update h collection patch false)
        (congrArg (fun text => [text])
          (Relational.text_updateStatement collection c patch false).symm)
        (Relational.sealed_updateStatement (hvalid c h) collection patch false)
    | deleteOne collection c =>
      exact accepted_of_sends rfl (sends_deleteOne h collection)
        (congrArg (fun text => [text]) (Relational.text_deleteStatement collection c).symm)
        (Relational.sealed_deleteStatement (hvalid c h) collection)

/-- Either the criteria are refused, and nothing is sent, or the texts are those of the blank
operation, whatever the server answers, and no field stands outside a quoted path. -/
theorem statements_sealed (answer : (d : Demand) → StateM σ d.Response) (o : Operation) (s : σ) :
    (∃ reason, o.check = .error (.invalidCriteria reason) ∧
        outcome answer o s = some (.invalidCriteria reason) ∧ sent answer o s = []) ∨
      o.check = .ok () ∧
        (∃ inserts commits, (sent answer o s).map Statement.text = o.blank.script inserts commits) ∧
        ∀ st ∈ sent answer o s, Relational.Sealed o.fields st := by
  cases h : o.check with
  | ok _ => exact Or.inr ⟨rfl, accepted h s⟩
  | error e =>
    have hreason : ∃ reason, e = .invalidCriteria reason := by
      unfold Operation.check at h
      split at h
      · exact Criteria.checkFields_error h
      · cases h
    obtain ⟨reason, rfl⟩ := hreason
    exact Or.inl ⟨reason, rfl, refused h s⟩

end Sent

end Store

end Larder
