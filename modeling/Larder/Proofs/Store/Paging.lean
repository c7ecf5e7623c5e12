import Larder.Proofs.Sql.Server
import Larder.Proofs.Store.Chosen
import Larder.Proofs.Store.Wording

/-!
The page of the criteria where not everything is read.

Memory cuts the page out of what is selected, whatever the operation, and then takes the first
document where one is meant.  The statements are cut in another way: that of a single read has the
offset and a limit of one, and those of writes have a limit of one or none and no offset.
-/

namespace Larder.Store

open Sql

/-! ## Pages of a list -/

section Pages

variable {α : Type} (c : Criteria) (xs : List α)

theorem page_eq_take : c.page xs = (xs.drop (c.offset.getD 0)).take (c.limit.getD xs.length) := by
  unfold Criteria.page
  cases c.limit with
  | none =>
    have hlength : (xs.drop (c.offset.getD 0)).length ≤ xs.length := by
      rw [List.length_drop]
      omega
    exact (List.take_of_length_le hlength).symm
  | some n => rfl

theorem take_one_page : (c.page xs).take 1 = if c.limit = some 0 then []
    else (xs.drop (c.offset.getD 0)).take 1 := by
  unfold Criteria.page
  cases hlimit : c.limit with
  | none => simp
  | some n =>
    cases n with
    | zero => simp
    | succ n => simp [List.take_take]

/-- The first beyond the offset is the first of the page. -/
theorem first_beyond_iff :
    (xs.drop (c.offset.getD 0)).take 1 = (c.page xs).take 1 ↔
      c.limit ≠ some 0 ∨ xs.length ≤ c.offset.getD 0 := by
  rw [take_one_page]
  by_cases hlimit : c.limit = some 0
  · simp [hlimit]
  · simp [hlimit]

/-- The first of all is the first of the page. -/
theorem first_iff (hnodup : xs.Nodup) :
    xs.take 1 = (c.page xs).take 1 ↔ xs.length = 0 ∨ c.offset.getD 0 = 0 ∧ c.limit ≠ some 0 := by
  rw [take_one_page]
  cases xs with
  | nil => simp
  | cons a rest =>
    by_cases hlimit : c.limit = some 0
    · simp [hlimit]
    · rw [if_neg hlimit]
      cases hoffset : c.offset.getD 0 with
      | zero => simp [hlimit]
      | succ o =>
        -- The first one does not occur again further behind.
        have hne : [a] ≠ (rest.drop o).take 1 := by
          intro h
          have hmem : a ∈ (rest.drop o).take 1 := h ▸ List.mem_singleton_self a
          exact (List.nodup_cons.1 hnodup).1 (List.mem_of_mem_drop (List.mem_of_mem_take hmem))
        simpa using hne

/-- Everything is on the page. -/
theorem all_iff :
    xs = c.page xs ↔ xs.length = 0 ∨ c.offset.getD 0 = 0 ∧ ∀ n, c.limit = some n →
    xs.length ≤ n := by
  rw [page_eq_take]
  constructor
  · intro h
    have hlength := congrArg List.length h
    rw [List.length_take, List.length_drop] at hlength
    by_cases hnil : xs.length = 0
    · exact Or.inl hnil
    · refine Or.inr ⟨by omega, fun n hn => ?_⟩
      rw [hn, Option.getD_some] at hlength
      omega
  · rintro (hnil | ⟨hoffset, hlimit⟩)
    · rw [List.length_eq_zero_iff.1 hnil]
      simp
    · have hle : xs.length ≤ c.limit.getD xs.length := by
        cases h : c.limit with
        | none => exact Nat.le_refl _
        | some n => exact hlimit n h
      rw [hoffset, List.drop_zero, List.take_of_length_le hle]

end Pages

/-! ## What operations are about -/

/-- What an operation is about: the documents of a collection that criteria select, or the first of
them. -/
structure Target where
  collection : String
  criteria : Criteria
  single : Bool

namespace Request

def target? : Request → Option Target
  | find collection c .one => some ⟨collection, c, true⟩
  | updateOne collection c _ => some ⟨collection, c, true⟩
  | updateMany collection c _ => some ⟨collection, c, false⟩
  | deleteOne collection c => some ⟨collection, c, true⟩
  | _ => none

/-- Whether an operation is about the same documents without the page, if there are so many that the
criteria accept. -/
def PageMatches (r : Request) (count : Nat) : Prop :=
  match r with
  | find _ c _ => c.limit ≠ some 0 ∨ count ≤ c.offset.getD 0
  | updateOne _ c _ => count = 0 ∨ c.offset.getD 0 = 0 ∧ c.limit ≠ some 0
  | updateMany _ c _ => count = 0 ∨ c.offset.getD 0 = 0 ∧ ∀ n, c.limit = some n → count ≤ n
  | deleteOne _ c => count = 0 ∨ c.offset.getD 0 = 0 ∧ c.limit ≠ some 0
  | _ => True

end Request

namespace Relational

/-- The selection of the one statement that an operation sends. -/
def Asks {σ : Type} (answer : (d : Demand) → StateM σ d.Response) (s : σ) (r : Request)
    (sel : Selection) : Prop :=
  ∃ st cmd, sent answer (.request r) s = [st] ∧ st.command? = some cmd ∧ cmd.selection? = some sel

section Asks

variable {σ : Type} {answer : (d : Demand) → StateM σ d.Response} {s : σ} {c : Criteria}
  (h : c.validate = .ok ()) (collection : String)
include h

theorem asks_findOne : Asks answer s (.find collection c .one)
    (selection collection c (boundPage (some 1) c.offset)) :=
  ⟨_, _, sends_findOne h collection (s, []),
    command?_selectStatement (Criteria.checkFields_ok_iff.1 h) collection (some 1), rfl⟩

theorem asks_update (patch : Document) (single : Bool) :
    Asks answer s (if single then .updateOne collection c patch else .updateMany collection c patch)
      (selection collection c (firstPage single)) := by
  have hcommand :=
    command?_updateStatement (Criteria.checkFields_ok_iff.1 h) collection patch single
  cases single with
  | true => exact ⟨_, _, sends_update h collection patch true (s, []), hcommand, rfl⟩
  | false => exact ⟨_, _, sends_update h collection patch false (s, []), hcommand, rfl⟩

theorem asks_deleteOne :
    Asks answer s (.deleteOne collection c) (selection collection c (firstPage true)) :=
  ⟨_, _, sends_deleteOne h collection (s, []),
    command?_deleteStatement (Criteria.checkFields_ok_iff.1 h) collection, rfl⟩

end Asks

/-! ## Both -/

theorem length_arranged (c : Criteria) (rows : List Row) :
    (arranged c rows).length = (rows.map Row.document).countP c.accepts := by
  unfold arranged Criteria.sort
  rw [List.length_mergeSort, ← List.countP_eq_length_filter, List.countP_map]
  rfl

theorem nodup_arranged {rows : List Row} (h : Ascending rows) (c : Criteria) :
    (arranged c rows).Nodup := by
  have hrows : rows.Nodup := h.imp fun hlt heq => by
    rw [heq] at hlt
    exact Nat.lt_irrefl _ hlt
  exact (List.mergeSort_perm _ _).nodup_iff.2 (hrows.filter _)

end Relational

/-- Memory's operation reads, patches or removes the documents at these positions. -/
def Memory.Touches (ids : Nat → String) (m : Memory.State) (positions : List Nat) : Request → Prop
  | .find collection c .one => (memory ids Place.whole).findOne collection c m
      = (.ok (positions.head?.bind fun position => (documents m collection)[position]?), m)
  | .updateOne collection c patch => (memory ids Place.whole).updateOne collection c patch m
      = (.ok positions.length,
        withDocuments m collection (patchAt positions patch (documents m collection)))
  | .updateMany collection c patch => (memory ids Place.whole).updateMany collection c patch m
      = (.ok positions.length,
        withDocuments m collection (patchAt positions patch (documents m collection)))
  | .deleteOne collection c => (memory ids Place.whole).deleteOne collection c m
      = match positions with
        | [] => (.ok 0, m)
        | position :: _ =>
          (.ok 1, withDocuments m collection ((documents m collection).eraseIdx position))
  | _ => False

theorem Memory.touches_targets (ids : Nat → String) (m : Memory.State) {r : Request} {t : Target}
    (ht : r.target? = some t) (hvalid : t.criteria.validate = .ok ()) :
    Touches ids m (targets (documents m t.collection) t.criteria t.single) r := by
  cases r with
  | find collection c method =>
    cases method with
    | one =>
      obtain rfl := Option.some.inj ht
      exact congrArg (·, m) (findOne_eq hvalid m collection)
    | all => cases ht
  | insertOne collection d => cases ht
  | insertMany collection batch => cases ht
  | updateOne collection c patch =>
    obtain rfl := Option.some.inj ht
    exact update_eq hvalid m collection patch true
  | updateMany collection c patch =>
    obtain rfl := Option.some.inj ht
    exact update_eq hvalid m collection patch false
  | deleteOne collection c =>
    obtain rfl := Option.some.inj ht
    exact deleteOne_eq hvalid m collection

namespace Relational

/-- The statement of an operation picks the rows of the documents that memory's operation is about
exactly if the page of the criteria makes no difference. -/
theorem picked_eq_targets_iff {σ : Type} (answer : (d : Demand) → StateM σ d.Response) (s : σ)
    (ids : Nat → String) {D : Dialect} (hD : D.Faithful) {m : Memory.State} {rows : List Row}
    (hrows : Keeps rows (Memory.documents m))
    {r : Request} {t : Target} (ht : r.target? = some t) (hvalid : t.criteria.validate = .ok ())
    (hvalues : t.criteria.Readable) :
    ∃ sel picked positions, Asks answer s r sel ∧ (∀ l, sel.Picks D rows l ↔ l = picked) ∧
      positions = Memory.targets (Memory.documents m t.collection) t.criteria t.single ∧
      Memory.Touches ids m positions r ∧
      (picked = positions.filterMap (fun position => (within t.collection rows)[position]?) ↔
        r.PageMatches ((Memory.documents m t.collection).countP t.criteria.accepts)) := by
  have hfields := Criteria.checkFields_ok_iff.1 hvalid
  have hpicks : ∀ page l, (selection t.collection t.criteria page).Picks D rows l ↔
      l = Selection.cut page (arranged t.criteria (within t.collection rows)) :=
    fun page l => picks_iff hD hfields hvalues hrows.proper hrows.ascending
  have hpositions := rows_of_targets t.criteria t.single (within t.collection rows)
  have hlength := length_arranged t.criteria (within t.collection rows)
  have hnodup :=
    nodup_arranged (hrows.ascending.filter fun r : Row => r.collection == t.collection) t.criteria
  rw [hrows.documents] at hpositions hlength
  rw [← hlength]
  cases r with
  | find collection c method =>
    cases method with
    | one =>
      obtain rfl := Option.some.inj ht
      refine ⟨_, _, _, asks_findOne hvalid collection, hpicks _, rfl,
        Memory.touches_targets ids m rfl hvalid, ?_⟩
      rw [hpositions, cut_one]
      exact first_beyond_iff c _
    | all => cases ht
  | insertOne collection d => cases ht
  | insertMany collection batch => cases ht
  | updateOne collection c patch =>
    obtain rfl := Option.some.inj ht
    refine ⟨_, _, _, asks_update hvalid collection patch true, hpicks _, rfl,
      Memory.touches_targets ids m rfl hvalid, ?_⟩
    rw [hpositions]
    exact first_iff c _ hnodup
  | updateMany collection c patch =>
    obtain rfl := Option.some.inj ht
    refine ⟨_, _, _, asks_update hvalid collection patch false, hpicks _, rfl,
      Memory.touches_targets ids m rfl hvalid, ?_⟩
    rw [hpositions]
    exact all_iff c _
  | deleteOne collection c =>
    obtain rfl := Option.some.inj ht
    refine ⟨_, _, _, asks_deleteOne hvalid collection, hpicks _, rfl,
      Memory.touches_targets ids m rfl hvalid, ?_⟩
    rw [hpositions]
    exact first_iff c _ hnodup

/-! A unit and a limit of zero: memory reads nothing, and the statement picks the row. -/

def unitDocument : Document := [("id", .string "U1")]

def unitState : Memory.State := Memory.withDocuments .empty "units" [unitDocument]

def unitRow : Row := ⟨1, "units", "U1", .object unitDocument⟩

theorem keeps_unit : Keeps [unitRow] (Memory.documents unitState) where
  proper := by
    have hmembers : Document.ReadableMembers (readableDepth - 1) unitDocument :=
      ⟨List.pairwise_singleton _ _, List.forall_mem_singleton.2 (Document.readable_string _ "U1")⟩
    exact List.forall_mem_singleton.2 ⟨rfl, (Document.readable_object (by decide)).2 hmembers⟩
  ascending := List.pairwise_singleton _ _
  documents := by
    intro collection
    rw [unitState, Memory.documents_withDocuments]
    by_cases h : collection = "units"
    · rw [if_pos h, h]
      rfl
    · have hnone : within collection [unitRow] = [] := by
        simp [within, unitRow, Ne.symm h]
      rw [if_neg h, hnone]
      rfl

theorem limit_can_matter :
    ∃ sel picked positions, Asks (reference .plain).answer .empty
      (.find "units" (Criteria.all.withLimit 0) .one) sel ∧
      (∀ l, sel.Picks .plain [unitRow] l ↔ l = picked) ∧
      Memory.Touches toString unitState positions (.find "units" (Criteria.all.withLimit 0) .one) ∧
      picked ≠ positions.filterMap fun position => (within "units" [unitRow])[position]? := by
  obtain ⟨sel, picked, positions, hasks, hpicks, -, htouches, hiff⟩ :=
    picked_eq_targets_iff (reference .plain).answer .empty toString Dialect.faithful_plain
      keeps_unit
      (r := .find "units" (Criteria.all.withLimit 0) .one)
        (t := ⟨"units", Criteria.all.withLimit 0, true⟩) rfl rfl
      (List.forall_mem_nil _)
  refine ⟨sel, picked, positions, hasks, hpicks, htouches, fun heq => ?_⟩
  rcases hiff.1 heq with hlimit | hcount
  · exact hlimit rfl
  · exact absurd hcount (by decide)

end Relational

end Larder.Store
