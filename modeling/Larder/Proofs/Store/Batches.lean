import Larder.Proofs.Store.Identifiers
import Larder.Proofs.Store.Reading

/-!
A batch of documents in memory, and the same documents inserted one after the other.

The batch is compared with itself and with the collection as it was, and single documents with a
collection that grows.  These come to the same (`insertable_cons`) as long as the identifiers are
strings, because every document that went in before is then found by its name.
-/

namespace Larder

namespace Document

theorem fst_withId (d : Document) (fresh : String) :
    (withId d fresh).1 = if lacksId d then Dict.insert d idField (.string fresh) else d := by
  unfold withId lacksId
  cases hget : Dict.get? d idField with
  | none => rfl
  | some v => cases v <;> rfl

end Document

namespace Store.Memory

open Document (idField lacksId withId)

/-! ## Identifiers for a batch -/

/-- A document gets the next identifier after those for the documents ahead of it. -/
theorem getElem?_identify (ids : Nat → String) (n : Nat) (batch : List Document) (i : Nat) :
    (identify ids n batch).1[i]? = batch[i]?.map fun d =>
      withId d (ids (n + (batch.take i).countP lacksId)) := by
  induction batch generalizing n i with
  | nil => rfl
  | cons d rest ih =>
    cases i with
    | zero => rfl
    | succ i =>
      have hahead : (if lacksId d then n + 1 else n) + (rest.take i).countP lacksId
          = n + ((d :: rest).take (i + 1)).countP lacksId := by
        rw [List.take_succ_cons, List.countP_cons]
        split <;> omega
      rw [← hahead, List.getElem?_cons_succ]
      exact ih _ i

theorem getElem?_identify_fst (ids : Nat → String) (n : Nat) (batch : List Document) (i : Nat) :
    ((identify ids n batch).1.map Prod.fst)[i]? = batch[i]?.map fun d => if lacksId d then
      Dict.insert d idField (.string (ids (n + (batch.take i).countP lacksId))) else d := by
  rw [List.getElem?_map, getElem?_identify, Option.map_map]
  exact congrArg (batch[i]?.map ·) (funext fun d => Document.fst_withId d _)

/-! ## One after the other -/

theorem mapM_cons_apply {σ α β : Type} (f : α → StateM σ β) (a : α) (rest : List α) (s : σ) :
    (a :: rest).mapM f s = ((f a s).1 :: (rest.mapM f (f a s).2).1, (rest.mapM f (f a s).2).2) := by
  rw [List.mapM_cons]
  rfl

section InTurn

variable (ids : Nat → String) (collection : String)

theorem drawn_insertOne {s : State} {d stored : Document}
    (h : (insertOne ids s collection d).1 = .ok stored) :
    (insertOne ids s collection d).2.drawn = if lacksId d then s.drawn + 1 else s.drawn := by
  unfold insertOne at h ⊢
  dsimp only at h ⊢
  split
  · next htaken =>
    rw [if_pos htaken] at h
    cases h
  · rfl

/-- Either every document goes in, or one of them is refused for its name. -/
theorem insertEach_cases {batch : List Document}
    (hbatch : ∀ d ∈ batch, ∀ v, Dict.get? d idField = some v → v = .null ∨ ∃ id, v = .string id)
    (s : State) :
    let inTurn := batch.mapM ((memory ids Place.whole).insertOne collection) s
    let identified := (identify ids s.drawn batch).1
    (∃ e, .error e ∈ inTurn.1) ∧ ¬ Insertable (documents s collection) (identified.map Prod.snd) ∨
      inTurn.1 = (identified.map Prod.fst).map .ok ∧
        Insertable (documents s collection) (identified.map Prod.snd) ∧
        ∀ other, documents inTurn.2 other
          = if other = collection then documents s collection ++ identified.map Prod.fst
            else documents s other := by
  induction batch generalizing s with
  | nil =>
    refine Or.inr ⟨rfl, ⟨List.nodup_nil, List.forall_mem_nil _⟩, fun other => ?_⟩
    split
    · next h =>
      rw [h]
      exact (List.append_nil _).symm
    · rfl
  | cons d rest ih =>
    obtain ⟨hd, hrest⟩ := List.forall_mem_cons.1 hbatch
    have hidentified : (identify ids s.drawn (d :: rest)).1
        = withId d (ids s.drawn) ::
        (identify ids (if lacksId d then s.drawn + 1 else s.drawn) rest).1 := rfl
    have hstring := Document.stringId?_withId hd (ids s.drawn)
    have hinsert : (memory ids Place.whole).insertOne collection d s
        = insertOne ids s collection d := rfl
    dsimp only
    rw [mapM_cons_apply, hinsert, hidentified, List.map_cons, List.map_cons,
      insertable_cons hstring]
    have hfirst := insertOne_eq ids s collection d
    have hdrawn : ∀ stored, (insertOne ids s collection d).1 = .ok stored →
        (insertOne ids s collection d).2.drawn = if lacksId d then s.drawn + 1 else s.drawn :=
      fun _ => drawn_insertOne ids collection
    have hrestCases := ih hrest (insertOne ids s collection d).2
    rcases hfirst with ⟨herror, htaken⟩ | ⟨hok, hnew, hdocs⟩
    · refine Or.inl ⟨⟨_, List.mem_cons.2 (Or.inl (congrArg Prod.fst herror).symm)⟩,
        fun h => htaken ?_⟩
      exact ⟨List.nodup_singleton _, List.forall_mem_singleton.2 h.1⟩
    · have hhere : documents (insertOne ids s collection d).2 collection
          = documents s collection ++ [(withId d (ids s.drawn)).1] :=
            (hdocs collection).trans (if_pos rfl)
      dsimp only at hrestCases
      rw [hdrawn _ hok, hhere] at hrestCases
      rcases hrestCases with ⟨⟨e, he⟩, hnot⟩ | ⟨hall, hnames, hothers⟩
      · exact Or.inl ⟨⟨e, List.mem_cons_of_mem _ he⟩, fun h => hnot h.2⟩
      · refine Or.inr ⟨?_, ⟨hnew.2 _ (List.mem_singleton_self _), hnames⟩, fun other => ?_⟩
        · rw [List.map_cons, ← hall, ← hok]
        · rw [hothers, hdocs]
          split
          · rw [List.append_assoc]
            rfl
          · rfl

end InTurn

/-- A batch goes in as a whole or not at all.  It goes in exactly if its documents would all go in
one after the other, and then both ways the collection goes on with them, in the order of the batch
and with identifiers for those that lack one.  If it does not, everything is read as before. -/
theorem batch_as_one_by_one (ids : Nat → String) (s : State) (collection : String)
    {batch : List Document}
    (hbatch : ∀ d ∈ batch, ∀ v, Dict.get? d idField = some v → v = .null ∨ ∃ id, v = .string id) :
    let driver := memory ids Place.whole
    let atOnce := driver.insertMany collection batch s
    let inTurn := batch.mapM (driver.insertOne collection) s
    (∀ e, atOnce.1 = .error e → atOnce.2 = s ∧
        ∀ other c (m : Method),
          (m.fetch driver other c atOnce.2).1 = (m.fetch driver other c s).1) ∧
      (∀ stored, atOnce.1 = .ok stored →
        (∀ i, stored[i]? = batch[i]?.map fun d => if lacksId d then
          Dict.insert d idField (.string (ids (s.drawn + (batch.take i).countP lacksId))) else d) ∧
        (∀ other, documents atOnce.2 other
          = if other = collection then documents s collection ++ stored else documents s other) ∧
        inTurn.1 = stored.map .ok ∧ ∀ other, documents inTurn.2 other = documents atOnce.2 other) ∧
      ((∃ stored, atOnce.1 = .ok stored) ↔ ∀ answer ∈ inTurn.1, ∃ d, answer = .ok d) := by
  intro driver atOnce inTurn
  have hatOnce : atOnce = insertMany ids s collection batch := rfl
  have hinTurn := insertEach_cases ids collection hbatch s
  rcases insertMany_eq ids s collection batch with ⟨⟨e, he⟩, hnot⟩ | ⟨hok, hnew, hdocs⟩
  · rw [← hatOnce] at he
    rcases hinTurn with ⟨⟨e', hrefused⟩, -⟩ | ⟨-, hnames, -⟩
    · refine ⟨fun _ _ => ⟨congrArg Prod.snd he, fun other c m => by rw [he]⟩, fun stored hok => ?_,
        fun ⟨stored, hok⟩ => ?_, fun hall => ?_⟩
      · rw [he] at hok
        cases hok
      · rw [he] at hok
        cases hok
      · obtain ⟨d, hd⟩ := hall _ hrefused
        cases hd
    · exact absurd hnames hnot
  · rw [← hatOnce] at hok hdocs
    rcases hinTurn with ⟨-, hnot⟩ | ⟨hall, -, hothers⟩
    · exact absurd hnew hnot
    · refine ⟨fun e he => ?_, fun stored hstored => ?_, fun _ answer hanswer => ?_,
        fun _ => ⟨_, hok⟩⟩
      · rw [hok] at he
        cases he
      · obtain rfl := Except.ok.inj (hok.symm.trans hstored)
        exact ⟨getElem?_identify_fst ids s.drawn batch, hdocs, hall,
          fun other => (hothers other).trans (hdocs other).symm⟩
      · have hmem : answer ∈ ((identify ids s.drawn batch).1.map Prod.fst).map
            (Except.ok : Document → Answer Document) :=
          hall ▸ hanswer
        obtain ⟨d, -, rfl⟩ := List.mem_map.1 hmem
        exact ⟨d, rfl⟩

/-- One unit lacks an identifier, one has null for it, and one has a new one. -/
def newUnits : List Document := [[("floor", .ofInt 3)], [("id", .null)], [("id", .string "U4")]]

def newUnitsStored : List Document :=
  [[("floor", .ofInt 3), ("id", .string "0")], [("id", .string "1")], [("id", .string "U4")]]

/-- The new units go in, and with one more that is there already they do not. -/
theorem batch_as_one_by_one_units :
    let driver := memory toString Place.whole
    let clashing := newUnits ++ [upper]
    (∀ d ∈ clashing, ∀ v, Dict.get? d idField = some v → v = .null ∨ ∃ id, v = .string id) ∧
      (newUnits.mapM (driver.insertOne "units") units).1 = newUnitsStored.map .ok ∧
      documents (newUnits.mapM (driver.insertOne "units") units).2 "units"
        = [upper, lower, upperToo] ++ newUnitsStored ∧
      (driver.insertMany "units" clashing units).2 = units ∧
      ¬ ∀ answer ∈ (clashing.mapM (driver.insertOne "units") units).1, ∃ d, answer = .ok d := by
  intro driver clashing
  have hnamed : ∀ d ∈ clashing, ∀ v, Dict.get? d idField = some v →
      v = .null ∨ ∃ id, v = .string id := by
    have hstring : ∀ id : String, ∀ v, some (Json.Value.string id) = some v →
        v = .null ∨ ∃ id, v = .string id :=
      fun id v h => Or.inr ⟨id, (Option.some.inj h).symm⟩
    refine List.forall_mem_cons.2 ⟨fun v h => ?_, List.forall_mem_cons.2 ⟨fun v h => Or.inl ?_,
      List.forall_mem_cons.2 ⟨hstring "U4", List.forall_mem_singleton.2 (hstring "U1")⟩⟩⟩
    · exact absurd h (Option.some_ne_none v).symm
    · exact (Option.some.inj h).symm
  have hnew : ∀ d ∈ newUnits, ∀ v, Dict.get? d idField = some v →
      v = .null ∨ ∃ id, v = .string id :=
    fun d hd => hnamed d (List.mem_append_left _ hd)
  obtain ⟨-, hgood, -⟩ := batch_as_one_by_one toString units "units" hnew
  obtain ⟨hbad, -, hiff⟩ := batch_as_one_by_one toString units "units" hnamed
  have hstored : (driver.insertMany "units" newUnits units).1 = .ok newUnitsStored := rfl
  have hrefused : (driver.insertMany "units" clashing units).1 = .error (duplicate "units" "U1") :=
    rfl
  obtain ⟨-, hdocs, hturns, hsame⟩ := hgood newUnitsStored hstored
  refine ⟨hnamed, hturns, (hsame "units").trans (hdocs "units"), (hbad _ hrefused).1,
    fun hall => ?_⟩
  obtain ⟨stored, hok⟩ := hiff.2 hall
  rw [hrefused] at hok
  cases hok

end Store.Memory

end Larder
