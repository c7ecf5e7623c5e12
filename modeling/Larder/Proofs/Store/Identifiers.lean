import Larder.Proofs.Document.Patch
import Larder.Proofs.Store.Requests
import Larder.Store.Memory

/-!
Identifiers of the documents in memory.

A document is identified by a text, but a new one is compared with the strings among the identifiers
only.  So texts are kept apart as far as the identifiers are strings: where two documents of a
collection share a text, the one that was there first has an identifier of another kind.
-/

namespace Larder

namespace Document

def idText? (d : Document) : Option String := (Dict.get? d idField).map idText

/-- The identifier, if it is a string. -/
def stringId? (d : Document) : Option String := (Dict.get? d idField).bind Json.Value.asString?

theorem idText?_of_stringId? {d : Document} {id : String} (h : d.stringId? = some id) :
    d.idText? = some id := by
  obtain ⟨v, hget, hv⟩ := Option.bind_eq_some_iff.1 h
  cases v with
  | string s =>
    have hs : s = id := Option.some.inj hv
    rw [idText?, hget, ← hs]
    rfl
  | _ => cases hv

theorem idText?_withId (d : Document) (fresh : String) :
    (withId d fresh).1.idText? = some (withId d fresh).2 := by
  unfold withId
  split
  · rw [idText?, Dict.get?_insert_self]; rfl
  · rw [idText?, Dict.get?_insert_self]; rfl
  · next v _ hget => rw [idText?, hget]; rfl

/-- A document that does not come with an identifier of another kind is given a string. -/
theorem stringId?_withId {d : Document}
    (h : ∀ v, Dict.get? d idField = some v → v = .null ∨ ∃ id, v = .string id) (fresh : String) :
    (withId d fresh).1.stringId? = some (withId d fresh).2 := by
  unfold withId
  split
  · rw [stringId?, Dict.get?_insert_self]
    rfl
  · rw [stringId?, Dict.get?_insert_self]
    rfl
  · next v hne hget =>
    rcases h v hget with rfl | ⟨id, rfl⟩
    · exact absurd rfl hne
    · rw [stringId?, hget]
      rfl

theorem idText?_mergePatch (d patch : Document) : (mergePatch d patch).idText? = d.idText? := by
  rw [idText?, idText?, get?_mergePatch_idField]

theorem stringId?_mergePatch (d patch : Document) :
    (mergePatch d patch).stringId? = d.stringId? := by
  rw [stringId?, stringId?, get?_mergePatch_idField]

end Document

namespace Store.Memory

open Document (idText? stringId?)

theorem hasId_iff {docs : List Document} {id : String} :
    hasId docs id = true ↔ ∃ d ∈ docs, d.stringId? = some id := by
  simp [hasId, stringId?, List.any_eq_true]

theorem documents_withDocuments (s : State) (collection other : String) (docs : List Document) :
    documents (withDocuments s collection docs) other = if other = collection then docs
      else documents s other := by
  unfold documents withDocuments
  rw [Dict.get?_insert]
  split <;> rfl

/-! ## Batches -/

theorem firstRepeated_eq_none_iff {before names : List String} :
    firstRepeated before names = none ↔ names.Nodup ∧ ∀ n ∈ names, n ∉ before := by
  induction names generalizing before with
  | nil => simp [firstRepeated]
  | cons name rest ih =>
    unfold firstRepeated
    by_cases hname : name ∈ before
    · simp [hname]
    · have hcontains : before.contains name = false := by simpa using hname
      rw [hcontains, if_neg Bool.false_ne_true, ih]
      simp only [List.nodup_cons, List.mem_append, List.mem_singleton, List.forall_mem_cons, not_or]
      constructor
      · rintro ⟨hnodup, hrest⟩
        exact ⟨⟨fun h => (hrest name h).2 rfl, hnodup⟩, hname, fun n hn => (hrest n hn).1⟩
      · rintro ⟨⟨hnew, hnodup⟩, -, hrest⟩
        exact ⟨hnodup, fun n hn => ⟨hrest n hn, fun h => hnew (h ▸ hn)⟩⟩

theorem idText?_of_mem_identify {ids : Nat → String} {n : Nat} {batch : List Document} :
    ∀ x ∈ (identify ids n batch).1, x.1.idText? = some x.2 := by
  induction batch generalizing n with
  | nil => exact List.forall_mem_nil _
  | cons d rest ih =>
    have hhead := Document.idText?_withId d (ids n)
    exact List.forall_mem_cons.2 ⟨hhead, ih⟩

/-- Whether documents can come to those that are there: their names differ, and none is a string
there. -/
def Insertable (existing : List Document) (names : List String) : Prop :=
  names.Nodup ∧ ∀ n ∈ names, ∀ d ∈ existing, d.stringId? ≠ some n

theorem insertable_iff {existing : List Document} {names : List String} :
    (firstRepeated [] names).or (names.find? (hasId existing)) = none ↔
      Insertable existing names := by
  rw [Option.or_eq_none_iff, firstRepeated_eq_none_iff, List.find?_eq_none]
  simp only [hasId_iff, Insertable]
  constructor
  · rintro ⟨⟨hnodup, -⟩, hnew⟩
    exact ⟨hnodup, fun n hn d hd h => hnew n hn ⟨d, hd, h⟩⟩
  · rintro ⟨hnodup, hnew⟩
    exact ⟨⟨hnodup, fun n _ => List.not_mem_nil⟩, fun n hn ⟨d, hd, h⟩ => hnew n hn d hd h⟩

theorem insertable_cons {existing : List Document} {d : Document} {name : String}
    (hd : d.stringId? = some name) {names : List String} : Insertable existing (name :: names) ↔
      (∀ b ∈ existing, b.stringId? ≠ some name) ∧ Insertable (existing ++ [d]) names := by
  unfold Insertable
  rw [List.nodup_cons, List.forall_mem_cons]
  constructor
  · rintro ⟨⟨hnew, hnodup⟩, hhead, hrest⟩
    refine ⟨hhead, hnodup, fun other hother => List.forall_mem_append.2 ⟨hrest other hother, ?_⟩⟩
    refine List.forall_mem_singleton.2 fun h => hnew ?_
    rw [hd] at h
    exact Option.some.inj h ▸ hother
  · rintro ⟨hhead, hnodup, hrest⟩
    refine ⟨⟨fun hmem => ?_, hnodup⟩, hhead,
      fun other hother b hb => hrest other hother b (List.mem_append_left _ hb)⟩
    exact hrest name hmem d (List.mem_append_right _ (List.mem_singleton_self d)) hd

theorem insertMany_eq (ids : Nat → String) (s : State) (collection : String)
    (batch : List Document) :
    (∃ e, insertMany ids s collection batch = (.error e, s)) ∧
        ¬ Insertable (documents s collection) ((identify ids s.drawn batch).1.map Prod.snd) ∨
      (insertMany ids s collection batch).1 = .ok ((identify ids s.drawn batch).1.map Prod.fst) ∧
        Insertable (documents s collection) ((identify ids s.drawn batch).1.map Prod.snd) ∧
        ∀ other, documents (insertMany ids s collection batch).2 other
          = if other = collection then
            documents s collection ++ (identify ids s.drawn batch).1.map Prod.fst
            else documents s other := by
  rw [← insertable_iff]
  unfold insertMany
  dsimp only
  split
  · next id hid =>
    refine Or.inl ⟨⟨_, rfl⟩, ?_⟩
    rw [hid]
    exact Option.some_ne_none id
  · next hid => exact Or.inr ⟨rfl, hid, fun other => documents_withDocuments s collection other _⟩

theorem insertOne_eq (ids : Nat → String) (s : State) (collection : String) (d : Document) :
    insertOne ids s collection d
      = (.error (duplicate collection (Document.withId d (ids s.drawn)).2), s) ∧
        ¬ Insertable (documents s collection) [(Document.withId d (ids s.drawn)).2] ∨
      (insertOne ids s collection d).1 = .ok (Document.withId d (ids s.drawn)).1 ∧
        Insertable (documents s collection) [(Document.withId d (ids s.drawn)).2] ∧
        ∀ other, documents (insertOne ids s collection d).2 other
          = if other = collection then
            documents s collection ++ [(Document.withId d (ids s.drawn)).1]
            else documents s other := by
  have hnew : ∀ name, Insertable (documents s collection) [name] ↔
      ¬ hasId (documents s collection) name = true := by
    intro name
    rw [hasId_iff]
    simp [Insertable]
  rw [hnew]
  unfold insertOne
  dsimp only
  split
  · next h => exact Or.inl ⟨rfl, fun hn => hn h⟩
  · next h => exact Or.inr ⟨rfl, h, fun other => documents_withDocuments s collection other _⟩

/-! ## What a request does to a collection -/

/-- The ways in which a collection can come out of a request. -/
inductive Left (before : List Document) : List Document → Prop where
  | same : Left before before
  | added (stored : List (Document × String)) (hid : ∀ x ∈ stored, x.1.idText? = some x.2)
    (hnew : Insertable before (stored.map Prod.snd)) : Left before (before ++ stored.map Prod.fst)
  | patched (positions : List Nat) (patch : Document) : Left before (patchAt positions patch before)
  | removed (position : Nat) : Left before (before.eraseIdx position)

theorem left_update (s : State) (collection : String) (c : Criteria) (patch : Document)
    (single : Bool) (other : String) :
    Left (documents s other) (documents (update s collection c patch single).2 other) := by
  unfold update
  split
  · exact .same
  · show Left _ (documents (withDocuments s collection _) other)
    rw [documents_withDocuments]
    split
    · next h => subst h; exact .patched _ patch
    · exact .same

theorem left_deleteOne (s : State) (collection : String) (c : Criteria) (other : String) :
    Left (documents s other) (documents (deleteOne s collection c).2 other) := by
  unfold deleteOne
  split
  · exact .same
  · dsimp only
    split
    · exact .same
    · show Left _ (documents (withDocuments s collection _) other)
      rw [documents_withDocuments]
      split
      · next h => subst h; exact .removed _
      · exact .same

theorem left_insertMany (ids : Nat → String) (s : State) (collection : String)
    (batch : List Document) (other : String) :
    Left (documents s other) (documents (insertMany ids s collection batch).2 other) := by
  rcases insertMany_eq ids s collection batch with ⟨⟨e, he⟩, -⟩ | ⟨-, hnew, hdocs⟩
  · rw [he]; exact .same
  · rw [hdocs]
    split
    · next h => subst h; exact .added _ idText?_of_mem_identify hnew
    · exact .same

theorem left_insertOne (ids : Nat → String) (s : State) (collection : String) (d : Document)
    (other : String) :
    Left (documents s other) (documents (insertOne ids s collection d).2 other) := by
  rcases insertOne_eq ids s collection d with ⟨he, -⟩ | ⟨-, hnew, hdocs⟩
  · rw [he]; exact .same
  · rw [hdocs]
    split
    · next h =>
      subst h
      refine .added [Document.withId d (ids s.drawn)] ?_ hnew
      exact List.forall_mem_singleton.2 (Document.idText?_withId d _)
    · exact .same

theorem left_ask (ids : Nat → String) (r : Request) (s : State) (other : String) :
    Left (documents s other) (documents (r.ask (memory ids Place.whole) s).2 other) := by
  cases r with
  | find collection c m => cases m <;> exact .same
  | insertOne collection d => exact left_insertOne ids s collection d other
  | insertMany collection batch => exact left_insertMany ids s collection batch other
  | updateOne collection c patch => exact left_update s collection c patch true other
  | updateMany collection c patch => exact left_update s collection c patch false other
  | deleteOne collection c => exact left_deleteOne s collection c other

/-! ## Documents that share an identifier -/

/-- Of two documents with the same text the one ahead has no string. -/
def TextsApart (docs : List Document) : Prop :=
  docs.Pairwise fun a b => a.idText? = b.idText? → a.stringId? = none

theorem TextsApart.left {before after : List Document} (h : TextsApart before)
    (hleft : Left before after) :
    TextsApart after := by
  cases hleft with
  | same => exact h
  | added stored hid hnew =>
    refine List.pairwise_append.2 ⟨h, ?_, ?_⟩
    · have hnames := List.pairwise_map.1 hnew.1
      refine List.pairwise_map.2 (List.Pairwise.imp_of_mem ?_ hnames)
      intro x y hx hy hne htext
      rw [hid x hx, hid y hy] at htext
      exact absurd (Option.some.inj htext) hne
    · intro a ha b hb htext
      obtain ⟨x, hx, rfl⟩ := List.mem_map.1 hb
      have hname := hnew.2 x.2 (List.mem_map_of_mem hx) a ha
      cases hstring : a.stringId? with
      | none => rfl
      | some id =>
        have hid' : id = x.2 := by
          rw [Document.idText?_of_stringId? hstring, hid x hx] at htext
          exact Option.some.inj htext
        rw [hstring, hid'] at hname
        exact absurd rfl hname
  | patched positions patch =>
    -- A patch changes neither side of the condition, so the positions do not matter.
    have hsame : ∀ x ∈ before.zipIdx,
        (if positions.contains x.2 then Document.mergePatch x.1 patch else x.1).idText?
          = x.1.idText? ∧
          (if positions.contains x.2 then Document.mergePatch x.1 patch else x.1).stringId?
            = x.1.stringId? := by
      intro x _
      split
      · exact ⟨Document.idText?_mergePatch _ _, Document.stringId?_mergePatch _ _⟩
      · exact ⟨rfl, rfl⟩
    have hzip : (before.zipIdx.map Prod.fst).Pairwise fun a b => a.idText? = b.idText? →
        a.stringId? = none := by
      rw [List.zipIdx_map_fst]
      exact h
    refine List.pairwise_map.2 (List.Pairwise.imp_of_mem ?_ (List.pairwise_map.1 hzip))
    intro x y hx hy hxy
    rw [(hsame x hx).1, (hsame x hx).2, (hsame y hy).1]
    exact hxy
  | removed position => exact List.Pairwise.sublist (List.eraseIdx_sublist _ _) h

/-- The state after requests in order, from no documents. -/
def after (ids : Nat → String) (requests : List Request) : State :=
  requests.foldl (fun s r => (r.ask (memory ids Place.whole) s).2) .empty

theorem after_append (ids : Nat → String) (requests : List Request) (r : Request) :
    after ids (requests ++ [r]) = (r.ask (memory ids Place.whole) (after ids requests)).2 := by
  unfold after
  rw [List.foldl_append]
  rfl

theorem textsApart_after (ids : Nat → String) (requests : List Request) (collection : String) :
    TextsApart (documents (after ids requests) collection) := by
  induction requests using List.reverseRecOn with
  | nil => exact List.Pairwise.nil
  | append_singleton requests r ih =>
    rw [after_append]
    exact ih.left (left_ask ids r _ collection)

theorem idText?_of_mem_left {before docs : List Document} (h : ∀ d ∈ before, d.idText? ≠ none)
    (hleft : Left before docs) : ∀ d ∈ docs, d.idText? ≠ none := by
  cases hleft with
  | same => exact h
  | added stored hid hnew =>
    refine List.forall_mem_append.2 ⟨h, fun d hd => ?_⟩
    obtain ⟨x, hx, rfl⟩ := List.mem_map.1 hd
    rw [hid x hx]
    exact Option.some_ne_none _
  | patched positions patch =>
    intro d hd
    obtain ⟨⟨d', i⟩, hx, rfl⟩ := List.mem_map.1 hd
    have hmem : d' ∈ before := List.fst_mem_of_mem_zipIdx hx
    dsimp only
    split
    · rw [Document.idText?_mergePatch]; exact h d' hmem
    · exact h d' hmem
  | removed position => exact fun d hd => h d (List.mem_of_mem_eraseIdx hd)

theorem idText?_of_mem_after (ids : Nat → String) (requests : List Request) (collection : String) :
    ∀ d ∈ documents (after ids requests) collection, d.idText? ≠ none := by
  induction requests using List.reverseRecOn with
  | nil => exact List.forall_mem_nil _
  | append_singleton requests r ih =>
    rw [after_append]
    exact idText?_of_mem_left ih (left_ask ids r _ collection)

/-- How the identifiers of a collection are told apart, and which inserts are refused for theirs. -/
structure Identified (ids : Nat → String) (s : State) (collection : String) : Prop where
  present : ∀ d ∈ documents s collection, d.idText? ≠ none
  apart : TextsApart (documents s collection)
  unique : (∀ d ∈ documents s collection, d.stringId? ≠ none) →
    ((documents s collection).map idText?).Nodup
  insertOne : ∀ d,
    let identified := Document.withId d (ids s.drawn)
    (∃ a ∈ documents s collection, a.stringId? = some identified.2) ∧
        insertOne ids s collection d = (.error (duplicate collection identified.2), s) ∨
      (∀ a ∈ documents s collection, a.stringId? ≠ some identified.2) ∧
        (insertOne ids s collection d).1 = .ok identified.1 ∧
        documents (insertOne ids s collection d).2 collection
          = documents s collection ++ [identified.1]
  insertMany : ∀ batch,
    let identified := (identify ids s.drawn batch).1
    ¬ Insertable (documents s collection) (identified.map Prod.snd) ∧
        (∃ e, insertMany ids s collection batch = (.error e, s)) ∨
      Insertable (documents s collection) (identified.map Prod.snd) ∧
        (insertMany ids s collection batch).1 = .ok (identified.map Prod.fst) ∧
        documents (insertMany ids s collection batch).2 collection
          = documents s collection ++ identified.map Prod.fst

theorem TextsApart.nodup {docs : List Document} (h : TextsApart docs)
    (hstrings : ∀ d ∈ docs, d.stringId? ≠ none) :
    (docs.map idText?).Nodup := by
  refine List.pairwise_map.2 (List.Pairwise.imp_of_mem ?_ h)
  intro a b ha _ hshared htext
  exact hstrings a ha (hshared htext)

/-- After any run, texts are shared only behind an identifier that is no string, and an insert is
refused, leaving everything as it is, exactly for a text that is a string there or comes twice. -/
theorem identified_after (ids : Nat → String) (requests : List Request) (collection : String) :
    Identified ids (after ids requests) collection where
  present := idText?_of_mem_after ids requests collection
  apart := textsApart_after ids requests collection
  unique := (textsApart_after ids requests collection).nodup
  insertOne d := by
    rcases insertOne_eq ids (after ids requests) collection d with ⟨heq, hnot⟩ | ⟨hok, hnew, hdocs⟩
    · refine Or.inl ⟨?_, heq⟩
      simpa [Insertable] using hnot
    · refine Or.inr ⟨hnew.2 _ (List.mem_singleton_self _), hok, ?_⟩
      rw [hdocs, if_pos rfl]
  insertMany batch := by
    rcases insertMany_eq ids (after ids requests) collection batch
      with ⟨heq, hnot⟩ | ⟨hok, hnew, hdocs⟩
    · exact Or.inl ⟨hnot, heq⟩
    · refine Or.inr ⟨hnew, hok, ?_⟩
      rw [hdocs, if_pos rfl]

/-- The number seven for an identifier: its text is never found among the strings. -/
def seven : Document := [("id", .number (.integer 7))]

/-- Identifiers do repeat, although those that are handed out are fresh. -/
theorem identifiers_can_repeat :
    ¬ ∀ (ids : Nat → String) (requests : List Request) (collection : String),
    Function.Injective ids →
      (∀ c d, Request.insertOne c d ∈ requests → ∀ n, d.idText? ≠ some (ids n)) →
      (∀ c batch, Request.insertMany c batch ∈ requests → ∀ d ∈ batch, ∀ n,
        d.idText? ≠ some (ids n)) →
      ((documents (after ids requests) collection).map idText?).Nodup := by
  intro hclaim
  let ids : Nat → String := fun n => String.ofList (List.replicate n 'x')
  have hids : Function.Injective ids := by
    intro m n h
    have hlist := String.ofList_injective h
    simpa using congrArg List.length hlist
  have hfresh : ∀ n, seven.idText? ≠ some (ids n) := by
    intro n h
    have htext : String.ofList ['7'] = ids n := Option.some.inj h
    have hlist : ['7'] = List.replicate n 'x' := String.ofList_injective htext
    have hmem : '7' ∈ List.replicate n 'x' := hlist ▸ List.mem_singleton_self _
    exact absurd (List.eq_of_mem_replicate hmem) (by decide)
  have hnodup := hclaim ids [.insertOne "units" seven, .insertOne "units" seven] "units" hids
    (by
      intro c d hmem
      have hd : d = seven := by simp_all
      rw [hd]
      exact hfresh)
    (by simp)
  have hdocs : documents (after ids [.insertOne "units" seven, .insertOne "units" seven]) "units"
      = [seven, seven] := rfl
  rw [hdocs] at hnodup
  simp at hnodup

end Store.Memory

end Larder
