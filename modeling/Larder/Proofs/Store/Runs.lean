import Larder.Proofs.Store.Turns
import Larder.Store.Memory

/-!
Runs of a store with a cache before it, as the moments at which its requests were made.

`run_invariant` takes a property of what has happened and of the world from one turn to the moments
of a whole run.  The first such property is `Accounted`: every entry of the namespace goes back to a
read that the driver answered.
-/

namespace Larder.Store

variable {δ : Type}

/-- A turn with the world in which its request is made. -/
structure Moment (δ : Type) (ns : String) where
  world : World δ
  turn : Turn ns

def Turn.moment {ns : String} (t : Turn ns) (w : World δ) : Moment δ ns := ⟨t.ready w, t⟩

section Runs

variable (driver : Driver δ) (scope : Cache.Scope)

/-- The moments of a run. -/
def trace : List (Turn scope.nameSpace) → World δ → List (Moment δ scope.nameSpace)
  | [], _ => []
  | t :: rest, w => t.moment w :: trace rest (t.after driver scope w)

variable {driver scope} {turns : List (Turn scope.nameSpace)} {w : World δ}
  {past future : List (Moment δ scope.nameSpace)} {now : Moment δ scope.nameSpace}

theorem trace_turns (turns : List (Turn scope.nameSpace)) (w : World δ) :
    (trace driver scope turns w).map Moment.turn = turns := by
  induction turns generalizing w with
  | nil => rfl
  | cons t rest ih => rw [trace, List.map_cons, ih]; rfl

theorem turn_mem_of_run (hrun : trace driver scope turns w = past ++ now :: future) :
    now.turn ∈ turns := by
  rw [← trace_turns turns w, hrun]
  exact List.mem_map.2 ⟨now, List.mem_append_right _ List.mem_cons_self, rfl⟩

/-- What every turn preserves holds of the past of every moment and of the world before its turn. -/
theorem run_invariant {P : List (Moment δ scope.nameSpace) → World δ → Prop}
    (hstep : ∀ done, ∀ t ∈ turns, ∀ w, P done w → P (done ++ [t.moment w]) (t.after driver scope w))
    (hstart : P [] w) (hrun : trace driver scope turns w = past ++ now :: future) :
    ∃ w', P past w' ∧ now.world = now.turn.ready w' := by
  have main :
      ∀ (rest : List (Turn scope.nameSpace)) (done past : List (Moment δ scope.nameSpace))
        (w : World δ),
      (∀ t ∈ rest, t ∈ turns) → P done w → trace driver scope rest w = past ++ now :: future →
      ∃ w', P (done ++ past) w' ∧ now.world = now.turn.ready w' := by
    intro rest
    induction rest with
    | nil =>
      intro done past w _ _ hrun
      cases past <;> cases hrun
    | cons t rest ih =>
      intro done past w hmem hP hrun
      rw [List.forall_mem_cons] at hmem
      rw [trace] at hrun
      cases past with
      | nil =>
        obtain ⟨rfl, -⟩ := List.cons.inj hrun
        exact ⟨w, by rw [List.append_nil]; exact hP, rfl⟩
      | cons p past =>
        obtain ⟨rfl, hrest⟩ := List.cons.inj hrun
        obtain ⟨w', hw', hnow⟩ := ih _ past _ hmem.2 (hstep done t hmem.1 w hP) hrest
        rw [List.append_assoc] at hw'
        exact ⟨w', hw', hnow⟩
  exact main turns [] past w (fun _ h => h) hstart hrun

theorem past_le_now (hclock : turns.Pairwise fun a b => a.time.nanoseconds ≤ b.time.nanoseconds)
    (hrun : trace driver scope turns w = past ++ now :: future) :
    ∀ p ∈ past, p.turn.time.nanoseconds ≤ now.turn.time.nanoseconds := by
  rw [← trace_turns turns w, hrun, List.pairwise_map, List.pairwise_append] at hclock
  exact fun p hp => hclock.2.2 p hp now List.mem_cons_self

/-- A read at a moment went to the driver, and found something there. -/
structure Moment.Fetches (driver : Driver δ) (p : Moment δ scope.nameSpace) (collection : String)
    (c : Criteria) (m : Method) (r : m.Result) : Prop where
  request : p.turn.request = .find collection c m
  not_held : held? scope p.world (.forRead collection c) = none
  answer : driverAnswer driver p.world collection c m = .ok (some r)

def Moment.entry (p : Moment δ scope.nameSpace) (m : Method) (r : m.Result) : Cache.Entry :=
  .keptFor (m.write r) p.turn.time.instant scope.defaultTtl

/-! ## One turn -/

theorem entries_after_of_find {t : Turn scope.nameSpace} {collection : String} {c : Criteria}
    {m : Method} (h : t.request = .find collection c m) :
    (t.after driver scope w).entries scope.nameSpace
      = ((cachedStore driver scope).find collection c m (t.ready w)).2.entries scope.nameSpace := by
  unfold Turn.after
  rw [h]
  rfl

theorem entries_after_of_fetches {t : Turn scope.nameSpace} {collection : String} {c : Criteria}
    {m : Method} {r : m.Result} (h : (t.moment w).Fetches driver collection c m r) :
    (t.after driver scope w).entries scope.nameSpace
      = if t.lapse.dropsWrite then w.entries scope.nameSpace
        else Dict.insert (w.entries scope.nameSpace) (.forRead collection c)
          ((t.moment w).entry m r) := by
  have hrequest : t.request = .find collection c m := h.request
  have hentries := (find_of_not_held driver m h.not_held).2
  rw [h.answer, show (t.moment w).world.entries scope.nameSpace = w.entries scope.nameSpace
    from t.entries_ready w]
    at hentries
  rw [entries_after_of_find hrequest]
  exact hentries

/-- The entries change only by what a read keeps that went to the driver. -/
theorem entries_after (driver : Driver δ) (t : Turn scope.nameSpace) (w : World δ) :
    (t.after driver scope w).entries scope.nameSpace = w.entries scope.nameSpace ∨
      ∃ collection c m r, (t.moment w).Fetches driver collection c m r ∧
        (t.after driver scope w).entries scope.nameSpace
          = Dict.insert (w.entries scope.nameSpace) (.forRead collection c)
            ((t.moment w).entry m r) := by
  cases hr : t.request with
  | find collection c m =>
    have houtcome := find_outcome driver scope collection c m (t.ready w)
    generalize ((cachedStore driver scope).find collection c m (t.ready w)).1 = answer at houtcome
    rw [← entries_after_of_find hr] at houtcome
    generalize hleft : (t.after driver scope w).entries scope.nameSpace = left at houtcome ⊢
    cases houtcome with
    | held => exact Or.inl (t.entries_ready w)
    | failed => exact Or.inl (t.entries_ready w)
    | missing => exact Or.inl (t.entries_ready w)
    | found hnone hanswer =>
      have hfetch : (t.moment w).Fetches driver collection c m _ := ⟨hr, hnone, hanswer⟩
      rw [← hleft, entries_after_of_fetches hfetch]
      by_cases hdrop : t.lapse.dropsWrite = true
      · rw [if_pos hdrop]
        exact Or.inl rfl
      · rw [if_neg hdrop]
        exact Or.inr ⟨collection, c, m, _, hfetch, rfl⟩
  | _ => exact Or.inl (Turn.entries_after_of_write (by rw [hr]; rfl) w)

/-! ## Entries and the reads that kept them -/

/-- Every entry of the namespace was kept by a read that went to the driver. -/
def Accounted (driver : Driver δ) (scope : Cache.Scope) (past : List (Moment δ scope.nameSpace))
    (w : World δ) : Prop :=
  ∀ key e, Dict.get? (w.entries scope.nameSpace) key = some e →
    ∃ p ∈ past, ∃ collection c m r, p.Fetches driver collection c m r ∧
    key = .forRead collection c ∧ e = p.entry m r

theorem Accounted.step (h : Accounted driver scope past w)
    (t : Turn scope.nameSpace) :
    Accounted driver scope (past ++ [t.moment w]) (t.after driver scope w) := by
  -- Entries that were there are still accounted for.
  have hold : ∀ key e, Dict.get? (w.entries scope.nameSpace) key = some e →
      ∃ p ∈ past ++ [t.moment w], ∃ collection c m r,
        p.Fetches driver collection c m r ∧ key = .forRead collection c ∧ e = p.entry m r := by
    intro key e hget
    obtain ⟨p, hp, hfetch⟩ := h key e hget
    exact ⟨p, List.mem_append_left _ hp, hfetch⟩
  intro key e hget
  rcases entries_after driver t w with hsame | ⟨collection, c, m, r, hfetch, hinsert⟩
  · rw [hsame] at hget
    exact hold key e hget
  · rw [hinsert, Dict.get?_insert] at hget
    split at hget
    · next hkey =>
      refine ⟨_, List.mem_append_right _ (List.mem_singleton_self _), collection, c, m, r, hfetch,
        hkey, ?_⟩
      exact (Option.some.inj hget).symm
    · exact hold key e hget

theorem accounted_nil (hempty : w.entries scope.nameSpace = []) : Accounted driver scope [] w := by
  intro key e hget
  rw [hempty] at hget
  cases hget

/-- A held value was kept by an earlier read for the same collection and criteria, and has not
expired. -/
theorem fetched_of_held (hempty : w.entries scope.nameSpace = [])
    (hrun : trace driver scope turns w = past ++ now :: future) {collection : String} {c : Criteria}
    {v : Json.Value} (hheld : held? scope now.world (.forRead collection c) = some v) :
    ∃ p ∈ past, ∃ m r, p.Fetches driver collection c m r ∧ v = m.write r ∧
      now.turn.time.nanoseconds
        < min (p.turn.time.nanoseconds + scope.defaultTtl.nanoseconds)
          Instant.maximum.toNanoseconds := by
  obtain ⟨w', hw', hnow⟩ :=
    run_invariant (P := Accounted driver scope) (fun done t _ w h => h.step t)
    (accounted_nil hempty) hrun
  obtain ⟨-, e, he, hfresh, rfl⟩ := held?_eq_some_iff.1 hheld
  rw [hnow, Turn.entries_ready] at he
  obtain ⟨p, hp, collection', c', m, r, hfetch, hkey, rfl⟩ := hw' _ e he
  obtain ⟨rfl, rfl⟩ := Cache.Key.forRead_injective hkey
  refine ⟨p, hp, m, r, hfetch, rfl, ?_⟩
  rw [hnow] at hfresh
  rw [← Bool.not_eq_true] at hfresh
  rw [← p.turn.time.expiry_eq_min, ← not_le]
  intro hexpired
  exact hfresh ((Instant.le_iff (p.turn.time.regular_expiry _) now.turn.time.regular).2 hexpired)

end Runs

/-! ## A short run

A document is inserted and read, changed, and read again in both ways within the time to live. -/

namespace Sample

def scope : Cache.Scope := ⟨"documents", .ofSeconds 60⟩

/-- The driver in memory, which is asked for no identifiers here. -/
def driver : Driver Memory.State := memory (fun _ => "") Place.whole

def start : World Memory.State := ⟨.fresh, .none, .empty⟩

def criteria : Criteria := .byId (.string "U1")

def inserted : Turn scope.nameSpace :=
  ⟨.ofSeconds 0 (by decide), .none, [], .insertOne "units" [("id", .string "U1")]⟩

def read : Turn scope.nameSpace :=
  ⟨.ofSeconds 1 (by decide), .none, [], .find "units" criteria .one⟩

def changed : Turn scope.nameSpace :=
  ⟨.ofSeconds 2 (by decide), .none, [], .updateOne "units" criteria [("floor", .ofNat 3)]⟩

def again : Turn scope.nameSpace :=
  ⟨.ofSeconds 30 (by decide), .none, [], .find "units" criteria .one⟩

def everything : Turn scope.nameSpace :=
  ⟨.ofSeconds 31 (by decide), .none, [], .find "units" criteria .all⟩

def turns : List (Turn scope.nameSpace) := [inserted, read, changed, again, everything]

def before (front : List (Turn scope.nameSpace)) : World Memory.State :=
  front.foldl (fun w t => t.after driver scope w) start

def opening : List (Moment Memory.State scope.nameSpace) :=
  [inserted.moment start, read.moment (before [inserted]), changed.moment (before [inserted, read])]

def rereading : Moment Memory.State scope.nameSpace :=
  again.moment (before [inserted, read, changed])

def readingAll : Moment Memory.State scope.nameSpace :=
  everything.moment (before [inserted, read, changed, again])

theorem entries_start : start.entries scope.nameSpace = [] := rfl

theorem clock : turns.Pairwise fun a b => a.time.nanoseconds ≤ b.time.nanoseconds := by
  decide

theorem lapses : ∀ t ∈ turns, t.lapse = .none := by
  have hmap : turns.map Turn.lapse = List.replicate 5 .none := rfl
  intro t ht
  refine List.eq_of_mem_replicate (n := 5) ?_
  rw [← hmap]
  exact List.mem_map_of_mem ht

theorem run : trace driver scope turns start = opening ++ rereading :: [readingAll] := rfl

theorem run_all : trace driver scope turns start = (opening ++ [rereading]) ++ readingAll :: [] :=
  rfl

/-- The document is read again as it was before the change. -/
theorem rereading_answer :
    ∃ r, ((cachedStore driver scope).find "units" criteria .one rereading.world).1 = .ok r ∧
      Dict.get? r "floor" = none := by
  have hanswer :
      (match ((cachedStore driver scope).find "units" criteria .one rereading.world).1 with
      | .ok r => (Dict.get? r "floor").isNone
      | .error _ => false) = true := by
    decide +kernel
  split at hanswer
  · next r hr => exact ⟨r, hr, Option.isNone_iff_eq_none.1 hanswer⟩
  · cases hanswer

/-- All documents are not read after the one was. -/
theorem readingAll_answer :
    ∃ e, ((cachedStore driver scope).find "units" criteria .all readingAll.world).1 = .error e ∧
      e.isTypeMismatch = true := by
  have hanswer :
      (match ((cachedStore driver scope).find "units" criteria .all readingAll.world).1 with
      | .ok _ => false
      | .error e => e.isTypeMismatch) = true := by
    decide +kernel
  split at hanswer
  · cases hanswer
  · next e he => exact ⟨e, he, hanswer⟩

end Sample

end Larder.Store
