import Larder.Proofs.Store.Runs

/-!
How old an answer of a store with a cache before it can be.
-/

namespace Larder.Store

variable {δ : Type}

/-- Reading all documents never finds none. -/
theorem driverAnswer_all_ne_none (driver : Driver δ) (w : World δ) (collection : String)
    (c : Criteria) :
    driverAnswer driver w collection c .all ≠ .ok none := by
  intro h
  have hmap : (driver.findAll collection c w.documents).1.map some = .ok none := h
  cases hanswer : (driver.findAll collection c w.documents).1 with
  | error e =>
    rw [hanswer] at hmap
    cases hmap
  | ok ds =>
    rw [hanswer] at hmap
    cases hmap

/-- What a read answers is what the driver answered to the same read now, or earlier by less than
the time to live; and where it fails otherwise than with a mismatch of types, the driver has just
failed or found nothing. -/
theorem find_answer_bounded (driver : Driver δ) (scope : Cache.Scope) (start : World δ)
    (hempty : start.entries scope.nameSpace = []) (turns : List (Turn scope.nameSpace))
    (hclock : turns.Pairwise fun a b => a.time.nanoseconds ≤ b.time.nanoseconds)
    {past future : List (Moment δ scope.nameSpace)} {now : Moment δ scope.nameSpace}
    (hrun : trace driver scope turns start = past ++ now :: future)
    {collection : String} {c : Criteria} {m : Method}
    (hnow : now.turn.request = .find collection c m) :
    (∀ r, ((cachedStore driver scope).find collection c m now.world).1 = .ok r →
      ∃ p ∈ past ++ [now], p.Fetches driver collection c m r ∧
        p.turn.time.nanoseconds ≤ now.turn.time.nanoseconds ∧
        (p.turn.time.nanoseconds = now.turn.time.nanoseconds ∨
          now.turn.time.nanoseconds - p.turn.time.nanoseconds < scope.defaultTtl.nanoseconds)) ∧
    (∀ e, ((cachedStore driver scope).find collection c m now.world).1 = .error e →
      e.isTypeMismatch = false →
      m = .one ∧ driverAnswer driver now.world collection c m = .ok none ∧
      e = .notFound collection c.describe ∨
      ∃ e', driverAnswer driver now.world collection c m = .error e' ∧
        e = e'.withContext m.operation (ReadThrough.detail collection c)) := by
  have houtcome := find_outcome driver scope collection c m now.world
  generalize ((cachedStore driver scope).find collection c m now.world).2.entries scope.nameSpace
    = left at houtcome
  generalize ((cachedStore driver scope).find collection c m now.world).1 = answer at houtcome ⊢
  cases houtcome with
  | held hheld =>
    obtain ⟨p, hp, m', r', hfetch, rfl, hfresh⟩ := fetched_of_held hempty hrun hheld
    by_cases hm : m = m'
    · subst hm
      rw [m.expect_write]
      constructor
      · intro r hr
        obtain rfl : r' = r := Except.ok.inj hr
        refine ⟨p, List.mem_append_left _ hp, hfetch, past_le_now hclock hrun p hp, Or.inr ?_⟩
        omega
      · intro e he
        cases he
    · obtain ⟨expected, found, hmismatch⟩ := Method.expect_write_of_ne hm r'
      rw [hmismatch]
      constructor
      · intro r hr
        cases hr
      · intro e he hkind
        rw [← Except.error.inj he] at hkind
        cases hkind
  | failed hnone hanswer =>
    constructor
    · intro r hr
      cases hr
    · intro e he _
      exact Or.inr ⟨_, hanswer, (Except.error.inj he).symm⟩
  | missing hnone hanswer =>
    constructor
    · intro r hr
      cases hr
    · intro e he _
      have hone : m = .one := by
        cases m with
        | one => rfl
        | all => exact absurd hanswer (driverAnswer_all_ne_none driver _ _ _)
      exact Or.inl ⟨hone, hanswer, (Except.error.inj he).symm⟩
  | found hnone hanswer =>
    constructor
    · intro r hr
      obtain rfl := Except.ok.inj hr
      exact ⟨now, List.mem_append_right _ (List.mem_singleton_self _), ⟨hnow, hnone, hanswer⟩,
        le_refl _, Or.inl rfl⟩
    · intro e he
      cases he

/-- In the short run, what is read again lacks the field that the document has by then. -/
theorem reread_answer_bounded :
    ∃ r, ((cachedStore Sample.driver Sample.scope).find "units" Sample.criteria .one
      Sample.rereading.world).1 = .ok r ∧ Dict.get? r "floor" = none ∧
      ∃ p ∈ Sample.opening ++ [Sample.rereading], p.Fetches Sample.driver "units" Sample.criteria
        .one r ∧ p.turn.time.nanoseconds ≤ Sample.rereading.turn.time.nanoseconds ∧
        (p.turn.time.nanoseconds = Sample.rereading.turn.time.nanoseconds ∨
          Sample.rereading.turn.time.nanoseconds - p.turn.time.nanoseconds
            < Sample.scope.defaultTtl.nanoseconds) := by
  obtain ⟨r, hr, hfloor⟩ := Sample.rereading_answer
  have hbounded :=
    find_answer_bounded Sample.driver Sample.scope Sample.start Sample.entries_start Sample.turns
    Sample.clock Sample.run
      (show Sample.rereading.turn.request = .find "units" Sample.criteria .one from rfl)
  exact ⟨r, hr, hfloor, hbounded.1 r hr⟩

end Larder.Store
