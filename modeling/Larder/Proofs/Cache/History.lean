import Larder.Proofs.Cache.Calls

/-!
What caches in memory answer, said by their history.

A value is live under a key while it is the last one that was put there, and no later call deleted
the key or purged the namespace once the value was expired.  What is in the table after a run of
calls is what is live in the run (`holding?_replay`), so every answer can be read off the run, and
off the calls in its own namespace alone.
-/

namespace Larder.Cache

/-- The state after calls in order, from a table that has not been used. -/
def replay (h : List Call) : Shelf := h.foldl (fun s c => (c.perform s).2) .fresh

def ask (h : List Call) (scope : Scope) (time : Reading) (a : Action) : a.Reply :=
  ((Call.mk scope time a).perform (replay h)).1

/-- A value is live in a history: some call put it there, and no later one put another there or took
it away. -/
def Live (h : List Call) (ns : String) (key : Key) (x : Holding) : Prop :=
  ∃ before c after, h = before ++ c :: after ∧ c.puts ns key = some x ∧
    ∀ d ∈ after, d.puts ns key = none ∧ ¬ d.Removes ns key x

section History

variable {h : List Call} {ns : String} {key : Key} {x : Holding}

theorem replay_append (h : List Call) (c : Call) :
    replay (h ++ [c]) = (c.perform (replay h)).2 := by
  unfold replay
  rw [List.foldl_append]
  rfl

theorem not_live_nil : ¬ Live [] ns key x := by
  rintro ⟨before, c, after, hnil, -⟩
  exact List.append_ne_nil_of_right_ne_nil before (List.cons_ne_nil c after) hnil.symm

/-- One more call makes live what it puts in, and leaves live what it neither replaces nor takes
away. -/
theorem live_append (c : Call) :
    Live (h ++ [c]) ns key x
      ↔ c.puts ns key = some x ∨ c.puts ns key = none ∧ Live h ns key x ∧ ¬ c.Removes ns key x := by
  constructor
  · rintro ⟨before, d, after, hsplit, hput, hafter⟩
    rcases List.eq_nil_or_concat after with rfl | ⟨after, last, rfl⟩
    · obtain ⟨-, hlast⟩ := List.append_inj' hsplit rfl
      obtain rfl : c = d := List.head_eq_of_cons_eq hlast
      exact Or.inl hput
    · rw [List.concat_eq_append, ← List.cons_append, ← List.append_assoc] at hsplit
      obtain ⟨rfl, hlast⟩ := List.append_inj' hsplit rfl
      obtain rfl : c = last := List.head_eq_of_cons_eq hlast
      rw [List.concat_eq_append, List.forall_mem_append, List.forall_mem_singleton] at hafter
      exact Or.inr ⟨hafter.2.1, ⟨before, d, after, rfl, hput, hafter.1⟩, hafter.2.2⟩
  · rintro (hput | ⟨hnone, ⟨before, d, after, rfl, hput, hafter⟩, hleft⟩)
    · exact ⟨h, c, [], rfl, hput, List.forall_mem_nil _⟩
    · refine ⟨before, d, after ++ [c], by rw [List.append_assoc, List.cons_append], hput, ?_⟩
      exact List.forall_mem_append.2 ⟨hafter, List.forall_mem_singleton.2 ⟨hnone, hleft⟩⟩

theorem sound_replay (h : List Call) : (replay h).table.Sound := by
  induction h using List.reverseRecOn with
  | nil => exact Table.sound_nil
  | append_singleton h c ih =>
    rw [replay_append]
    exact c.sound_perform ih

/-- The table holds exactly what is live. -/
theorem holding?_replay (h : List Call) (ns : String) (key : Key) (x : Holding) :
    (replay h).table.holding? ns key = some x ↔ Live h ns key x := by
  induction h using List.reverseRecOn with
  | nil =>
    constructor
    · intro hnil
      cases hnil
    · exact fun hnil => absurd hnil not_live_nil
  | append_singleton h c ih =>
    rw [replay_append, c.holding?_perform (sound_replay h), live_append, ih]

theorem holding?_replay_eq_none (h : List Call) (ns : String) (key : Key) :
    (replay h).table.holding? ns key = none ↔ ¬ ∃ x, Live h ns key x := by
  rw [Option.eq_none_iff_forall_ne_some]
  simp only [ne_eq, holding?_replay, not_exists]

/-- Calls in other namespaces leave the entries of a namespace alone. -/
theorem entries_replay_filter (h : List Call) (ns : String) :
    (replay (h.filter fun c => c.scope.nameSpace = ns)).table.entries ns
      = (replay h).table.entries ns := by
  induction h using List.reverseRecOn with
  | nil => rfl
  | append_singleton h c ih =>
    rw [List.filter_append, List.filter_singleton, replay_append, c.entries_perform, ← ih]
    by_cases hns : c.scope.nameSpace = ns
    · rw [decide_eq_true hns, cond_true, replay_append, c.entries_perform]
    · rw [decide_eq_false hns, cond_false, List.append_nil, if_neg fun h => hns h.symm]

end History

/-- What every answer is after a history, through one of the caches and with one key. -/
structure HistorySemantics (h : List Call) (scope : Scope) (time : Reading) (key : Key) : Prop where
  get_ok : ∀ value, (ask h scope time (.get key) : Answer Json.Value) = .ok value
    ↔ ∃ x, Live h scope.nameSpace key x ∧ x.value = value ∧ time.nanoseconds < x.expiry
  get_expired : (ask h scope time (.get key) : Answer Json.Value) = .error (.expired key.text)
    ↔ ∃ x, Live h scope.nameSpace key x ∧ x.expiry ≤ time.nanoseconds
  get_missing : (ask h scope time (.get key) : Answer Json.Value) = .error (missing key)
    ↔ ¬ ∃ x, Live h scope.nameSpace key x
  contains_ok : (ask h scope time (.contains key) : Answer Unit) = .ok () ↔
    ∃ x, Live h scope.nameSpace key x
  contains_missing : (ask h scope time (.contains key) : Answer Unit) = .error (missing key)
    ↔ ¬ ∃ x, Live h scope.nameSpace key x
  delete_ok : (ask h scope time (.delete key) : Answer Unit) = .ok () ↔
    ∃ x, Live h scope.nameSpace key x
  delete_missing : (ask h scope time (.delete key) : Answer Unit) = .error (missing key)
    ↔ ¬ ∃ x, Live h scope.nameSpace key x
  /-- A failed delete does to the table what reading does: it makes the namespace known. -/
  delete_failed : ∀ e, (ask h scope time (.delete key) : Answer Unit) = .error e →
    (replay (h ++ [⟨scope, time, .delete key⟩])).table = (replay h).table.touch scope.nameSpace ∧
      ∀ ns, (replay (h ++ [⟨scope, time, .delete key⟩])).table.entries ns
        = (replay h).table.entries ns
  getOrSet : ∀ value ttl, (ask h scope time (.getOrSet key value ttl) : Answer Json.Value)
    = if time.nanoseconds < min (time.nanoseconds + (ttl.getD scope.defaultTtl).nanoseconds)
          Instant.maximum.toNanoseconds
      then .ok value else .error (.expired key.text)
  /-- A purge answers with the number of entries that it drops: the expired ones of the
  namespace. -/
  purge : ∃ n : Nat, ask h scope time .purge = n ∧
    n = {k | ∃ x, Live h scope.nameSpace k x ∧ x.expiry ≤ time.nanoseconds}.ncard ∧
    (replay h).table.count scope.nameSpace
      = n + (replay (h ++ [⟨scope, time, .purge⟩])).table.count scope.nameSpace
  unaffected : ∀ a, ask h scope time a
    = ask (h.filter fun c => c.scope.nameSpace = scope.nameSpace) scope time a

section Answers

variable (h : List Call) (scope : Scope) (time : Reading) (key : Key)

theorem ask_get : (ask h scope time (.get key) : Answer Json.Value)
    = match (replay h).table.holding? scope.nameSpace key with
      | none => .error (missing key)
      | some x => if x.expiry ≤ time.nanoseconds then .error (.expired key.text) else .ok x.value :=
  Memory.get_eq scope.nameSpace key (sound_replay h) time

theorem ask_contains : (ask h scope time (.contains key) : Answer Unit)
    = match (replay h).table.holding? scope.nameSpace key with
      | none => .error (missing key)
      | some _ => .ok () :=
  Memory.contains_eq scope.nameSpace key

theorem ask_delete :
    (ask h scope time (.delete key) : Answer Unit) = ask h scope time (.contains key) := rfl

theorem ask_getOrSet (value : Json.Value) (ttl : Option Duration) :
    (ask h scope time (.getOrSet key value ttl) : Answer Json.Value)
      = ask (h ++ [⟨scope, time, .set key value ttl⟩]) scope time (.get key) := by
  unfold ask
  rw [replay_append]
  rfl

theorem ask_get_ok_iff (value : Json.Value) :
    (ask h scope time (.get key) : Answer Json.Value) = .ok value
    ↔ ∃ x, Live h scope.nameSpace key x ∧ x.value = value ∧ time.nanoseconds < x.expiry := by
  simp only [← holding?_replay]
  rw [ask_get]
  cases (replay h).table.holding? scope.nameSpace key with
  | none =>
    constructor
    · intro hok
      cases hok
    · rintro ⟨x, hx, -⟩
      cases hx
  | some x =>
    dsimp only
    split
    · next hexpired =>
      constructor
      · intro hok
        cases hok
      · rintro ⟨y, hy, -, hlt⟩
        obtain rfl := Option.some.inj hy
        omega
    · next hfresh =>
      constructor
      · intro hok
        exact ⟨x, rfl, Except.ok.inj hok, by omega⟩
      · rintro ⟨y, hy, rfl, -⟩
        obtain rfl := Option.some.inj hy
        rfl

theorem ask_get_expired_iff :
    (ask h scope time (.get key) : Answer Json.Value) = .error (.expired key.text)
    ↔ ∃ x, Live h scope.nameSpace key x ∧ x.expiry ≤ time.nanoseconds := by
  simp only [← holding?_replay]
  rw [ask_get]
  cases (replay h).table.holding? scope.nameSpace key with
  | none =>
    constructor
    · intro herror
      cases Except.error.inj herror
    · rintro ⟨x, hx, -⟩
      cases hx
  | some x =>
    dsimp only
    split
    · next hexpired => exact ⟨fun _ => ⟨x, rfl, hexpired⟩, fun _ => rfl⟩
    · next hfresh =>
      constructor
      · intro herror
        cases herror
      · rintro ⟨y, hy, hle⟩
        obtain rfl := Option.some.inj hy
        exact absurd hle hfresh

theorem ask_get_missing_iff :
    (ask h scope time (.get key) : Answer Json.Value) = .error (missing key)
    ↔ ¬ ∃ x, Live h scope.nameSpace key x := by
  rw [← holding?_replay_eq_none, ask_get]
  cases (replay h).table.holding? scope.nameSpace key with
  | none => exact ⟨fun _ => rfl, fun _ => rfl⟩
  | some x =>
    constructor
    · intro herror
      dsimp only at herror
      split at herror
      · cases Except.error.inj herror
      · cases herror
    · intro hsome
      cases hsome

theorem ask_contains_ok_iff : (ask h scope time (.contains key) : Answer Unit) = .ok ()
    ↔ ∃ x, Live h scope.nameSpace key x := by
  rw [← not_iff_not, ← holding?_replay_eq_none, ask_contains]
  cases (replay h).table.holding? scope.nameSpace key with
  | none => exact ⟨fun _ => rfl, fun _ hok => by cases hok⟩
  | some x => exact ⟨fun hok => absurd rfl hok, fun hsome => by cases hsome⟩

theorem ask_contains_missing_iff :
    (ask h scope time (.contains key) : Answer Unit) = .error (missing key)
    ↔ ¬ ∃ x, Live h scope.nameSpace key x := by
  rw [← holding?_replay_eq_none, ask_contains]
  cases (replay h).table.holding? scope.nameSpace key with
  | none => exact ⟨fun _ => rfl, fun _ => rfl⟩
  | some x =>
    constructor
    · intro herror
      cases herror
    · intro hsome
      cases hsome

/-- Nothing is erased where nothing was found. -/
theorem table_of_delete_failed {e : Error}
    (herror : (ask h scope time (.delete key) : Answer Unit) = .error e) :
    (replay (h ++ [⟨scope, time, .delete key⟩])).table
      = (replay h).table.touch scope.nameSpace := by
  have hnone : Dict.get? ((replay h).table.entries scope.nameSpace) key = none := by
    rw [ask_delete, ask_contains] at herror
    cases hfound : (replay h).table.holding? scope.nameSpace key with
    | none => exact Option.map_eq_none_iff.1 hfound
    | some x =>
      rw [hfound] at herror
      cases herror
  have herase : Dict.erase ((replay h).table.entries scope.nameSpace) key
      = (replay h).table.entries scope.nameSpace := by
    refine List.filter_eq_self.2 fun entry hentry => decide_eq_true fun hkey => ?_
    have hget := ((sound_replay h).entries_sorted scope.nameSpace).get?_of_mem hentry
    rw [hkey, hnone] at hget
    cases hget
  rw [replay_append, Call.table_perform]
  show (replay h).table.withEntries scope.nameSpace
      (Dict.erase ((replay h).table.entries scope.nameSpace) key) = _
  rw [herase]
  exact (sound_replay h).withEntries_self scope.nameSpace

theorem count_purge : (replay h).table.count scope.nameSpace
    = (Memory.purge (replay h).table scope.nameSpace time.instant).1
      + (replay (h ++ [⟨scope, time, .purge⟩])).table.count scope.nameSpace := by
  have hentries : (replay (h ++ [⟨scope, time, .purge⟩])).table.entries scope.nameSpace
      = ((replay h).table.entries scope.nameSpace).filter fun entry =>
        !entry.2.isExpiredAt time.instant := by
    rw [replay_append, Call.entries_perform, if_pos rfl]
    rfl
  unfold Table.count
  rw [hentries]
  unfold Memory.purge Table.count
  exact (Nat.sub_add_cancel (List.length_filter_le _ _)).symm

end Answers

/-- The answers of caches over one table are those of their history, after every run of calls. -/
theorem historySemantics (h : List Call) (scope : Scope) (time : Reading) (key : Key) :
    HistorySemantics h scope time key where
  get_ok := ask_get_ok_iff h scope time key
  get_expired := ask_get_expired_iff h scope time key
  get_missing := ask_get_missing_iff h scope time key
  contains_ok := ask_contains_ok_iff h scope time key
  contains_missing := ask_contains_missing_iff h scope time key
  delete_ok := ask_contains_ok_iff h scope time key
  delete_missing := ask_contains_missing_iff h scope time key
  delete_failed e herror := by
    have htable := table_of_delete_failed h scope time key herror
    refine ⟨htable, fun ns => ?_⟩
    rw [htable, Table.entries_touch]
  getOrSet value ttl := by
    have hput : Live (h ++ [⟨scope, time, .set key value ttl⟩]) scope.nameSpace key
        ⟨value, min (time.nanoseconds + (ttl.getD scope.defaultTtl).nanoseconds)
          Instant.maximum.toNanoseconds⟩ :=
      (live_append _).2 (Or.inl (if_pos ⟨rfl, rfl⟩))
    rw [ask_getOrSet]
    split
    · next hfresh => exact (ask_get_ok_iff _ _ _ _ _).2 ⟨_, hput, rfl, hfresh⟩
    · next hexpired => exact (ask_get_expired_iff _ _ _ _).2 ⟨_, hput, not_lt.1 hexpired⟩
  purge := by
    refine ⟨(Memory.purge (replay h).table scope.nameSpace time.instant).1, rfl, ?_,
      count_purge h scope time⟩
    rw [Memory.purge_fst scope.nameSpace (sound_replay h)]
    simp only [holding?_replay]
  unaffected a := Call.perform_congr _ (entries_replay_filter h scope.nameSpace).symm

end Larder.Cache
