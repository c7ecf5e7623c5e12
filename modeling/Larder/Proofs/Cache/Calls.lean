import Larder.Cache.Memory
import Larder.Proofs.Dict
import Larder.Proofs.Time.Reading

/-!
Calls to caches in memory that share a table, one after another, and what one call does to the
table.

What is under a key comes down to a value and the nanosecond at which it expires (`Holding`).
`holding?_perform` says of every call what it leaves under every key of every namespace, so nothing
after it looks into a call.
-/

namespace Larder.Cache

instance : Std.TransOrd Key where
  eq_swap := fun {a b} => Std.OrientedOrd.eq_swap (a := a.bytes) (b := b.bytes)
  isLE_trans := fun {a b c} => Std.TransOrd.isLE_trans (a := a.bytes) (b := b.bytes) (c := c.bytes)

/-- A value and the nanosecond since 1970 from which on it is expired. -/
structure Holding where
  value : Json.Value
  expiry : Int

def Entry.holding (e : Entry) : Holding := ⟨e.value, e.expiresAt.toNanoseconds⟩

/-! ## Tables -/

namespace Table

/-- What is under a key, expired or not. -/
def holding? (t : Table) (ns : String) (key : Key) : Option Holding :=
  (Dict.get? (t.entries ns) key).map Entry.holding

/-- Entries are in the order of their keys, and expire outside leap seconds. -/
structure Sound (t : Table) : Prop where
  sorted : Dict.Sorted t
  entries_sorted : ∀ ns, Dict.Sorted (t.entries ns)
  regular : ∀ ns key e, Dict.get? (t.entries ns) key = some e → e.expiresAt.Regular

theorem sound_nil : Sound [] where
  sorted := Dict.sorted_nil
  entries_sorted _ := Dict.sorted_nil
  regular _ _ _ h := by cases h

theorem entries_withEntries (t : Table) (ns ns' : String) (d : Dict Key Entry) :
    (t.withEntries ns d).entries ns' = if ns' = ns then d else t.entries ns' := by
  unfold entries withEntries
  rw [Dict.get?_insert]
  split <;> rfl

theorem entries_touch (t : Table) (ns ns' : String) : (t.touch ns).entries ns' = t.entries ns' := by
  unfold touch
  split
  · rfl
  · next hmissing =>
    rw [entries_withEntries]
    split
    · next hns =>
      have hnone : Dict.get? t ns' = none := by
        rw [hns]
        exact Option.not_isSome_iff_eq_none.1 hmissing
      rw [entries, hnone]
      rfl
    · rfl

theorem Sound.withEntries {t : Table} (h : t.Sound) {ns : String} {d : Dict Key Entry}
    (hd : Dict.Sorted d) (hregular : ∀ key e, Dict.get? d key = some e → e.expiresAt.Regular) :
    (t.withEntries ns d).Sound where
  sorted := h.sorted.insert ns d
  entries_sorted ns' := by
    rw [entries_withEntries]
    split
    · exact hd
    · exact h.entries_sorted ns'
  regular ns' key e hget := by
    rw [entries_withEntries] at hget
    split at hget
    · exact hregular key e hget
    · exact h.regular ns' key e hget

theorem Sound.touch {t : Table} (h : t.Sound) (ns : String) : (t.touch ns).Sound := by
  unfold Table.touch
  split
  · exact h
  · exact h.withEntries Dict.sorted_nil fun _ _ hget => by cases hget

/-- Writing a namespace back as it is only makes it known. -/
theorem Sound.withEntries_self {t : Table} (h : t.Sound) (ns : String) :
    t.withEntries ns (t.entries ns) = t.touch ns := by
  unfold Table.withEntries Table.touch
  by_cases hmem : Dict.contains t ns = true
  · rw [if_pos hmem]
    obtain ⟨d, hd⟩ := Dict.contains_iff.1 hmem
    have hentries : t.entries ns = d := by
      rw [entries, hd]
      rfl
    rw [hentries]
    exact h.sorted.insert_of_get? hd
  · rw [if_neg hmem]
    have hentries : t.entries ns = [] := by
      rw [entries, Option.not_isSome_iff_eq_none.1 hmem]
      rfl
    rw [hentries]
    rfl

/-- Whether an entry of a table is expired shows in its nanosecond. -/
theorem Sound.isExpiredAt_iff {t : Table} (h : t.Sound) {ns : String} {key : Key} {e : Entry}
    (hget : Dict.get? (t.entries ns) key = some e) (now : Reading) :
    e.isExpiredAt now.instant = true ↔ e.holding.expiry ≤ now.nanoseconds :=
  Instant.le_iff (h.regular ns key e hget) now.regular

end Table

namespace Memory

variable {t : Table} (ns : String) (key : Key)

theorem entries_set (now : Instant) (value : Json.Value) (ttl : Duration) :
    (set t ns now key value ttl).entries ns
      = Dict.insert (t.entries ns) key (.keptFor value now ttl) := by
  unfold set
  rw [Table.entries_withEntries, if_pos rfl]

theorem get_eq (ht : t.Sound) (now : Reading) :
    get t ns now.instant key = match t.holding? ns key with
      | none => .error (missing key)
      | some x =>
        if x.expiry ≤ now.nanoseconds then .error (.expired key.text) else .ok x.value := by
  unfold get Table.holding?
  cases hget : Dict.get? (t.entries ns) key with
  | none => rfl
  | some e =>
    have hexpired := ht.isExpiredAt_iff hget now
    simp only [Option.map_some]
    by_cases h : e.isExpiredAt now.instant = true
    · rw [if_pos h, if_pos (hexpired.1 h)]
    · rw [if_neg h, if_neg fun h' => h (hexpired.2 h')]
      rfl

theorem contains_eq :
    contains t ns key = match t.holding? ns key with
      | none => .error (missing key)
      | some _ => .ok () := by
  unfold contains Table.holding? Dict.contains
  cases Dict.get? (t.entries ns) key <;> rfl

/-- A purge counts the keys under which something is expired. -/
theorem purge_fst (ht : t.Sound) (now : Reading) :
    (purge t ns now.instant).1
      = {key | ∃ x, t.holding? ns key = some x ∧ x.expiry ≤ now.nanoseconds}.ncard := by
  have hsorted := ht.entries_sorted ns
  have hsplit := List.length_eq_length_filter_add (l := t.entries ns) fun entry =>
    entry.2.isExpiredAt now.instant
  have hset : {key | ∃ x, t.holding? ns key = some x ∧ x.expiry ≤ now.nanoseconds}
      = {key | ∃ e, Dict.get? ((t.entries ns).filter fun entry => entry.2.isExpiredAt now.instant)
        key = some e} := by
    ext key
    unfold Table.holding?
    constructor
    · rintro ⟨x, hx, hexpired⟩
      obtain ⟨e, hget, rfl⟩ := Option.map_eq_some_iff.1 hx
      exact ⟨e, (hsorted.get?_filter _).2 ⟨hget, (ht.isExpiredAt_iff hget now).2 hexpired⟩⟩
    · rintro ⟨e, he⟩
      obtain ⟨hget, hexpired⟩ := (hsorted.get?_filter _).1 he
      exact ⟨e.holding, Option.map_eq_some_iff.2 ⟨e, hget, rfl⟩,
        (ht.isExpiredAt_iff hget now).1 hexpired⟩
  rw [hset, ← (hsorted.filter _).length_eq]
  unfold purge Table.count
  dsimp only
  rw [hsplit, Nat.add_sub_cancel]

end Memory

/-! ## Calls -/

/-- What caches share: a clock, a table, and the settings to connect with. -/
structure Shelf where
  now : Instant
  table : Table
  settings : CacheSettings

namespace Shelf

def tablePlace : Place Shelf Table := ⟨table, fun t s => { s with table := t }⟩

def settingsPlace : Place Shelf CacheSettings := ⟨settings, fun c s => { s with settings := c }⟩

def fresh : Shelf := ⟨Instant.minimum, [], Memory.settings⟩

end Shelf

/-- One of the caches: the namespace that it is scoped to and its time to live. -/
structure Scope where
  nameSpace : String
  defaultTtl : Duration

def Scope.backend (c : Scope) : Backend Shelf :=
  memory Shelf.now Shelf.tablePlace c.nameSpace c.defaultTtl Shelf.settingsPlace

inductive Action where
  | prepare
  | set (key : Key) (value : Json.Value) (ttl : Option Duration)
  | get (key : Key)
  | delete (key : Key)
  | contains (key : Key)
  | getOrSet (key : Key) (value : Json.Value) (ttl : Option Duration)
  | purge

namespace Action

@[reducible]
def Reply : Action → Type
  | prepare => Answer Unit
  | set _ _ _ => Unit
  | get _ => Answer Json.Value
  | delete _ => Answer Unit
  | contains _ => Answer Unit
  | getOrSet _ _ _ => Answer Json.Value
  | purge => Nat

def run (scope : Scope) : (a : Action) → StateM Shelf a.Reply
  | prepare => scope.backend.prepare
  | set key value ttl => scope.backend.set key value ttl
  | get key => scope.backend.get key
  | delete key => scope.backend.delete key
  | contains key => scope.backend.contains key
  | getOrSet key value ttl => scope.backend.getOrSet key value ttl
  | purge => Cache.purge Shelf.now Shelf.tablePlace scope.nameSpace

end Action

/-- An action through one of the caches, with what the clock shows. -/
structure Call where
  scope : Scope
  time : Reading
  action : Action

namespace Call

/-- The answer of a call, and the state after it. -/
def perform (c : Call) (s : Shelf) : c.action.Reply × Shelf :=
  c.action.run c.scope { s with now := c.time.instant }

/-- What a call puts under a key.  It expires a time to live later, or with the last instant. -/
def puts (c : Call) (ns : String) (key : Key) : Option Holding :=
  let holding (k : Key) (value : Json.Value) (ttl : Option Duration) : Option Holding :=
    if c.scope.nameSpace = ns ∧ k = key then
      some ⟨value,
        min (c.time.nanoseconds + (ttl.getD c.scope.defaultTtl).nanoseconds)
          Instant.maximum.toNanoseconds⟩
    else none
  match c.action with
  | .set k value ttl => holding k value ttl
  | .getOrSet k value ttl => holding k value ttl
  | _ => none

/-- Whether a call takes away what is under a key: it deletes the key, or purges the namespace when
that is expired. -/
def Removes (c : Call) (ns : String) (key : Key) (x : Holding) : Prop :=
  c.scope.nameSpace = ns ∧
    match c.action with
    | .delete k => k = key
    | .purge => x.expiry ≤ c.time.nanoseconds
    | _ => False

/-! ## One call -/

variable {s : Shelf}

/-- What the entries of the namespace of a call become. -/
def change (c : Call) (d : Dict Key Entry) : Dict Key Entry :=
  match c.action with
  | .set k value ttl | .getOrSet k value ttl =>
    Dict.insert d k (.keptFor value c.time.instant (ttl.getD c.scope.defaultTtl))
  | .delete k => Dict.erase d k
  | .purge => d.filter fun entry => !entry.2.isExpiredAt c.time.instant
  | _ => d

/-- What a call makes of the table.  Reading makes the namespace known. -/
theorem table_perform (c : Call) (s : Shelf) :
    (c.perform s).2.table = match c.action with
      | .prepare | .get _ | .contains _ => s.table.touch c.scope.nameSpace
      | .set _ _ _ | .delete _ | .purge =>
        s.table.withEntries c.scope.nameSpace (c.change (s.table.entries c.scope.nameSpace))
      | .getOrSet _ _ _ =>
        (s.table.withEntries c.scope.nameSpace (c.change (s.table.entries c.scope.nameSpace))).touch
          c.scope.nameSpace := by
  obtain ⟨scope, time, action⟩ := c
  cases action <;> rfl

/-- A call changes the entries of its own namespace at most. -/
theorem entries_perform (c : Call) (s : Shelf) (ns : String) :
    (c.perform s).2.table.entries ns
      = if ns = c.scope.nameSpace then c.change (s.table.entries ns) else s.table.entries ns := by
  have hwritten : (s.table.withEntries c.scope.nameSpace
      (c.change (s.table.entries c.scope.nameSpace))).entries ns
      = if ns = c.scope.nameSpace then c.change (s.table.entries ns) else s.table.entries ns := by
    rw [Table.entries_withEntries]
    split
    · next hns => rw [hns]
    · rfl
  obtain ⟨scope, time, action⟩ := c
  rw [table_perform]
  cases action with
  | prepare | get | contains => exact (Table.entries_touch _ _ _).trans (ite_self _).symm
  | set | delete | purge => exact hwritten
  | getOrSet => exact (Table.entries_touch _ _ _).trans hwritten

theorem sorted_change (c : Call) {d : Dict Key Entry} (hd : Dict.Sorted d) :
    Dict.Sorted (c.change d) := by
  obtain ⟨scope, time, action⟩ := c
  cases action with
  | prepare | get | contains => exact hd
  | set | getOrSet => exact hd.insert _ _
  | delete | purge => exact hd.filter _

/-- A kept value expires when the call says. -/
theorem holding_keptFor (time : Reading) (value : Json.Value) (ttl : Duration) :
    (Entry.keptFor value time.instant ttl).holding
      = ⟨value, min (time.nanoseconds + ttl.nanoseconds) Instant.maximum.toNanoseconds⟩ := by
  unfold Entry.keptFor Entry.holding
  rw [time.expiry_eq_min]

/-- Under a key there is afterwards what the call puts there, or else what it leaves there. -/
theorem get?_change (c : Call) {t : Table} (ht : t.Sound) {key : Key} {x : Holding} :
    (Dict.get? (c.change (t.entries c.scope.nameSpace)) key).map Entry.holding = some x
      ↔ c.puts c.scope.nameSpace key = some x ∨
        c.puts c.scope.nameSpace key = none ∧ t.holding? c.scope.nameSpace key = some x ∧
          ¬ c.Removes c.scope.nameSpace key x := by
  obtain ⟨scope, time, action⟩ := c
  cases action with
  | prepare | get | contains => simp [change, puts, Removes, Table.holding?]
  | set k value ttl | getOrSet k value ttl =>
    unfold change puts Removes Table.holding?
    dsimp only
    rw [Dict.get?_insert]
    by_cases hk : key = k
    · subst hk
      simp [holding_keptFor]
    · have hk' : ¬ k = key := fun h => hk h.symm
      simp [hk, hk']
  | delete k =>
    unfold change puts Removes Table.holding?
    dsimp only
    rw [Dict.get?_erase]
    by_cases hk : key = k
    · subst hk
      simp
    · have hk' : ¬ k = key := fun h => hk h.symm
      simp [hk, hk']
  | purge =>
    unfold change puts Removes Table.holding?
    dsimp only
    rw [Option.map_eq_some_iff, Option.map_eq_some_iff]
    constructor
    · rintro ⟨e, hget, rfl⟩
      rw [(ht.entries_sorted _).get?_filter] at hget
      refine Or.inr ⟨rfl, ⟨e, hget.1, rfl⟩, fun hremoved => ?_⟩
      rw [(ht.isExpiredAt_iff hget.1 time).2 hremoved.2] at hget
      exact absurd hget.2 (by decide)
    · rintro (hput | ⟨-, ⟨e, hget, rfl⟩, hleft⟩)
      · cases hput
      · refine ⟨e, ?_, rfl⟩
        rw [(ht.entries_sorted _).get?_filter]
        refine ⟨hget, ?_⟩
        rw [Bool.not_eq_true', ← Bool.not_eq_true, ht.isExpiredAt_iff hget time]
        exact fun h => hleft ⟨rfl, h⟩

theorem regular_change (c : Call) {d : Dict Key Entry} (hd : Dict.Sorted d)
    (hregular : ∀ key e, Dict.get? d key = some e → e.expiresAt.Regular) :
    ∀ key e, Dict.get? (c.change d) key = some e → e.expiresAt.Regular := by
  intro key e hget
  obtain ⟨scope, time, action⟩ := c
  cases action with
  | prepare | get | contains => exact hregular key e hget
  | set k value ttl | getOrSet k value ttl =>
    unfold change at hget
    dsimp only at hget
    rw [Dict.get?_insert] at hget
    split at hget
    · rw [← Option.some.inj hget]
      exact time.regular_expiry _
    · exact hregular key e hget
  | delete k | purge =>
    exact hregular key e (hd.get?_of_mem (List.mem_of_mem_filter (Dict.mem_of_get? hget)))

theorem sound_perform (c : Call) (hs : s.table.Sound) : (c.perform s).2.table.Sound := by
  have hwritten : (s.table.withEntries c.scope.nameSpace
      (c.change (s.table.entries c.scope.nameSpace))).Sound :=
    hs.withEntries (c.sorted_change (hs.entries_sorted _))
      (c.regular_change (hs.entries_sorted _) (hs.regular _))
  obtain ⟨scope, time, action⟩ := c
  rw [table_perform]
  cases action with
  | prepare | get | contains => exact hs.touch _
  | set | delete | purge => exact hwritten
  | getOrSet => exact hwritten.touch _

/-- What is under a key of a namespace after a call, whatever the namespace of the call. -/
theorem holding?_perform (c : Call) (hs : s.table.Sound) (ns : String) (key : Key) (x : Holding) :
    (c.perform s).2.table.holding? ns key = some x
      ↔ c.puts ns key = some x ∨
        c.puts ns key = none ∧ s.table.holding? ns key = some x ∧ ¬ c.Removes ns key x := by
  unfold Table.holding?
  rw [entries_perform]
  split
  · next hns =>
    subst hns
    exact c.get?_change hs
  · next hns =>
    have hputs : c.puts ns key = none := by
      have hne : ∀ k : Key, ¬ (c.scope.nameSpace = ns ∧ k = key) := fun k h => hns h.1.symm
      unfold puts
      split
      · exact if_neg (hne _)
      · exact if_neg (hne _)
      · rfl
    have hleft : ¬ c.Removes ns key x := fun h => hns h.1.symm
    rw [hputs]
    constructor
    · exact fun h => Or.inr ⟨rfl, h, hleft⟩
    · rintro (h | ⟨-, h, -⟩)
      · cases h
      · exact h

/-! ## Answers -/

/-- The answer of a call depends on the entries of its namespace only. -/
theorem perform_congr (c : Call) {s s' : Shelf}
    (h : s.table.entries c.scope.nameSpace = s'.table.entries c.scope.nameSpace) :
    (c.perform s).1 = (c.perform s').1 := by
  have hget : ∀ {t t' : Table} (key : Key),
      t.entries c.scope.nameSpace = t'.entries c.scope.nameSpace →
      Memory.get t c.scope.nameSpace c.time.instant key
        = Memory.get t' c.scope.nameSpace c.time.instant key := by
    intro t t' key ht
    unfold Memory.get
    rw [ht]
  have hcontains : ∀ key : Key,
      Memory.contains s.table c.scope.nameSpace key
        = Memory.contains s'.table c.scope.nameSpace key := by
    intro key
    unfold Memory.contains
    rw [h]
  obtain ⟨scope, time, action⟩ := c
  cases action with
  | prepare | set => rfl
  | get key => exact hget key h
  | delete key => exact hcontains key
  | contains key => exact hcontains key
  | getOrSet key value ttl =>
    refine hget key ?_
    show (Memory.set s.table scope.nameSpace _ key value _).entries scope.nameSpace
      = (Memory.set s'.table scope.nameSpace _ key value _).entries scope.nameSpace
    rw [Memory.entries_set, Memory.entries_set]
    exact congrArg (fun d => Dict.insert d key _) h
  | purge =>
    show (Memory.purge s.table scope.nameSpace time.instant).1
        = (Memory.purge s'.table scope.nameSpace time.instant).1
    unfold Memory.purge Table.count
    rw [show s.table.entries scope.nameSpace = s'.table.entries scope.nameSpace from h]

end Call

end Larder.Cache
