import Larder.Proofs.Cache.History
import Larder.Proofs.Cache.Uses

/-!
A cache on a server in the place of a cache in memory.

Both are called with the same values at the same times.  The one keeps what is expired and the other
lets go of it, so what the server will hold at a time is what memory holds that is not expired then
(`Mirrors`).  A call preserves that, and the answers follow from it.
-/

namespace Larder.Cache

open Larder.Redis (Remote Timed)

/-- The last instant of all.  In memory nothing is used any more from then on. -/
def lastNanosecond : Int := Instant.maximum.toNanoseconds

/-- Whole seconds, from one to a hundred years of them. -/
def WholeSeconds (d : Duration) : Prop := ∃ n, 1 ≤ n ∧ n ≤ Remote.century ∧ d = .ofSeconds n

/-- A value keeps for whole seconds, and is read back from its text. -/
def Use.Fits (c : Scope) : Use → Prop
  | set _ value ttl | getOrSet _ value ttl =>
    WholeSeconds (ttl.getD c.defaultTtl) ∧ value.Readable (Json.depthLimit - 1)
  | _ => True

theorem Key.namespaced_injective {ns : String} {key key' : Key}
    (h : key.namespaced ns = key'.namespaced ns) :
    key = key' := by
  have hbytes := (List.cons.inj (List.append_cancel_left h)).2
  cases key
  exact congrArg Key.mk hbytes

/-! ## What a call does to the memory -/

/-- What is under a key after a call, by what was there before. -/
def Use.holdingAfter (c : Scope) (time : Reading) (u : Use) (key : Key) (before : Option Holding) :
    Option Holding :=
  match u with
  | set k value ttl | getOrSet k value ttl =>
    if key = k then
      some ⟨value, min (time.nanoseconds + (ttl.getD c.defaultTtl).nanoseconds) lastNanosecond⟩
    else before
  | delete k => if key = k then none else before
  | _ => before

theorem Use.holding?_ask (u : Use) (c : Scope) (time : Reading) {m : Shelf} (hm : m.table.Sound)
    (key : Key) :
    (u.ask c.backend (m.showing time)).2.table.holding? c.nameSpace key
      = u.holdingAfter c time key (m.table.holding? c.nameSpace key) := by
  rw [ask_backend]
  refine Option.ext fun x => ?_
  rw [Call.holding?_perform _ hm]
  cases u with
  | get k | contains k => simp [holdingAfter, Call.puts, Call.Removes]
  | set k value ttl | getOrSet k value ttl =>
    by_cases hk : k = key
    · simp [holdingAfter, Call.puts, hk, lastNanosecond]
    · have hk' : ¬ key = k := fun h => hk h.symm
      simp [holdingAfter, Call.puts, Call.Removes, hk, hk']
  | delete k =>
    by_cases hk : k = key
    · simp [holdingAfter, Call.puts, Call.Removes, hk]
    · have hk' : ¬ key = k := fun h => hk h.symm
      simp [holdingAfter, Call.puts, Call.Removes, hk, hk']

/-- What is in memory is read back from its text, and expires with the last instant at the
latest. -/
structure Holding.Usable (x : Holding) : Prop where
  expiry : x.expiry ≤ lastNanosecond
  readable : x.value.Readable (Json.depthLimit - 1)

theorem Use.usable_holdingAfter {u : Use} {c : Scope} (hu : u.Fits c) {time : Reading} {key : Key}
    {before : Option Holding} (hbefore : ∀ x, before = some x → x.Usable) {x : Holding}
    (hx : u.holdingAfter c time key before = some x) : x.Usable := by
  cases u with
  | get | contains => exact hbefore x hx
  | set k value ttl | getOrSet k value ttl =>
    unfold holdingAfter at hx
    dsimp only at hx
    split at hx
    · obtain rfl := Option.some.inj hx
      exact ⟨min_le_right _ _, hu.2⟩
    · exact hbefore x hx
  | delete k =>
    unfold holdingAfter at hx
    dsimp only at hx
    split at hx
    · cases hx
    · exact hbefore x hx

/-! ## Memory and server -/

/-- What a server holds at a time of what is in memory. -/
def Holding.shownAt (u : Int) (x : Holding) : Option Bytes :=
  if u < x.expiry then some (Utf8.encode x.value.text) else none

/-- From a time on, a server holds what is in a namespace of the memory and is not expired. -/
structure Mirrors {σ : Type} (R : Remote σ) (c : Scope) (t : Int) (m : Shelf)
    (l : Link σ) : Prop where
  sound : m.table.Sound
  usable : ∀ key x, m.table.holding? c.nameSpace key = some x → x.Usable
  prepared : ∃ a, l.address = some a
  prospect : ∀ u, t ≤ u → u < lastNanosecond → ∀ key : Key,
    R.prospect l.remote u (key.namespaced c.nameSpace)
      = (m.table.holding? c.nameSpace key).bind (·.shownAt u)

namespace Mirrors

variable {σ : Type} {R : Remote σ} {c : Scope} {t : Int} {m : Shelf} {l : Link σ}

theorem mono (h : Mirrors R c t m l) {u : Int} (hle : t ≤ u) : Mirrors R c u m l :=
  ⟨h.sound, h.usable, h.prepared, fun v hv => h.prospect v (Int.le_trans hle hv)⟩

/-- What is held ends with the seconds that it was kept for, or later than any time that is left. -/
theorem shownAt_kept {time u : Int} {n : Nat} {value : Json.Value} (hu : u < lastNanosecond) :
    Holding.shownAt u ⟨value, min (time + (Duration.ofSeconds n).nanoseconds) lastNanosecond⟩
      = if u < time + n * 1_000_000_000 then some (Utf8.encode value.text) else none := by
  have hiff : u < min (time + (Duration.ofSeconds n).nanoseconds) lastNanosecond ↔
      u < time + n * 1_000_000_000 := by
    show u < min (time + ((n * 1_000_000_000 : Nat) : Int)) lastNanosecond ↔ _
    omega
  unfold Holding.shownAt
  exact if_congr hiff rfl rfl

/-- What is gone stays away. -/
theorem shownAt_eq_none_of_le {u v : Int} {held : Option Holding}
    (h : held.bind (·.shownAt u) = none) (hle : u ≤ v) :
    held.bind (·.shownAt v) = none := by
  cases held with
  | none => rfl
  | some x =>
    change x.shownAt u = none at h
    show x.shownAt v = none
    unfold Holding.shownAt at h ⊢
    split at h
    · cases h
    · next hexpired => exact if_neg (by omega)

/-- The server after a call, as its cache sees it, by what memory held before. -/
theorem prospect_ask (hR : R.Conforms) {time : Reading} (h : Mirrors R c time.nanoseconds m l)
    {u : Use} (hu : u.Fits c) {v : Int} (hle : time.nanoseconds ≤ v) (hlast : v < lastNanosecond)
    (key : Key) :
    R.prospect (u.ask (c.onServer R) (l.showing time)).2.remote v (key.namespaced c.nameSpace)
      = (u.holdingAfter c time key (m.table.holding? c.nameSpace key)).bind (·.shownAt v) := by
  obtain ⟨a, ha⟩ := h.prepared
  have hbefore := h.prospect v hle hlast key
  have hset : ∀ (k : Key) (value : Json.Value) (ttl : Option Duration),
      WholeSeconds (ttl.getD c.defaultTtl) →
      R.prospect ((Redis.set c.nameSpace k value (ttl.getD c.defaultTtl)).hold
        (R.execute time.nanoseconds) l.remote).2 v
          (key.namespaced c.nameSpace)
        = ((Use.set k value ttl).holdingAfter c time key (m.table.holding? c.nameSpace key)).bind
          (·.shownAt v) := by
    rintro k value ttl ⟨n, hpos, hcentury, hn⟩
    have hseconds : max (ttl.getD c.defaultTtl).seconds 1 = n := by
      rw [hn]
      show max (n * 1_000_000_000 / 1_000_000_000) 1 = n
      omega
    have haccepts :=
      hR.accepts time.nanoseconds n (by unfold lastNanosecond at hlast; omega) hpos hcentury
    rw [Redis.prospect_set hR _ _ _ _ hle, hseconds]
    unfold Remote.after Use.holdingAfter
    dsimp only
    by_cases hk : key = k
    · rw [if_pos ⟨congrArg (Key.namespaced · c.nameSpace) hk, haccepts⟩, if_pos hk, hn]
      exact (shownAt_kept hlast).symm
    · rw [if_neg fun hsame => hk (Key.namespaced_injective hsame.1), if_neg hk]
      exact hbefore
  rw [Use.ask_onServer c R u (l := l.showing time) ha]
  cases u with
  | get k => exact (Redis.prospect_get hR _ _ _ _ hle _).trans hbefore
  | contains k => exact (Redis.prospect_contains hR _ _ _ _ hle _).trans hbefore
  | set k value ttl => exact hset k value ttl hu.1
  | getOrSet k value ttl =>
    show R.prospect ((do
      let _ ← Redis.set c.nameSpace k value (ttl.getD c.defaultTtl)
      Redis.get c.nameSpace k : Larder.Redis.Talk _).hold _ _).2 v _ = _
    rw [Conversation.hold_bind]
    exact (Redis.prospect_get hR _ _ _ _ hle _).trans (hset k value ttl hu.1)
  | delete k =>
    have hnow := h.prospect time.nanoseconds (Int.le_refl _) (Int.lt_of_le_of_lt hle hlast) k
    refine ((Redis.hold_delete hR _ _ _ _).2 v _ hle).trans ?_
    unfold Use.holdingAfter
    dsimp only
    by_cases hk : key = k
    · subst hk
      rw [if_pos rfl]
      split
      · rfl
      · next hgone =>
        refine hbefore.trans (shownAt_eq_none_of_le ?_ hle)
        rw [← hnow]
        exact Option.not_isSome_iff_eq_none.1 fun hfound => hgone ⟨rfl, hfound⟩
    · rw [if_neg fun hsame => hk (Key.namespaced_injective hsame.1), if_neg hk]
      exact hbefore

/-- A call preserves that the server holds what is in memory. -/
theorem ask (hR : R.Conforms) (h : Mirrors R c t m l) {time : Reading} (hle : t ≤ time.nanoseconds)
    {u : Use} (hu : u.Fits c) :
    Mirrors R c time.nanoseconds (u.ask c.backend (m.showing time)).2
      (u.ask (c.onServer R) (l.showing time)).2 := by
  have hnow := h.mono hle
  have hholding := fun key => u.holding?_ask c time h.sound key
  obtain ⟨a, ha⟩ := h.prepared
  refine ⟨?_, fun key x hx => ?_, ⟨a, ?_⟩, fun v hv hlast key => ?_⟩
  · rw [Use.ask_backend]
    exact Call.sound_perform _ h.sound
  · rw [hholding] at hx
    exact Use.usable_holdingAfter hu (h.usable key) hx
  · rw [Use.ask_onServer c R u (l := l.showing time) ha]
    exact ha
  · rw [hholding]
    exact hnow.prospect_ask hR hu hv hlast key

end Mirrors

/-! ## Answers -/

/-- Answers to the same question, of a cache in memory and of one on a server: both have the value,
or neither has one.  Only memory tells what is expired from what is missing. -/
inductive SameAnswer (key : Key) : Answer Json.Value → Answer Json.Value → Prop where
  | ok (v : Json.Value) : SameAnswer key (.ok v) (.ok v)
  | missing : SameAnswer key (.error (Cache.missing key)) (.error (Cache.missing key))
  | expired : SameAnswer key (.error (.expired key.text)) (.error (Cache.missing key))

/-- The answer of a cache on a server to whether there is a value, and that of a cache in memory to
what it is. -/
inductive SamePresence (key : Key) : Answer Json.Value → Answer Unit → Prop where
  | there (v : Json.Value) : SamePresence key (.ok v) (.ok ())
  | missing (e : Error) : SamePresence key (.error e) (.error (Cache.missing key))

/-- The answers to a call agree.  A value is there to a cache on a server while a cache in memory
could be read. -/
def Use.Agrees {σ : Type} (R : Remote σ) (c : Scope) (time : Reading) (m : Shelf)
    (l : Link σ) : Use → Prop
  | set _ _ _ => True
  | get key =>
    SameAnswer key ((get key).ask c.backend (m.showing time)).1
      ((get key).ask (c.onServer R) (l.showing time)).1
  | getOrSet key value ttl =>
    SameAnswer key ((getOrSet key value ttl).ask c.backend (m.showing time)).1
      ((getOrSet key value ttl).ask (c.onServer R) (l.showing time)).1
  | delete key =>
    SamePresence key ((get key).ask c.backend (m.showing time)).1
      ((delete key).ask (c.onServer R) (l.showing time)).1
  | contains key =>
    SamePresence key ((get key).ask c.backend (m.showing time)).1
      ((contains key).ask (c.onServer R) (l.showing time)).1

namespace Mirrors

variable {σ : Type} {R : Remote σ} {c : Scope} {time : Reading} {m : Shelf} {l : Link σ}

theorem get_agrees (hR : R.Conforms) (h : Mirrors R c time.nanoseconds m l)
    (hlast : time.nanoseconds < lastNanosecond) (key : Key) :
    SameAnswer key (Memory.get m.table c.nameSpace time.instant key)
      ((Redis.get c.nameSpace key).hold (R.execute time.nanoseconds) l.remote).1 := by
  rw [Memory.get_eq c.nameSpace key h.sound, Redis.answer_get hR,
    h.prospect _ (Int.le_refl _) hlast]
  cases hheld : m.table.holding? c.nameSpace key with
  | none => exact .missing
  | some x =>
    have hreadable := (h.usable key x hheld).readable
    rw [Option.bind_some]
    unfold Holding.shownAt
    by_cases hfresh : time.nanoseconds < x.expiry
    · have hexpired : ¬ x.expiry ≤ time.nanoseconds := Int.not_le.2 hfresh
      simp only [if_pos hfresh, if_neg hexpired, Redis.answerOfGet_bulk key hreadable]
      exact .ok _
    · have hexpired : x.expiry ≤ time.nanoseconds := Int.not_lt.1 hfresh
      simp only [if_neg hfresh, if_pos hexpired]
      exact .expired

theorem presence_agrees (h : Mirrors R c time.nanoseconds m l)
    (hlast : time.nanoseconds < lastNanosecond) (key : Key) :
    SamePresence key (Memory.get m.table c.nameSpace time.instant key)
      (if (R.prospect l.remote time.nanoseconds (key.namespaced c.nameSpace)).isSome then .ok ()
        else .error (missing key)) := by
  rw [Memory.get_eq c.nameSpace key h.sound, h.prospect _ (Int.le_refl _) hlast]
  cases m.table.holding? c.nameSpace key with
  | none => exact .missing _
  | some x =>
    rw [Option.bind_some]
    unfold Holding.shownAt
    by_cases hfresh : time.nanoseconds < x.expiry
    · have hexpired : ¬ x.expiry ≤ time.nanoseconds := Int.not_le.2 hfresh
      simp only [if_pos hfresh, if_neg hexpired]
      exact .there _
    · have hexpired : x.expiry ≤ time.nanoseconds := Int.not_lt.1 hfresh
      simp only [if_neg hfresh, if_pos hexpired]
      exact .missing _

theorem agrees (hR : R.Conforms) (h : Mirrors R c time.nanoseconds m l)
    (hlast : time.nanoseconds < lastNanosecond) {u : Use} (hu : u.Fits c) :
    u.Agrees R c time m l := by
  obtain ⟨a, ha⟩ := h.prepared
  have hserver : ∀ u : Use, (u.ask (c.onServer R) (l.showing time)).1
      = ((u.talk c).hold (R.execute time.nanoseconds) l.remote).1 :=
    fun u => congrArg Prod.fst (Use.ask_onServer c R u (l := l.showing time) ha)
  cases u with
  | set => trivial
  | get key =>
    show SameAnswer key _ ((Use.get key).ask (c.onServer R) (l.showing time)).1
    rw [hserver]
    exact h.get_agrees hR hlast key
  | getOrSet key value ttl =>
    have hput : Mirrors R c time.nanoseconds
        ((Use.set key value ttl).ask c.backend (m.showing time)).2
        ((Use.set key value ttl).ask (c.onServer R) (l.showing time)).2 :=
      h.ask hR (Int.le_refl _) hu
    have hread := hput.get_agrees hR hlast key
    rw [Use.ask_onServer c R _ (l := l.showing time) ha, Use.talk, Conversation.hold_bind] at hread
    show SameAnswer key _ ((Use.getOrSet key value ttl).ask (c.onServer R) (l.showing time)).1
    rw [hserver, Use.talk, Conversation.hold_bind]
    exact hread
  | delete key =>
    show SamePresence key _ ((Use.delete key).ask (c.onServer R) (l.showing time)).1
    rw [hserver, Use.talk, (Redis.hold_delete hR _ _ _ _).1]
    exact h.presence_agrees hlast key
  | contains key =>
    show SamePresence key _ ((Use.contains key).ask (c.onServer R) (l.showing time)).1
    rw [hserver, Use.talk, Redis.answer_contains hR]
    exact h.presence_agrees hlast key

end Mirrors

/-! ## Runs -/

/-- The state after calls, each at its time. -/
def Use.run {σ : Type} (b : Backend σ) (showing : Reading → σ → σ) (calls : List (Reading × Use))
    (s : σ) : σ :=
  calls.foldl (fun s call => (call.2.ask b (showing call.1 s)).2) s

section Runs

variable {σ : Type} {R : Remote σ} (c : Scope)

theorem Mirrors.run (hR : R.Conforms) {calls : List (Reading × Use)}
    (hfits : ∀ call ∈ calls, call.2.Fits c)
    (htimes : calls.Pairwise fun a b => a.1.nanoseconds ≤ b.1.nanoseconds) {t u : Int}
    (hfirst : ∀ call ∈ calls, t ≤ call.1.nanoseconds)
    (hlast : ∀ call ∈ calls, call.1.nanoseconds ≤ u) (hle : t ≤ u) {m : Shelf} {l : Link σ}
    (h : Mirrors R c t m l) :
    Mirrors R c u (Use.run c.backend Shelf.showing calls m)
      (Use.run (c.onServer R) Link.showing calls l) := by
  induction calls generalizing t m l with
  | nil => exact h.mono hle
  | cons call rest ih =>
    rw [List.forall_mem_cons] at hfits hfirst hlast
    obtain ⟨hbefore, hrest⟩ := List.pairwise_cons.1 htimes
    exact ih hfits.2 hrest hbefore hlast.2 hlast.1 (h.ask hR hfirst.1 hfits.1)

/-- An unused memory and an empty server. -/
theorem mirrors_fresh (t : Int) {l : Link σ} {a : Larder.Redis.Address} (ha : l.address = some a)
    (hempty : ∀ u k, R.prospect l.remote u k = none) : Mirrors R c t Shelf.fresh l where
  sound := Table.sound_nil
  usable := fun key x hx => by cases hx
  prepared := ⟨a, ha⟩
  prospect := fun u _ _ key => hempty u _

/-- With the last instant, everything in memory is expired. -/
theorem Mirrors.memory_get_ne_ok {time : Reading} {m : Shelf} {l : Link σ}
    (h : Mirrors R c time.nanoseconds m l) (hlast : lastNanosecond ≤ time.nanoseconds) (key : Key)
    (v : Json.Value) :
    Memory.get m.table c.nameSpace time.instant key ≠ .ok v := by
  rw [Memory.get_eq c.nameSpace key h.sound]
  cases hheld : m.table.holding? c.nameSpace key with
  | none => exact fun hok => by cases hok
  | some x =>
    have hexpired : x.expiry ≤ time.nanoseconds := Int.le_trans (h.usable key x hheld).expiry hlast
    simp only [if_pos hexpired]
    exact fun hok => by cases hok

/-- Every call is answered by a prepared cache on a server that was empty as by a new cache in
memory with the same namespace and time to live, at every time but the last instant, where memory
has nothing left. -/
theorem interchangeable (hR : R.Conforms) (start : Link σ) {a : Larder.Redis.Address}
    (ha : start.address = some a) (hempty : ∀ u k, R.prospect start.remote u k = none)
    {calls : List (Reading × Use)}
    (hfits : ∀ call ∈ calls, call.2.Fits c)
    (htimes : calls.Pairwise fun a b => a.1.nanoseconds ≤ b.1.nanoseconds)
    (before : List (Reading × Use)) {after : List (Reading × Use)} {time : Reading} {u : Use}
    (hcalls : calls = before ++ (time, u) :: after) :
    let m := Use.run c.backend Shelf.showing before Shelf.fresh
    let l := Use.run (c.onServer R) Link.showing before start
    (time.nanoseconds < lastNanosecond → u.Agrees R c time m l) ∧
      (lastNanosecond ≤ time.nanoseconds →
        ∀ key v, ((Use.get key).ask c.backend (m.showing time)).1 ≠ .ok v) := by
  intro m l
  subst hcalls
  rw [List.forall_mem_append, List.forall_mem_cons] at hfits
  obtain ⟨hsorted, -, hcross⟩ := List.pairwise_append.1 htimes
  have hlater : ∀ call ∈ before, call.1.nanoseconds ≤ time.nanoseconds :=
    fun call hcall => hcross call hcall (time, u) List.mem_cons_self
  have hmirrors : Mirrors R c time.nanoseconds m l := by
    cases before with
    | nil => exact mirrors_fresh c _ ha hempty
    | cons first rest =>
      have hfirst : ∀ call ∈ first :: rest, first.1.nanoseconds ≤ call.1.nanoseconds :=
        List.forall_mem_cons.2 ⟨Int.le_refl _, (List.pairwise_cons.1 hsorted).1⟩
      exact Mirrors.run c hR hfits.1 hsorted hfirst hlater (hlater first List.mem_cons_self)
        (mirrors_fresh c _ ha hempty)
  exact ⟨fun hlast => hmirrors.agrees hR hlast hfits.2.1,
    fun hlast key v => hmirrors.memory_get_ne_ok c hlast key v⟩

end Runs

/-- A value that was kept for five minutes is read a second later, and no more after the five
minutes. -/
theorem interchangeable_within_and_after_ttl :
    let c : Scope := ⟨"units", .ofSeconds 300⟩
    let key : Key := .ofText "k"
    let kept := (Reading.ofSeconds 0 (by decide), Use.set key .null none)
    let found := (Reading.ofSeconds 1 (by decide), Use.get key)
    let gone := (Reading.ofSeconds 300 (by decide), Use.get key)
    let start : Link Timed := ⟨0, Timed.empty, Memory.settings, some ⟨"localhost", 6379, 0⟩⟩
    found.2.Agrees Timed.remote c found.1 (Use.run c.backend Shelf.showing [kept] Shelf.fresh)
        (Use.run (c.onServer Timed.remote) Link.showing [kept] start) ∧
      gone.2.Agrees Timed.remote c gone.1
        (Use.run c.backend Shelf.showing [kept, found] Shelf.fresh)
        (Use.run (c.onServer Timed.remote) Link.showing [kept, found] start) := by
  intro c key kept found gone start
  have hfits : ∀ call ∈ [kept, found, gone], call.2.Fits c := by
    refine List.forall_mem_cons.2 ⟨⟨⟨300, by decide, by decide, rfl⟩, Json.Value.readable_null⟩, ?_⟩
    exact List.forall_mem_cons.2 ⟨trivial, List.forall_mem_singleton.2 trivial⟩
  have htimes : [kept, found, gone].Pairwise fun a b => a.1.nanoseconds ≤ b.1.nanoseconds := by
    decide
  have hempty : ∀ u k, Timed.remote.prospect Timed.empty u k = none := fun _ _ => rfl
  exact ⟨(interchangeable c Timed.conforms start rfl hempty hfits htimes [kept] rfl).1 (by decide),
    (interchangeable c Timed.conforms start rfl hempty hfits htimes [kept, found] rfl).1
      (by decide)⟩

end Larder.Cache
