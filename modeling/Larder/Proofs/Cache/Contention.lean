import Larder.Proofs.Cache.Uses
import Mathlib.Logic.Function.Basic

/-!
Clients that call caches on one server, all at the same time.

A client sends the commands of a call one by one.  Between any two of them there may be commands of
other clients, time may pass, and keys may expire.  Still each call that is not a set with a get
behind it takes effect as a whole, and that with its last command (`Atomic`); so what a delete says
of the key was so at that moment.  All this is told of what a server holds, now and later, so it is
the same for every server that does what the commands mean.
-/

namespace Larder.Redis.Remote

variable {σ : Type} (R : Remote σ)

/-- From a time on both states hold the same. -/
def Alike (t : Int) (s s' : σ) : Prop :=
  ∀ u, t ≤ u → ∀ k, R.prospect s u k = R.prospect s' u k

/-- From a time on no key comes by itself. -/
def Fades (t : Int) (s : σ) : Prop :=
  ∀ u v k, t ≤ u → u ≤ v → R.prospect s u k = none → R.prospect s v k = none

def holds (t : Int) (s : σ) (name : Bytes) : Bool := (R.prospect s t name).isSome

/-- A key goes, be its time over or not, as if it was deleted. -/
def expire (t : Int) (name : Bytes) (s : σ) : σ := (R.execute t (.delete name) s).2

/-- A command at a time puts something under a name. -/
def puts (name : Bytes) : Int × Command → Bool
  | (t, .setFor key seconds _) => key = name && R.accepts t seconds
  | _ => false

variable {R} {t : Int} {s s' : σ}

theorem Alike.holds_eq (h : R.Alike t s s') (name : Bytes) : R.holds t s name = R.holds t s' name :=
  congrArg Option.isSome (h t (Int.le_refl t) name)

theorem Fades.mono (h : R.Fades t s) {u : Int} (hle : t ≤ u) : R.Fades u s :=
  fun v w k hv => h v w k (Int.le_trans hle hv)

theorem Fades.holds_le (h : R.Fades t s) {u : Int} (hle : t ≤ u) (name : Bytes) :
    (R.holds u s name).toNat ≤ (R.holds t s name).toNat := by
  unfold holds
  cases hnow : R.prospect s t name with
  | none => rw [h t u name (Int.le_refl t) hle hnow]
  | some bytes => exact Bool.toNat_le _

section Conforming

variable (hR : R.Conforms)
include hR

theorem Fades.execute (h : R.Fades t s) (cmd : Command) : R.Fades t (R.execute t cmd s).2 := by
  intro u v k hu huv hnone
  rw [hR.prospect t cmd s u hu] at hnone
  rw [hR.prospect t cmd s v (Int.le_trans hu huv)]
  cases cmd with
  | get | contains | ping => exact h u v k hu huv hnone
  | setFor key seconds value =>
    unfold after at hnone ⊢
    dsimp only at hnone ⊢
    split at hnone
    · next hput =>
      have hover : ¬ v < t + seconds * 1_000_000_000 := by
        intro hlt
        rw [if_pos (Int.lt_of_le_of_lt huv hlt)] at hnone
        cases hnone
      rw [if_pos hput, if_neg hover]
    · next hput =>
      rw [if_neg hput]
      exact h u v k hu huv hnone
  | delete key =>
    unfold after at hnone ⊢
    dsimp only at hnone ⊢
    split at hnone
    · next hkey => rw [if_pos hkey]
    · next hkey =>
      rw [if_neg hkey]
      exact h u v k hu huv hnone

/-- A command brings a name in only by putting something there. -/
theorem holds_execute_le (cmd : Command) (name : Bytes) :
    (R.holds t (R.execute t cmd s).2 name).toNat
      ≤ (R.holds t s name).toNat + [(t, cmd)].countP (R.puts name) := by
  unfold holds
  rw [hR.prospect t cmd s t (Int.le_refl t), List.countP_singleton]
  cases cmd with
  | get | contains | ping => exact Nat.le_add_right _ _
  | setFor key seconds value =>
    by_cases hput : name = key ∧ R.accepts t seconds = true
    · have hputs : R.puts name (t, .setFor key seconds value) = true := by simp [puts, hput]
      rw [if_pos hputs]
      exact Nat.le_add_left_of_le (Bool.toNat_le _)
    · unfold after
      dsimp only
      rw [if_neg hput]
      exact Nat.le_add_right _ _
  | delete key =>
    unfold after
    dsimp only
    split
    · exact Nat.zero_le _
    · exact Nat.le_add_right _ _

theorem holds_expire_le (key name : Bytes) :
    (R.holds t (R.expire t key s) name).toNat ≤ (R.holds t s name).toNat :=
  holds_execute_le hR (.delete key) name

end Conforming

end Larder.Redis.Remote

namespace Larder.Redis.Timed

theorem fades (t : Int) (s : Timed) : remote.Fades t s := by
  intro u v k _ huv hnone
  show s.prospect v k = none
  have hnow : s.prospect u k = none := hnone
  unfold prospect at hnow ⊢
  by_cases hover : s.isOver u k = true
  · rw [if_pos (isOver_mono hover huv)]
  · rw [if_neg hover] at hnow
    rw [hnow, ite_self]

end Larder.Redis.Timed

namespace Larder.Cache

open Larder.Redis (Command Remote Response Server Talk Timed)

/-! ## Calls that are made all at once -/

namespace Use

/-- Made all at once, a call gets the answer, and it leaves the server as it is then. -/
structure AtOnce {σ : Type} (R : Remote σ) (c : Scope) (t : Int) (u : Use) (s : σ) (a : u.Reply)
    (s' : σ) : Prop where
  answer : ((u.talk c).hold (R.execute t) s).1 = a
  server : R.Alike t ((u.talk c).hold (R.execute t) s).2 s'

theorem atOnce_of_hold {σ : Type} {R : Remote σ} {c : Scope} {t : Int} {u : Use} {s s' : σ}
    {a : u.Reply} (h : (u.talk c).hold (R.execute t) s = (a, s')) : u.AtOnce R c t s a s' where
  answer := congrArg Prod.fst h
  server _ _ _ := by rw [h]

end Use

namespace Redis

theorem answerOfDelete_ofBool (key : Key) (b : Bool) :
    answerOfDelete key (.reply (Server.ofBool b)) = if b then .ok () else .error (missing key) := by
  cases b <;> rfl

/-- The command that a delete ends with, once the key was found. -/
def deletion (ns : String) (key : Key) : Talk (Answer Unit) :=
  .ask (.delete (key.namespaced ns)) fun response => .done (answerOfDelete key response)

/-- What a delete does with the answer to its question. -/
def goOn (ns : String) (key : Key) : Answer Unit → Talk (Answer Unit)
  | .ok _ => deletion ns key
  | .error e => .done (.error e)

theorem delete_eq_ask (ns : String) (key : Key) :
    delete ns key = .ask (.contains (key.namespaced ns)) fun response =>
      goOn ns key (answerOfContains key response) := by
  rw [delete_eq, contains_eq]
  refine congrArg (Conversation.ask (Command.contains (key.namespaced ns)))
    (funext fun response => ?_)
  show Conversation.bind (.done (answerOfContains key response)) _ = _
  cases answerOfContains key response <;> rfl

theorem goOn_ofBool (ns : String) (key : Key) (b : Bool) :
    goOn ns key (answerOfContains key (.reply (Server.ofBool b)))
      = if b then deletion ns key else .done (.error (missing key)) := by
  cases b <;> rfl

section Conforming

variable {σ : Type} {R : Remote σ} (hR : R.Conforms) {c : Scope} {key : Key} {t : Int} {s s' : σ}
include hR

/-- Made all at once, a delete is its last command. -/
theorem atOnce_deletion (hfades : R.Fades t s) :
    (Use.delete key).AtOnce R c t s
      (answerOfDelete key (R.execute t (.delete (key.namespaced c.nameSpace)) s).1)
      (R.execute t (.delete (key.namespaced c.nameSpace)) s).2 := by
  obtain ⟨hanswer, hprospect⟩ := hold_delete hR c.nameSpace key t s
  refine ⟨hanswer.trans ?_, fun u hu k => (hprospect u k hu).trans ?_⟩
  · rw [hR.reply]
    exact (answerOfDelete_ofBool key _).symm
  · rw [hR.prospect t _ s u hu k]
    show _ = if k = key.namespaced c.nameSpace then none else R.prospect s u k
    by_cases hk : k = key.namespaced c.nameSpace
    · subst hk
      -- A key that is missing now does not come later, so to delete it changes nothing.
      cases hfound : R.prospect s t (key.namespaced c.nameSpace) with
      | none => simpa using hfades t u _ (Int.le_refl t) hu hfound
      | some bytes => simp
    · rw [if_neg fun h => hk h.1, if_neg hk]

theorem delete_cases {a : Answer Unit} (h : (Use.delete key).AtOnce R c t s a s') :
    a = .ok () ∧ R.holds t s (key.namespaced c.nameSpace) = true ∧
        R.holds t s' (key.namespaced c.nameSpace) = false ∨
      a = .error (missing key) ∧ R.holds t s (key.namespaced c.nameSpace) = false := by
  obtain ⟨hanswer, hprospect⟩ := hold_delete hR c.nameSpace key t s
  have hsaid := h.answer.symm.trans hanswer
  by_cases hfound : (R.prospect s t (key.namespaced c.nameSpace)).isSome = true
  · rw [if_pos hfound] at hsaid
    have hgone := hprospect t (key.namespaced c.nameSpace) (Int.le_refl t)
    rw [if_pos ⟨rfl, hfound⟩] at hgone
    exact Or.inl ⟨hsaid, hfound, (h.server.holds_eq _).symm.trans (congrArg Option.isSome hgone)⟩
  · rw [if_neg hfound] at hsaid
    exact Or.inr ⟨hsaid, Bool.not_eq_true _ ▸ hfound⟩

end Conforming

end Redis

/-! ## How far a call can have got -/

namespace Use

/-- All but a set with a get behind it. -/
def isSingle : Use → Bool
  | getOrSet .. => false
  | _ => true

/-- What can be left of the conversation of a call that is not over. -/
def Underway (c : Scope) : (u : Use) → Talk u.Reply → Prop
  | set key value ttl, t => t = (set key value ttl).talk c
  | get key, t => t = (get key).talk c
  | contains key, t => t = (contains key).talk c
  | delete key, t => t = (delete key).talk c ∨ t = Redis.deletion c.nameSpace key
  | getOrSet .., t => ∃ cmd next, t = .ask cmd next

variable {c : Scope} {u : Use}

theorem underway_talk (c : Scope) (u : Use) : u.Underway c (u.talk c) := by
  cases u with
  | set | get | contains => rfl
  | delete key => exact Or.inl rfl
  | getOrSet key value ttl => exact ⟨_, _, rfl⟩

theorem Underway.asks {t : Talk u.Reply} (h : u.Underway c t) : ∃ cmd next, t = .ask cmd next := by
  cases u with
  | set key value ttl =>
    subst h
    exact ⟨_, _, rfl⟩
  | get key =>
    subst h
    exact ⟨_, _, Redis.get_eq c.nameSpace key⟩
  | contains key =>
    subst h
    exact ⟨_, _, Redis.contains_eq c.nameSpace key⟩
  | delete key =>
    rcases h with rfl | rfl
    · exact ⟨_, _, Redis.delete_eq_ask c.nameSpace key⟩
    · exact ⟨_, _, rfl⟩
  | getOrSet key value ttl => exact h

variable {σ : Type} {R : Remote σ} {t : Int}

/-- A call of one command is over with it. -/
theorem over_of_single {cmd cmd' : Command} {next : Response → Talk u.Reply}
    {f : Response → u.Reply} (h : .ask cmd next = u.talk c)
    (htalk : u.talk c = .ask cmd' fun response => .done (f response)) (s : σ) :
    ∃ a, next (R.execute t cmd s).1 = .done a ∧ u.AtOnce R c t s a (R.execute t cmd s).2 := by
  have hwhole := h.trans htalk
  cases hwhole
  exact ⟨_, rfl, atOnce_of_hold (h ▸ rfl)⟩

/-- With each command a call is over, and is as good as made at this moment, or it goes on and has
changed nothing. -/
theorem Underway.next (hR : R.Conforms) {s : σ} (hfades : R.Fades t s) {cmd : Command}
    {next : Response → Talk u.Reply} (h : u.Underway c (.ask cmd next)) :
    (∃ a, next (R.execute t cmd s).1 = .done a ∧
        (u.isSingle = true → u.AtOnce R c t s a (R.execute t cmd s).2)) ∨
      u.Underway c (next (R.execute t cmd s).1) ∧
        (u.isSingle = true → R.Alike t s (R.execute t cmd s).2) := by
  cases u with
  | set key value ttl =>
    obtain ⟨a, hdone, hwhole⟩ := over_of_single (R := R) (t := t) h rfl s
    exact Or.inl ⟨a, hdone, fun _ => hwhole⟩
  | get key =>
    obtain ⟨a, hdone, hwhole⟩ :=
      over_of_single (R := R) (t := t) h (Redis.get_eq c.nameSpace key) s
    exact Or.inl ⟨a, hdone, fun _ => hwhole⟩
  | contains key =>
    obtain ⟨a, hdone, hwhole⟩ :=
      over_of_single (R := R) (t := t) h (Redis.contains_eq c.nameSpace key) s
    exact Or.inl ⟨a, hdone, fun _ => hwhole⟩
  | delete key =>
    rcases h with h | h
    · have htalk := h.trans (Redis.delete_eq_ask c.nameSpace key)
      cases htalk
      have hrest := Redis.goOn_ofBool c.nameSpace key
        (R.prospect s t (key.namespaced c.nameSpace)).isSome
      have hreply : (R.execute t (.contains (key.namespaced c.nameSpace)) s).1
          = .reply (Server.ofBool (R.prospect s t (key.namespaced c.nameSpace)).isSome) :=
        hR.reply t _ s
      rw [← hreply] at hrest
      -- The key is missing, and the call is over; or it is there, and the command to delete is
      -- next.
      by_cases hfound : (R.prospect s t (key.namespaced c.nameSpace)).isSome = true
      · rw [if_pos hfound] at hrest
        refine Or.inr ⟨Or.inr hrest, fun _ u hu k => ?_⟩
        exact (hR.prospect t (.contains (key.namespaced c.nameSpace)) s u hu k).symm
      · rw [if_neg hfound] at hrest
        refine Or.inl ⟨.error (missing key), hrest, fun _ => atOnce_of_hold ?_⟩
        show (Redis.delete c.nameSpace key).hold (R.execute t) s = _
        rw [Redis.delete_eq_ask]
        show (Redis.goOn c.nameSpace key _).hold (R.execute t) _ = _
        rw [hrest]
        rfl
    · cases h
      exact Or.inl ⟨_, rfl, fun _ => Redis.atOnce_deletion hR hfades⟩
  | getOrSet key value ttl =>
    cases hrest : next (R.execute t cmd s).1 with
    | done a => exact Or.inl ⟨a, rfl, fun hsingle => absurd hsingle Bool.false_ne_true⟩
    | ask cmd' next' =>
      exact Or.inr ⟨⟨cmd', next', rfl⟩, fun hsingle => absurd hsingle Bool.false_ne_true⟩

end Use

/-! ## Clients -/

inductive Occurrence (ι : Type) where
  | begin (client : ι) (use : Use)
  | turn (client : ι)
  | pass (nanoseconds : Nat)
  | expire (name : Bytes)

/-- A call that has begun, and the conversation that is left of it. -/
structure Pending where
  use : Use
  began : Nat
  rest : Talk use.Reply

/-- A call that is over.  It began and ended with the occurrences of these numbers. -/
structure Past (ι : Type) where
  client : ι
  use : Use
  began : Nat
  ended : Nat
  answer : use.Reply

/-- A server and its clients, at a time.  The clock counts what has happened. -/
structure Contention (ι σ : Type) where
  server : σ
  now : Int
  clock : Nat
  pending : ι → Option Pending
  past : List (Past ι)
  sent : List (Int × Command)

namespace Contention

variable {ι σ : Type} [DecidableEq ι] (R : Remote σ) (scope : ι → Scope)

def start (t : Int) (s : σ) : Contention ι σ := ⟨s, t, 0, fun _ => none, [], []⟩

/-- A client has so much of its conversation left; with nothing left, the call is over. -/
def settle (w : Contention ι σ) (i : ι) (u : Use) (began : Nat) : Talk u.Reply → Contention ι σ
  | .done a =>
    { w with
      pending := Function.update w.pending i none
      past := w.past ++ [⟨i, u, began, w.clock, a⟩] }
  | rest => { w with pending := Function.update w.pending i (some ⟨u, began, rest⟩) }

/-- A client sends its next command, and hears the response. -/
def resume (w : Contention ι σ) (i : ι) (p : Pending) : Contention ι σ :=
  match p.rest with
  | .done a => w.settle i p.use p.began (.done a)
  | .ask cmd next =>
    let (response, server) := R.execute w.now cmd w.server
    { w with server, sent := w.sent ++ [(w.now, cmd)] }.settle i p.use p.began (next response)

/-- A client that is in the middle of a call begins no other, and one that is not has no turn. -/
def act (w : Contention ι σ) : Occurrence ι → Contention ι σ
  | .begin i u =>
    match w.pending i with
    | none =>
      { w with pending := Function.update w.pending i (some ⟨u, w.clock, u.talk (scope i)⟩) }
    | some _ => w
  | .turn i =>
    match w.pending i with
    | none => w
    | some p => w.resume R i p
  | .pass d => { w with now := w.now + d }
  | .expire name => { w with server := R.expire w.now name w.server }

def step (w : Contention ι σ) (e : Occurrence ι) : Contention ι σ :=
  let w' := w.act R scope e
  { w' with clock := w.clock + 1 }

variable (t : Int) (s : σ)

def run (events : List (Occurrence ι)) : Contention ι σ :=
  events.foldl (step R scope) (start t s)

/-- How things stood after the first of what happened. -/
def after (events : List (Occurrence ι)) (n : Nat) : Contention ι σ :=
  run R scope t s (events.take n)

/-- What the server holds, now and later, stays as it is when this happens. -/
def Quiet (events : List (Occurrence ι)) (n : Nat) : Prop :=
  R.Alike (after R scope t s events n).now (after R scope t s events n).server
    (after R scope t s events (n + 1)).server

def holdsAfter (events : List (Occurrence ι)) (n : Nat) (name : Bytes) : Bool :=
  R.holds (after R scope t s events n).now (after R scope t s events n).server name

/-- A call that is not over has changed nothing so far. -/
structure Begun (events : List (Occurrence ι)) (i : ι) (p : Pending) : Prop where
  began : events[p.began]? = some (.begin i p.use)
  underway : p.use.Underway (scope i) p.rest
  quiet : p.use.isSingle = true → ∀ n, p.began < n → events[n]? = some (.turn i) →
    Quiet R scope t s events n

/-- A call takes effect with its last command: those before it changed nothing, and with it the
server and the client get what they would get from the whole call at that moment. -/
structure Atomic (events : List (Occurrence ι)) (r : Past ι) : Prop where
  began : events[r.began]? = some (.begin r.client r.use)
  ended : events[r.ended]? = some (.turn r.client)
  lt : r.began < r.ended
  quiet : r.use.isSingle = true → ∀ n, r.began < n → n < r.ended →
    events[n]? = some (.turn r.client) → Quiet R scope t s events n
  effect : r.use.isSingle = true →
    r.use.AtOnce R (scope r.client) (after R scope t s events r.ended).now
      (after R scope t s events r.ended).server r.answer
      (after R scope t s events (r.ended + 1)).server

/-! ### One occurrence more -/

variable {R scope t s} {events : List (Occurrence ι)}

theorem run_append (e : Occurrence ι) :
    run R scope t s (events ++ [e]) = (run R scope t s events).step R scope e := by
  simp [run]

theorem after_append (e : Occurrence ι) {n : Nat} (h : n ≤ events.length) :
    after R scope t s (events ++ [e]) n = after R scope t s events n := by
  unfold after
  rw [List.take_append_of_le_length h]

theorem after_length : after R scope t s events events.length = run R scope t s events := by
  rw [after, List.take_length]

theorem after_succ {n : Nat} {e : Occurrence ι} (h : events[n]? = some e) :
    after R scope t s events (n + 1) = (after R scope t s events n).step R scope e := by
  unfold after
  rw [List.take_add_one, h]
  exact run_append e

theorem server_after_last (e : Occurrence ι) :
    (after R scope t s (events ++ [e]) (events.length + 1)).server
      = ((run R scope t s events).act R scope e).server := by
  have hlength : events.length + 1 = (events ++ [e]).length := by simp
  rw [hlength, after_length, run_append]
  rfl

omit [DecidableEq ι] in
theorem getElem?_append {n : Nat} {x : Occurrence ι} (h : events[n]? = some x) (e : Occurrence ι) :
    n < events.length ∧ (events ++ [e])[n]? = some x := by
  obtain ⟨hn, -⟩ := List.getElem?_eq_some_iff.1 h
  exact ⟨hn, by rw [List.getElem?_append_left hn, h]⟩

theorem clock_run : (run R scope t s events).clock = events.length := by
  induction events using List.reverseRecOn with
  | nil => rfl
  | append_singleton events e ih =>
    rw [run_append, List.length_append]
    exact congrArg (· + 1) ih

theorem quiet_append (e : Occurrence ι) {n : Nat} (h : n < events.length) :
    Quiet R scope t s (events ++ [e]) n ↔ Quiet R scope t s events n := by
  unfold Quiet
  rw [after_append e (Nat.le_of_lt h), after_append e h]

theorem Atomic.append {r : Past ι} (h : Atomic R scope t s events r) (e : Occurrence ι) :
    Atomic R scope t s (events ++ [e]) r := by
  obtain ⟨hended, hended'⟩ := getElem?_append h.ended e
  refine ⟨(getElem?_append h.began e).2, hended', h.lt, fun hsingle n hbegan hn hturn => ?_,
    fun hsingle => ?_⟩
  · rw [List.getElem?_append_left (by omega)] at hturn
    exact (quiet_append e (by omega)).2 (h.quiet hsingle n hbegan hn hturn)
  · rw [after_append e (by omega), after_append e (by omega)]
    exact h.effect hsingle

/-- A call goes on, unless its client has a turn and the server is changed. -/
theorem Begun.append {i : ι} {p : Pending} (h : Begun R scope t s events i p) (e : Occurrence ι)
    {rest : Talk p.use.Reply} (hrest : p.use.Underway (scope i) rest)
    (hturn : e = .turn i → p.use.isSingle = true →
      R.Alike (run R scope t s events).now (run R scope t s events).server
        ((run R scope t s events).act R scope e).server) :
    Begun R scope t s (events ++ [e]) i ⟨p.use, p.began, rest⟩ := by
  refine ⟨(getElem?_append h.began e).2, hrest, fun hsingle n hbegan hn => ?_⟩
  -- Either it is an earlier turn of the client's, or it is the occurrence that was added.
  rcases Nat.lt_or_ge n events.length with hlt | hge
  · rw [List.getElem?_append_left hlt] at hn
    exact (quiet_append e hlt).2 (h.quiet hsingle n hbegan hn)
  · obtain ⟨hn', -⟩ := List.getElem?_eq_some_iff.1 hn
    obtain rfl : n = events.length := by
      rw [List.length_append, List.length_singleton] at hn'
      omega
    rw [List.getElem?_concat_length] at hn
    unfold Quiet
    rw [server_after_last, after_append e (Nat.le_refl _), after_length]
    exact hturn (Option.some.inj hn) hsingle

theorem now_settle (w : Contention ι σ) (i : ι) (u : Use) (began : Nat) (rest : Talk u.Reply) :
    (w.settle i u began rest).now = w.now := by
  cases rest <;> rfl

theorem now_act_turn (w : Contention ι σ) (i : ι) : (w.act R scope (.turn i)).now = w.now := by
  unfold act
  dsimp only
  split
  · rfl
  · next p _ =>
    unfold resume
    split
    · rfl
    · exact now_settle _ _ _ _ _

theorem now_after_turn {n : Nat} {i : ι} (h : events[n]? = some (.turn i)) :
    (after R scope t s events (n + 1)).now = (after R scope t s events n).now := by
  rw [after_succ h]
  exact now_act_turn _ i

theorem begun_new (i : ι) (u : Use) :
    Begun R scope t s (events ++ [.begin i u]) i ⟨u, events.length, u.talk (scope i)⟩ where
  began := List.getElem?_concat_length
  underway := u.underway_talk (scope i)
  quiet _ n hn hturn := by
    obtain ⟨hlt, -⟩ := List.getElem?_eq_some_iff.1 hturn
    rw [List.length_append, List.length_singleton] at hlt
    dsimp only at hn
    omega

theorem Begun.atomic {i : ι} {p : Pending} (h : Begun R scope t s events i p) {a : p.use.Reply}
    (hwhole : p.use.isSingle = true →
      p.use.AtOnce R (scope i) (run R scope t s events).now (run R scope t s events).server a
        ((run R scope t s events).act R scope (.turn i)).server) :
    Atomic R scope t s (events ++ [.turn i]) ⟨i, p.use, p.began, events.length, a⟩ := by
  obtain ⟨hbegan, hbegan'⟩ := getElem?_append h.began (.turn i)
  refine ⟨hbegan', List.getElem?_concat_length, hbegan, fun hsingle n hn hlt hturn => ?_,
    fun hsingle => ?_⟩
  · rw [List.getElem?_append_left hlt] at hturn
    exact (quiet_append _ hlt).2 (h.quiet hsingle n hn hturn)
  · rw [server_after_last, after_append _ (Nat.le_refl _), after_length]
    exact hwhole hsingle

theorem act_turn (hR : R.Conforms) {w : Contention ι σ} (hfades : R.Fades w.now w.server) {i : ι}
    {p : Pending} (hp : w.pending i = some p) (h : p.use.Underway (scope i) p.rest) :
    ∃ cmd, (∃ a, w.act R scope (.turn i) = ⟨(R.execute w.now cmd w.server).2, w.now, w.clock,
          Function.update w.pending i none, w.past ++ [⟨i, p.use, p.began, w.clock, a⟩],
          w.sent ++ [(w.now, cmd)]⟩ ∧
        (p.use.isSingle = true →
          p.use.AtOnce R (scope i) w.now w.server a (R.execute w.now cmd w.server).2)) ∨
      ∃ rest, w.act R scope (.turn i) = ⟨(R.execute w.now cmd w.server).2, w.now, w.clock,
          Function.update w.pending i (some ⟨p.use, p.began, rest⟩), w.past,
          w.sent ++ [(w.now, cmd)]⟩ ∧
        p.use.Underway (scope i) rest ∧
        (p.use.isSingle = true → R.Alike w.now w.server (R.execute w.now cmd w.server).2) := by
  obtain ⟨use, began, rest⟩ := p
  dsimp only at h ⊢
  obtain ⟨cmd, next, rfl⟩ := h.asks
  have hact : w.act R scope (.turn i) = { w with
      server := (R.execute w.now cmd w.server).2
      sent := w.sent ++ [(w.now, cmd)] }.settle i use began
        (next (R.execute w.now cmd w.server).1) := by
    simp only [act, hp]
    rfl
  refine ⟨cmd, ?_⟩
  rcases h.next hR hfades with ⟨a, hdone, hwhole⟩ | ⟨hrest, hsame⟩
  · rw [hdone] at hact
    exact Or.inl ⟨a, hact, hwhole⟩
  · obtain ⟨cmd', next', hask⟩ := hrest.asks
    rw [hask] at hact hrest
    exact Or.inr ⟨_, hact, hrest, hsame⟩

/-! ### All of a run -/

structure Regular (R : Remote σ) (scope : ι → Scope) (t : Int) (s : σ)
    (events : List (Occurrence ι)) : Prop where
  fades : R.Fades (run R scope t s events).now (run R scope t s events).server
  pending : ∀ i p, (run R scope t s events).pending i = some p → Begun R scope t s events i p
  past : ∀ r ∈ (run R scope t s events).past, Atomic R scope t s events r

theorem pending_update {pending : ι → Option Pending} {i j : ι} {x : Option Pending} {p : Pending}
    (h : Function.update pending i x j = some p) :
    j = i ∧ x = some p ∨ j ≠ i ∧ pending j = some p := by
  rw [Function.update_apply] at h
  by_cases hj : j = i
  · rw [if_pos hj] at h
    exact Or.inl ⟨hj, h⟩
  · rw [if_neg hj] at h
    exact Or.inr ⟨hj, h⟩

/-- A call whose client has no turn stands as it stood. -/
theorem Regular.stays (h : Regular R scope t s events) {e : Occurrence ι} {i : ι} {p : Pending}
    (hne : e ≠ .turn i) (hp : (run R scope t s events).pending i = some p) :
    Begun R scope t s (events ++ [e]) i p :=
  (h.pending i p hp).append e (h.pending i p hp).underway fun heq => absurd heq hne

theorem Regular.append (hR : R.Conforms) (h : Regular R scope t s events) (e : Occurrence ι) :
    Regular R scope t s (events ++ [e]) := by
  have hpast : ∀ r ∈ (run R scope t s events).past, Atomic R scope t s (events ++ [e]) r :=
    fun r hr => (h.past r hr).append e
  -- The new state, told by what was in the old one; the step only counts on.
  suffices hact : ∀ w', w' = (run R scope t s events).act R scope e →
      R.Fades w'.now w'.server ∧
      (∀ j p, w'.pending j = some p → Begun R scope t s (events ++ [e]) j p) ∧
      ∀ r ∈ w'.past, Atomic R scope t s (events ++ [e]) r by
    obtain ⟨hfades, hpending, hover⟩ := hact _ rfl
    constructor
    · rw [run_append]
      exact hfades
    · rw [run_append]
      exact hpending
    · rw [run_append]
      exact hover
  rintro w' rfl
  cases e with
  | expire name =>
    exact ⟨h.fades.execute hR (.delete name), fun j p hp => h.stays (by simp) hp, hpast⟩
  | pass d =>
    have hlater : (run R scope t s events).now ≤ (run R scope t s events).now + d := by omega
    exact ⟨h.fades.mono hlater, fun j p hp => h.stays (by simp) hp, hpast⟩
  | begin i u =>
    cases hi : (run R scope t s events).pending i with
    | some q =>
      simp only [act, hi]
      exact ⟨h.fades, fun j p hp => h.stays (by simp) hp, hpast⟩
    | none =>
      simp only [act, hi]
      refine ⟨h.fades, fun j p hp => ?_, hpast⟩
      rcases pending_update hp with ⟨rfl, hnew⟩ | ⟨-, hold⟩
      · obtain rfl := Option.some.inj hnew
        rw [clock_run]
        exact begun_new j u
      · exact h.stays (by simp) hold
  | turn i =>
    have hother : ∀ j p, j ≠ i → (run R scope t s events).pending j = some p →
        Begun R scope t s (events ++ [.turn i]) j p :=
      fun j p hj hp => h.stays (by simpa using hj.symm) hp
    cases hi : (run R scope t s events).pending i with
    | none =>
      simp only [act, hi]
      refine ⟨h.fades, fun j p hp => hother j p ?_ hp, hpast⟩
      rintro rfl
      simp [hi] at hp
    | some q =>
      have hq := h.pending i q hi
      obtain ⟨cmd, ⟨a, hact, hwhole⟩ | ⟨rest, hact, hrest, hsame⟩⟩ :=
        act_turn hR h.fades hi hq.underway
      · have hover := hq.atomic (a := a) (by rw [hact]; exact hwhole)
        rw [hact]
        refine ⟨h.fades.execute hR cmd, fun j p hp => ?_,
          List.forall_mem_append.2 ⟨hpast, List.forall_mem_singleton.2 ?_⟩⟩
        · rcases pending_update hp with ⟨-, hnone⟩ | ⟨hj, hold⟩
          · cases hnone
          · exact hother j p hj hold
        · rw [clock_run]
          exact hover
      · have hon := hq.append (.turn i) hrest fun _ hsingle => by rw [hact]; exact hsame hsingle
        rw [hact]
        refine ⟨h.fades.execute hR cmd, fun j p hp => ?_, hpast⟩
        rcases pending_update hp with ⟨rfl, hnew⟩ | ⟨hj, hold⟩
        · obtain rfl := Option.some.inj hnew
          exact hon
        · exact hother j p hj hold

theorem regular_run (hR : R.Conforms) (hs : R.Fades t s) (events : List (Occurrence ι)) :
    Regular R scope t s events := by
  induction events using List.reverseRecOn with
  | nil => exact ⟨hs, nofun, nofun⟩
  | append_singleton events e ih => exact ih.append hR e

/-! ## Deletes -/

def tookAway (scope : ι → Scope) (name : Bytes) : Past ι → Bool
  | ⟨i, .delete key, _, _, .ok _⟩ => key.namespaced (scope i).nameSpace = name
  | _ => false

omit [DecidableEq ι] in
theorem holds_of_tookAway (hR : R.Conforms) {r : Past ι} {name : Bytes} {u : Int} {before after : σ}
    (htook : tookAway scope name r = true)
    (heffect : r.use.isSingle = true →
      r.use.AtOnce R (scope r.client) u before r.answer after) :
    R.holds u before name = true ∧ R.holds u after name = false := by
  obtain ⟨i, use, began, ended, answer⟩ := r
  cases use with
  | set | get | getOrSet | contains => simp [tookAway] at htook
  | delete key =>
    cases answer with
    | error e => simp [tookAway] at htook
    | ok _ =>
      obtain rfl : key.namespaced (scope i).nameSpace = name := by simpa [tookAway] using htook
      rcases Redis.delete_cases hR (heffect rfl) with ⟨-, hfound, hgone⟩ | ⟨hanswer, -⟩
      · exact ⟨hfound, hgone⟩
      · cases hanswer

/-- Whatever is under a name was there from the start, or was put there; and each delete that took
it away needs one. -/
def Tally (R : Remote σ) (scope : ι → Scope) (t : Int) (s : σ) (name : Bytes)
    (w : Contention ι σ) : Prop :=
  w.past.countP (tookAway scope name) + (R.holds w.now w.server name).toNat
    ≤ w.sent.countP (R.puts name) + (R.holds t s name).toNat

theorem Tally.act (hR : R.Conforms) {w : Contention ι σ} (hfades : R.Fades w.now w.server)
    {name : Bytes} (h : Tally R scope t s name w)
    (hunderway : ∀ i p, w.pending i = some p → p.use.Underway (scope i) p.rest)
    (e : Occurrence ι) : Tally R scope t s name (w.act R scope e) := by
  cases e with
  | expire key => exact Nat.le_trans (Nat.add_le_add_left (Remote.holds_expire_le hR key name) _) h
  | pass d =>
    have hlater : w.now ≤ w.now + d := by omega
    exact Nat.le_trans (Nat.add_le_add_left (hfades.holds_le hlater name) _) h
  | begin i u =>
    unfold Contention.act
    dsimp only
    split <;> exact h
  | turn i =>
    cases hi : w.pending i with
    | none =>
      have hact : w.act R scope (.turn i) = w := by simp only [Contention.act, hi]
      rw [hact]
      exact h
    | some p =>
      unfold Tally at h
      obtain ⟨cmd, hturn⟩ := act_turn hR hfades hi (hunderway i p hi)
      have hserver := Remote.holds_execute_le hR (t := w.now) (s := w.server) cmd name
      rcases hturn with ⟨a, hact, hwhole⟩ | ⟨rest, hact, -, -⟩
      · rw [hact, Tally]
        dsimp only
        rw [List.countP_append, List.countP_append,
          List.countP_singleton (p := tookAway scope name)]
        -- A delete that succeeds makes up for what it takes away, whatever its command was.
        by_cases htook : tookAway scope name ⟨i, p.use, p.began, w.clock, a⟩ = true
        · obtain ⟨hbefore, hafter⟩ := holds_of_tookAway hR htook hwhole
          rw [hbefore, Bool.toNat_true] at h
          rw [if_pos htook, hafter, Bool.toNat_false]
          omega
        · rw [if_neg htook]
          omega
      · rw [hact, Tally]
        dsimp only
        rw [List.countP_append]
        omega

theorem tally_run (hR : R.Conforms) (hs : R.Fades t s) (events : List (Occurrence ι))
    (name : Bytes) : Tally R scope t s name (run R scope t s events) := by
  induction events using List.reverseRecOn with
  | nil => exact Nat.le_refl _
  | append_singleton events e ih =>
    have hregular : Regular R scope t s events := regular_run hR hs events
    rw [run_append]
    exact ih.act hR hregular.fades (fun i p hp => (hregular.pending i p hp).underway) e

/-- What is told of calls that are made all at the same time. -/
structure Linearized (R : Remote σ) (scope : ι → Scope) (t : Int) (s : σ)
    (events : List (Occurrence ι)) : Prop where
  /-- Where there was nothing from the start, no more deletes succeed than commands put something
  there. -/
  once : ∀ name, R.holds t s name = false →
    (run R scope t s events).past.countP (tookAway scope name)
      ≤ (run R scope t s events).sent.countP (R.puts name)
  tally : ∀ name, Tally R scope t s name (run R scope t s events)
  atomic : ∀ r ∈ (run R scope t s events).past, Atomic R scope t s events r
  /-- A delete succeeds if its last command took the key away.  If it says that the key is missing,
  it was missing then. -/
  delete : ∀ i key began ended answer,
    ⟨i, .delete key, began, ended, answer⟩ ∈ (run R scope t s events).past →
      let name := key.namespaced (scope i).nameSpace
      began < ended ∧ ended < events.length ∧
      (answer = .ok () ∧ holdsAfter R scope t s events ended name = true ∧
          holdsAfter R scope t s events (ended + 1) name = false ∨
        answer = .error (missing key) ∧ holdsAfter R scope t s events ended name = false)

/-- Whatever clients call, in whatever turns, and whatever expires in between. -/
theorem linearized {R : Remote σ} (hR : R.Conforms) (scope : ι → Scope) {t : Int} {s : σ}
    (hs : R.Fades t s) (events : List (Occurrence ι)) : Linearized R scope t s events := by
  have hregular : Regular R scope t s events := regular_run hR hs events
  refine ⟨fun name hnothing => ?_, tally_run hR hs events, hregular.past,
    fun i key began ended answer hpast => ?_⟩
  · have htally : Tally R scope t s name (run R scope t s events) := tally_run hR hs events name
    rw [Tally, hnothing, Bool.toNat_false] at htally
    omega
  have hatomic := hregular.past _ hpast
  obtain ⟨hended, -⟩ := List.getElem?_eq_some_iff.1 hatomic.ended
  refine ⟨hatomic.lt, hended, ?_⟩
  refine (Redis.delete_cases hR (hatomic.effect rfl)).imp_left ?_
  rintro ⟨hanswer, hfound, hgone⟩
  refine ⟨hanswer, hfound, ?_⟩
  rw [holdsAfter, now_after_turn hatomic.ended]
  exact hgone

/-- Two deletes both find the key, and only one of them takes it away.  A key whose time has passed
is missing. -/
theorem linearized_while_two_delete :
    let scope : Bool → Scope := fun _ => ⟨"a", .ofSeconds 300⟩
    let events : List (Occurrence Bool) :=
      [.begin true (.set ⟨[1]⟩ .null none), .turn true, .begin true (.delete ⟨[1]⟩),
        .begin false (.delete ⟨[1]⟩), .turn true, .turn false, .turn false, .turn true,
        .begin true (.set ⟨[1]⟩ .null none), .turn true, .pass 300_000_000_000,
        .begin false (.delete ⟨[1]⟩), .turn false]
    Timed.remote.Conforms ∧ Timed.remote.Fades 0 Timed.empty ∧
      Linearized Timed.remote scope 0 Timed.empty events ∧
      (run Timed.remote scope 0 Timed.empty events).past.map
          (fun r => (r.client, r.began, r.ended, tookAway scope [0x61, 0x3a, 1] r))
        = [(true, 0, 1, false), (false, 3, 6, true), (true, 2, 7, false), (true, 8, 9, false),
          (false, 11, 12, false)] := by
  intro scope events
  exact ⟨Timed.conforms, Timed.fades 0 _, linearized Timed.conforms scope (Timed.fades 0 _) events,
    by decide⟩

end Contention

end Larder.Cache
