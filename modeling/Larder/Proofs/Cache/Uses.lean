import Larder.Cache.Redis
import Larder.Proofs.Cache.Calls
import Larder.Proofs.Conversation
import Larder.Proofs.Json.RoundTrip
import Larder.Proofs.Redis.Server
import Larder.Proofs.Text.Utf8

/-!
The same calls to a cache in memory and to a cache on a server.

A call to a cache on a server is a conversation with the server (`ask_onServer`), and asks about
keys of the cache's own namespace only (`within_talk`).
-/

namespace Larder.Cache

open Larder.Redis (Client.answer Command Remote Reply.toBool Reply.toInteger
  Reply.toOptionalText Reply.toText Response Talk)

/-- What is done with values through a cache, whatever keeps them. -/
inductive Use where
  | set (key : Key) (value : Json.Value) (ttl : Option Duration)
  | get (key : Key)
  | getOrSet (key : Key) (value : Json.Value) (ttl : Option Duration)
  | delete (key : Key)
  | contains (key : Key)

namespace Use

@[reducible]
def action : Use → Action
  | set key value ttl => .set key value ttl
  | get key => .get key
  | getOrSet key value ttl => .getOrSet key value ttl
  | delete key => .delete key
  | contains key => .contains key

@[reducible]
def Reply (u : Use) : Type := u.action.Reply

def key : Use → Key
  | set key _ _ | get key | getOrSet key _ _ | delete key | contains key => key

def ask {σ : Type} (b : Backend σ) : (u : Use) → StateM σ u.Reply
  | set key value ttl => b.set key value ttl
  | get key => b.get key
  | getOrSet key value ttl => b.getOrSet key value ttl
  | delete key => b.delete key
  | contains key => b.contains key

end Use

/-! ## In memory -/

/-- The state with what the clock shows. -/
def Shelf.showing (time : Reading) (s : Shelf) : Shelf := { s with now := time.instant }

theorem Use.ask_backend (u : Use) (c : Scope) (time : Reading) (s : Shelf) :
    u.ask c.backend (s.showing time) = (Call.mk c time u.action).perform s := by
  cases u <;> rfl

/-! ## On a server -/

/-- What a cache on a server works on: a clock, the server, the settings to connect with, and the
address once the cache is prepared. -/
structure Link (σ : Type) where
  now : Int
  remote : σ
  settings : CacheSettings
  address : Option Larder.Redis.Address

namespace Link

variable {σ : Type}

def showing (time : Reading) (l : Link σ) : Link σ := { l with now := time.nanoseconds }

def settingsPlace : Place (Link σ) CacheSettings := ⟨settings, fun c l => { l with settings := c }⟩

def addressPlace : Place (Link σ) (Option Larder.Redis.Address) :=
  ⟨address, fun a l => { l with address := a }⟩

def send (R : Remote σ) (c : Command) : StateM (Link σ) Larder.Redis.Response := fun l =>
  let (response, remote) := R.execute l.now c l.remote
  (response, { l with remote })

theorem hold_send (R : Remote σ) {α : Type} (t : Talk α) (l : Link σ) :
    t.hold (send R) l
      = ((t.hold (R.execute l.now) l.remote).1, { l with
        remote := (t.hold (R.execute l.now) l.remote).2 }) := by
  induction t generalizing l with
  | done a => rfl
  | ask c next ih => exact ih (R.execute l.now c l.remote).1 (send R c l).2

end Link

def Scope.onServer {σ : Type} (c : Scope) (R : Remote σ) : Backend (Link σ) :=
  redis c.nameSpace c.defaultTtl Link.settingsPlace Link.addressPlace fun _ => Link.send R

/-! ### What a response is taken for -/

namespace Redis

/-- What a response to the question for a value is taken for. -/
def answerOfGet (key : Key) (response : Response) : Answer Json.Value :=
  match Client.answer Reply.toOptionalText response with
  | .ok (some text) => valueOf text
  | .ok none => .error (missing key)
  | .error e => .error e

theorem get_eq (ns : String) (key : Key) :
    get ns key = .ask (.get (key.namespaced ns)) fun response =>
      .done (answerOfGet key response) := by
  refine congrArg (Conversation.ask (Command.get (key.namespaced ns))) (funext fun response => ?_)
  unfold answerOfGet
  show (match Client.answer Reply.toOptionalText response with
    | .ok (some text) => Conversation.done (valueOf text)
    | .ok none => Conversation.done (.error (missing key))
    | .error e => Conversation.done (.error e)) = _
  split <;> rfl

theorem answerOfGet_text (key : Key) (text : String) :
    answerOfGet key (.reply (.bulk (Utf8.encode text))) = valueOf text := by
  have htext : (Larder.Redis.Reply.bulk (Utf8.encode text)).toOptionalText = .ok (some text) := by
    show (Larder.Redis.Reply.bulk (Utf8.encode text)).toText.map some = _
    unfold Reply.toText
    dsimp only
    rw [Utf8.decode?_encode]
    rfl
  unfold answerOfGet Client.answer Larder.Redis.Reply.firstError?
  dsimp only
  rw [htext]
  rfl

/-- A value is what was kept. -/
theorem answerOfGet_bulk (key : Key) {v : Json.Value} (hv : v.Readable (Json.depthLimit - 1)) :
    answerOfGet key (.reply (.bulk (Utf8.encode v.text))) = .ok v := by
  rw [answerOfGet_text, valueOf, Json.read?_text hv]

/-- What a response to the question whether there is a value is taken for. -/
def answerOfContains (key : Key) (response : Response) : Answer Unit :=
  match Client.answer Reply.toBool response with
  | .ok true => .ok ()
  | .ok false => .error (missing key)
  | .error e => .error e

theorem contains_eq (ns : String) (key : Key) :
    contains ns key = .ask (.contains (key.namespaced ns)) fun response =>
      .done (answerOfContains key response) := by
  refine congrArg (Conversation.ask (Command.contains (key.namespaced ns)))
    (funext fun response => ?_)
  unfold answerOfContains
  show (match Client.answer Reply.toBool response with
    | .ok true => Conversation.done (.ok ())
    | .ok false => Conversation.done (.error (missing key))
    | .error e => Conversation.done (.error e) : Talk (Answer Unit)) = _
  split <;> rfl

/-- What a response to the command to delete is taken for. -/
def answerOfDelete (key : Key) (response : Response) : Answer Unit :=
  match Client.answer Reply.toInteger response with
  | .ok n => if n = 0 then .error (missing key) else .ok ()
  | .error e => .error e

theorem delete_eq (ns : String) (key : Key) :
    delete ns key = (do
      match ← contains ns key with
      | .error e => return .error e
      | .ok () =>
        .ask (.delete (key.namespaced ns)) fun response =>
          .done (answerOfDelete key response)) := by
  refine congrArg (Conversation.bind (contains ns key)) (funext fun a => ?_)
  cases a with
  | error e => rfl
  | ok _ =>
    refine congrArg (Conversation.ask (Command.delete (key.namespaced ns)))
      (funext fun response => ?_)
    unfold answerOfDelete
    show (match Client.answer Reply.toInteger response with
      | .ok n => Conversation.done (if n = 0 then .error (missing key) else .ok ())
      | .error e => Conversation.done (.error e) : Talk (Answer Unit)) = _
    split <;> rfl

/-! ### With a conforming server -/

section Conforming

variable {σ : Type} {R : Remote σ} (hR : R.Conforms) (ns : String) (key : Key) (t : Int) (s : σ)
include hR

theorem prospect_set {u : Int} (hle : t ≤ u) (value : Json.Value) (ttl : Duration) (k : Bytes) :
    R.prospect ((set ns key value ttl).hold (R.execute t) s).2 u k
      = R.after t (R.prospect s) (.setFor (key.namespaced ns) (max ttl.seconds 1) value.text) u k :=
  hR.prospect t _ s u hle k

theorem answer_get : ((get ns key).hold (R.execute t) s).1
    = match R.prospect s t (key.namespaced ns) with
      | some bytes => answerOfGet key (.reply (.bulk bytes))
      | none => .error (missing key) := by
  rw [get_eq]
  show answerOfGet key (R.execute t (.get (key.namespaced ns)) s).1 = _
  rw [hR.reply, Remote.reply]
  cases R.prospect s t (key.namespaced ns) <;> rfl

theorem prospect_get {u : Int} (hle : t ≤ u) (k : Bytes) :
    R.prospect ((get ns key).hold (R.execute t) s).2 u k = R.prospect s u k := by
  rw [get_eq]
  exact hR.prospect t _ s u hle k

theorem answer_contains : ((contains ns key).hold (R.execute t) s).1
    = if (R.prospect s t (key.namespaced ns)).isSome then .ok () else .error (missing key) := by
  rw [contains_eq]
  show answerOfContains key (R.execute t (.contains (key.namespaced ns)) s).1 = _
  rw [hR.reply, Remote.reply]
  cases R.prospect s t (key.namespaced ns) <;> rfl

theorem prospect_contains {u : Int} (hle : t ≤ u) (k : Bytes) :
    R.prospect ((contains ns key).hold (R.execute t) s).2 u k = R.prospect s u k := by
  rw [contains_eq]
  exact hR.prospect t _ s u hle k

/-- With nothing between the question and the command, what is found is deleted. -/
theorem hold_delete :
    ((delete ns key).hold (R.execute t) s).1
        = (if (R.prospect s t (key.namespaced ns)).isSome then .ok () else .error (missing key)) ∧
      ∀ u k, t ≤ u → R.prospect ((delete ns key).hold (R.execute t) s).2 u k
        = if k = key.namespaced ns ∧ (R.prospect s t (key.namespaced ns)).isSome then none
          else R.prospect s u k := by
  have hanswer := answer_contains hR ns key t s
  have hprospect : ∀ u, t ≤ u → ∀ k, R.prospect ((contains ns key).hold (R.execute t) s).2 u k
      = R.prospect s u k :=
    fun u hle k => prospect_contains hR ns key t s hle k
  rw [delete_eq, Conversation.hold_bind]
  rw [hanswer]
  generalize ((contains ns key).hold (R.execute t) s).2 = s' at hprospect
  by_cases hfound : (R.prospect s t (key.namespaced ns)).isSome = true
  · rw [if_pos hfound]
    refine ⟨?_, fun u k hle => ?_⟩
    · show answerOfDelete key (R.execute t (.delete (key.namespaced ns)) s').1 = .ok ()
      rw [hR.reply, Remote.reply, hprospect t (Int.le_refl t), hfound]
      rfl
    · refine (hR.prospect t (.delete (key.namespaced ns)) s' u hle k).trans ?_
      show (if k = key.namespaced ns then none else R.prospect s' u k) = _
      rw [hprospect u hle]
      simp only [hfound, and_true]
  · rw [if_neg hfound]
    refine ⟨rfl, fun u k hle => ?_⟩
    rw [if_neg fun h => hfound h.2]
    exact hprospect u hle k

end Conforming

end Redis

namespace Use

variable (c : Scope)

/-- The conversation of a call; what becomes of a write stays unknown. -/
def talk : (u : Use) → Talk u.Reply
  | set key value ttl => do
    let _ ← Redis.set c.nameSpace key value (ttl.getD c.defaultTtl)
    return ()
  | get key => Redis.get c.nameSpace key
  | getOrSet key value ttl => do
    let _ ← Redis.set c.nameSpace key value (ttl.getD c.defaultTtl)
    Redis.get c.nameSpace key
  | delete key => Redis.delete c.nameSpace key
  | contains key => Redis.contains c.nameSpace key

section Prepared

variable {c} {σ : Type} {R : Remote σ} {l : Link σ} {a : Larder.Redis.Address}

theorem set_onServer (hl : l.address = some a) (key : Key) (value : Json.Value)
    (ttl : Option Duration) :
    (c.onServer R).set key value ttl l
      = ((),
        ((Redis.set c.nameSpace key value (ttl.getD c.defaultTtl)).hold (Link.send R) l).2) := by
  obtain ⟨now, remote, settings, address⟩ := l
  obtain rfl : address = some a := hl
  rfl

theorem get_onServer (hl : l.address = some a) (key : Key) :
    (c.onServer R).get key l = (Redis.get c.nameSpace key).hold (Link.send R) l := by
  obtain ⟨now, remote, settings, address⟩ := l
  obtain rfl : address = some a := hl
  rfl

end Prepared

/-- A prepared cache holds the conversation of each call with its server. -/
theorem ask_onServer {σ : Type} (R : Remote σ) (u : Use) {l : Link σ} {a : Larder.Redis.Address}
    (hl : l.address = some a) :
    u.ask (c.onServer R) l
      = (((u.talk c).hold (R.execute l.now) l.remote).1,
        { l with remote := ((u.talk c).hold (R.execute l.now) l.remote).2 }) := by
  rw [← Link.hold_send]
  cases u with
  | set key value ttl =>
    rw [talk, Conversation.hold_bind]
    exact set_onServer hl key value ttl
  | get key => exact get_onServer hl key
  | delete key | contains key =>
    obtain ⟨now, remote, settings, address⟩ := l
    obtain rfl : address = some a := hl
    rfl
  | getOrSet key value ttl =>
    have haddress :
        ((Redis.set c.nameSpace key value (ttl.getD c.defaultTtl)).hold (Link.send R) l).2.address
          = some a := by
      rw [Link.hold_send]
      exact hl
    rw [talk, Conversation.hold_bind, ← get_onServer haddress]
    show (c.onServer R).get key ((c.onServer R).set key value ttl l).2 = _
    rw [set_onServer hl]

theorem within_talk (u : Use) :
    (u.talk c).Within fun cmd => cmd.key? = some (u.key.namespaced c.nameSpace) := by
  have hset : ∀ (key : Key) (value : Json.Value) (ttl : Duration),
      (Redis.set c.nameSpace key value ttl).Within
        fun cmd => cmd.key? = some (key.namespaced c.nameSpace) :=
    fun _ _ _ => ⟨rfl, fun _ => trivial⟩
  have hget : ∀ key : Key, (Redis.get c.nameSpace key).Within
      fun cmd => cmd.key? = some (key.namespaced c.nameSpace) := by
    intro key
    refine Conversation.Within.bind ⟨rfl, fun _ => trivial⟩ fun a => ?_
    rcases a with e | _ | text <;> trivial
  have hcontains : ∀ key : Key, (Redis.contains c.nameSpace key).Within
      fun cmd => cmd.key? = some (key.namespaced c.nameSpace) := by
    intro key
    refine Conversation.Within.bind ⟨rfl, fun _ => trivial⟩ fun a => ?_
    rcases a with e | _ | _ <;> trivial
  cases u with
  | set key value ttl => exact (hset key value _).bind fun _ => trivial
  | get key => exact hget key
  | getOrSet key value ttl => exact (hset key value _).bind fun _ => hget key
  | contains key => exact hcontains key
  | delete key =>
    refine (hcontains key).bind fun a => ?_
    cases a with
    | error e => trivial
    | ok _ =>
      refine Conversation.Within.bind ⟨rfl, fun _ => trivial⟩ fun n => ?_
      cases n <;> trivial

end Use

end Larder.Cache
