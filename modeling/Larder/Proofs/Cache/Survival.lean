import Larder.Proofs.Cache.Uses
import Larder.Proofs.Json.TooDeep
import Larder.Proofs.Time.Reading

/-!
What becomes of a value on a server.

A set puts the text of the value under the key, for whole seconds.  Commands that do not write the
key leave it there (`prospect_run`), whoever sends them, so a get before the end of those seconds
gets the text back; and a text is read as the value that it was written for or as none, by the depth
of the value.
-/

namespace Larder.Redis

/-- A command that neither puts anything under a key nor takes anything away from it. -/
def Command.Spares (key : Bytes) : Command → Prop
  | setFor k _ _ | delete k => k ≠ key
  | _ => True

namespace Remote

variable {σ : Type} {R : Remote σ}

theorem after_of_spares {t u : Int} {p : Prospect} {key : Bytes} {cmd : Command}
    (h : cmd.Spares key) :
    R.after t p cmd u key = p u key := by
  cases cmd with
  | get | contains | ping => rfl
  | setFor k seconds value => exact if_neg fun hk => h hk.1.symm
  | delete k => exact if_neg fun hk => h hk.symm

/-- The server after commands of any clients, each at its time. -/
def run (R : Remote σ) (commands : List (Int × Command)) (s : σ) : σ :=
  commands.foldl (fun s x => (R.execute x.1 x.2 s).2) s

/-- Commands that spare a key change nothing of what will be under it. -/
theorem prospect_run (hR : R.Conforms) {key : Bytes} {u : Int} {commands : List (Int × Command)}
    (hspares : ∀ x ∈ commands, x.2.Spares key) (htimes : ∀ x ∈ commands, x.1 ≤ u) (s : σ) :
    R.prospect (R.run commands s) u key = R.prospect s u key := by
  induction commands generalizing s with
  | nil => rfl
  | cons x rest ih =>
    rw [List.forall_mem_cons] at hspares htimes
    show R.prospect (R.run rest (R.execute x.1 x.2 s).2) u key = _
    rw [ih hspares.2 htimes.2, hR.prospect x.1 x.2 s u htimes.1, after_of_spares hspares.1]

end Remote

end Larder.Redis

namespace Larder

namespace Cache

open Larder.Redis (Command Remote Timed)

namespace Redis

/-- The text of a value stands for that value or, nested too deep, for none. -/
theorem valueOf_text {v : Json.Value} (hformed : v.WellFormed) (hfloats : v.FloatsReadBack) :
    valueOf v.text
      = if v.depth < Json.depthLimit then .ok v
        else .error (.typeMismatch "JSON value" Json.malformedText) := by
  rw [valueOf, Json.read?_text_eq hformed hfloats]
  by_cases hdepth : v.depth < Json.depthLimit
  · rw [if_pos hdepth, if_pos hdepth]
  · rw [if_neg hdepth, if_neg hdepth]

end Redis

/-- When the server lets go of a value.  It counts whole seconds, one at least. -/
def expiryOnServer (put : Reading) (ttl : Duration) : Int :=
  put.nanoseconds + (max ttl.seconds 1 : Nat) * 1_000_000_000

section Kept

variable {σ : Type} {R : Remote σ} (hR : R.Conforms) {c : Scope} {l : Link σ}
  {a : Larder.Redis.Address} (ha : l.address = some a)
include hR ha

/-- After a set the text of the value is under the key, up to its expiry. -/
theorem prospect_of_set (key : Key) (v : Json.Value) {ttl : Option Duration}
    (httl : (ttl.getD c.defaultTtl).seconds ≤ Remote.century) {put : Reading} {u : Int}
    (hle : put.nanoseconds ≤ u) :
    R.prospect ((Use.set key v ttl).ask (c.onServer R) (l.showing put)).2.remote u
      (key.namespaced c.nameSpace)
      = if u < expiryOnServer put (ttl.getD c.defaultTtl) then some (Utf8.encode v.text)
        else none := by
  have hcentury : 1 ≤ Remote.century := by decide
  have haccepts :=
    hR.accepts put.nanoseconds (max (ttl.getD c.defaultTtl).seconds 1) put.nanoseconds_le_maximum
    (le_max_right _ _) (max_le httl hcentury)
  rw [Use.ask_onServer c R _ (l := l.showing put) ha]
  refine (Redis.prospect_set hR c.nameSpace key put.nanoseconds l.remote hle v _ _).trans ?_
  unfold Remote.after
  dsimp only
  rw [if_pos ⟨rfl, haccepts⟩]
  rfl

/-- A get has the value that the text under the key stands for. -/
theorem get_of_prospect (key : Key) (time : Reading) :
    ((Use.get key).ask (c.onServer R) (l.showing time)).1
      = match R.prospect l.remote time.nanoseconds (key.namespaced c.nameSpace) with
        | some bytes => Redis.answerOfGet key (.reply (.bulk bytes))
        | none => .error (missing key) := by
  rw [Use.ask_onServer c R _ (l := l.showing time) ha]
  exact Redis.answer_get hR c.nameSpace key time.nanoseconds l.remote

end Kept

/-- A value that is kept on a server is got back before it expires if it lies less than 128 deep,
and is a mismatch of types if it does not.  From its expiry on it is missing.  It never turns into
another value, whatever other keys the server is used for meanwhile, and however often this one is
read. -/
theorem survives_on_server {σ : Type} {R : Remote σ} (hR : R.Conforms) (c : Scope) (l : Link σ)
    {a : Larder.Redis.Address} (ha : l.address = some a) (key : Key) {v : Json.Value}
    (hformed : v.WellFormed) (hfloats : v.FloatsReadBack) (ttl : Option Duration)
    (httl : (ttl.getD c.defaultTtl).seconds ≤ Remote.century)
    (put time : Reading) (hle : put.nanoseconds ≤ time.nanoseconds) {between : List (Int × Command)}
    (hspares : ∀ x ∈ between, x.2.Spares (key.namespaced c.nameSpace))
    (htimes : ∀ x ∈ between, x.1 ≤ time.nanoseconds) :
    let kept := ((Use.set key v ttl).ask (c.onServer R) (l.showing put)).2
    let used : Link σ := { kept with remote := R.run between kept.remote }
    let answer := ((Use.get key).ask (c.onServer R) (used.showing time)).1
    let expiry := expiryOnServer put (ttl.getD c.defaultTtl)
    (time.nanoseconds < expiry → v.depth < 128 → answer = .ok v) ∧
      (time.nanoseconds < expiry → 128 ≤ v.depth →
        ∃ found, answer = .error (.typeMismatch "JSON value" found)) ∧
      (expiry ≤ time.nanoseconds → answer = .error (missing key)) ∧
      ∀ w, answer = .ok w → w = v := by
  intro kept used answer expiry
  have hkept : kept.address = some a := by
    show ((Use.set key v ttl).ask (c.onServer R) (l.showing put)).2.address = some a
    rw [Use.ask_onServer c R _ (l := l.showing put) ha]
    exact ha
  have hprospect : R.prospect used.remote time.nanoseconds (key.namespaced c.nameSpace)
      = if time.nanoseconds < expiry then some (Utf8.encode v.text) else none :=
    (Remote.prospect_run hR hspares htimes kept.remote).trans (prospect_of_set hR ha key v httl hle)
  have hanswer : answer = if time.nanoseconds < expiry then Redis.valueOf v.text
      else .error (missing key) := by
    refine (get_of_prospect hR (l := used) hkept key time).trans ?_
    rw [hprospect]
    by_cases hfresh : time.nanoseconds < expiry
    · rw [if_pos hfresh, if_pos hfresh]
      exact Redis.answerOfGet_text key v.text
    · rw [if_neg hfresh, if_neg hfresh]
  rw [Redis.valueOf_text hformed hfloats] at hanswer
  refine ⟨fun hfresh (hdepth : v.depth < Json.depthLimit) => ?_,
    fun hfresh (hdepth : Json.depthLimit ≤ v.depth) => ⟨Json.malformedText, ?_⟩, fun hover => ?_,
      fun w hw => ?_⟩
  · rw [hanswer, if_pos hfresh, if_pos hdepth]
  · rw [hanswer, if_pos hfresh, if_neg (Nat.not_lt.2 hdepth)]
  · rw [hanswer, if_neg (Int.not_lt.2 hover)]
  · rw [hanswer] at hw
    split at hw
    · split at hw
      · exact (Except.ok.inj hw).symm
      · cases hw
    · cases hw

/-- Of a value in 127 arrays and one in 128, kept for the default of five minutes, only the first is
got back, while another key is written. -/
theorem survives_on_server_nested :
    let c : Scope := ⟨"units", .ofSeconds 300⟩
    let start : Link Timed := ⟨0, Timed.empty, Memory.settings, some ⟨"localhost", 6379, 0⟩⟩
    let answer := fun (n : Nat) =>
      let kept := ((Use.set (.ofText "k") (Json.Value.nested n) none).ask (c.onServer Timed.remote)
        (start.showing (.ofSeconds 0 (by decide)))).2
      let used : Link Timed :=
        { kept with
          remote := Timed.remote.run [(1, .setFor [] 1 "null"), (2, .delete [])] kept.remote }
      ((Use.get (.ofText "k")).ask (c.onServer Timed.remote)
        (used.showing (.ofSeconds 299 (by decide)))).1
    answer 127 = .ok (Json.Value.nested 127) ∧
      ∃ found, answer 128 = .error (.typeMismatch "JSON value" found) := by
  intro c start answer
  have hspares : ∀ x ∈ [(1, Command.setFor [] 1 "null"), ((2 : Int), Command.delete [])],
      x.2.Spares ((Key.ofText "k").namespaced c.nameSpace) := by
    refine List.forall_mem_cons.2 ⟨?_, List.forall_mem_singleton.2 ?_⟩
    · show ([] : Bytes) ≠ _
      decide
    · show ([] : Bytes) ≠ _
      decide
  have hreadable := Json.Value.readable_nested
  have hall := fun n =>
    survives_on_server Timed.conforms c start rfl (.ofText "k") (hreadable n).wellFormed
    (hreadable n).floats none (by decide) (.ofSeconds 0 (by decide)) (.ofSeconds 299 (by decide))
      (by decide) hspares
    (by decide)
  have hdepth := Json.Value.depth_nested
  exact ⟨(hall 127).1 (by decide) (by rw [hdepth]; decide),
    (hall 128).2.1 (by decide) (by rw [hdepth])⟩

end Cache

end Larder
