import Larder.Proofs.Cache.Uses

/-!
When two caches on one server do not see each other.

Tasks make calls through the one or the other, at once and in turns: between any two commands of one
task there may be commands of others.  A command is about keys of its cache's namespace, so what a
task is told depends on the tasks of the other cache only if a key of the one namespace has the name
of a key of the other on the server.  It has exactly if one namespace, followed by a colon, is the
start of the other (`isolated_iff`).
-/

namespace Larder.Cache

open Larder.Redis (Command Remote Talk Timed)
open Larder.Redis.Remote (reply_congr after_congr after_of_ne)

/-! ## Tasks -/

/-- A call and its answer. -/
abbrev Answered : Type := (u : Use) × u.Reply

/-- The conversation of calls one after another, with all their answers at its end. -/
def calls (c : Scope) : List Use → Talk (List Answered)
  | [] => return []
  | u :: rest => do
    let a ← u.talk c
    let answers ← calls c rest
    return ⟨u, a⟩ :: answers

theorem within_calls (c : Scope) (us : List Use) :
    (calls c us).Within fun cmd => ∃ key : Key, cmd.key? = some (key.namespaced c.nameSpace) := by
  induction us with
  | nil => trivial
  | cons u rest ih =>
    refine Conversation.Within.bind ?_ fun a => ih.bind fun answers => trivial
    exact (u.within_talk c).mono fun cmd hcmd => ⟨u.key, hcmd⟩

/-- Tasks in the middle of their conversations with a server. -/
structure Traffic (ι σ : Type) where
  remote : σ
  talks : ι → Talk (List Answered)

namespace Traffic

variable {ι σ : Type} [DecidableEq ι] (R : Remote σ)

/-- A task sends its next command at a time, and hears the response; one that is done does
nothing. -/
def step (w : Traffic ι σ) (turn : ι × Int) : Traffic ι σ :=
  match w.talks turn.1 with
  | .done _ => w
  | .ask cmd next =>
    let (response, remote) := R.execute turn.2 cmd w.remote
    ⟨remote, Function.update w.talks turn.1 (next response)⟩

variable {R} in
theorem step_of_ask {w : Traffic ι σ} (turn : ι × Int) {cmd : Command}
    {next : Larder.Redis.Response → Talk (List Answered)} (h : w.talks turn.1 = .ask cmd next) :
    w.step R turn = ⟨(R.execute turn.2 cmd w.remote).2,
      Function.update w.talks turn.1 (next (R.execute turn.2 cmd w.remote).1)⟩ := by
  unfold step
  rw [h]
  rfl

def run (w : Traffic ι σ) (turns : List (ι × Int)) : Traffic ι σ := turns.foldl (step R) w

/-- All that a task can still ask is about keys of its side. -/
def Separate (w : Traffic ι σ) (own : ι → Bool) (keys : Bool → Bytes → Prop) : Prop :=
  ∀ i, (w.talks i).Within fun cmd => ∃ k, cmd.key? = some k ∧ keys (own i) k

/-- From a time on, two states are the same to the tasks of one's own and under their keys. -/
structure Alike (own : ι → Bool) (keys : Bytes → Prop) (t : Int) (w w' : Traffic ι σ) : Prop where
  talks : ∀ i, own i = true → w.talks i = w'.talks i
  prospect : ∀ u, t ≤ u → ∀ k, keys k → R.prospect w.remote u k = R.prospect w'.remote u k

variable {R} {w w' : Traffic ι σ} {own : ι → Bool} {keys : Bool → Bytes → Prop} {t : Int}

theorem Separate.step (h : w.Separate own keys) (turn : ι × Int) :
    (w.step R turn).Separate own keys := by
  intro i
  unfold Traffic.step
  split
  · exact h i
  · next cmd next htalk =>
    show Conversation.Within _ (Function.update w.talks turn.1 _ i)
    rw [Function.update_apply]
    split
    · next hi =>
      have hturn := h turn.1
      rw [htalk, ← hi] at hturn
      exact hturn.2 _
    · exact h i

omit [DecidableEq ι] in
theorem Alike.mono (h : Alike R own (keys true) t w w') {u : Int} (hle : t ≤ u) :
    Alike R own (keys true) u w w' :=
  ⟨h.talks, fun v hv => h.prospect v (Int.le_trans hle hv)⟩

/-- A command of another's changes nothing under keys of one's own. -/
theorem Alike.step_other (hR : R.Conforms) (hkeys : ∀ k, keys true k → ¬ keys false k)
    (hsep : w.Separate own keys) (h : Alike R own (keys true) t w w') {i : ι} (hi : own i = false) :
    Alike R own (keys true) t (w.step R (i, t)) w' := by
  unfold Traffic.step
  split
  · exact h
  · next cmd next htalk =>
    have hcmd := hsep i
    rw [htalk, hi] at hcmd
    obtain ⟨k', hk', hforeign⟩ := hcmd.1
    refine ⟨fun j hj => ?_, fun u hu k hk => ?_⟩
    · have hne : j ≠ i := fun h => by rw [h, hi] at hj; cases hj
      show Function.update w.talks i _ j = w'.talks j
      rw [Function.update_of_ne hne]
      exact h.talks j hj
    · have hne : cmd.key? ≠ some k := by
        rw [hk']
        exact fun heq => hkeys k hk (Option.some.inj heq ▸ hforeign)
      rw [← h.prospect u hu k hk,
        ← after_of_ne (R := R) (t := t) (p := R.prospect w.remote) (u := u) hne]
      exact hR.prospect t cmd w.remote u hu k

/-- A command of one's own gets the same response in both states, and makes the same of them. -/
theorem Alike.step_own (hR : R.Conforms) (hsep : w.Separate own keys)
    (h : Alike R own (keys true) t w w') {i : ι} (hi : own i = true) :
    Alike R own (keys true) t (w.step R (i, t)) (w'.step R (i, t)) := by
  have htalks := h.talks i hi
  unfold Traffic.step
  rw [show w'.talks (i, t).1 = w.talks (i, t).1 from htalks.symm]
  split
  · exact h
  · next cmd next htalk =>
    have hcmd := hsep i
    rw [htalk, hi] at hcmd
    obtain ⟨k', hk', hown⟩ := hcmd.1
    have hresponse : (R.execute t cmd w.remote).1 = (R.execute t cmd w'.remote).1 := by
      rw [hR.reply, hR.reply]
      refine congrArg _ (reply_congr fun k hk => ?_)
      obtain rfl := Option.some.inj (hk'.symm.trans hk)
      exact h.prospect t (Int.le_refl t) _ hown
    refine ⟨fun j hj => ?_, fun u hu k hk => ?_⟩
    · show Function.update w.talks i _ j = Function.update w'.talks i _ j
      rw [Function.update_apply, Function.update_apply, hresponse]
      split
      · rfl
      · exact h.talks j hj
    · show R.prospect (R.execute t cmd w.remote).2 u k
          = R.prospect (R.execute t cmd w'.remote).2 u k
      rw [hR.prospect t cmd w.remote u hu, hR.prospect t cmd w'.remote u hu]
      exact after_congr cmd (h.prospect u hu k hk)

/-- Turns of others can be left out. -/
theorem Alike.run (hR : R.Conforms) (hkeys : ∀ k, keys true k → ¬ keys false k)
    {turns : List (ι × Int)} (hturns : turns.Pairwise fun a b => a.2 ≤ b.2)
    (hle : ∀ turn ∈ turns, t ≤ turn.2) (hsep : w.Separate own keys)
    (h : Alike R own (keys true) t w w') {i : ι} (hi : own i = true) :
    (w.run R turns).talks i = (w'.run R (turns.filter fun turn => own turn.1)).talks i := by
  induction turns generalizing w w' t with
  | nil => exact h.talks i hi
  | cons turn rest ih =>
    obtain ⟨j, u⟩ := turn
    obtain ⟨hfirst, hrest⟩ := List.pairwise_cons.1 hturns
    have hnow : Alike R own (keys true) u w w' := h.mono (hle _ List.mem_cons_self)
    rw [List.filter_cons]
    split
    · next hj => exact ih hrest hfirst (hsep.step _) (hnow.step_own hR hsep hj)
    · next hj =>
      exact ih hrest hfirst (hsep.step _) (hnow.step_other hR hkeys hsep (Bool.not_eq_true _ ▸ hj))

end Traffic

/-! ## Two caches -/

/-- Two caches do not see each other: whatever the tasks do through them, and in whatever turns,
each task gets as far, and with the same answers, as if the tasks of the other cache had been left
out.  `side` tells which cache a task calls. -/
def Isolated (caches : Bool → Scope) : Prop :=
  ∀ (ι σ : Type) [DecidableEq ι] (R : Remote σ) (s : σ) (side : ι → Bool) (uses : ι → List Use)
    (turns : List (ι × Int)), R.Conforms → turns.Pairwise (fun a b => a.2 ≤ b.2) → ∀ i,
    let start : Traffic ι σ := ⟨s, fun j => calls (caches (side j)) (uses j)⟩
    (start.run R turns).talks i
      = (start.run R (turns.filter fun turn => side turn.1 == side i)).talks i

/-- Neither namespace, followed by a colon, is the start of the other, nor are they the same. -/
structure Apart (ns ns' : String) : Prop where
  ne : ns ≠ ns'
  left : ∀ rest, ns' ≠ ns ++ ":" ++ rest
  right : ∀ rest, ns ≠ ns' ++ ":" ++ rest

theorem Apart.symm {ns ns' : String} (h : Apart ns ns') : Apart ns' ns :=
  ⟨h.ne.symm, h.right, h.left⟩

theorem encode_prefixed (ns rest : String) :
    Utf8.encode (ns ++ ":" ++ rest) = Utf8.encode ns ++ 0x3a :: Utf8.encode rest := by
  have hcolon : Utf8.encode ":" = [0x3a] := by decide
  rw [Utf8.encode_append, Utf8.encode_append, hcolon, List.append_assoc]
  rfl

/-- A name on the server that two namespaces share shows where the longer one goes on after the
shorter one's colon. -/
theorem exists_of_encode_append {ns ns' : String} {more bytes bytes' : Bytes}
    (hns : Utf8.encode ns' = Utf8.encode ns ++ more)
    (hbytes : 0x3a :: bytes = more ++ 0x3a :: bytes') :
    ns = ns' ∨ ∃ rest, ns' = ns ++ ":" ++ rest := by
  cases more with
  | nil =>
    rw [List.append_nil] at hns
    exact Or.inl (Utf8.encode_injective hns).symm
  | cons b more =>
    obtain ⟨rfl, -⟩ := List.cons.inj hbytes
    have hsplit : Utf8.encode ns' = Utf8.encode (ns ++ ":" ++ "") ++ more := by
      rw [encode_prefixed, hns, List.append_assoc]
      rfl
    obtain ⟨rest, hrest, -⟩ := Utf8.exists_of_encode_eq_append hsplit
    rw [String.append_empty] at hrest
    exact Or.inr ⟨rest, hrest⟩

/-- Namespaces share no name on the server exactly if they are apart. -/
theorem namespaced_ne_iff (ns ns' : String) :
    (∀ key key' : Key, key.namespaced ns ≠ key'.namespaced ns') ↔ Apart ns ns' := by
  constructor
  · intro h
    refine ⟨?_, fun rest hrest => ?_, fun rest hrest => ?_⟩
    · rintro rfl
      exact h ⟨[]⟩ ⟨[]⟩ rfl
    · refine h ⟨Utf8.encode rest ++ [0x3a]⟩ ⟨[]⟩ ?_
      rw [hrest, Key.namespaced, Key.namespaced, encode_prefixed, List.append_assoc]
      rfl
    · refine h ⟨[]⟩ ⟨Utf8.encode rest ++ [0x3a]⟩ ?_
      rw [hrest, Key.namespaced, Key.namespaced, encode_prefixed, List.append_assoc]
      rfl
  · intro h key key' hsame
    rcases List.append_eq_append_iff.1 hsame with ⟨more, hns, hbytes⟩ | ⟨more, hns, hbytes⟩
    · rcases exists_of_encode_append hns hbytes with heq | ⟨rest, hrest⟩
      · exact h.ne heq
      · exact h.left rest hrest
    · rcases exists_of_encode_append hns hbytes with heq | ⟨rest, hrest⟩
      · exact h.ne heq.symm
      · exact h.right rest hrest

variable {caches : Bool → Scope}

theorem isolated_of_apart (h : Apart (caches true).nameSpace (caches false).nameSpace) :
    Isolated caches := by
  intro ι σ _ R s side uses turns hR hturns i
  -- One's own side is that of the task that is looked at.
  let own (j : ι) : Bool := side j == side i
  let nameSpaceOf (b : Bool) : String := (caches (b == side i)).nameSpace
  let keys (b : Bool) (k : Bytes) : Prop := ∃ key : Key, k = key.namespaced (nameSpaceOf b)
  have hapart : Apart (nameSpaceOf true) (nameSpaceOf false) := by
    show Apart (caches (true == side i)).nameSpace (caches (false == side i)).nameSpace
    cases side i with
    | true => exact h
    | false => exact h.symm
  have hkeys : ∀ k, keys true k → ¬ keys false k := by
    rintro k ⟨key, rfl⟩ ⟨key', hsame⟩
    exact (namespaced_ne_iff _ _).2 hapart key key' hsame
  have hsep : Traffic.Separate ⟨s, fun j => calls (caches (side j)) (uses j)⟩ own keys := by
    intro j
    refine (within_calls (caches (side j)) (uses j)).mono ?_
    rintro cmd ⟨key, hcmd⟩
    have hside : ((side j == side i) == side i) = side j := by cases side j <;> cases side i <;> rfl
    refine ⟨_, hcmd, key, ?_⟩
    show key.namespaced _ = key.namespaced (caches ((side j == side i) == side i)).nameSpace
    rw [hside]
  have hself : own i = true := beq_self_eq_true (side i)
  cases turns with
  | nil => rfl
  | cons turn rest =>
    refine Traffic.Alike.run hR hkeys hturns ?_ hsep (t := turn.2)
      ⟨fun _ _ => rfl, fun _ _ _ _ => rfl⟩ hself
    exact List.forall_mem_cons.2 ⟨Int.le_refl _, (List.pairwise_cons.1 hturns).1⟩

/-- A task that reads a key gets what the server replies. -/
theorem talks_of_read {ι σ : Type} [DecidableEq ι] (R : Remote σ) {w : Traffic ι σ} (turn : ι × Int)
    {c : Scope} {key : Key} (h : w.talks turn.1 = calls c [.get key]) :
    (w.step R turn).talks turn.1 = .done [⟨.get key,
      Redis.answerOfGet key
        (R.execute turn.2 (.get (key.namespaced c.nameSpace)) w.remote).1⟩] := by
  have hget : calls c [.get key] = .ask (.get (key.namespaced c.nameSpace)) fun response =>
      .done [⟨.get key, Redis.answerOfGet key response⟩] := by
    rw [calls, Use.talk, Redis.get_eq]
    rfl
  rw [Traffic.step_of_ask turn (h.trans hget)]
  exact Function.update_self turn.1 _ w.talks

/-- A value that one cache keeps under a name that both know is found by the other. -/
theorem not_isolated_of_namespaced_eq {key key' : Key}
    (h : key.namespaced (caches true).nameSpace = key'.namespaced (caches false).nameSpace) :
    ¬ Isolated caches := by
  intro hisolated
  let uses (b : Bool) : List Use := if b then [.get key] else [.set key' .null none]
  let start : Traffic Bool Timed := ⟨Timed.empty, fun b => calls (caches b) (uses b)⟩
  let put : Command :=
    .setFor (key'.namespaced (caches false).nameSpace) (max (caches false).defaultTtl.seconds 1)
      Json.Value.null.text
  let kept : Timed := (Timed.remote.execute 0 put Timed.empty).2
  -- At the time of the read, what the set keeps has a second left at least.
  have hkept : Timed.remote.prospect kept 0 (key.namespaced (caches true).nameSpace)
      = some (Utf8.encode Json.Value.null.text) := by
    have hseconds : (0 : Int)
        < 0 + (max (caches false).defaultTtl.seconds 1 : Nat) * 1_000_000_000 := by omega
    rw [Timed.conforms.prospect 0 put Timed.empty 0 (Int.le_refl 0), h]
    exact (if_pos (And.intro rfl rfl)).trans (if_pos hseconds)
  have hreply : (Timed.remote.execute 0 (.get (key.namespaced (caches true).nameSpace)) kept).1
      = .reply (.bulk (Utf8.encode Json.Value.null.text)) := by
    rw [Timed.conforms.reply, Remote.reply, hkept]
  have hput : start.step Timed.remote (false, 0)
      = ⟨kept, Function.update start.talks false (.done [⟨.set key' .null none, ()⟩])⟩ :=
    Traffic.step_of_ask (false, 0)
      (show start.talks false = .ask put fun _ => .done [⟨.set key' .null none, ()⟩] from rfl)
  have hfull : (start.run Timed.remote [(false, 0), (true, 0)]).talks true
      = .done [⟨.get key, .ok .null⟩] := by
    have hne : true ≠ false := by decide
    have hwaiting : (start.step Timed.remote (false, 0)).talks true
        = calls (caches true) [.get key] := by
      rw [hput]
      exact Function.update_of_ne hne (.done [⟨.set key' .null none, ()⟩]) start.talks
    refine (talks_of_read Timed.remote (true, 0) hwaiting).trans ?_
    rw [hput, hreply, Redis.answerOfGet_bulk key Json.Value.readable_null]
  have hleft : (start.run Timed.remote [(true, 0)]).talks true
      = .done [⟨.get key, .error (missing key)⟩] :=
    talks_of_read Timed.remote (w := start) (true, 0) rfl
  have hsame : (Conversation.done [⟨.get key, .ok .null⟩] : Talk (List Answered))
      = .done [⟨.get key, .error (missing key)⟩] := by
    rw [← hfull, ← hleft]
    exact hisolated Bool Timed Timed.remote Timed.empty id uses [(false, 0), (true, 0)]
      Timed.conforms
      (List.pairwise_pair.2 (Int.le_refl 0)) true
  obtain ⟨hanswer, -⟩ := List.cons.inj (Conversation.done.inj hsame)
  cases hanswer

/-- Two caches on one server do not see each other exactly if their namespaces are apart, which is
also when they have different names on the server for all their keys. -/
theorem isolated_iff (caches : Bool → Scope) :
    (Isolated caches ↔ Apart (caches true).nameSpace (caches false).nameSpace) ∧
      ((∀ key key' : Key,
        key.namespaced (caches true).nameSpace ≠ key'.namespaced (caches false).nameSpace)
        ↔ Apart (caches true).nameSpace (caches false).nameSpace) := by
  refine ⟨⟨fun h => ?_, isolated_of_apart⟩, namespaced_ne_iff _ _⟩
  exact (namespaced_ne_iff _ _).1 fun key key' hsame => not_isolated_of_namespaced_eq hsame h

/-- With a colon in a namespace, keys of two namespaces can be one. -/
theorem colon_joins_namespaces :
    "a" ≠ "a:b" ∧ (Key.ofText "b:c").namespaced "a" = (Key.ofText "c").namespaced "a:b" ∧
      ¬ Isolated fun first => ⟨if first then "a" else "a:b", .ofSeconds 300⟩ := by
  have hsame : (Key.ofText "b:c").namespaced "a" = (Key.ofText "c").namespaced "a:b" := by decide
  exact ⟨by decide, hsame, not_isolated_of_namespaced_eq hsame⟩

end Larder.Cache
