import Larder.Proofs.Dict
import Larder.Redis.Command
import Larder.Redis.Server
import Larder.Time.Instant

/-!
What is taken for granted of a cache server.

Commands are executed one after another, each all at once and at a time, in nanoseconds since 1970.
What a server holds is told for every time to come, as it will be unless a command changes it; so a
key whose time is over needs no step of its own.  `Timed` is a conforming server, so there are some.
-/

namespace Larder.Redis

/-- The key that a command is about. -/
def Command.key? : Command → Option Bytes
  | setFor key _ _ | get key | contains key | delete key => some key
  | ping => none

/-- What will be under each key at each time. -/
abbrev Prospect := Int → Bytes → Option Bytes

/-- A server that can be reached. -/
structure Remote (σ : Type) where
  execute : Int → Command → StateM σ Response
  prospect : σ → Prospect
  /-- Whether a value may be kept for so many seconds from a time on. -/
  accepts : Int → Nat → Bool
  /-- The refusal of a length of time that is not accepted. -/
  refusal : String

namespace Remote

variable {σ : Type} (R : Remote σ)

/-- The reply to a command, by what is under the keys at the time. -/
def reply (t : Int) (held : Bytes → Option Bytes) : Command → Reply
  | .setFor _ seconds _ => if R.accepts t seconds then .okay else .error R.refusal
  | .get key =>
    match held key with
    | some bytes => .bulk bytes
    | none => .null
  | .contains key | .delete key => Server.ofBool (held key).isSome
  | .ping => .status "PONG"

/-- What a command at a time makes of what is to come.  A kept value is gone from the end of its
seconds on. -/
def after (t : Int) (p : Prospect) : Command → Prospect
  | .setFor key seconds value => fun u k =>
    if k = key ∧ R.accepts t seconds then
      if u < t + seconds * 1_000_000_000 then some (Utf8.encode value) else none
    else p u k
  | .delete key => fun u k => if k = key then none else p u k
  | _ => p

/-- A hundred years, leap years all of them, in seconds. -/
def century : Nat := 100 * 366 * 86400

/-- The server does what the commands mean.  Of values that come for a length of time that is not
accepted, nothing is kept. -/
structure Conforms : Prop where
  reply : ∀ t c s, (R.execute t c s).1 = .reply (R.reply t (R.prospect s t) c)
  prospect : ∀ t c s u, t ≤ u →
    ∀ k, R.prospect (R.execute t c s).2 u k = R.after t (R.prospect s) c u k
  accepts : ∀ t seconds, t ≤ Instant.maximum.toNanoseconds → 1 ≤ seconds → seconds ≤ century →
    R.accepts t seconds = true

/-! ## Keys that a command is not about -/

variable {R}

theorem reply_congr {t : Int} {held held' : Bytes → Option Bytes} {c : Command}
    (h : ∀ k, c.key? = some k → held k = held' k) : R.reply t held c = R.reply t held' c := by
  cases c with
  | setFor | ping => rfl
  | get key | contains key | delete key => simp only [reply, h key rfl]

theorem after_congr {t u : Int} {p p' : Prospect} {k : Bytes} (c : Command) (h : p u k = p' u k) :
    R.after t p c u k = R.after t p' c u k := by
  cases c with
  | get | contains | ping => exact h
  | setFor | delete =>
    unfold after
    dsimp only
    rw [h]

theorem after_of_ne {t u : Int} {p : Prospect} {k : Bytes} {c : Command} (h : c.key? ≠ some k) :
    R.after t p c u k = p u k := by
  cases c with
  | get | contains | ping => rfl
  | setFor key seconds value => exact if_neg fun hk => h (congrArg some hk.1.symm)
  | delete key => exact if_neg fun hk => h (congrArg some hk.symm)

end Remote

/-! ## A server -/

/-- Keys and their values, and when the time of a key is over. -/
structure Timed where
  keys : Server
  deadlines : Dict Bytes Int

namespace Timed

def empty : Timed := ⟨[], []⟩

def isOver (s : Timed) (t : Int) (key : Bytes) : Bool :=
  (Dict.get? s.deadlines key).any fun d => decide (d ≤ t)

/-- A key whose time is over goes away when a command asks for it. -/
def lapse (s : Timed) (t : Int) : Option Bytes → Timed
  | some key => if s.isOver t key then ⟨s.keys.expire key, Dict.erase s.deadlines key⟩ else s
  | none => s

/-- The deadlines after a command. -/
def deadlinesAfter (d : Dict Bytes Int) (t : Int) : Command → Dict Bytes Int
  | .setFor key seconds _ => Dict.insert d key (t + seconds * 1_000_000_000)
  | .delete key => Dict.erase d key
  | _ => d

def execute (t : Int) (c : Command) : StateM Timed Response := fun s =>
  let s := s.lapse t c.key?
  let (reply, keys) := s.keys.execute c
  (.reply reply, ⟨keys, deadlinesAfter s.deadlines t c⟩)

def prospect (s : Timed) : Prospect := fun u key =>
  if s.isOver u key then none else Dict.get? s.keys key

def remote : Remote Timed where
  execute
  prospect
  accepts _ _ := true
  refusal := ""

theorem isOver_mono {s : Timed} {t u : Int} {key : Bytes} (h : s.isOver t key = true)
    (hle : t ≤ u) :
    s.isOver u key = true := by
  obtain ⟨d, hd, hover⟩ := (Option.any_eq_true _ _).1 h
  exact (Option.any_eq_true _ _).2
    ⟨d, hd, decide_eq_true (Int.le_trans (of_decide_eq_true hover) hle)⟩

/-- Letting go of a key whose time is over changes nothing of what is to come. -/
theorem prospect_lapse (s : Timed) {t u : Int} (hle : t ≤ u) (key? : Option Bytes) (k : Bytes) :
    (s.lapse t key?).prospect u k = s.prospect u k := by
  cases key? with
  | none => rfl
  | some key =>
    unfold lapse
    dsimp only
    split
    · next hover =>
      unfold prospect
      by_cases hk : k = key
      · subst hk
        rw [if_pos (isOver_mono hover hle)]
        dsimp only
        rw [Server.expire, Dict.get?_erase, if_pos rfl, ite_self]
      · have hsame : isOver ⟨s.keys.expire key, Dict.erase s.deadlines key⟩ u k = s.isOver u k := by
          unfold isOver
          dsimp only
          rw [Dict.get?_erase, if_neg hk]
        rw [hsame]
        dsimp only
        rw [Server.expire, Dict.get?_erase, if_neg hk]
    · rfl

/-- After that, what is under the key is what is there at the time. -/
theorem get?_lapse (s : Timed) (t : Int) (key : Bytes) :
    Dict.get? (s.lapse t (some key)).keys key = s.prospect t key := by
  unfold lapse prospect
  dsimp only
  split
  · next hover =>
    dsimp only
    rw [Server.expire, Dict.get?_erase, if_pos rfl]
  · rfl

theorem reply_execute (t : Int) (c : Command) (s : Timed) :
    (execute t c s).1 = .reply (remote.reply t (s.prospect t) c) := by
  cases c with
  | setFor | ping => rfl
  | get key =>
    show Response.reply (Server.execute (s.lapse t (some key)).keys (.get key)).1 = _
    unfold Server.execute Remote.reply
    dsimp only
    rw [get?_lapse]
    cases s.prospect t key <;> rfl
  | contains key | delete key =>
    show Response.reply (Server.ofBool (Dict.contains (s.lapse t (some key)).keys key)) = _
    unfold Dict.contains Remote.reply
    rw [get?_lapse]

theorem prospect_execute {t u : Int} (hle : t ≤ u) (c : Command) (s : Timed) (k : Bytes) :
    (execute t c s).2.prospect u k = remote.after t s.prospect c u k := by
  rw [← Remote.after_congr c (s.prospect_lapse hle c.key? k)]
  generalize hlapsed : s.lapse t c.key? = s'
  have hexecute : (execute t c s).2 = ⟨(s'.keys.execute c).2, deadlinesAfter s'.deadlines t c⟩ := by
    rw [← hlapsed]
    rfl
  rw [hexecute]
  cases c with
  | get key =>
    have hkeys : (s'.keys.execute (.get key)).2 = s'.keys := by
      unfold Server.execute
      dsimp only
      split <;> rfl
    rw [hkeys]
    rfl
  | contains | ping => rfl
  | setFor key seconds value =>
    unfold prospect isOver deadlinesAfter Server.execute Remote.after
    dsimp only
    rw [Dict.get?_insert, Dict.get?_insert]
    by_cases hk : k = key
    · have hput : k = key ∧ remote.accepts t seconds = true := ⟨hk, rfl⟩
      rw [if_pos hk, if_pos hk, if_pos hput, Option.any_some]
      by_cases hu : u < t + seconds * 1_000_000_000
      · rw [if_pos hu, if_neg fun h => Int.not_le.2 hu (of_decide_eq_true h)]
      · rw [if_neg hu, if_pos (decide_eq_true (Int.not_lt.1 hu))]
    · have hput : ¬ (k = key ∧ remote.accepts t seconds = true) := fun h => hk h.1
      rw [if_neg hk, if_neg hk, if_neg hput]
  | delete key =>
    unfold prospect isOver deadlinesAfter Server.execute Remote.after
    dsimp only
    rw [Dict.get?_erase, Dict.get?_erase]
    by_cases hk : k = key
    · rw [if_pos hk, if_pos hk, if_pos hk, Option.any_none, if_neg Bool.false_ne_true]
    · rw [if_neg hk, if_neg hk, if_neg hk]

theorem conforms : remote.Conforms where
  reply := reply_execute
  prospect _ c s _ hle := prospect_execute hle c s
  accepts _ _ _ _ _ := rfl

end Timed

end Larder.Redis
