import Larder.Proofs.Events.Changes
import Larder.Proofs.Events.InTurn

/-!
Listeners and publishing agree over whole histories.

A registry is what the calls of its history made of an empty one, be they calls from outside or by
handlers (`edited_publish`).  From that follows which names are listed, which handler is kept for
each of them, and so what a publish does: whom it calls, with what, and what its report holds
(`Agrees`).
-/

namespace Larder.Events.Bus

variable {ν : Type} {b : Bus ν} {topic : String}

/-! ## What the registry tells -/

theorem added_iff (b : Bus ν) (topic name : String) (h : Handler ν) :
    (b.add topic name h).1 = true ↔ b.has topic name = false := by
  show (b.registry.add topic name h).1 = true ↔ b.registry.has topic name = false
  rw [Registry.fst_add, Bool.not_eq_true']

theorem remove_fails_iff (b : Bus ν) (topic name : String) (e : Error) :
    (b.remove topic name).1 = .error e ↔
      b.has topic name = false ∧ e = .handlerNotRegistered topic name := by
  show (b.registry.remove topic name).1 = .error e ↔ b.registry.has topic name = false ∧ _
  rw [Registry.fst_remove]
  cases b.registry.has topic name with
  | true => exact ⟨fun h => (by cases h), fun h => (by cases h.1)⟩
  | false => exact ⟨fun h => ⟨rfl, (Except.error.inj h).symm⟩, fun h => h.2 ▸ rfl⟩

theorem remove_failed {name : String} (h : b.has topic name = false) :
    (b.remove topic name).2 = b := by
  have hsame : (b.registry.remove topic name).2 = b.registry := Registry.snd_remove_of_not_has h
  show { b with registry := (b.registry.remove topic name).2 } = b
  rw [hsame]

theorem mem_topics_iff (hb : b.registry.Sound) (topic : String) : topic ∈ b.topics ↔
    ∃ name, b.has topic name = true := by
  rw [topics, hb.mem_topics_iff]
  constructor
  · intro hne
    obtain ⟨entry, rest, hentries⟩ := List.exists_cons_of_ne_nil hne
    refine ⟨entry.1, hb.mem_names_iff.1 ?_⟩
    exact List.mem_map_of_mem (f := Prod.fst) (hentries ▸ List.mem_cons_self)
  · rintro ⟨name, hhas⟩ hnil
    obtain ⟨h, hget⟩ := Registry.has_iff.1 hhas
    rw [hnil] at hget
    cases hget

/-- The registry of a bus is what its history says, and a publish keeps to it. -/
structure Agrees (edits : List (Edit ν)) (b : Bus ν) : Prop where
  /-- A pair is registered if it was offered a handler since it was last taken away with success. -/
  has_iff : ∀ topic name, b.has topic name = true ↔ Registry.offers topic name edits [] [] ≠ []
  /-- The first handler that was offered since is the one that is kept. -/
  kept : ∀ topic name,
    Dict.get? (b.registry.handlers topic) name = (Registry.offers topic name edits [] []).head?
  added_iff : ∀ topic name h, (b.add topic name h).1 = true ↔ b.has topic name = false
  remove_fails_iff : ∀ topic name e, (b.remove topic name).1 = .error e ↔
    b.has topic name = false ∧ e = .handlerNotRegistered topic name
  remove_failed : ∀ topic name, b.has topic name = false → (b.remove topic name).2 = b
  topics_sorted : b.topics.Pairwise fun s t => compare s t = .lt
  mem_topics_iff : ∀ topic, topic ∈ b.topics ↔ ∃ name, b.has topic name = true
  names_sorted : ∀ topic, (b.names topic).Pairwise fun s t => compare s t = .lt
  mem_names_iff : ∀ topic name, name ∈ b.names topic ↔ b.has topic name = true
  refused_iff : ∀ turns topic payload timeout e,
    (b.publish turns topic payload timeout).1 = .refused e ↔
    topic ∉ b.topics ∧ e = .topicHasNoHandlers topic
  /-- A report has one outcome for each name, in order. -/
  reported : ∀ turns topic payload timeout r,
    (b.publish turns topic payload timeout).1 = .report r →
    r.topic = topic ∧ r.eventId = (b.envelope topic payload).id ∧
    r.outcomes.map Outcome.handler = b.names topic
  /-- A publish makes one task for each handler that is kept, all with the same envelope, and
  nothing else. -/
  begins : ∀ topic payload timeout, topic ∈ b.topics →
    Begins b topic payload (b.start topic payload timeout).2
  /-- From then on it makes moves of the bus, of which the turns that call handlers are one kind. -/
  goes : ∀ turns topic payload timeout, ∃ calls,
    Way (b.start topic payload timeout).2 calls (b.publish turns topic payload timeout).2
  /-- However the bus moves, the task of a handler calls that once at most, with the envelope. -/
  called_at_most_once : ∀ topic payload timeout (i : Nat) name f,
    (b.registry.handlers topic)[i]? = some (name, f) →
      ∀ calls b', Way (b.start topic payload timeout).2 calls b' →
        callsOf (b.spawned + i) calls = [] ∨
        callsOf (b.spawned + i) calls = [⟨b.spawned + i, f, b.envelope topic payload⟩]
  /-- When there is a report it has called the handler, unless that had no time for it. -/
  called_once : ∀ turns topic payload timeout (i : Nat) name f r,
    (b.registry.handlers topic)[i]? = some (name, f) →
      (b.publish turns topic payload timeout).1 = .report r →
      timeout = none ∨ r.statusOf name ≠ some .timedOut →
      ∀ calls,
        Way (b.start topic payload timeout).2 calls (b.publish turns topic payload timeout).2 →
          callsOf (b.spawned + i) calls = [⟨b.spawned + i, f, b.envelope topic payload⟩]
  /-- Without a timeout and when nothing else waits, each is called in its turn, whatever the others
  do, unless one before it has ended the program. -/
  called_in_turn : b.aborted = false → b.queue = [] → b.timeout = none →
    ∀ turns topic payload (i : Nat) name f,
      (b.registry.handlers topic)[i]? = some (name, f) → i + 2 ≤ turns →
        (∃ calls, Way (b.start topic payload none).2 calls (b.publish turns topic payload none).2 ∧
          callsOf (b.spawned + i) calls = [⟨b.spawned + i, f, b.envelope topic payload⟩]) ∨
        (b.publish turns topic payload none).1 = .aborted ∧
          ∃ j < i, ∃ handler, (b.registry.handlers topic)[j]? = some handler ∧
            ¬ (handler.2 (b.envelope topic payload)).Ends
  /-- What a report tells of a handler is how that handler's own run has ended, or else it had no
  time left and was stopped. -/
  told : ∀ turns topic payload timeout (i : Nat) name f r,
    (b.registry.handlers topic)[i]? = some (name, f) →
      (b.publish turns topic payload timeout).1 = .report r →
        ∃ status, r.statusOf name = some status ∧
          EndedAs (b.publish turns topic payload timeout).2 (b.spawned + i)
            (f (b.envelope topic payload)) (timeout ≠ none) status
  /-- There is a report when the handlers end by themselves. -/
  comes_to_report : ∀ topic payload timeout, Tame (fun _ => True) b → topic ∈ b.topics →
    b.InTime timeout →
    (∀ handler ∈ b.registry.handlers topic, (handler.2 (b.envelope topic payload)).Ends) →
      ∃ enough, ∀ turns, enough ≤ turns → ∃ r, (b.publish turns topic payload timeout).1 = .report r
  /-- The publisher panics when its deadline is too late to be represented, and only then. -/
  panicked_iff : ∀ turns topic payload timeout message,
    (b.publish turns topic payload timeout).1 = .panicked message ↔
      topic ∈ b.topics ∧ ¬ b.InTime timeout ∧ message = deadlinePanic
  /-- The history goes on with the calls that handlers make, be it in a publish or later. -/
  goes_on : ∀ turns topic payload timeout, ∃ more,
    (b.publish turns topic payload timeout).2.registry = Registry.replay [] (edits ++ more)
  goes_on_later : ∀ turns d, ∃ more,
    (b.advance turns d).registry = Registry.replay [] (edits ++ more)

end Larder.Events.Bus
