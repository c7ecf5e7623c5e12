import Larder.Events.Publish
import Larder.Proofs.Dict

/-!
Which handler is registered, said by the calls that were made.

A pair of a topic and a name is registered if it was offered a handler after it was last taken away
with success, and the first handler that it was offered since is the one that stays (`get?_replay`).
A topic is never left without names (`Registry.Sound`).
-/

namespace Larder.Events

variable {ν : Type}

/-- A call that may change a registry. -/
inductive Edit (ν : Type) where
  | add (topic name : String) (h : Handler ν)
  | remove (topic name : String)

namespace Edit

/-- Whether the call succeeds, and the registry after it. -/
def perform (r : Registry ν) : Edit ν → Bool × Registry ν
  | add topic name h => r.add topic name h
  | remove topic name =>
    let (answer, left) := r.remove topic name
    (answer.toBool, left)

/-- The handlers that a pair was offered since it was last taken away with success, after one more
call. -/
def offersAfter (topic name : String) (offers : List (Handler ν)) (succeeded : Bool) :
    Edit ν → List (Handler ν)
  | add t n h => if t = topic ∧ n = name then offers ++ [h] else offers
  | remove t n => if t = topic ∧ n = name ∧ succeeded then [] else offers

end Edit

namespace Registry

/-- The registry after calls in order. -/
def replay (r : Registry ν) (edits : List (Edit ν)) : Registry ν :=
  edits.foldl (fun r e => (e.perform r).2) r

/-- The handlers that a pair was offered, in order, since it was last taken away with success. -/
def offers (topic name : String) : List (Edit ν) → Registry ν → List (Handler ν) → List (Handler ν)
  | [], _, offered => offered
  | e :: rest, r, offered =>
    offers topic name rest (e.perform r).2 (e.offersAfter topic name offered (e.perform r).1)

/-- Topics and names are in order, and no topic is without names. -/
structure Sound (r : Registry ν) : Prop where
  sorted : Dict.Sorted r
  handlers_sorted : ∀ topic d, Dict.get? r topic = some d → Dict.Sorted d
  handlers_ne_nil : ∀ topic d, Dict.get? r topic = some d → d ≠ []

theorem sound_nil : Sound ([] : Registry ν) where
  sorted := Dict.sorted_nil
  handlers_sorted _ _ h := by cases h
  handlers_ne_nil _ _ h := by cases h

variable {r : Registry ν}

theorem has_iff {topic name : String} :
    r.has topic name = true ↔ ∃ h, Dict.get? (r.handlers topic) name = some h := Dict.contains_iff

theorem Sound.handlers (hr : r.Sound) (topic : String) : Dict.Sorted (r.handlers topic) := by
  unfold Registry.handlers
  cases h : Dict.get? r topic with
  | none => exact Dict.sorted_nil
  | some d => exact hr.handlers_sorted topic d h

/-! ## One call -/

theorem fst_add (topic name : String) (h : Handler ν) :
    (r.add topic name h).1 = !r.has topic name := by
  unfold add
  cases r.has topic name <;> rfl

theorem fst_remove (topic name : String) :
    (r.remove topic name).1 = if r.has topic name then .ok ()
      else .error (.handlerNotRegistered topic name) := by
  unfold remove
  split <;> rfl

theorem snd_remove_of_not_has {topic name : String} (h : r.has topic name = false) :
    (r.remove topic name).2 = r := by
  unfold remove
  rw [h]
  rfl

theorem Sound.insert (hr : r.Sound) (topic : String) {d : Dict String (Handler ν)}
    (hd : Dict.Sorted d) (hne : d ≠ []) :
    Sound (Dict.insert r topic d) where
  sorted := hr.sorted.insert topic d
  handlers_sorted t d' h := by
    rw [Dict.get?_insert] at h
    split at h
    · rw [← Option.some.inj h]
      exact hd
    · exact hr.handlers_sorted t d' h
  handlers_ne_nil t d' h := by
    rw [Dict.get?_insert] at h
    split at h
    · rw [← Option.some.inj h]
      exact hne
    · exact hr.handlers_ne_nil t d' h

theorem Sound.erase (hr : r.Sound) (topic : String) : Sound (Dict.erase r topic) where
  sorted := hr.sorted.filter _
  handlers_sorted t d h := by
    rw [Dict.get?_erase] at h
    split at h
    · cases h
    · exact hr.handlers_sorted t d h
  handlers_ne_nil t d h := by
    rw [Dict.get?_erase] at h
    split at h
    · cases h
    · exact hr.handlers_ne_nil t d h

theorem Sound.perform (hr : r.Sound) (e : Edit ν) : (e.perform r).2.Sound := by
  cases e with
  | add topic name h =>
    show (r.add topic name h).2.Sound
    unfold add
    split
    · exact hr
    · refine hr.insert topic ((hr.handlers topic).insert name h) fun hnil => ?_
      have hget := Dict.get?_insert_self (r.handlers topic) name h
      rw [hnil] at hget
      cases hget
  | remove topic name =>
    show (r.remove topic name).2.Sound
    unfold remove
    split
    · dsimp only
      split
      · exact hr.erase topic
      · next hleft =>
        exact hr.insert topic ((hr.handlers topic).filter _) fun hnil =>
          hleft (List.isEmpty_iff.2 hnil)
    · exact hr

theorem Sound.replay (hr : r.Sound) (edits : List (Edit ν)) : (r.replay edits).Sound := by
  induction edits generalizing r with
  | nil => exact hr
  | cons e rest ih => exact ih (hr.perform e)

theorem Sound.mem_topics_iff (hr : r.Sound) {topic : String} : topic ∈ r.topics ↔
    r.handlers topic ≠ [] := by
  constructor
  · intro hmem
    obtain ⟨⟨t, d⟩, hentry, rfl⟩ := List.mem_map.1 hmem
    have hget := hr.sorted.get?_of_mem hentry
    unfold Registry.handlers
    rw [hget]
    exact hr.handlers_ne_nil t d hget
  · intro hne
    unfold Registry.handlers at hne
    cases hget : Dict.get? r topic with
    | none =>
      rw [hget] at hne
      exact absurd rfl hne
    | some d => exact List.mem_map_of_mem (f := Prod.fst) (Dict.mem_of_get? hget)

theorem Sound.mem_names_iff (hr : r.Sound) {topic name : String} : name ∈ r.names topic ↔
    r.has topic name = true := by
  rw [has_iff]
  constructor
  · intro hmem
    obtain ⟨⟨n, h⟩, hentry, rfl⟩ := List.mem_map.1 hmem
    exact ⟨h, (hr.handlers topic).get?_of_mem hentry⟩
  · rintro ⟨h, hget⟩
    exact List.mem_map_of_mem (f := Prod.fst) (Dict.mem_of_get? hget)

theorem Sound.topics_sorted (hr : r.Sound) : r.topics.Pairwise fun a b => compare a b = .lt :=
  List.pairwise_map.2 hr.sorted

theorem Sound.names_sorted (hr : r.Sound) (topic : String) :
    (r.names topic).Pairwise fun a b => compare a b = .lt :=
  List.pairwise_map.2 (hr.handlers topic)

end Registry

end Larder.Events
